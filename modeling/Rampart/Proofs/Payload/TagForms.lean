import Mathlib
import Rampart.Proofs.Payload.RootTag

/-!
# Tags are read up to their form

A payload may spell a type tag in several ways: with blanks around its parts, with further fields
behind the assembly, or with nothing behind the comma.  All of them are read as one canonical form,
and a serializer answers each of them as it answers that form.

* `Serializer.resolveTag_congr` : tags of one key are answered alike;
* `Serializer.tags_resolved_up_to_form` : which tags are, and which identities are canonical.
-/

namespace Rampart.Payload

open Rampart.TypeName

namespace Serializer

variable {C : Catalogue}

/-- Tags of one key are answered alike, down to what is put on record and handed to the audit
log. -/
theorem resolveTag_congr (s : Serializer C) (l : AllowList C) {tag tag' : Text}
    (h : tagKey tag = tagKey tag') : s.resolveTag l (.str tag) = s.resolveTag l (.str tag') := by
  rw [resolveTag, resolveTag, h]

/-- **Tags are read up to their form.**  The canonical form of a tag is its own canonical form, has
the same short name, and is answered as the tag is, whatever the allow-list.  Fields behind the
assembly make no difference.  And if the brackets of a full name are closed, its identity is in
canonical form exactly if the name has no comma outside brackets, neither the name nor the assembly
has blanks around it, and the assembly is some text without commas. -/
theorem tags_resolved_up_to_form (C : Catalogue) :
    (∀ tag : Text, canonical (canonical tag) = canonical tag ∧
      (tagKey (canonical tag)).name = (tagKey tag).name ∧
      ∀ (s : Serializer C) (l : AllowList C),
        s.resolveTag l (.str (canonical tag)) = s.resolveTag l (.str tag)) ∧
    (∀ tag suffix : Text, HasOuterComma tag → ∀ (s : Serializer C) (l : AllowList C),
      s.resolveTag l (.str (tag ++ ',' :: suffix)) = s.resolveTag l (.str tag)) ∧
    ∀ fullName assembly : Text, levelFrom 0 fullName = 0 →
      (canonical (fullName ++ [',', ' '] ++ assembly) = fullName ++ [',', ' '] ++ assembly ↔
        ¬ HasOuterComma fullName ∧ fullName.trim = fullName ∧ assembly.trim = assembly ∧
          assembly ≠ [] ∧ ',' ∉ assembly) := by
  refine ⟨fun tag => ⟨?_, ?_, fun s l => ?_⟩, fun tag suffix hcomma s l => ?_,
    fun fullName assembly hclosed => ?_⟩
  · exact canonical_of_isCanonical (isCanonical_canonical tag)
  · rw [tagKey_canonical]
  · exact s.resolveTag_congr l (tagKey_canonical tag)
  · apply s.resolveTag_congr l
    rw [tagKey, parse_append_field hcomma, tagKey]
  · show canonical (qualified fullName assembly) = qualified fullName assembly ↔ _
    rw [canonical_eq_self_iff, isCanonical_qualified_iff hclosed, IsSimple]
    constructor
    · rintro ⟨hcomma, hname, hne, hfree, hassembly⟩
      exact ⟨hcomma, hname, hassembly, hne, hfree⟩
    · rintro ⟨hcomma, hname, hassembly, hne, hfree⟩
      exact ⟨hcomma, hname, hne, hfree, hassembly⟩

end Serializer

/-- A tag with blanks and a version is answered with the generic type that its canonical form names,
although there is a comma in that name. -/
theorem tags_resolved_up_to_form_generic :
    ∃ l, AllowList.build (some [Sample.generic]) = .ok l ∧
      canonical Sample.generic.identity = Sample.generic.identity ∧
      (Sample.withList l).resolveTag l (.str "\ta::Map<K, V> ,a , Version=1.0".toList)
        = .ofResult (.ok Sample.generic) := by
  have hdot : '.' ∉ Sample.generic.identity := by decide
  obtain ⟨l, hbuild⟩ := Sample.exists_build_singleton hdot
  obtain ⟨hform, hfields, hcanonical⟩ :=
    Serializer.tags_resolved_up_to_form AllowList.Sample.catalogue
  have hcomma : ¬ HasOuterComma Sample.generic.fullName :=
    cutAtComma_zero_eq_none_iff.1 (by decide)
  have houter : HasOuterComma "\ta::Map<K, V> ,a ".toList :=
    ⟨"\ta::Map<K, V> ".toList, "a ".toList, by decide, by decide⟩
  have hspelling : canonical "\ta::Map<K, V> ,a ".toList = Sample.generic.identity := by decide
  have hresolve : l.resolve (tagKey Sample.generic.identity) = .ok Sample.generic := by
    rw [AllowList.resolve_of_build_singleton hbuild]
    exact if_pos (by decide)
  refine ⟨l, hbuild, ?_, ?_⟩
  · exact (hcanonical Sample.generic.fullName Sample.generic.assembly (by decide)).2
      ⟨hcomma, by decide, by decide, by decide, by decide⟩
  · have hversion := hfields "\ta::Map<K, V> ,a ".toList " Version=1.0".toList houter
      (Sample.withList l) l
    have hblanks := (hform "\ta::Map<K, V> ,a ".toList).2.2 (Sample.withList l) l
    rw [hspelling] at hblanks
    refine Eq.trans hversion (Eq.trans hblanks.symm ?_)
    simp only [Serializer.resolveTag, hresolve]

end Rampart.Payload
