import Mathlib
import Rampart.Proofs.Payload.Gate
import Rampart.Proofs.Payload.RoundTrip
import Rampart.Proofs.Type.Candidates
import Rampart.Proofs.Type.Tag

/-!
# The tag at the root

A written value is tagged at its root with the name that its type is trusted under.  The tag stands
in front of all other members, and the members of the value are put in after it, so a member of the
same key takes its place.  Reading takes a tag apart and looks up what it stands for, which is the
name that was written only if that name is in canonical form.

* `attachTag_eq` : the document with the tag;
* `Serializer.leading_tag_of_serializeTagged` : which tag is written;
* `Serializer.own_tag_resolves_iff` : which tags lead back to the type they were written for.
-/

namespace Rampart

/-! ## Members put in after another -/

namespace Json

/-- A value is a node of itself. -/
theorem self_mem_nodes (j : Json) : j ∈ j.nodes := by
  cases j <;> simp

/-- What is left without a key has no member of that key. -/
theorem not_mem_keys_erase (key : Text) (members : List (Text × Json)) :
    key ∉ keys (erase key members) := by
  intro h
  obtain ⟨m, hm, hkey⟩ := List.mem_map.1 h
  have hne := (List.mem_filter.1 hm).2
  simp [hkey] at hne

/-- Members of distinct keys that are put in after a first one: a member of the first key takes its
place, and the others follow in their order. -/
theorem foldl_insert_cons (key : Text) {members : List (Text × Json)}
    (hnodup : (keys members).Nodup) (v : Json) (done : List (Text × Json))
    (hfresh : ∀ k ∈ keys members, k ∉ keys done) :
    members.foldl (fun done m => insert m.1 m.2 done) ((key, v) :: done)
      = (key, (lookup key members).getD v) :: (done ++ erase key members) := by
  induction members generalizing v done with
  | nil => simp [lookup, erase]
  | cons m rest ih =>
    obtain ⟨k, w⟩ := m
    have hk : k ∉ keys rest := (List.nodup_cons.1 hnodup).1
    have hrest : (keys rest).Nodup := (List.nodup_cons.1 hnodup).2
    have hkdone : k ∉ keys done := hfresh k List.mem_cons_self
    have hfresh' : ∀ k' ∈ keys rest, k' ∉ keys done := fun k' hk' =>
      hfresh k' (List.mem_cons_of_mem _ hk')
    rw [List.foldl_cons, lookup, erase, List.filter_cons]
    by_cases hkey : k = key
    · -- the member takes the first place, and there is none of its key behind it
      subst hkey
      have hnone : lookup k rest = none := lookup_eq_none_iff.2 hk
      rw [insert, if_pos rfl, ih hrest w done hfresh', hnone]
      simp [erase]
    · have hadd : insert k w ((key, v) :: done) = (key, v) :: (done ++ [(k, w)]) := by
        rw [insert, if_neg (Ne.symm hkey), insert_of_not_mem hkdone]
      have hfresh'' : ∀ k' ∈ keys rest, k' ∉ keys (done ++ [(k, w)]) := by
        intro k' hk' hmem
        rw [keys, List.map_append, List.mem_append] at hmem
        rcases hmem with hmem | hmem
        · exact hfresh' k' hk' hmem
        · obtain rfl : k' = k := List.mem_singleton.1 hmem
          exact hk hk'
      rw [hadd, ih hrest v _ hfresh'']
      simp [hkey, erase]

end Json

namespace Payload

variable {C : Catalogue} {l : AllowList C} {t : Tagging} {j : Json}

/-! ## The document with the tag -/

/-- The members that stand behind the tag: those of an object, or the content of an array. -/
def besideTag : Json → List (Text × Json)
  | .obj members => Json.erase typeKey members
  | .arr items => [(valuesKey, .arr items)]
  | _ => []

/-- The tag of a tagged document stands in front, unless the value has a member of that key. -/
theorem attachTag_eq (hkeys : j.KeysDistinct) (htagged : t.tagsRoot j = true) (tag : Text) :
    attachTag t tag j
      = .obj ((typeKey, (j.get? typeKey).getD (.str tag)) :: besideTag j) := by
  cases j with
  | arr items =>
    rw [Tagging.tagsRoot] at htagged
    rw [attachTag, if_pos htagged]
    rfl
  | obj members =>
    rw [Tagging.tagsRoot] at htagged
    rw [attachTag, if_pos htagged, Json.ofMembers, List.foldl_cons]
    have hfold := Json.foldl_insert_cons typeKey (Json.keysDistinct_obj.1 hkeys).1 (.str tag) []
      fun _ _ => List.not_mem_nil
    exact congrArg Json.obj hfold
  | _ => cases htagged

/-- No other member has the key of the tag. -/
theorem typeKey_not_mem_besideTag (j : Json) : typeKey ∉ Json.keys (besideTag j) := by
  cases j with
  | obj members => exact Json.not_mem_keys_erase typeKey members
  | arr items => simpa [besideTag, Json.keys] using typeKey_ne_valuesKey
  | _ => exact List.not_mem_nil

namespace Serializer

/-- **The tag that is written.**  Take a value whose root is to be tagged.  It is written as an
object with the tag in front, which is the name that its type is trusted under; but if the value has
a member of that key itself, then what stands there.  So the tag is that of the allow-list exactly
if the value has no such member or the same text in it. -/
theorem leading_tag_of_serializeTagged {s : Serializer C} {c : C.Code} {v : C.Value c}
    (hactive : s.active = some l) (hencode : C.encode c v = .ok j) (hkeys : j.KeysDistinct)
    (htagged : s.settings.tagging.tagsRoot j = true) :
    ∃ doc, (s.serializeTagged c v).result = .ok doc.write ∧
      doc = .obj ((typeKey, (j.get? typeKey).getD (.str (l.describe (.of c)).identity))
        :: besideTag j) ∧
      (doc.get? typeKey = some (.str (l.describe (.of c)).identity) ↔
        ∀ own, j.get? typeKey = some own → own = .str (l.describe (.of c)).identity) ∧
      (doc.ReadsBack → doc.depth ≤ Json.maxRoom → Json.parse doc.write = .ok doc) := by
  have hdoc := attachTag_eq hkeys htagged (l.describe (.of c)).identity
  refine ⟨s.written l c j, result_serializeTagged hactive hencode, hdoc, ?_, Json.parse_write⟩
  have hget : (s.written l c j).get? typeKey
      = some ((j.get? typeKey).getD (.str (l.describe (.of c)).identity)) := by
    rw [written, hdoc, Json.get?, Json.lookup, if_pos rfl]
  rw [hget, Option.some.injEq]
  cases j.get? typeKey with
  | none => simp
  | some own => simp

end Serializer

namespace Sample

/-- An object with a member of its own that has the key of a tag. -/
def forged : Json := .obj [(['a'], .null), (typeKey, .str ['E'])]

/-- The object that is written for it. -/
def forgedDocument : Json := .obj [(typeKey, .str ['E']), (['a'], .null)]

theorem readsBack_forgedDocument : forgedDocument.ReadsBack := by
  have htype : typeKey ≠ Json.wrapMark := by decide
  have ha : typeKey ≠ ['a'] := by decide
  simp [forgedDocument, Json.readsBack_obj, Json.keys, Json.readsBack_null, Json.readsBack_str,
    htype, ha]

end Sample

/-- An array is written with the tag of the allow-list in front. -/
theorem leading_tag_of_serializeTagged_array :
    ∃ doc : Json,
      ((Sample.serializer .all).serializeTagged () Sample.list).result = .ok doc.write ∧
      doc.get? typeKey = some (.str Sample.descriptor.identity) := by
  have hactive : (Sample.serializer .all).active = some Sample.allowList := rfl
  have hencode : Sample.catalogue.encode () Sample.list = .ok Sample.list := rfl
  have hkeys : Sample.list.KeysDistinct := Json.keysDistinct_of_readsBack Sample.readsBack_list
  obtain ⟨doc, hresult, -, hget, -⟩ :=
    Serializer.leading_tag_of_serializeTagged hactive hencode hkeys rfl
  refine ⟨doc, hresult, hget.2 fun own hown => ?_⟩
  cases hown

/-- A value can bring a tag of its own, which is written in place of that of the allow-list. -/
theorem serializeTagged_forged :
    ∃ text doc, ((Sample.serializer .auto).serializeTagged () Sample.forged).result = .ok text ∧
      Json.parse text = .ok doc ∧ doc.get? typeKey = some (.str ['E']) ∧
      (Sample.allowList.describe (.of ())).identity ≠ ['E'] := by
  have hactive : (Sample.serializer .auto).active = some Sample.allowList := rfl
  have hencode : Sample.catalogue.encode () Sample.forged = .ok Sample.forged := rfl
  have hwritten : (Sample.serializer .auto).written Sample.allowList () Sample.forged
      = Sample.forgedDocument := rfl
  have hresult := Serializer.result_serializeTagged hactive hencode
  rw [hwritten] at hresult
  refine ⟨_, Sample.forgedDocument, hresult, ?_, rfl, by decide⟩
  exact Json.parse_write Sample.readsBack_forgedDocument (by decide)

/-! ## Tags that lead back -/

/-- The members behind the tag have no tags if the value has none. -/
theorem untagged_of_mem_besideTag (hj : Untagged j) {m : Text × Json} (hm : m ∈ besideTag j) :
    Untagged m.2 := by
  cases j with
  | obj members => exact (untagged_obj.1 hj).2 m (List.mem_of_mem_filter hm)
  | arr items =>
    rw [List.mem_singleton.1 hm]
    exact hj
  | _ => cases hm

/-- Of a value without tags that was tagged at its root, only that tag can be refused. -/
theorem errorOf_bindTree_attachTag (hj : Untagged j) (hkeys : j.KeysDistinct)
    (htagged : t.tagsRoot j = true) (tag : Text) :
    errorOf (bindTree l (attachTag t tag j))
      = if accepts l (.str tag) then none else some (tagFailure (.str tag)) := by
  have hnone : j.get? typeKey = none := hj j (j.self_mem_nodes)
  have hmembers : bindMembers l (besideTag j) = .ok (besideTag j) :=
    bindMembers_of_forall (typeKey_not_mem_besideTag j) fun m hm =>
      bindTree_of_untagged (untagged_of_mem_besideTag hj hm)
  rw [attachTag_eq hkeys htagged, hnone, Option.getD_none, errorOf_bindTree_obj,
    bindMembers_cons_typeKey, hmembers, fault, Json.get?, Json.lookup, if_pos rfl,
    Option.bind_some]
  exact Option.or_none

/-- The outcome is that some type is unknown. -/
def IsUnknown {α : Type} (r : Except Failure α) : Prop :=
  ∃ identity name, r = .error (.refused (.unknownType identity name))

/-- A second step that never finds a type unknown leaves it to the first. -/
theorem isUnknown_bind_iff {α β : Type} {x : Except Failure α} {f : α → Except Failure β}
    (hf : ∀ a, ¬ IsUnknown (f a)) : IsUnknown (x >>= f) ↔ IsUnknown x := by
  cases x with
  | error e =>
    show IsUnknown (.error e) ↔ IsUnknown (.error e)
    simp only [IsUnknown, Except.error.injEq]
  | ok a =>
    refine iff_of_false (hf a) ?_
    rintro ⟨identity, name, h⟩
    cases h

/-- A value without tags that was tagged at its root is of unknown type exactly if the tag is not
accepted. -/
theorem isUnknown_bindTree_attachTag (hj : Untagged j) (hkeys : j.KeysDistinct)
    (htagged : t.tagsRoot j = true) (tag : Text) :
    IsUnknown (bindTree l (attachTag t tag j)) ↔ ¬ accepts l (.str tag) = true := by
  have herror := errorOf_bindTree_attachTag (l := l) hj hkeys htagged tag
  constructor
  · rintro ⟨identity, name, h⟩ haccepts
    rw [h, if_pos haccepts] at herror
    cases herror
  · intro haccepts
    rw [if_neg haccepts, errorOf_eq_some_iff] at herror
    exact ⟨_, _, herror⟩

namespace Serializer

/-- Decoding as a given type finds no type unknown. -/
theorem not_isUnknown_decodeAs (c : C.Code) (j : Json) (tag : Option (Descriptor C)) :
    ¬ IsUnknown (decodeAs c j tag) := by
  rintro ⟨identity, name, h⟩
  rcases failure_of_decodeAs h with ⟨m, hf⟩ | ⟨declared, requested, hf⟩
  · cases hf
  · cases hf

/-- Decoding as the tagged type finds no type unknown. -/
theorem not_isUnknown_decodeBound (j : Json) (tag : Option (Descriptor C)) :
    ¬ IsUnknown (decodeBound j tag) := by
  rintro ⟨identity, name, h⟩
  rcases failure_of_decodeBound h with hf | ⟨m, hf⟩
  · cases hf
  · cases hf

end Serializer

/-! ## One trusted type -/

section

open Rampart.TypeName (tagKey levelFrom HasOuterComma IsSimple IsCanonical)

variable {d : Descriptor C}

/-- The identity of a type is read as its key exactly if it is in canonical form. -/
theorem tagKey_identity_iff : tagKey d.identity = d.key ↔ IsCanonical d.identity :=
  TypeName.tagKey_qualified_iff d.fullName d.assembly

/-- With one trusted type, its identity is accepted as a tag exactly if it is in canonical form. -/
theorem accepts_identity_iff (hbuild : AllowList.build (some [d]) = .ok l) :
    accepts l (.str d.identity) = true ↔ IsCanonical d.identity := by
  rw [accepts_iff_of_build hbuild, ← tagKey_identity_iff]
  constructor
  · rintro ⟨tag, htag, e, he, hkey⟩
    obtain rfl := Json.str.inj htag
    rw [List.mem_singleton.1 he] at hkey
    exact hkey.symm
  · intro h
    exact ⟨d.identity, rfl, d, List.mem_singleton_self d, h.symm⟩

/-- With one trusted type, its identity leads back to it exactly if it is in canonical form. -/
theorem resolve_identity_eq_ok_iff (hbuild : AllowList.build (some [d]) = .ok l) :
    l.resolve (tagKey d.identity) = .ok d ↔ IsCanonical d.identity := by
  rw [AllowList.resolve_of_build_singleton hbuild, ← tagKey_identity_iff]
  by_cases hkey : d.key = tagKey d.identity
  · rw [if_pos hkey]
    exact iff_of_true rfl hkey.symm
  · rw [if_neg hkey]
    refine iff_of_false (fun h => ?_) (Ne.symm hkey)
    cases h

/-- With one trusted type, its identity is refused by the name that it is read as, if it is not in
canonical form. -/
theorem resolve_identity_of_not_isCanonical (hbuild : AllowList.build (some [d]) = .ok l)
    (h : ¬ IsCanonical d.identity) :
    l.resolve (tagKey d.identity)
      = .error (.unknownType (TypeName.canonical d.identity)
          (TypeName.short (TypeName.Tag.parse d.identity).fullName)) := by
  rw [← tagKey_identity_iff] at h
  rw [AllowList.resolve_of_build_singleton hbuild, if_neg (Ne.symm h)]
  rfl

namespace Serializer

variable {s : Serializer C}

/-- With one trusted type, a document that was tagged for it is of unknown type exactly if the
identity is not in canonical form. -/
theorem isUnknown_bindTree_written (hbuild : AllowList.build (some [d]) = .ok l)
    (htagged : s.settings.tagging.tagsRoot j = true) (hj : Untagged j) (hkeys : j.KeysDistinct) :
    IsUnknown (bindTree l (s.written l d.code j)) ↔ ¬ IsCanonical d.identity := by
  have hdescribe : l.describe (.of d.code) = d.key :=
    AllowList.describe_of_build_singleton hbuild rfl
  rw [written, hdescribe, ← accepts_identity_iff hbuild]
  exact isUnknown_bindTree_attachTag hj hkeys htagged d.identity

/-- **Tags that lead back.**  Let one type be trusted.  The tag that is written for it is resolved
to that very type exactly if its identity is in canonical form, and refused as unknown otherwise.
Where the full name has its brackets closed, this asks that it has no comma outside brackets, that
there is nothing to trim, and that the assembly is simple.  So a payload that was tagged for this
type, and is read back by the same serializer, is refused as of unknown type, whatever type is asked
for, exactly if the identity is not in canonical form. -/
theorem own_tag_resolves_iff (hbuild : AllowList.build (some [d]) = .ok l) :
    (l.resolve (tagKey (l.describe d).identity) = .ok d ↔ IsCanonical d.identity) ∧
    (¬ IsCanonical d.identity →
      l.resolve (tagKey (l.describe d).identity)
        = .error (.unknownType (TypeName.canonical d.identity)
            (TypeName.short (TypeName.Tag.parse d.identity).fullName))) ∧
    (levelFrom 0 d.fullName = 0 →
      (IsCanonical d.identity ↔
        ¬ HasOuterComma d.fullName ∧ d.fullName.trim = d.fullName ∧ IsSimple d.assembly)) ∧
    ∀ (s : Serializer C) (v : C.Value d.code) (j : Json), s.active = some l →
      C.encode d.code v = .ok j → s.settings.tagging.tagsRoot j = true → Untagged j →
      j.KeysDistinct →
      s.readDocument (s.written l d.code j).write = .ok (s.written l d.code j) →
      ∃ text, (s.serializeTagged d.code v).result = .ok text ∧
        (∀ c, IsUnknown (s.deserialize c text).result ↔ ¬ IsCanonical d.identity) ∧
        (IsUnknown (s.deserializeBound text).result ↔ ¬ IsCanonical d.identity) := by
  have hdescribe : l.describe d = d.key := AllowList.describe_of_build_singleton hbuild rfl
  rw [hdescribe]
  refine ⟨resolve_identity_eq_ok_iff hbuild, resolve_identity_of_not_isCanonical hbuild,
    TypeName.isCanonical_qualified_iff, ?_⟩
  intro s v j hactive hencode htagged hj hkeys hread
  -- only resolving the tags can find a type unknown; what follows decodes
  have hbind := isUnknown_bindTree_written hbuild htagged hj hkeys
  refine ⟨_, result_serializeTagged hactive hencode, fun c => ?_, ?_⟩
  · rw [result_deserialize hactive hread, isUnknown_bind_iff, hbind]
    exact fun r => not_isUnknown_decodeAs c r.1 r.2
  · rw [result_deserializeBound hactive hread, isUnknown_bind_iff, hbind]
    exact fun r => not_isUnknown_decodeBound r.1 r.2

end Serializer

end

namespace Sample

/-- A type under its own name. -/
def own (c : AllowList.Sample.Code) : Descriptor AllowList.Sample.catalogue := .of c

/-- A type under a generic name. -/
def generic : Descriptor AllowList.Sample.catalogue :=
  ⟨"a::Map<K, V>".toList, "a".toList, .pair⟩

theorem isCanonical_generic : TypeName.IsCanonical generic.identity := by
  have hcomma : ¬ TypeName.HasOuterComma generic.fullName :=
    TypeName.cutAtComma_zero_eq_none_iff.1 (by decide)
  exact .withAssembly hcomma (by decide) (by decide) ⟨by decide, by decide, by decide⟩

/-- A type under a name without dots makes up an allow-list. -/
theorem exists_build_singleton {d : Descriptor AllowList.Sample.catalogue}
    (h : '.' ∉ d.identity) : ∃ l, AllowList.build (some [d]) = .ok l := by
  refine ⟨_, AllowList.build_of_not_exploitable (List.cons_ne_nil _ _) fun e he => ?_⟩
  rw [List.mem_singleton.1 he]
  exact Exploitable.find?_of_dot_not_mem h

/-- A serializer with an allow-list of such types. -/
def withList (l : AllowList AllowList.Sample.catalogue) : Serializer AllowList.Sample.catalogue :=
  { allowList := some l, settings := { tagging := .auto } }

/-- An empty array with whatever tag around it is read back. -/
theorem readDocument_tagged_nil (l : AllowList AllowList.Sample.catalogue) :
    (withList l).readDocument ((withList l).written l .pair (.arr [])).write
      = .ok ((withList l).written l .pair (.arr [])) := by
  have htype : typeKey ≠ Json.wrapMark := by decide
  have hdepth : ((withList l).written l .pair (.arr [])).depth = 2 := rfl
  refine Serializer.readDocument_write ?_ ?_ ?_
  · show Json.ReadsBack (.obj [(typeKey, .str _), (valuesKey, .arr [])])
    simp [Json.readsBack_obj, Json.readsBack_arr, Json.keys, Json.readsBack_str,
      typeKey_ne_valuesKey, htype]
  · rw [hdepth]
    decide
  · intro limit hlimit
    cases hlimit
    rw [hdepth]
    decide

/-- If the tag of a type is read as another key, it is refused by that key. -/
theorem own_tag_refused {c : AllowList.Sample.Code} {identity name : Text}
    (hdot : '.' ∉ (own c).identity)
    (hread : TypeName.tagKey (own c).identity = ⟨identity, name⟩)
    (hne : (own c).key ≠ ⟨identity, name⟩) :
    ∃ l, AllowList.build (some [own c]) = .ok l ∧
      l.resolve (TypeName.tagKey (l.describe (own c)).identity)
        = .error (.unknownType identity name) := by
  obtain ⟨l, hbuild⟩ := exists_build_singleton hdot
  refine ⟨l, hbuild, ?_⟩
  have hdescribe : (l.describe (own c)).identity = (own c).identity := by
    rw [AllowList.describe_of_build_singleton hbuild rfl]
    rfl
  rw [hdescribe, hread, AllowList.resolve_of_build_singleton hbuild, if_neg hne]

end Sample

/-- The tag of a generic type leads back to it, although there is a comma in its name, and a payload
with that tag is not of unknown type. -/
theorem own_tag_resolves_iff_generic :
    ∃ l, AllowList.build (some [Sample.generic]) = .ok l ∧
      l.resolve (TypeName.tagKey (l.describe Sample.generic).identity) = .ok Sample.generic ∧
      ∃ text, ((Sample.withList l).serializeTagged .pair (.arr [])).result = .ok text ∧
        ¬ IsUnknown ((Sample.withList l).deserialize .pair text).result := by
  have hdot : '.' ∉ Sample.generic.identity := by decide
  obtain ⟨l, hbuild⟩ := Sample.exists_build_singleton hdot
  obtain ⟨hresolve, -, -, hpayload⟩ := Serializer.own_tag_resolves_iff hbuild
  have huntagged : Untagged (.arr []) := untagged_arr.2 fun j hj => absurd hj List.not_mem_nil
  have hkeys : (Json.arr []).KeysDistinct :=
    Json.keysDistinct_arr.2 fun j hj => absurd hj List.not_mem_nil
  obtain ⟨text, htext, hunknown, -⟩ := hpayload (Sample.withList l) (.arr []) (.arr []) rfl rfl rfl
    huntagged hkeys (Sample.readDocument_tagged_nil l)
  refine ⟨l, hbuild, hresolve.2 Sample.isCanonical_generic, text, htext, fun h => ?_⟩
  exact (hunknown .pair).1 h Sample.isCanonical_generic

/-- The tags of a tuple and of an array under their own names are refused: the comma of the tuple is
taken for the one in front of the assembly, and the array has an empty assembly. -/
theorem own_tags_of_pair_and_triple_refused :
    (∃ l, AllowList.build (some [Sample.own .pair]) = .ok l ∧
      l.resolve (TypeName.tagKey (l.describe (Sample.own .pair)).identity)
        = .error (.unknownType "(i64, alloc::string::String)".toList "(i64".toList)) ∧
    ∃ l, AllowList.build (some [Sample.own .triple]) = .ok l ∧
      l.resolve (TypeName.tagKey (l.describe (Sample.own .triple)).identity)
        = .error (.unknownType "[u8; 3]".toList []) := by
  constructor
  · exact Sample.own_tag_refused (by decide) (by decide) (by decide)
  · exact Sample.own_tag_refused (by decide) (by decide) (by decide)

end Payload

end Rampart
