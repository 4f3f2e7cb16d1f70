import Mathlib
import Rampart.Proofs.Path.Spelling

/-!
# Reading undoes writing, whatever the root

A qualified path is read back from its text.  So is a path without root or with a separator alone,
as long as its text cannot be taken for one with a volume: dropping `.` and `..` may bring another
name to the front, and a name such as `C:` there would be read as a drive.  The check for stray
signs of a volume excludes such names.

* `Lexical.parse_render_of_noVolume` : paths without the sign of a volume in a name are read back;
* `canonicalText` : the text of a path with `.`, `..` and needless separators taken out;
* `parse_undoes_render` : every text that passes the check is read back, and so is its canonical
  text, which is its own canonical text.
-/

namespace Rampart.Path

namespace Lexical

/-! ## Paths that are not qualified -/

/-- A component without the sign of a volume starts neither with a separator nor with a drive. -/
theorem isUnrooted_of_isComponent {s : Style} {c : Text} (hc : IsComponent s c)
    (hvolume : ∀ x ∈ s.volumeSeparator, x ∉ c) : IsUnrooted s c := by
  constructor
  · intro x hx
    exact hc.2.2 x (List.mem_of_mem_head? hx)
  · rintro rfl ⟨letter, rest, rfl, -⟩
    exact hvolume ':' rfl (by simp)

/-- A path without root is read back if no name has the sign of a volume. -/
theorem parse_render_relative {s : Style} {cs : List Text} (hcs : ∀ c ∈ cs, IsComponent s c)
    (hvolume : ∀ c ∈ cs, ∀ x ∈ s.volumeSeparator, x ∉ c) :
    parse s (render s ⟨.relative, cs⟩) = .ok ⟨.relative, cs⟩ := by
  have hunrooted : IsUnrooted s ([s.separator].intercalate cs) :=
    isUnrooted_intercalate fun c hc =>
      ⟨(hcs c hc).1, isUnrooted_of_isComponent (hcs c hc) (hvolume c hc)⟩
  show parse s ([s.separator].intercalate cs) = _
  rw [parse_of_isUnrooted hunrooted, split_intercalate hcs]

/-- Names with separators between them do not start with one. -/
theorem not_startsRooted_intercalate {cs : List Text} (hcs : ∀ c ∈ cs, IsComponent .windows c) :
    ¬ StartsRooted (['\\'].intercalate cs) := by
  rintro ⟨a, ha, hsep⟩
  cases cs with
  | nil => cases ha
  | cons c cs =>
    obtain ⟨hne, -, hfree⟩ := hcs c List.mem_cons_self
    obtain ⟨b, c, rfl⟩ := List.exists_cons_of_ne_nil hne
    rw [intercalate_eq_append_flatMap] at ha
    have hab : b = a := Option.some.inj ha
    rw [← hab, hfree b List.mem_cons_self] at hsep
    cases hsep

/-- A path that starts with a separator alone is read back: the separator is neither the first of
two nor the letter of a drive. -/
theorem parse_render_separator {cs : List Text} (hcs : ∀ c ∈ cs, IsComponent .windows c) :
    parse .windows (render .windows ⟨.separator, cs⟩) = .ok ⟨.separator, cs⟩ := by
  have hdouble : ¬ StartsDouble ('\\' :: ['\\'].intercalate cs) := by
    rintro ⟨a, b, rest, heq, -, hb⟩
    obtain ⟨-, hrest⟩ := List.cons.inj heq
    apply not_startsRooted_intercalate hcs
    rw [hrest]
    exact startsRooted_cons_iff.2 hb
  have hsplit : split .windows ('\\' :: ['\\'].intercalate cs) = cs := by
    rw [split_cons (s := .windows) rfl]
    exact split_intercalate hcs
  show parse .windows ('\\' :: ['\\'].intercalate cs) = _
  generalize hv : '\\' :: ['\\'].intercalate cs = v at hdouble hsplit
  have hreads := readsAs v
  generalize parse .windows v = outcome at hreads
  cases hreads with
  | share hdouble' => exact absurd hdouble' hdouble
  | incomplete hdouble' => exact absurd hdouble' hdouble
  | drive hdrive halpha =>
    rw [← hv] at hdrive
    obtain ⟨rfl, -⟩ := List.cons.inj hdrive
    cases halpha
  | separator => rw [hsplit]
  | relative _ _ hrooted =>
    rw [← hv] at hrooted
    exact absurd (startsRooted_cons_iff.2 rfl) hrooted

/-- **A well-formed path is read back from its text**, whatever its root, if no name has the sign of
a volume. -/
theorem parse_render_of_noVolume {s : Style} {p : Lexical} (hp : p.WellFormed s)
    (hvolume : ∀ c ∈ p.names, ∀ x ∈ s.volumeSeparator, x ∉ c) :
    parse s (p.render s) = .ok p := by
  by_cases hq : p.isQualified s = true
  · exact parse_render hp hq
  · obtain ⟨root, cs⟩ := p
    cases root with
    | relative => exact parse_render_relative hp.components hvolume
    | separator =>
      cases s with
      | windows => exact parse_render_separator hp.components
      | posix => exact absurd rfl hq
    | drive letter =>
      cases s <;> exact absurd rfl hq
    | share server volume =>
      cases s <;> exact absurd rfl hq

end Lexical

/-! ## Canonical texts -/

/-- The canonical text of a text that can be read: that of its path with each `..` taken back. -/
def canonicalText (s : Style) (v : Text) : Except Rejection Text :=
  (Lexical.parse s v).map fun q => q.normalize.render s

/-- **Reading undoes writing for every checked text.**  The path that a text is read as is read back
from its own text, and so is the normalized path.  Hence the canonical text can be read, and is its
own canonical text. -/
theorem parse_undoes_render {s : Style} {subject : Subject} {v : Text} {q : Lexical}
    (hcheck : volumeFault s subject v = none) (hparse : Lexical.parse s v = .ok q) :
    Lexical.parse s (q.render s) = .ok q ∧
    ∃ c, canonicalText s v = .ok c ∧ Lexical.parse s c = .ok q.normalize ∧
      canonicalText s c = .ok c := by
  have hstray := volumeFault_eq_none_iff.1 hcheck
  have hwell : q.WellFormed s := Lexical.wellFormed_of_parse hparse
  have hvolume : ∀ c ∈ q.names, ∀ x ∈ s.volumeSeparator, x ∉ c := by
    intro c hc
    exact Lexical.volume_not_mem_names hstray hparse hc
  -- normalizing brings no new name to the front
  have hnormal : Lexical.parse s (q.normalize.render s) = .ok q.normalize :=
    Lexical.parse_render_of_noVolume hwell.normalize fun c hc =>
      hvolume c (Lexical.mem_names_normalize hc)
  refine ⟨Lexical.parse_render_of_noVolume hwell hvolume, q.normalize.render s, ?_, hnormal, ?_⟩
  · rw [canonicalText, hparse]
    rfl
  · rw [canonicalText, hnormal, Except.map,
      Lexical.normalize_of_noClimb (Lexical.climb_not_mem_normalize q)]

/-- A text without root, with `.`, `..` and all kinds of separators in it, one that starts with a
separator alone and one on a drive have the canonical texts that one would expect. -/
theorem parse_undoes_render_unrooted_and_rooted :
    canonicalText .windows "..\\./a//b\\..\\c\\".toList = .ok "a\\c".toList ∧
    canonicalText .windows "a\\c".toList = .ok "a\\c".toList ∧
    canonicalText .windows "/..\\x/.".toList = .ok "\\x".toList ∧
    canonicalText .windows "\\x".toList = .ok "\\x".toList ∧
    canonicalText .windows "c:x/../y".toList = .ok "C:\\y".toList ∧
    canonicalText .windows "C:\\y".toList = .ok "C:\\y".toList := by
  have hrelative : volumeFault .windows .base "..\\./a//b\\..\\c\\".toList = none := by decide
  have hseparator : volumeFault .windows .base "/..\\x/.".toList = none := by decide
  have hdrive : volumeFault .windows .base "c:x/../y".toList = none := by decide
  obtain ⟨-, c, hc, -, hcc⟩ := parse_undoes_render hrelative rfl
  obtain ⟨-, d, hd, -, hdd⟩ := parse_undoes_render hseparator rfl
  obtain ⟨-, e, he, -, hee⟩ := parse_undoes_render hdrive rfl
  obtain rfl : "a\\c".toList = c := Except.ok.inj hc
  obtain rfl : "\\x".toList = d := Except.ok.inj hd
  obtain rfl : "C:\\y".toList = e := Except.ok.inj he
  exact ⟨hc, hcc, hd, hdd, he, hee⟩

-- A text that the check refuses need not be read back: here a drive comes to the front.
example :
    volumeFault .windows .base ".\\C:\\x".toList ≠ none ∧
    Lexical.parse .windows ".\\C:\\x".toList = .ok ⟨.relative, ["C:".toList, "x".toList]⟩ ∧
    Lexical.parse .windows (Lexical.render .windows ⟨.relative, ["C:".toList, "x".toList]⟩)
      = .ok ⟨.drive 'C', ["x".toList]⟩ :=
  ⟨by decide, rfl, rfl⟩

end Rampart.Path
