import Mathlib
import Rampart.Path.Builder
import Rampart.Proofs.Sequencing

/-!
# Canonical paths

Reading a text gives a path of a certain form: no component is empty or `.`, none holds a separator,
and a volume is one that its style has.  Joining, anchoring and normalizing keep this form, and a
qualified path of this form is read back from its text.

* `Lexical.wellFormed_of_parse` : what is read is well formed;
* `Lexical.parse_render` : a well-formed qualified path is read back from its text;
* `Lexical.isQualified_joinAll` : joining never loses the volume or the root.
-/

namespace Rampart.Path

/-! ## Components -/

/-- A name that can be read as one component. -/
def IsComponent (s : Style) (c : Text) : Prop :=
  c ≠ [] ∧ c ≠ ['.'] ∧ ∀ x ∈ c, s.isSeparator x = false

/-- No piece of a split holds a character that was split at. -/
theorem not_separates_of_mem_splitOnP {p : Char → Bool} {v piece : Text}
    (h : piece ∈ v.splitOnP p) : ∀ x ∈ piece, p x = false := by
  induction v generalizing piece with
  | nil =>
    rw [List.splitOnP_nil, List.mem_singleton] at h
    subst h
    intro x hx
    exact absurd hx List.not_mem_nil
  | cons c v ih =>
    rw [List.splitOnP_cons_eq_if_modifyHead] at h
    obtain ⟨first, rest, hsplit⟩ := List.exists_cons_of_ne_nil (List.splitOnP_ne_nil p v)
    by_cases hc : p c = true
    · rw [if_pos hc, List.mem_cons] at h
      rcases h with rfl | h
      · intro x hx
        exact absurd hx List.not_mem_nil
      · exact ih h
    · rw [if_neg hc, hsplit, List.modifyHead_cons, List.mem_cons] at h
      rcases h with rfl | h
      · intro x hx
        rcases List.mem_cons.1 hx with rfl | hx
        · simpa using hc
        · exact ih (by rw [hsplit]; exact List.mem_cons_self) x hx
      · exact ih (by rw [hsplit]; exact List.mem_cons_of_mem _ h)

namespace Lexical

/-- Splitting gives components only. -/
theorem isComponent_of_mem_split {s : Style} {v c : Text} (h : c ∈ split s v) :
    IsComponent s c := by
  rw [split, List.mem_filter] at h
  obtain ⟨hmem, hc⟩ := h
  simp only [Bool.and_eq_true, Bool.not_eq_true', List.isEmpty_eq_false_iff, bne_iff_ne] at hc
  exact ⟨hc.1, hc.2, not_separates_of_mem_splitOnP hmem⟩

@[simp] theorem split_nil (s : Style) : split s [] = [] := by
  cases s <;> rfl

/-- A separator divides the components before it from those behind it. -/
theorem split_append_cons {s : Style} {x : Char} (hx : s.isSeparator x = true) (a b : Text) :
    split s (a ++ x :: b) = split s a ++ split s b := by
  rw [split, List.splitOnP_append_cons a b hx, List.filter_append]
  rfl

/-- A leading separator starts no component. -/
theorem split_cons {s : Style} {x : Char} (hx : s.isSeparator x = true) (v : Text) :
    split s (x :: v) = split s v := by
  rw [← List.nil_append (x :: v), split_append_cons hx, split_nil, List.nil_append]

/-- A component is read as itself. -/
theorem split_of_isComponent {s : Style} {c : Text} (h : IsComponent s c) : split s c = [c] := by
  rw [split, List.splitOnP_eq_singleton h.2.2]
  simp [h.1, h.2.1]

/-- Texts with separators between them have the components of each of them. -/
theorem split_intercalate_eq_flatMap (s : Style) (texts : List Text) :
    split s ([s.separator].intercalate texts) = texts.flatMap (split s) := by
  induction texts with
  | nil => rw [List.intercalate_nil, split_nil, List.flatMap_nil]
  | cons v texts ih =>
    cases texts with
    | nil => rw [List.intercalate_singleton, List.flatMap_singleton]
    | cons w texts =>
      rw [List.intercalate_cons_cons, List.append_assoc, List.singleton_append,
        split_append_cons (Style.isSeparator_separator s), ih]
      exact List.flatMap_cons.symm

/-- Components with separators between them are read back. -/
theorem split_intercalate {s : Style} {cs : List Text} (h : ∀ c ∈ cs, IsComponent s c) :
    split s ([s.separator].intercalate cs) = cs := by
  have hsingle : cs.flatMap (split s) = cs.flatMap fun c => [c] :=
    List.flatMap_congr fun c hc => split_of_isComponent (h c hc)
  rw [split_intercalate_eq_flatMap, hsingle, List.flatMap_singleton']

end Lexical

/-! ## Well-formed paths -/

/-- A root that can be read in the style `s`.  Volumes belong to the windows style. -/
def Root.IsReadable (s : Style) : Root → Prop
  | .relative | .separator => True
  | .drive letter => s = .windows ∧ letter.isAlpha = true ∧ letter.toUpper = letter
  | .share server volume => s = .windows ∧ IsComponent s server ∧ IsComponent s volume

namespace Lexical

/-- A path of the form that reading gives. -/
structure WellFormed (s : Style) (p : Lexical) : Prop where
  root : p.root.IsReadable s
  components : ∀ c ∈ p.components, IsComponent s c

/-- A text of the windows style is read as a well-formed path. -/
theorem wellFormed_of_parseWindows {v : Text} {p : Lexical} (h : parseWindows v = .ok p) :
    p.WellFormed .windows := by
  have hparts : ∀ w : Text, ∀ c ∈ split .windows w, IsComponent .windows c :=
    fun w c hc => isComponent_of_mem_split hc
  simp only [parseWindows] at h
  split at h
  · rename_i a b rest
    split at h
    · split at h
      · rename_i server volume components heq
        cases h
        -- the first two pieces name the volume, so they are components as well
        have hall := hparts (a :: b :: rest)
        rw [heq] at hall
        exact ⟨⟨rfl, hall _ (by simp), hall _ (by simp)⟩, fun c hc => hall c (by simp [hc])⟩
      · cases h
    · split at h
      · rename_i hdrive
        cases h
        rw [Bool.and_eq_true] at hdrive
        exact ⟨⟨rfl, by rw [Char.isAlpha_toUpper_eq_isAlpha]; exact hdrive.2,
          Char.toUpper_toUpper_eq_toUpper a⟩, hparts rest⟩
      · split at h <;> cases h <;> exact ⟨trivial, hparts _⟩
  · split at h <;> cases h <;> exact ⟨trivial, hparts _⟩
  · cases h
    exact ⟨trivial, fun c hc => absurd hc List.not_mem_nil⟩

/-- What is read is well formed. -/
theorem wellFormed_of_parse {s : Style} {v : Text} {p : Lexical} (h : parse s v = .ok p) :
    p.WellFormed s := by
  cases s with
  | windows => exact wellFormed_of_parseWindows h
  | posix =>
    rw [parse, Except.ok.injEq] at h
    subst h
    refine ⟨?_, fun c hc => isComponent_of_mem_split hc⟩
    show Root.IsReadable .posix (if v.head? == some '/' then .separator else .relative)
    split <;> trivial

/-- Joining keeps paths well formed. -/
theorem WellFormed.join {s : Style} {p tail : Lexical} (hp : p.WellFormed s)
    (ht : tail.WellFormed s) : (p.join tail).WellFormed s := by
  unfold Lexical.join
  split
  · refine ⟨hp.root, fun c hc => ?_⟩
    rcases List.mem_append.1 hc with hc | hc
    · exact hp.components c hc
    · exact ht.components c hc
  · exact ⟨hp.root, ht.components⟩
  · exact ⟨hp.root, ht.components⟩
  · exact ht

/-- What joining each of the segments keeps, joining them one after the other keeps. -/
theorem joinAll_invariant {s : Style} {P : Lexical → Prop} {segments : List Text}
    (hjoin : ∀ v ∈ segments, ∀ p tail, P p → parse s v = .ok tail → P (p.join tail))
    {p q : Lexical} (hp : P p) (h : joinAll s p segments = .ok q) : P q := by
  induction segments generalizing p with
  | nil =>
    cases h
    exact hp
  | cons segment rest ih =>
    rw [joinAll, bind_eq_ok_iff] at h
    obtain ⟨tail, hparse, hrest⟩ := h
    have hnext := hjoin segment List.mem_cons_self p tail hp hparse
    exact ih (fun v hv => hjoin v (List.mem_cons_of_mem _ hv)) hnext hrest

/-- Joining segments keeps paths well formed. -/
theorem WellFormed.joinAll {s : Style} {p q : Lexical} {segments : List Text}
    (hp : p.WellFormed s) (h : Path.joinAll s p segments = .ok q) : q.WellFormed s :=
  joinAll_invariant (fun _ _ _ _ hp hparse => hp.join (wellFormed_of_parse hparse)) hp h

/-! ## Normalizing -/

/-- A walk never ends at a place with a `..` or with a name that was not given. -/
theorem mem_foldl_step {here names : List Text} {c : Text} (h : c ∈ names.foldl step here) :
    c ∈ here ∨ (c ∈ names ∧ c ≠ ['.', '.']) := by
  induction names generalizing here with
  | nil => exact Or.inl h
  | cons name names ih =>
    rw [List.foldl_cons] at h
    rcases ih h with h | ⟨h, hne⟩
    · rw [step] at h
      split at h
      · exact Or.inl (List.mem_of_mem_dropLast h)
      · rename_i hname
        rcases List.mem_append.1 h with h | h
        · exact Or.inl h
        · rw [List.mem_singleton] at h
          subst h
          exact Or.inr ⟨List.mem_cons_self, hname⟩
    · exact Or.inr ⟨List.mem_cons_of_mem _ h, hne⟩

/-- A normalized path does not climb. -/
theorem climb_not_mem_normalize (p : Lexical) : ['.', '.'] ∉ p.normalize.components := by
  intro h
  rcases mem_foldl_step h with h | ⟨-, hne⟩
  · exact absurd h List.not_mem_nil
  · exact hne rfl

/-- Normalizing keeps paths well formed. -/
theorem WellFormed.normalize {s : Style} {p : Lexical} (hp : p.WellFormed s) :
    p.normalize.WellFormed s := by
  refine ⟨hp.root, fun c hc => ?_⟩
  rcases mem_foldl_step hc with h | ⟨h, -⟩
  · exact absurd h List.not_mem_nil
  · exact hp.components c h

/-! ## Reading back what was written -/

/-- Components with separators between them are the first one and, behind it, the others with a
separator before each. -/
theorem intercalate_eq_append_flatMap (x : Char) (c : Text) (cs : List Text) :
    [x].intercalate (c :: cs) = c ++ cs.flatMap fun d => x :: d := by
  induction cs generalizing c with
  | nil => simp
  | cons d ds ih => simp [List.intercalate_cons_cons, ih d]

/-- The text of a path on a share reads like that of a list whose first two names are the volume. -/
theorem render_share (s : Style) (server volume : Text) (cs : List Text) :
    render s ⟨.share server volume, cs⟩
      = s.separator :: s.separator :: [s.separator].intercalate (server :: volume :: cs) := by
  rw [intercalate_eq_append_flatMap]
  simp [render, Root.render]

/-- A well-formed qualified path is read back from its text. -/
theorem parse_render {s : Style} {p : Lexical} (hp : p.WellFormed s)
    (hq : p.isQualified s = true) : parse s (p.render s) = .ok p := by
  obtain ⟨root, cs⟩ := p
  have hcs : split s ([s.separator].intercalate cs) = cs := split_intercalate hp.components
  have hskip : split s (s.separator :: [s.separator].intercalate cs) = cs := by
    rw [split_cons (Style.isSeparator_separator s), hcs]
  cases s with
  | posix =>
    cases root with
    | relative => cases hq
    | separator =>
      show Except.ok (Lexical.mk .separator (split .posix ('/' :: ['/'].intercalate cs))) = _
      exact congrArg (fun l => Except.ok (Lexical.mk .separator l)) hskip
    | drive letter => cases hp.root.1
    | share server volume => cases hp.root.1
  | windows =>
    cases root with
    | relative => cases hq
    | separator => cases hq
    | drive letter =>
      obtain ⟨-, halpha, hupper⟩ := hp.root
      show parseWindows (letter :: ':' :: '\\' :: ['\\'].intercalate cs) = _
      have hcolon :
          (Style.windows.isSeparator letter && Style.windows.isSeparator ':') = false := by
        rw [Bool.and_eq_false_iff]
        exact Or.inr rfl
      simp only [parseWindows, hcolon, halpha, hupper]
      exact congrArg (fun l => Except.ok (Lexical.mk (.drive letter) l)) hskip
    | share server volume =>
      obtain ⟨-, hserver, hvolume⟩ := hp.root
      have hall : ∀ c ∈ server :: volume :: cs, IsComponent .windows c := by
        intro c hc
        rcases List.mem_cons.1 hc with rfl | hc
        · exact hserver
        rcases List.mem_cons.1 hc with rfl | hc
        · exact hvolume
        · exact hp.components c hc
      have hsplit :
          split .windows ('\\' :: '\\' :: ['\\'].intercalate (server :: volume :: cs))
            = server :: volume :: cs := by
        rw [split_cons (s := .windows) rfl, split_cons (s := .windows) rfl]
        exact split_intercalate hall
      rw [render_share]
      show parseWindows ('\\' :: '\\' :: ['\\'].intercalate (server :: volume :: cs)) = _
      simp only [parseWindows, hsplit]
      rfl

/-! ## Qualified paths -/

/-- A path that was joined to a qualified one is qualified: a tail rooted by a separator alone stays
on the volume where there are volumes, and is qualified where there are none. -/
theorem isQualified_join {s : Style} {p : Lexical} (hp : p.isQualified s = true) (tail : Lexical) :
    (p.join tail).isQualified s = true := by
  obtain ⟨root, cs⟩ := p
  obtain ⟨troot, ts⟩ := tail
  cases s <;> cases root <;> cases troot <;> simp_all [join, isQualified]

/-- Joining segments to a qualified path gives a qualified path. -/
theorem isQualified_joinAll {s : Style} {p q : Lexical} {segments : List Text}
    (hp : p.isQualified s = true) (h : joinAll s p segments = .ok q) : q.isQualified s = true :=
  joinAll_invariant (P := fun p => p.isQualified s = true)
    (fun _ _ _ tail hp _ => isQualified_join hp tail) hp h

end Lexical

end Rampart.Path
