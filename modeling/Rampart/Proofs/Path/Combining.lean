import Mathlib
import Rampart.Proofs.Path.Confinement

/-!
# Combining, case by case

What a text is read as, whether a base can be resolved, and what becomes of segments that are joined
to a resolved base are told here by cases that do not overlap, so that the outcome of every request
can be told by them.

* `Lexical.readsAs` : what a text of the windows style is read as;
* `Lexical.parse_of_isUnrooted` : a text without root is read as its components;
* `Lexical.normalize_of_noClimb` : a path without `..` stays as it is;
* `exists_resolveBase_iff` : the bases that can be resolved;
* `combine_of_resolveBase` : the outcome of combining, for a base that is resolved;
* `Lexical.isWithin_trans`, `Lexical.isWithin_iff` : what it means to lie within.
-/

namespace Rampart.Path

/-! ## What a text is read as -/

/-- The text starts with two separators of the windows style, as network paths do. -/
def StartsDouble (v : Text) : Prop :=
  ∃ a b rest, v = a :: b :: rest ∧ Style.windows.isSeparator a = true ∧
    Style.windows.isSeparator b = true

/-- The text starts with a separator of the windows style. -/
def StartsRooted (v : Text) : Prop := ∃ a ∈ v.head?, Style.windows.isSeparator a = true

/-- The text starts with a drive letter and its colon. -/
def HasDrive (v : Text) : Prop :=
  ∃ letter rest, v = letter :: ':' :: rest ∧ letter.isAlpha = true

/-- The text starts neither with a separator nor, where there are volumes, with a drive. -/
def IsUnrooted (s : Style) (v : Text) : Prop :=
  (∀ c ∈ v.head?, s.isSeparator c = false) ∧ (s = .windows → ¬ HasDrive v)

/-- The text starts with two separators and names a server and a share behind them. -/
def NamesShare (v : Text) : Prop := StartsDouble v ∧ 2 ≤ (Lexical.split .windows v).length

namespace Lexical

/-- What a text of the windows style is read as: a network path, complete or not, a path on a drive,
one that starts with a separator, or none of these. -/
inductive ReadsAs (v : Text) : Except Rejection Lexical → Prop
  | share {server volume : Text} {cs : List Text} (hdouble : StartsDouble v)
      (hsplit : split .windows v = server :: volume :: cs) :
      ReadsAs v (.ok ⟨.share server volume, cs⟩)
  | incomplete (hdouble : StartsDouble v) (hshort : (split .windows v).length < 2) :
      ReadsAs v (.error (.incompleteShare v))
  | drive {letter : Char} {rest : Text} (hv : v = letter :: ':' :: rest)
      (halpha : letter.isAlpha = true) :
      ReadsAs v (.ok ⟨.drive letter.toUpper, split .windows rest⟩)
  | separator (hdouble : ¬ StartsDouble v) (hdrive : ¬ HasDrive v) (hrooted : StartsRooted v) :
      ReadsAs v (.ok ⟨.separator, split .windows v⟩)
  | relative (hdouble : ¬ StartsDouble v) (hdrive : ¬ HasDrive v) (hrooted : ¬ StartsRooted v) :
      ReadsAs v (.ok ⟨.relative, split .windows v⟩)

/-- A text starts with a separator if its first character is one. -/
theorem startsRooted_cons_iff {a : Char} {rest : Text} :
    StartsRooted (a :: rest) ↔ Style.windows.isSeparator a = true := by
  simp [StartsRooted]

/-- A text with fewer than two characters has no volume. -/
theorem readsAs_of_short {v : Text} (hv : v.length < 2) : ReadsAs v (parseWindows v) := by
  have hdouble : ¬ StartsDouble v := by
    rintro ⟨a, b, rest, rfl, -⟩
    simp at hv
  have hdrive : ¬ HasDrive v := by
    rintro ⟨letter, rest, rfl, -⟩
    simp at hv
  match v with
  | [] => exact .relative hdouble hdrive (by simp [StartsRooted])
  | [a] =>
    by_cases ha : Style.windows.isSeparator a = true
    · rw [parseWindows, if_pos ha]
      exact .separator hdouble hdrive (startsRooted_cons_iff.2 ha)
    · rw [parseWindows, if_neg ha]
      exact .relative hdouble hdrive (mt startsRooted_cons_iff.1 ha)
  | _ :: _ :: _ => simp at hv

/-- Behind two separators there has to be a server and a share. -/
theorem readsAs_of_startsDouble {v : Text} (hdouble : StartsDouble v) :
    ReadsAs v (parseWindows v) := by
  obtain ⟨a, b, rest, rfl, ha, hb⟩ := hdouble
  have hab : (Style.windows.isSeparator a && Style.windows.isSeparator b) = true := by
    rw [ha, hb]
    rfl
  match hsplit : split .windows (a :: b :: rest) with
  | server :: volume :: cs =>
    simp only [parseWindows, if_pos hab, hsplit]
    exact .share ⟨a, b, rest, rfl, ha, hb⟩ hsplit
  | [server] =>
    simp only [parseWindows, if_pos hab, hsplit]
    exact .incomplete ⟨a, b, rest, rfl, ha, hb⟩ (by rw [hsplit]; exact Nat.lt_succ_self 1)
  | [] =>
    simp only [parseWindows, if_pos hab, hsplit]
    exact .incomplete ⟨a, b, rest, rfl, ha, hb⟩ (by rw [hsplit]; exact Nat.succ_pos 1)

/-- Every text of the windows style is read as one of the five. -/
theorem readsAs (v : Text) : ReadsAs v (parse .windows v) := by
  show ReadsAs v (parseWindows v)
  by_cases hdouble : StartsDouble v
  · exact readsAs_of_startsDouble hdouble
  match v with
  | [] => exact readsAs_of_short (Nat.succ_pos 1)
  | [a] => exact readsAs_of_short (Nat.lt_succ_self 1)
  | a :: b :: rest =>
    have hab : ¬ (Style.windows.isSeparator a && Style.windows.isSeparator b) = true := by
      intro h
      rw [Bool.and_eq_true] at h
      exact hdouble ⟨a, b, rest, rfl, h.1, h.2⟩
    by_cases hcolon : (b == ':' && a.isAlpha) = true
    · simp only [parseWindows, if_neg hab, if_pos hcolon]
      rw [Bool.and_eq_true, beq_iff_eq] at hcolon
      exact .drive (by rw [hcolon.1]) hcolon.2
    · have hdrive : ¬ HasDrive (a :: b :: rest) := by
        rintro ⟨letter, rest', h, halpha⟩
        cases h
        rw [halpha] at hcolon
        exact hcolon rfl
      by_cases ha : Style.windows.isSeparator a = true
      · simp only [parseWindows, if_neg hab, if_neg hcolon, if_pos ha]
        exact .separator hdouble hdrive (startsRooted_cons_iff.2 ha)
      · simp only [parseWindows, if_neg hab, if_neg hcolon, if_neg ha]
        exact .relative hdouble hdrive (mt startsRooted_cons_iff.1 ha)

/-- A text that starts neither with a separator nor with a drive is read as its components. -/
theorem parse_of_isUnrooted {s : Style} {v : Text} (h : IsUnrooted s v) :
    parse s v = .ok ⟨.relative, split s v⟩ := by
  obtain ⟨hhead, hdrive⟩ := h
  cases s with
  | posix =>
    have hslash : ¬ (v.head? == some '/') = true := by
      rw [beq_iff_eq]
      intro hslash
      cases hhead '/' hslash
    rw [parse, if_neg hslash]
  | windows =>
    have hdouble : ¬ StartsDouble v := by
      rintro ⟨a, b, rest, rfl, ha, -⟩
      rw [hhead a rfl] at ha
      cases ha
    have hreads := readsAs v
    generalize parse .windows v = x at hreads ⊢
    cases hreads with
    | share hdouble' => exact absurd hdouble' hdouble
    | incomplete hdouble' => exact absurd hdouble' hdouble
    | drive hv halpha => exact absurd ⟨_, _, hv, halpha⟩ (hdrive rfl)
    | separator hdouble' hdrive' hrooted =>
      obtain ⟨a, ha, hsep⟩ := hrooted
      rw [hhead a ha] at hsep
      cases hsep
    | relative => rfl

/-- Only an incomplete network path cannot be read. -/
theorem parse_eq_error_iff {s : Style} {v : Text} {r : Rejection} :
    parse s v = .error r ↔
      r = .incompleteShare v ∧ s = .windows ∧ StartsDouble v ∧ ¬ NamesShare v := by
  cases s with
  | posix =>
    constructor
    · intro h
      cases h
    · rintro ⟨-, h, -⟩
      cases h
  | windows =>
    have hreads := readsAs v
    constructor
    · intro h
      rw [h] at hreads
      cases hreads with
      | incomplete hdouble hshort =>
        exact ⟨rfl, rfl, hdouble, fun hshare => absurd hshare.2 (Nat.not_le.2 hshort)⟩
    · rintro ⟨rfl, -, hdouble, hshare⟩
      generalize parse .windows v = x at hreads ⊢
      cases hreads with
      | share hdouble hsplit =>
        refine absurd ⟨hdouble, ?_⟩ hshare
        rw [hsplit]
        exact Nat.le_add_left 2 _
      | incomplete => rfl
      | drive hv halpha =>
        -- a letter is no separator
        obtain ⟨a, b, rest, h, -, hb⟩ := hdouble
        rw [hv] at h
        cases h
        cases hb
      | separator hno => exact absurd hdouble hno
      | relative hno => exact absurd hdouble hno

/-! ## Names stand in the text -/

/-- The first piece of a split starts the text. -/
theorem prefix_of_splitOnP_eq_cons {p : Char → Bool} {v first : Text} {rest : List Text}
    (h : v.splitOnP p = first :: rest) : first <+: v := by
  induction v generalizing first rest with
  | nil =>
    rw [List.splitOnP_nil] at h
    cases h
    exact List.prefix_refl []
  | cons c v ih =>
    rw [List.splitOnP_cons_eq_if_modifyHead] at h
    obtain ⟨first', rest', hsplit⟩ := List.exists_cons_of_ne_nil (List.splitOnP_ne_nil p v)
    by_cases hc : p c = true
    · rw [if_pos hc] at h
      cases h
      exact List.nil_prefix
    · rw [if_neg hc, hsplit, List.modifyHead_cons] at h
      cases h
      exact (List.prefix_cons_inj c).2 (ih hsplit)

/-- Every piece of a split stands in the text. -/
theorem isInfix_of_mem_splitOnP {p : Char → Bool} {v piece : Text} (h : piece ∈ v.splitOnP p) :
    piece <:+: v := by
  induction v generalizing piece with
  | nil =>
    rw [List.splitOnP_nil, List.mem_singleton] at h
    subst h
    exact List.infix_refl []
  | cons c v ih =>
    rw [List.splitOnP_cons_eq_if_modifyHead] at h
    obtain ⟨first, rest, hsplit⟩ := List.exists_cons_of_ne_nil (List.splitOnP_ne_nil p v)
    have htail : v <:+: c :: v := (List.suffix_cons c v).isInfix
    by_cases hc : p c = true
    · rw [if_pos hc, List.mem_cons] at h
      rcases h with rfl | h
      · exact List.nil_infix
      · exact (ih h).trans htail
    · rw [if_neg hc, hsplit, List.modifyHead_cons, List.mem_cons] at h
      rcases h with rfl | h
      · -- the first piece grows to the front, so it has to stand at the front of the rest
        exact ((List.prefix_cons_inj c).2 (prefix_of_splitOnP_eq_cons hsplit)).isInfix
      · exact (ih (by rw [hsplit]; exact List.mem_cons_of_mem _ h)).trans htail

/-- Every component stands in the text that was split. -/
theorem isInfix_of_mem_split {s : Style} {v c : Text} (h : c ∈ split s v) : c <:+: v :=
  isInfix_of_mem_splitOnP (List.mem_filter.1 h).1

/-- Every component of a path stands in the text that it was read from. -/
theorem isInfix_of_mem_components {s : Style} {v c : Text} {p : Lexical} (h : parse s v = .ok p)
    (hc : c ∈ p.components) : c <:+: v := by
  cases s with
  | posix =>
    rw [parse, Except.ok.injEq] at h
    subst h
    exact isInfix_of_mem_split hc
  | windows =>
    have hreads := readsAs v
    rw [h] at hreads
    cases hreads with
    | share hdouble hsplit =>
      refine isInfix_of_mem_split (s := .windows) ?_
      rw [hsplit]
      exact List.mem_cons_of_mem _ (List.mem_cons_of_mem _ hc)
    | drive hv halpha =>
      subst hv
      refine (isInfix_of_mem_split hc).trans ?_
      exact ((List.suffix_cons _ _).trans (List.suffix_cons _ _)).isInfix
    | separator => exact isInfix_of_mem_split hc
    | relative => exact isInfix_of_mem_split hc

/-- A text without `..` is read as a path that does not climb. -/
theorem climb_not_mem_of_parse {s : Style} {v : Text} {p : Lexical} (h : parse s v = .ok p)
    (hv : v.has ['.', '.'] = false) : ['.', '.'] ∉ p.components := by
  intro hmem
  have hhas : v.has ['.', '.'] = true := (Text.has_iff v _).2 (isInfix_of_mem_components h hmem)
  rw [hv] at hhas
  cases hhas

/-! ## Paths that do not climb -/

/-- A walk along names other than `..` goes down at each of them. -/
theorem foldl_step_of_not_mem {names : List Text} (h : ['.', '.'] ∉ names) (here : List Text) :
    names.foldl step here = here ++ names := by
  induction names generalizing here with
  | nil => rw [List.foldl_nil, List.append_nil]
  | cons name names ih =>
    rw [List.mem_cons, not_or] at h
    have hstep : step here name = here ++ [name] := if_neg (Ne.symm h.1)
    rw [List.foldl_cons, hstep, ih h.2, List.append_assoc, List.singleton_append]

/-- A path that does not climb stays as it is. -/
theorem normalize_of_noClimb {p : Lexical} (h : ['.', '.'] ∉ p.components) : p.normalize = p := by
  rw [normalize, foldl_step_of_not_mem h, List.nil_append]

/-- A path that does not climb, joined to one that does not, stays as it is. -/
theorem normalize_join {p tail : Lexical} (hp : ['.', '.'] ∉ p.components)
    (ht : ['.', '.'] ∉ tail.components) : (p.join tail).normalize = p.join tail := by
  refine normalize_of_noClimb ?_
  unfold join
  split
  · intro hmem
    rcases List.mem_append.1 hmem with hmem | hmem
    · exact hp hmem
    · exact ht hmem
  · exact ht
  · exact ht
  · exact ht

/-! ## Lying within -/

/-- The names of a list start with themselves, whatever follows. -/
theorem startsWith_append (s : Style) (cs rest : List Text) :
    startsWith s (cs ++ rest) cs = true := by
  induction cs with
  | nil => cases rest <;> rfl
  | cons c cs ih => rw [List.cons_append, startsWith, Style.sameName_refl, ih, Bool.and_self]

/-- If names start with others, and these with further ones, then the first start with the last. -/
theorem startsWith_trans {s : Style} {p q r : List Text} (hpq : startsWith s p q = true)
    (hqr : startsWith s q r = true) : startsWith s p r = true := by
  -- the last names are the fewest, and the others are taken apart along with them
  induction r generalizing p q with
  | nil => cases p <;> rfl
  | cons c r ih =>
    cases q with
    | nil => cases hqr
    | cons b q =>
      cases p with
      | nil => cases hpq
      | cons a p =>
        rw [startsWith, Bool.and_eq_true] at hpq hqr ⊢
        exact ⟨Style.sameName_trans hpq.1 hqr.1, ih hpq.2 hqr.2⟩

/-- Names start with others if as many of them, one by one, denote the same entries. -/
theorem startsWith_iff {s : Style} {cs base : List Text} :
    startsWith s cs base = true ↔ ∃ front rest, cs = front ++ rest ∧
      List.Forall₂ (fun a b => s.sameName a b = true) front base := by
  induction base generalizing cs with
  | nil =>
    constructor
    · intro _
      exact ⟨[], cs, rfl, .nil⟩
    · intro _
      cases cs <;> rfl
  | cons b base ih =>
    cases cs with
    | nil =>
      constructor
      · intro h
        cases h
      · rintro ⟨front, rest, hcs, hfront⟩
        obtain ⟨rfl, -⟩ := List.append_eq_nil_iff.1 hcs.symm
        cases hfront
    | cons c cs =>
      rw [startsWith, Bool.and_eq_true, ih]
      constructor
      · rintro ⟨hc, front, rest, rfl, hfront⟩
        exact ⟨c :: front, rest, rfl, .cons hc hfront⟩
      · rintro ⟨front, rest, hcs, hfront⟩
        cases hfront with
        | cons hc hfront =>
          cases hcs
          exact ⟨hc, _, rest, rfl, hfront⟩

end Lexical

/-- Two roots are the same place: they are equal, or shares whose names denote the same. -/
inductive Root.Same (s : Style) : Root → Root → Prop
  | refl (r : Root) : Root.Same s r r
  | share {server volume server' volume' : Text} (hserver : s.sameName server server' = true)
      (hvolume : s.sameName volume volume' = true) :
      Root.Same s (.share server volume) (.share server' volume')

namespace Lexical

theorem sameRoot_refl (s : Style) (r : Root) : sameRoot s r r = true := by
  cases r <;> simp [sameRoot]

theorem sameRoot_iff {s : Style} {r r' : Root} : sameRoot s r r' = true ↔ r.Same s r' := by
  constructor
  · intro h
    unfold sameRoot at h
    split at h
    · rw [Bool.and_eq_true] at h
      exact .share h.1 h.2
    · rw [beq_iff_eq] at h
      subst h
      exact .refl r
  · intro h
    cases h with
    | refl => exact sameRoot_refl s r
    | share hserver hvolume => rw [sameRoot, hserver, hvolume, Bool.and_self]

theorem sameRoot_trans {s : Style} {r r' r'' : Root} (h : sameRoot s r r' = true)
    (h' : sameRoot s r' r'' = true) : sameRoot s r r'' = true := by
  rw [sameRoot_iff] at h h' ⊢
  cases h with
  | refl => exact h'
  | share hserver hvolume =>
    cases h' with
    | refl => exact .share hserver hvolume
    | share hserver' hvolume' =>
      exact .share (Style.sameName_trans hserver hserver') (Style.sameName_trans hvolume hvolume')

/-- A path lies within itself. -/
theorem isWithin_refl (s : Style) (p : Lexical) : p.isWithin s p = true := by
  have hnames := startsWith_append s p.components []
  rw [List.append_nil] at hnames
  rw [isWithin, sameRoot_refl, hnames, Bool.and_self]

/-- What lies within a path lies within what that path lies within. -/
theorem isWithin_trans {s : Style} {p q r : Lexical} (hpq : p.isWithin s q = true)
    (hqr : q.isWithin s r = true) : p.isWithin s r = true := by
  rw [isWithin, Bool.and_eq_true] at hpq hqr ⊢
  exact ⟨sameRoot_trans hpq.1 hqr.1, startsWith_trans hpq.2 hqr.2⟩

/-- A path lies within another if it starts at the same place and with the same entries. -/
theorem isWithin_iff {s : Style} {p base : Lexical} :
    p.isWithin s base = true ↔ p.root.Same s base.root ∧ ∃ front rest,
      p.components = front ++ rest ∧
      List.Forall₂ (fun a b => s.sameName a b = true) front base.components := by
  rw [isWithin, Bool.and_eq_true, sameRoot_iff, startsWith_iff]

/-- A path with names added to it lies within it. -/
theorem isWithin_append (s : Style) (p : Lexical) (rest : List Text) :
    isWithin s ⟨p.root, p.components ++ rest⟩ p = true := by
  rw [isWithin, sameRoot_refl, startsWith_append, Bool.and_self]

end Lexical

/-! ## Resolving the base -/

/-- A base can be resolved if it names a drive or a share where there are volumes, and otherwise if
it starts at the root or the working directory can be told. -/
def Resolvable : Style → WorkingDirectory → Text → Prop
  | .windows, _, base => HasDrive base ∨ NamesShare base
  | .posix, cwd, base => base.head? = some '/' ∨ ∃ path, cwd = .at path

/-- A base that can be read is anchored and normalized. -/
theorem resolveBase_of_parse {s : Style} {base : Text} {p : Lexical}
    (h : Lexical.parse s base = .ok p) (cwd : WorkingDirectory) :
    resolveBase s cwd base = (p.absolutize s cwd).map Lexical.normalize := by
  rw [resolveBase, h]
  show (p.absolutize s cwd >>= fun q => pure q.normalize) = _
  cases p.absolutize s cwd <;> rfl

/-- A base that is qualified is only normalized. -/
theorem resolveBase_of_isQualified {s : Style} {base : Text} {p : Lexical}
    (h : Lexical.parse s base = .ok p) (hq : p.isQualified s = true) (cwd : WorkingDirectory) :
    resolveBase s cwd base = .ok p.normalize := by
  rw [resolveBase_of_parse h, Lexical.absolutize_of_isQualified hq]
  rfl

/-- In the windows style a base that is not qualified is not resolved. -/
theorem resolveBase_windows_of_not_isQualified {base : Text} {p : Lexical}
    (h : Lexical.parse .windows base = .ok p) (hq : p.isQualified .windows = false)
    (cwd : WorkingDirectory) : resolveBase .windows cwd base = .error (.unqualified .windows) := by
  rw [resolveBase_of_parse h, Lexical.absolutize, hq]
  rfl

/-- In the posix style a base that is not rooted is resolved if the working directory can be
told. -/
theorem exists_resolveBase_posix_iff {cwd : WorkingDirectory} {base : Text}
    (hhead : base.head? ≠ some '/') :
    (∃ b, resolveBase .posix cwd base = .ok b) ↔ ∃ path, cwd = .at path := by
  have hparse : Lexical.parse .posix base = .ok ⟨.relative, Lexical.split .posix base⟩ := by
    rw [Lexical.parse, if_neg (by rw [beq_iff_eq]; exact hhead)]
  rw [resolveBase_of_parse hparse]
  cases cwd with
  | «at» path => exact iff_of_true ⟨_, rfl⟩ ⟨path, rfl⟩
  | missing =>
    refine iff_of_false (not_exists_ok_of_error rfl) ?_
    rintro ⟨path, h⟩
    cases h
  | illegible =>
    refine iff_of_false (not_exists_ok_of_error rfl) ?_
    rintro ⟨path, h⟩
    cases h

/-- In the windows style a text with neither two separators in front nor a drive cannot be
resolved. -/
theorem not_resolvable_windows {base : Text} (hdouble : ¬ StartsDouble base)
    (hdrive : ¬ HasDrive base) (cwd : WorkingDirectory) : ¬ Resolvable .windows cwd base := by
  rintro (h | h)
  · exact hdrive h
  · exact hdouble h.1

/-- **The bases that can be resolved.** -/
theorem exists_resolveBase_iff {s : Style} {cwd : WorkingDirectory} {base : Text} :
    (∃ b, resolveBase s cwd base = .ok b) ↔ Resolvable s cwd base := by
  cases s with
  | posix =>
    by_cases hhead : base.head? = some '/'
    · have hparse : Lexical.parse .posix base = .ok ⟨.separator, Lexical.split .posix base⟩ := by
        rw [Lexical.parse, hhead]
        rfl
      exact iff_of_true ⟨_, resolveBase_of_isQualified hparse rfl cwd⟩ (Or.inl hhead)
    · rw [exists_resolveBase_posix_iff hhead, Resolvable]
      exact (or_iff_right hhead).symm
  | windows =>
    have hreads := Lexical.readsAs base
    cases hparse : Lexical.parse .windows base with
    | error r =>
      obtain ⟨-, -, ⟨a, b, rest, rfl, ha, hb⟩, hshare⟩ := Lexical.parse_eq_error_iff.1 hparse
      refine iff_of_false (not_exists_ok_of_error (e := r) ?_) ?_
      · rw [resolveBase, hparse]
        rfl
      · rintro (⟨letter, rest', h, -⟩ | h)
        · cases h
          cases hb
        · exact hshare h
    | ok p =>
      rw [hparse] at hreads
      cases hreads with
      | share hdouble hsplit =>
        have hshare : NamesShare base := ⟨hdouble, by rw [hsplit]; exact Nat.le_add_left 2 _⟩
        exact iff_of_true ⟨_, resolveBase_of_isQualified hparse rfl cwd⟩ (Or.inr hshare)
      | drive hv halpha =>
        exact iff_of_true ⟨_, resolveBase_of_isQualified hparse rfl cwd⟩
          (Or.inl ⟨_, _, hv, halpha⟩)
      | separator hdouble hdrive =>
        exact iff_of_false
          (not_exists_ok_of_error (resolveBase_windows_of_not_isQualified hparse rfl cwd))
          (not_resolvable_windows hdouble hdrive cwd)
      | relative hdouble hdrive =>
        exact iff_of_false
          (not_exists_ok_of_error (resolveBase_windows_of_not_isQualified hparse rfl cwd))
          (not_resolvable_windows hdouble hdrive cwd)

/-- A path that cannot be anchored is an invalid path: only the working directory can be at
fault. -/
theorem Lexical.kind_of_absolutize {s : Style} {cwd : WorkingDirectory} {p : Lexical}
    {r : Rejection} (h : p.absolutize s cwd = .error r) : r.kind = .invalidPath := by
  rw [Lexical.absolutize] at h
  split at h
  · cases h
  · cases s with
    | windows =>
      cases h
      rfl
    | posix =>
      cases cwd with
      | «at» path => cases h
      | missing =>
        cases h
        rfl
      | illegible =>
        cases h
        rfl

/-- A base that is not resolved makes an invalid path. -/
theorem kind_of_resolveBase {s : Style} {cwd : WorkingDirectory} {base : Text} {r : Rejection}
    (h : resolveBase s cwd base = .error r) : r.kind = .invalidPath := by
  rw [resolveBase, bind_eq_error_iff] at h
  rcases h with h | ⟨p, -, h⟩
  · rw [(Lexical.parse_eq_error_iff.1 h).1]
    rfl
  · rw [bind_eq_error_iff] at h
    rcases h with h | ⟨q, -, h⟩
    · exact Lexical.kind_of_absolutize h
    · cases h

/-- A resolved base that is qualified is canonical. -/
theorem canonical_of_isQualified {s : Style} {cwd : WorkingDirectory} {base : Text} {b : Lexical}
    (h : resolveBase s cwd base = .ok b) (hq : b.isQualified s = true) : b.Canonical s := by
  rw [resolveBase, bind_eq_ok_iff] at h
  obtain ⟨p, hparse, h⟩ := h
  rw [bind_eq_ok_iff] at h
  obtain ⟨q, habs, h⟩ := h
  cases h
  have hwell : q.WellFormed s := (Lexical.wellFormed_of_parse hparse).absolutize habs
  exact hwell.canonical_normalize hq

/-- The text of a canonical path is resolved as that path, whatever the working directory. -/
theorem resolveBase_render {s : Style} {q : Lexical} (hq : q.Canonical s)
    (cwd : WorkingDirectory) : resolveBase s cwd (q.render s) = .ok q := by
  have hparse := Lexical.parse_render hq.toWellFormed hq.qualified
  rw [resolveBase_of_isQualified hparse hq.qualified, Lexical.normalize_of_noClimb hq.noClimb]

/-! ## Combining -/

/-- **The outcome of combining.**  Segments that can be read are joined to the resolved base and
normalized.  The result is taken if it lies as far below the base as is asked; joined to a qualified
base, it does not hang on the working directory. -/
theorem combine_of_resolveBase {s : Style} {cwd : WorkingDirectory} {base : Text} {b : Lexical}
    (hb : resolveBase s cwd base = .ok b) (hcanon : b.Canonical s) (tail : List Text)
    (k : Containment) :
    combine s cwd base tail k = joinAll s b tail >>= fun j =>
      if j.normalize.isWithin s b && k.admits b.depth j.normalize.depth then
        .ok ⟨j.normalize.render s, s⟩
      else .error (.outside (j.normalize.render s) (b.render s)) := by
  rw [combine, hb]
  show (joinAll s b tail >>= _) = _
  cases hj : joinAll s b tail with
  | error r => rfl
  | ok j =>
    have hq : j.isQualified s = true := Lexical.isQualified_joinAll hcanon.qualified hj
    show (j.absolutize s cwd >>= _) = _
    rw [Lexical.absolutize_of_isQualified hq]
    rfl

/-- A base that is not resolved is not combined with anything. -/
theorem combine_of_resolveBase_error {s : Style} {cwd : WorkingDirectory} {base : Text}
    {r : Rejection} (hb : resolveBase s cwd base = .error r) (tail : List Text) (k : Containment) :
    combine s cwd base tail k = .error r := by
  rw [combine, hb]
  rfl

/-- One segment is joined as it is read. -/
theorem joinAll_singleton (s : Style) (b : Lexical) (segment : Text) :
    joinAll s b [segment] = (Lexical.parse s segment).map b.join := by
  rw [joinAll]
  cases Lexical.parse s segment <;> rfl

/-- One segment that can be read and does not climb is joined to the base as it is. -/
theorem combine_singleton {s : Style} {cwd : WorkingDirectory} {base segment : Text}
    {b t : Lexical} (hb : resolveBase s cwd base = .ok b) (hcanon : b.Canonical s)
    (ht : Lexical.parse s segment = .ok t) (hclimb : ['.', '.'] ∉ t.components)
    (k : Containment) :
    combine s cwd base [segment] k =
      if (b.join t).isWithin s b && k.admits b.depth (b.join t).depth then
        .ok ⟨(b.join t).render s, s⟩
      else .error (.outside ((b.join t).render s) (b.render s)) := by
  rw [combine_of_resolveBase hb hcanon, joinAll_singleton, ht]
  show (if (b.join t).normalize.isWithin s b && k.admits b.depth (b.join t).normalize.depth then
    _ else _) = _
  rw [Lexical.normalize_join hcanon.noClimb hclimb]

/-- An unrooted segment that does not climb adds its names to the base, and so lies within it. -/
theorem combine_relative {s : Style} {cwd : WorkingDirectory} {base segment : Text}
    {b t : Lexical} (hb : resolveBase s cwd base = .ok b) (hcanon : b.Canonical s)
    (ht : Lexical.parse s segment = .ok t) (hroot : t.root = .relative)
    (hclimb : ['.', '.'] ∉ t.components) (k : Containment) :
    combine s cwd base [segment] k =
      if k.admits b.depth (b.depth + t.depth) then
        .ok ⟨Lexical.render s ⟨b.root, b.components ++ t.components⟩, s⟩
      else .error (.outside (Lexical.render s ⟨b.root, b.components ++ t.components⟩)
        (b.render s)) := by
  have hjoin : b.join t = ⟨b.root, b.components ++ t.components⟩ := by
    rw [Lexical.join, hroot]
  have hdepth : Lexical.depth ⟨b.root, b.components ++ t.components⟩ = b.depth + t.depth :=
    List.length_append
  rw [combine_singleton hb hcanon ht hclimb, hjoin, Lexical.isWithin_append, Bool.true_and, hdepth]

end Rampart.Path
