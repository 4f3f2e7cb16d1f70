import Mathlib
import Rampart.Proofs.Path.Outcome

/-!
# What the checks let through

A base, a tail and a file name are checked by rules in an order of their own, and the order decides
which fault is reported.  What passes does not hang on the order: every part has to be sound, and a
file name must not lead elsewhere.  So a request is granted by what its parts are and by where they
lead together.

* `IsSound` : what every part of a request has to be;
* `baseFault_eq_none_iff`, `relativeFault_eq_none_iff`, `fileNameFault_eq_none_iff` : the parts that
  pass;
* `isSound_intercalate_iff` : texts that are put together are sound exactly if each of them is;
* `buildExact_eq_ok_iff`, `buildWithSubdirectories_eq_ok_iff`, `buildFromSegments_eq_ok_iff` : the
  requests that are granted.
-/

namespace Rampart.Path

/-! ## Sound texts -/

/-- A text that may stand in a path: it has no reserved character, no `..`, and no sign of a volume
other than that of a leading drive. -/
structure IsSound (s : Style) (v : Text) : Prop where
  unreserved : ∀ c ∈ v, s.reserved.reserves s.reserved.path c = false
  noClimb : ¬ ['.', '.'] <:+: v
  noStray : ∀ c ∈ s.volumeSeparator, isStray c v = false

theorem find?_reserves_eq_none_iff {t : ReservedTable} {listed : List Char} {v : Text} :
    v.find? (t.reserves listed) = none ↔ ∀ c ∈ v, t.reserves listed c = false := by
  rw [List.find?_eq_none]
  refine forall₂_congr fun c _ => ?_
  rw [Bool.not_eq_true]

theorem reservedPathFault_eq_none_iff {s : Style} {subject : Subject} {v : Text} :
    reservedPathFault s subject v = none ↔
      ∀ c ∈ v, s.reserved.reserves s.reserved.path c = false := by
  rw [reservedPathFault, Option.map_eq_none_iff, ReservedTable.findInPath,
    find?_reserves_eq_none_iff]

theorem volumeFault_eq_none_iff {s : Style} {subject : Subject} {v : Text} :
    volumeFault s subject v = none ↔ ∀ c ∈ s.volumeSeparator, isStray c v = false := by
  rw [volumeFault, Option.bind_eq_none_iff]
  refine forall₂_congr fun c _ => ?_
  cases isStray c v <;> simp

theorem percentFault_eq_none_iff {v : Text} : percentFault v = none ↔ v.count '%' ≤ 1 := by
  unfold percentFault
  split
  · rename_i h
    exact iff_of_false (Option.some_ne_none _) (by omega)
  · rename_i h
    exact iff_of_true rfl (by omega)

theorem climbFault_eq_none_iff {v : Text} {r : Rejection} :
    (if v.has ['.', '.'] then some r else none) = none ↔ ¬ ['.', '.'] <:+: v := by
  rw [← Text.has_iff]
  cases v.has ['.', '.'] <;> simp

/-- A base passes its check exactly if it is sound and has at most one `%`. -/
theorem baseFault_eq_none_iff {s : Style} {v : Text} :
    baseFault s v = none ↔ IsSound s v ∧ v.count '%' ≤ 1 := by
  rw [baseFault, Option.orElse_eq_none, Option.orElse_eq_none, Option.orElse_eq_none,
    reservedPathFault_eq_none_iff, climbFault_eq_none_iff, volumeFault_eq_none_iff,
    percentFault_eq_none_iff]
  constructor
  · rintro ⟨hreserved, hclimb, hvolume, hpercent⟩
    exact ⟨⟨hreserved, hclimb, hvolume⟩, hpercent⟩
  · rintro ⟨⟨hreserved, hclimb, hvolume⟩, hpercent⟩
    exact ⟨hreserved, hclimb, hvolume, hpercent⟩

/-- A tail passes its check exactly if it is sound and has at most one `%`. -/
theorem relativeFault_eq_none_iff {s : Style} {subject : Subject} {v : Text} :
    relativeFault s subject v = none ↔ IsSound s v ∧ v.count '%' ≤ 1 := by
  rw [relativeFault, Option.orElse_eq_none, Option.orElse_eq_none, Option.orElse_eq_none,
    reservedPathFault_eq_none_iff, climbFault_eq_none_iff, volumeFault_eq_none_iff,
    percentFault_eq_none_iff]
  constructor
  · rintro ⟨hclimb, hreserved, hvolume, hpercent⟩
    exact ⟨⟨hreserved, hclimb, hvolume⟩, hpercent⟩
  · rintro ⟨⟨hreserved, hclimb, hvolume⟩, hpercent⟩
    exact ⟨hclimb, hreserved, hvolume, hpercent⟩

/-! ## File names -/

/-- With more characters listed, these are reserved as well. -/
theorem reserves_append (t : ReservedTable) (listed more : List Char) (c : Char) :
    t.reserves (listed ++ more) c = (t.reserves listed c || more.contains c) := by
  rw [ReservedTable.reserves, ReservedTable.reserves, List.contains_append, Bool.or_assoc,
    Bool.or_assoc, Bool.or_comm (more.contains c)]

/-- Reserved in file names are the characters that are reserved in paths and those that lead
elsewhere. -/
theorem reserves_fileName (s : Style) (c : Char) :
    s.reserved.reserves s.reserved.fileName c
      = (s.reserved.reserves s.reserved.path c || changesDirectory s c) := by
  cases s with
  | posix =>
    have hlisted : Style.posix.reserved.fileName = Style.posix.reserved.path ++ ['/'] := rfl
    rw [hlisted, reserves_append]
    rfl
  | windows =>
    have hlisted : Style.windows.reserved.fileName
        = Style.windows.reserved.path ++ [':', '\\', '/'] := rfl
    have hmore : [':', '\\', '/'].contains c = changesDirectory .windows c := by
      show (c == ':' || (c == '\\' || (c == '/' || false)))
        = ((c == '\\' || c == '/') || c == ':')
      rw [Bool.or_false, Bool.or_comm]
    rw [hlisted, reserves_append, hmore]

/-- A sign that does not stand in a text does not stray in it. -/
theorem isStray_of_not_mem {c : Char} {v : Text} (h : c ∉ v) : isStray c v = false := by
  have hv : v.contains c = false := by
    rw [← Bool.not_eq_true, List.contains_iff_mem]
    exact h
  unfold isStray
  split
  · rename_i letter second rest
    have hsecond : (second == c && letter.isAlpha) = false := by
      rw [Bool.and_eq_false_iff, beq_eq_false_iff_ne]
      left
      rintro rfl
      exact h (by simp)
    rw [hsecond]
    exact hv
  · exact hv

theorem not_any_changesDirectory_iff {s : Style} {v : Text} :
    v.any (changesDirectory s) = false ↔ ∀ c ∈ v, changesDirectory s c = false := by
  rw [List.any_eq_false]
  refine forall₂_congr fun c _ => ?_
  rw [Bool.not_eq_true]

/-- A file name passes its check exactly if it is sound, leads nowhere else and has at most one
`%`. -/
theorem fileNameFault_eq_none_iff {s : Style} {v : Text} :
    fileNameFault s v = none ↔
      IsSound s v ∧ (∀ c ∈ v, changesDirectory s c = false) ∧ v.count '%' ≤ 1 := by
  have hbare : (if v.any (changesDirectory s) then some (Rejection.notBare v) else none) = none ↔
      ∀ c ∈ v, changesDirectory s c = false := by
    rw [← not_any_changesDirectory_iff]
    cases v.any (changesDirectory s) <;> simp
  have hname : reservedNameFault s v = none ↔
      ∀ c ∈ v, s.reserved.reserves s.reserved.fileName c = false := by
    rw [reservedNameFault, Option.map_eq_none_iff, ReservedTable.findInFileName,
      find?_reserves_eq_none_iff]
  rw [fileNameFault, Option.orElse_eq_none, Option.orElse_eq_none, Option.orElse_eq_none,
    climbFault_eq_none_iff, hbare, hname, percentFault_eq_none_iff]
  constructor
  · rintro ⟨hclimb, hbare, hname, hpercent⟩
    refine ⟨⟨fun c hc => ?_, hclimb, fun c hvolume => ?_⟩, hbare, hpercent⟩
    · have hc' := hname c hc
      rw [reserves_fileName, Bool.or_eq_false_iff] at hc'
      exact hc'.1
    · -- the sign of a volume does not stand in the name at all
      refine isStray_of_not_mem fun hc => ?_
      have hc' := hbare c hc
      rw [changesDirectory, Bool.or_eq_false_iff, beq_eq_false_iff_ne] at hc'
      exact hc'.2 (Eq.symm hvolume)
  · rintro ⟨⟨hreserved, hclimb, -⟩, hbare, hpercent⟩
    refine ⟨hclimb, hbare, fun c hc => ?_, hpercent⟩
    rw [reserves_fileName, hreserved c hc, hbare c hc, Bool.or_false]

/-- A file name that passes its check leads nowhere else. -/
theorem not_leaves_of_fileNameFault {s : Style} {name : Text} (h : fileNameFault s name = none) :
    ¬ Leaves s name := by
  intro hleaves
  obtain ⟨r, hr, -⟩ := fileNameFault_of_leaves hleaves
  rw [h] at hr
  cases hr

/-! ## Texts that are put together -/

/-- What has no `x` in it stands before an `x` or behind it. -/
theorem isInfix_append_cons_iff {x : Char} {needle : Text} (hx : x ∉ needle) {a b : Text} :
    needle <:+: a ++ x :: b ↔ needle <:+: a ∨ needle <:+: b := by
  -- a front part of the needle that reaches the `x` would have it
  have hfront : ∀ t : Text, t <+: x :: b → x ∉ t → t = [] := by
    intro t ht hxt
    rcases List.prefix_cons_iff.1 ht with rfl | ⟨t', rfl, -⟩
    · rfl
    · exact absurd List.mem_cons_self hxt
  constructor
  · intro h
    rcases List.infix_append_iff.1 h with h | h | ⟨t, t', rfl, ht, ht'⟩
    · exact Or.inl h
    · rcases List.infix_cons_iff.1 h with h | h
      · rw [hfront needle h hx]
        exact Or.inl List.nil_infix
      · exact Or.inr h
    · have hnil : t' = [] := hfront t' ht' fun hmem => hx (List.mem_append_right t hmem)
      rw [hnil, List.append_nil]
      exact Or.inl ht.isInfix
  · rintro (h | h)
    · exact List.infix_append_of_infix_left h
    · exact List.infix_append_of_infix_right (List.infix_cons h)

/-- What has no `x` in it stands in texts with an `x` between them if it stands in one of them. -/
theorem isInfix_intercalate_iff {x : Char} {needle : Text} (hne : needle ≠ []) (hx : x ∉ needle)
    (texts : List Text) : needle <:+: [x].intercalate texts ↔ ∃ v ∈ texts, needle <:+: v := by
  induction texts with
  | nil => simp [hne]
  | cons v texts ih =>
    cases texts with
    | nil => simp
    | cons w texts =>
      rw [List.intercalate_cons_cons, List.append_assoc, List.singleton_append,
        isInfix_append_cons_iff hx, ih]
      exact (List.exists_mem_cons_iff _ _ _).symm

/-- A character other than `x` stands in texts with an `x` between them if it stands in one. -/
theorem mem_intercalate_iff {x c : Char} (hc : c ≠ x) {texts : List Text} :
    c ∈ [x].intercalate texts ↔ ∃ v ∈ texts, c ∈ v := by
  have hx : x ∉ [c] := by
    rw [List.mem_singleton]
    exact Ne.symm hc
  have h := isInfix_intercalate_iff (List.cons_ne_nil c []) hx texts
  simpa only [List.singleton_infix_iff] using h

/-- A character other than `x` is as frequent in texts with an `x` between them as in all of
them. -/
theorem count_intercalate {x c : Char} (hc : c ≠ x) (texts : List Text) :
    ([x].intercalate texts).count c = texts.flatten.count c := by
  induction texts with
  | nil => rfl
  | cons v texts ih =>
    cases texts with
    | nil => simp
    | cons w texts =>
      rw [List.intercalate_cons_cons, List.flatten_cons, List.count_append, List.count_append,
        List.count_append, ih, List.count_singleton, if_neg (by simpa using Ne.symm hc)]
      omega

/-- Where there is no drive, the sign of a volume strays wherever it stands. -/
theorem isStray_of_not_hasDrive {v : Text} (h : ¬ HasDrive v) : isStray ':' v = v.contains ':' := by
  unfold isStray
  split
  · rename_i letter second rest
    refine if_neg fun hdrive => h ?_
    rw [Bool.and_eq_true, beq_iff_eq] at hdrive
    exact ⟨letter, rest, by rw [hdrive.1], hdrive.2⟩
  · rfl

/-- An unrooted text has no sign of a volume that strays exactly if it has none at all. -/
theorem noStray_iff_of_isUnrooted {s : Style} {v : Text} (h : IsUnrooted s v) :
    (∀ c ∈ s.volumeSeparator, isStray c v = false) ↔ ∀ c ∈ s.volumeSeparator, c ∉ v := by
  refine forall₂_congr fun c hc => ?_
  cases s with
  | posix => cases hc
  | windows =>
    cases hc
    rw [isStray_of_not_hasDrive (h.2 rfl), ← Bool.not_eq_true, List.contains_iff_mem]

/-- Unrooted texts with separators between them are unrooted. -/
theorem isUnrooted_intercalate {s : Style} {texts : List Text}
    (h : ∀ v ∈ texts, v ≠ [] ∧ IsUnrooted s v) :
    IsUnrooted s ([s.separator].intercalate texts) := by
  cases texts with
  | nil =>
    refine ⟨fun c hc => (Option.not_mem_none c hc).elim, ?_⟩
    rintro - ⟨letter, rest, heq, -⟩
    cases heq
  | cons v texts =>
    obtain ⟨hne, hv⟩ := h v List.mem_cons_self
    obtain ⟨a, v, rfl⟩ := List.exists_cons_of_ne_nil hne
    rw [Lexical.intercalate_eq_append_flatMap]
    refine ⟨hv.1, ?_⟩
    rintro rfl ⟨letter, rest, heq, halpha⟩
    -- behind a first text of one character stands a separator, which is no colon
    cases v with
    | nil => cases texts <;> cases heq
    | cons b v =>
      obtain ⟨rfl, rfl, -⟩ : a = letter ∧ b = ':' ∧ _ := by simpa using heq
      exact hv.2 rfl ⟨a, v, rfl, halpha⟩

/-- **Sound texts.**  Unrooted texts with separators between them are sound exactly if each of them
is. -/
theorem isSound_intercalate_iff {s : Style} {texts : List Text}
    (hunrooted : ∀ v ∈ texts, v ≠ [] ∧ IsUnrooted s v) :
    IsSound s ([s.separator].intercalate texts) ↔ ∀ v ∈ texts, IsSound s v := by
  have hreserved : s.reserved.reserves s.reserved.path s.separator = false := by
    cases s <;> rfl
  have hdots : s.separator ∉ ['.', '.'] := by
    cases s <;> decide
  have hvolume : ∀ c ∈ s.volumeSeparator, c ≠ s.separator := by
    cases s <;> simp [Style.volumeSeparator, Style.separator]
  have hclimb := isInfix_intercalate_iff (List.cons_ne_nil _ _) hdots texts
  constructor
  · intro h v hv
    have hstray := (noStray_iff_of_isUnrooted (isUnrooted_intercalate hunrooted)).1 h.noStray
    refine ⟨fun c hc => ?_, fun hmem => h.noClimb (hclimb.2 ⟨v, hv, hmem⟩), ?_⟩
    · by_cases hsep : c = s.separator
      · rw [hsep, hreserved]
      · exact h.unreserved c ((mem_intercalate_iff hsep).2 ⟨v, hv, hc⟩)
    · rw [noStray_iff_of_isUnrooted (hunrooted v hv).2]
      intro c hc hmem
      exact hstray c hc ((mem_intercalate_iff (hvolume c hc)).2 ⟨v, hv, hmem⟩)
  · intro h
    refine ⟨fun c hc => ?_, ?_, ?_⟩
    · by_cases hsep : c = s.separator
      · rw [hsep, hreserved]
      · obtain ⟨v, hv, hmem⟩ := (mem_intercalate_iff hsep).1 hc
        exact (h v hv).unreserved c hmem
    · intro hmem
      obtain ⟨v, hv, hmem⟩ := hclimb.1 hmem
      exact (h v hv).noClimb hmem
    · rw [noStray_iff_of_isUnrooted (isUnrooted_intercalate hunrooted)]
      intro c hc hmem
      obtain ⟨v, hv, hmem⟩ := (mem_intercalate_iff (hvolume c hc)).1 hmem
      exact (noStray_iff_of_isUnrooted (hunrooted v hv).2).1 (h v hv).noStray c hc hmem

/-! ## Requests that are granted -/

/-- After a check the rest is done exactly if the check finds no fault. -/
theorem refuse_bind_eq_ok_iff {α : Type} {fault : Option Rejection}
    {f : Unit → Except Rejection α} {a : α} :
    refuse fault >>= f = .ok a ↔ fault = none ∧ f () = .ok a := by
  cases fault with
  | none => exact (and_iff_right rfl).symm
  | some r => exact iff_of_false nofun fun h => Option.some_ne_none r h.1

theorem refuse_eq_error_iff {fault : Option Rejection} {r : Rejection} :
    refuse fault = .error r ↔ fault = some r := by
  cases fault <;> simp [refuse]

theorem blankFault_eq_none_iff {argument : Argument} {v : Text} :
    blankFault argument v = none ↔ v.isBlank = false := by
  unfold blankFault
  cases v.isBlank <;> simp

/-- A bare name is built exactly if neither argument is blank, both pass their checks, and they can
be combined. -/
theorem buildExact_eq_ok_iff {s : Style} {cwd : WorkingDirectory} {base name : Text}
    {p : ValidatedPath} :
    buildExact s cwd base name = .ok p ↔
      (base.isBlank = false ∧ name.isBlank = false) ∧
      (baseFault s base = none ∧ fileNameFault s name = none) ∧
      combine s cwd base [name] .exactParent = .ok p := by
  rw [buildExact, refuse_bind_eq_ok_iff, refuse_bind_eq_ok_iff, Option.orElse_eq_none,
    Option.orElse_eq_none, blankFault_eq_none_iff, blankFault_eq_none_iff]

/-- A tail is built exactly if neither argument is blank, both pass their checks, and they can be
combined. -/
theorem buildWithSubdirectories_eq_ok_iff {s : Style} {cwd : WorkingDirectory} {base tail : Text}
    {p : ValidatedPath} :
    buildWithSubdirectories s cwd base tail = .ok p ↔
      (base.isBlank = false ∧ tail.isBlank = false) ∧
      (baseFault s base = none ∧ relativeFault s .relativePath tail = none) ∧
      combine s cwd base [tail] .descendant = .ok p := by
  rw [buildWithSubdirectories, refuse_bind_eq_ok_iff, refuse_bind_eq_ok_iff, Option.orElse_eq_none,
    Option.orElse_eq_none, blankFault_eq_none_iff, blankFault_eq_none_iff]

/-- A list of segments with a base and a file name is checked piece by piece and then combined. -/
theorem buildFromSegments_append (s : Style) (cwd : WorkingDirectory) (base : Text)
    (dirs : List Text) (name : Text) :
    buildFromSegments s cwd (base :: (dirs ++ [name])) =
      (refuse ((base :: (dirs ++ [name])).findSome? (blankFault .segments)) >>= fun _ =>
        refuse (baseFault s base <|> dirs.findSome? (relativeFault s .segment)
          <|> fileNameFault s name) >>= fun _ =>
        combine s cwd base (dirs ++ [name]) .descendant) := by
  cases dirs with
  | nil => rfl
  | cons dir dirs =>
    have hdirs : (dir :: dirs ++ [name]).dropLast = dir :: dirs := List.dropLast_concat
    have hname : (dir :: (dirs ++ [name])).getLast (List.cons_ne_nil _ _) = name :=
      List.getLast_append_singleton (dir :: dirs)
    rw [List.cons_append] at hdirs ⊢
    rw [buildFromSegments, hdirs, hname]

/-- A list of segments is built exactly if none is blank, each passes the check of its place, and
they can be combined. -/
theorem buildFromSegments_eq_ok_iff {s : Style} {cwd : WorkingDirectory} {base : Text}
    {dirs : List Text} {name : Text} {p : ValidatedPath} :
    buildFromSegments s cwd (base :: (dirs ++ [name])) = .ok p ↔
      (∀ v ∈ base :: (dirs ++ [name]), v.isBlank = false) ∧
      (baseFault s base = none ∧ (∀ dir ∈ dirs, relativeFault s .segment dir = none) ∧
        fileNameFault s name = none) ∧
      combine s cwd base (dirs ++ [name]) .descendant = .ok p := by
  rw [buildFromSegments_append, refuse_bind_eq_ok_iff, refuse_bind_eq_ok_iff,
    Option.orElse_eq_none, Option.orElse_eq_none, List.findSome?_eq_none_iff,
    List.findSome?_eq_none_iff]
  simp only [blankFault_eq_none_iff]

/-- A list of segments that is built has a base and a file name. -/
theorem exists_segments_of_buildFromSegments {s : Style} {cwd : WorkingDirectory}
    {segments : List Text} {p : ValidatedPath} (h : buildFromSegments s cwd segments = .ok p) :
    ∃ base dirs name, segments = base :: (dirs ++ [name]) := by
  match segments, h with
  | [], h => cases h
  | [_], h => cases h
  | base :: first :: more, _ =>
    refine ⟨base, (first :: more).dropLast, (first :: more).getLast (List.cons_ne_nil _ _), ?_⟩
    rw [List.dropLast_append_getLast]

end Rampart.Path
