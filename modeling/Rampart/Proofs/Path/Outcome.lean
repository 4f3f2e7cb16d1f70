import Mathlib
import Rampart.Proofs.Path.Combining

/-!
# The outcome of every request

A request whose parts pass their checks is settled by a few questions about the base and the name or
tail.  For a bare file name the comparison with the base refuses nothing but `.`; for a tail all
hangs on whether it is rooted, and if so on where it leads.

* `fileNameFault_of_leaves`, `fileNameFault_of_isIllSpelled`, `fileNameFault_of_isPlainName` : what
  is wrong with a file name;
* `Lexical.parse_of_bare` : a bare name is read as one component, or as none if it is `.`;
* `fileName_of_render` : the final component of a path that a name was added to is that name;
* `buildExact_outcome` : the outcome for a bare file name;
* `buildWithSubdirectories_outcome` : the outcome for a tail.
-/

namespace Rampart.Path

/-- A request is refused with a fault of the given kind. -/
def RefusedAs (kind : Kind) (outcome : Except Rejection ValidatedPath) : Prop :=
  ∃ r, outcome = .error r ∧ r.kind = kind

/-! ## Checked requests -/

/-- With arguments that are not blank and a base that passes its check, a bare name is checked and
then combined. -/
theorem buildExact_of_checked {s : Style} {cwd : WorkingDirectory} {base name : Text}
    (hbase : base.isBlank = false) (hname : name.isBlank = false)
    (hfault : baseFault s base = none) :
    buildExact s cwd base name
      = refuse (fileNameFault s name) >>= fun _ => combine s cwd base [name] .exactParent := by
  rw [buildExact, blankFault, hbase, blankFault, hname, hfault]
  rfl

/-- With arguments that are not blank and parts that pass their checks, a tail is combined. -/
theorem buildWithSubdirectories_of_checked {s : Style} {cwd : WorkingDirectory} {base tail : Text}
    (hbase : base.isBlank = false) (htail : tail.isBlank = false) (hfault : baseFault s base = none)
    (hrelative : relativeFault s .relativePath tail = none) :
    buildWithSubdirectories s cwd base tail = combine s cwd base [tail] .descendant := by
  rw [buildWithSubdirectories, blankFault, hbase, blankFault, htail, hfault, hrelative]
  rfl

/-! ## What is wrong with a file name -/

/-- The name holds `..`, a separator or the sign of a volume. -/
def Leaves (s : Style) (name : Text) : Prop :=
  ['.', '.'] <:+: name ∨ ∃ c ∈ name, s.isSeparator c = true ∨ s.volumeSeparator = some c

/-- The name holds a character that is reserved in file names, or more than one `%`. -/
def IsIllSpelled (s : Style) (name : Text) : Prop :=
  (∃ c ∈ name, c ∈ s.reserved.fileName ∨ (s.reserved.controls = true ∧ c.toNat < 0x20)) ∨
    1 < name.count '%'

theorem any_changesDirectory_iff {s : Style} {name : Text} :
    name.any (changesDirectory s) = true ↔
      ∃ c ∈ name, s.isSeparator c = true ∨ s.volumeSeparator = some c := by
  rw [List.any_eq_true]
  refine exists_congr fun c => and_congr_right fun _ => ?_
  rw [changesDirectory, Bool.or_eq_true, beq_iff_eq, eq_comm (a := some c)]

theorem any_reserves_iff {t : ReservedTable} {listed : List Char} {name : Text} :
    name.any (t.reserves listed) = true ↔
      ∃ c ∈ name, c ∈ listed ∨ (t.controls = true ∧ c.toNat < 0x20) := by
  rw [List.any_eq_true]
  refine exists_congr fun c => and_congr_right fun _ => ?_
  rw [ReservedTable.reserves, Bool.or_eq_true, List.contains_iff_mem, Bool.and_eq_true,
    decide_eq_true_iff]

instance (s : Style) (name : Text) : Decidable (Leaves s name) :=
  decidable_of_iff (['.', '.'] <:+: name ∨ name.any (changesDirectory s) = true)
    (or_congr Iff.rfl any_changesDirectory_iff)

instance (s : Style) (name : Text) : Decidable (IsIllSpelled s name) :=
  decidable_of_iff (name.any (s.reserved.reserves s.reserved.fileName) = true ∨ 1 < name.count '%')
    (or_congr any_reserves_iff Iff.rfl)

/-- A name that leads nowhere else is not `..`. -/
theorem ne_climb_of_not_leaves {s : Style} {name : Text} (h : ¬ Leaves s name) :
    name ≠ ['.', '.'] := by
  rintro rfl
  exact h (Or.inl (List.infix_refl _))

/-- A name that leads elsewhere is refused as a traversal. -/
theorem fileNameFault_of_leaves {s : Style} {name : Text} (h : Leaves s name) :
    ∃ r, fileNameFault s name = some r ∧ r.kind = .traversalRejected := by
  rw [fileNameFault]
  by_cases hclimb : name.has ['.', '.'] = true
  · rw [if_pos hclimb]
    exact ⟨_, rfl, rfl⟩
  · have hany : name.any (changesDirectory s) = true := by
      rcases h with h | h
      · exact absurd ((Text.has_iff name _).2 h) hclimb
      · exact any_changesDirectory_iff.2 h
    rw [if_neg hclimb, if_pos hany]
    exact ⟨_, rfl, rfl⟩

/-- A name that leads nowhere else is checked for reserved characters and then for `%`. -/
theorem fileNameFault_of_not_leaves {s : Style} {name : Text} (h : ¬ Leaves s name) :
    fileNameFault s name = (reservedNameFault s name).or (percentFault name) := by
  rw [Leaves, not_or] at h
  have hclimb : ¬ name.has ['.', '.'] = true := fun hhas => h.1 ((Text.has_iff name _).1 hhas)
  have hany : ¬ name.any (changesDirectory s) = true := fun hany =>
    h.2 (any_changesDirectory_iff.1 hany)
  rw [fileNameFault, if_neg hclimb, if_neg hany]
  cases reservedNameFault s name <;> rfl

/-- A reserved character is found exactly if there is one. -/
theorem reservedNameFault_eq_none_iff {s : Style} {name : Text} :
    reservedNameFault s name = none ↔
      ¬ ∃ c ∈ name, c ∈ s.reserved.fileName ∨ (s.reserved.controls = true ∧ c.toNat < 0x20) := by
  rw [reservedNameFault, Option.map_eq_none_iff, ReservedTable.findInFileName, List.find?_eq_none,
    ← any_reserves_iff, List.any_eq_true]
  push Not
  rfl

/-- A name that leads nowhere else but is ill spelled is an invalid path. -/
theorem fileNameFault_of_isIllSpelled {s : Style} {name : Text} (h : ¬ Leaves s name)
    (hill : IsIllSpelled s name) :
    ∃ r, fileNameFault s name = some r ∧ r.kind = .invalidPath := by
  rw [fileNameFault_of_not_leaves h]
  cases hreserved : reservedNameFault s name with
  | some r =>
    rw [reservedNameFault, Option.map_eq_some_iff] at hreserved
    obtain ⟨c, -, rfl⟩ := hreserved
    exact ⟨_, rfl, rfl⟩
  | none =>
    have hpercent : 1 < name.count '%' := by
      rcases hill with hill | hill
      · exact absurd hill (reservedNameFault_eq_none_iff.1 hreserved)
      · exact hill
    rw [percentFault, if_pos hpercent]
    exact ⟨_, rfl, rfl⟩

/-- There is nothing wrong with a name that leads nowhere else and is not ill spelled. -/
theorem fileNameFault_of_isPlainName {s : Style} {name : Text} (h : ¬ Leaves s name)
    (hill : ¬ IsIllSpelled s name) : fileNameFault s name = none := by
  rw [IsIllSpelled, not_or] at hill
  rw [fileNameFault_of_not_leaves h, reservedNameFault_eq_none_iff.2 hill.1, percentFault,
    if_neg hill.2]
  rfl

/-! ## Bare names -/

namespace Lexical

/-- A text without separators that is not empty is one component, or none if it is `.`. -/
theorem split_of_bare {s : Style} {v : Text} (hne : v ≠ [])
    (h : ∀ c ∈ v, s.isSeparator c = false) : split s v = if v = ['.'] then [] else [v] := by
  by_cases hdot : v = ['.']
  · rw [if_pos hdot, hdot]
    cases s <;> rfl
  · rw [if_neg hdot, split_of_isComponent ⟨hne, hdot, h⟩]

/-- A name that leads nowhere else is read as one unrooted component, or none if it is `.`. -/
theorem parse_of_bare {s : Style} {name : Text} (hne : name ≠ []) (h : ¬ Leaves s name) :
    parse s name = .ok ⟨.relative, if name = ['.'] then [] else [name]⟩ := by
  rw [Leaves, not_or] at h
  have hseparator : ∀ c ∈ name, s.isSeparator c = false := by
    intro c hc
    rw [← Bool.not_eq_true]
    intro hsep
    exact h.2 ⟨c, hc, Or.inl hsep⟩
  have hunrooted : IsUnrooted s name := by
    refine ⟨fun c hc => hseparator c (List.mem_of_head? hc), ?_⟩
    rintro rfl ⟨letter, rest, rfl, -⟩
    -- the colon of a drive is the sign of a volume
    exact h.2 ⟨':', by simp, Or.inr rfl⟩
  rw [parse_of_isUnrooted hunrooted, split_of_bare hne hseparator]

/-- A name that is added to a path with a full root stands behind a separator in its text. -/
theorem exists_render_append_singleton {s : Style} {b : Lexical} (hroot : b.root.IsFull s)
    (name : Text) :
    ∃ front, render s ⟨b.root, b.components ++ [name]⟩ = front ++ s.separator :: name := by
  obtain ⟨root, cs⟩ := b
  -- most roots end in a separator; behind a share each name brings its own
  have hlast : ∃ front, s.separator :: [s.separator].intercalate (cs ++ [name])
      = front ++ s.separator :: name := by
    cases cs with
    | nil => exact ⟨[], by rw [List.nil_append, List.intercalate_singleton, List.nil_append]⟩
    | cons c cs =>
      rw [intercalate_append (List.cons_ne_nil c cs) (List.cons_ne_nil name []),
        List.intercalate_singleton]
      exact ⟨s.separator :: [s.separator].intercalate (c :: cs), rfl⟩
  cases root with
  | relative => cases s <;> simp [Root.IsFull] at hroot
  | separator => exact hlast
  | drive letter =>
    obtain ⟨front, hfront⟩ := hlast
    refine ⟨letter :: ':' :: front, ?_⟩
    show letter :: ':' :: s.separator :: [s.separator].intercalate (cs ++ [name]) = _
    rw [hfront]
    rfl
  | share server volume =>
    refine ⟨Root.render s (.share server volume) ++ cs.flatMap fun c => s.separator :: c, ?_⟩
    show _ ++ (cs ++ [name]).flatMap (fun c => s.separator :: c) = _
    rw [List.flatMap_append, List.flatMap_singleton, List.append_assoc]

end Lexical

/-- What follows a separator and has none is the final component. -/
theorem afterLast_append {p : Char → Bool} {x : Char} {name : Text} (hx : p x = true)
    (h : ∀ c ∈ name, p c = false) (front : Text) :
    Text.afterLast p (front ++ x :: name) = name := by
  have hall : ∀ c ∈ name.reverse, (!p c) = true := by
    intro c hc
    rw [h c (List.mem_reverse.1 hc)]
    rfl
  rw [Text.afterLast, List.reverse_append, List.reverse_cons, List.append_assoc,
    List.singleton_append, List.takeWhile_append_of_pos hall,
    List.takeWhile_cons_of_neg (by rw [hx]; exact Bool.false_ne_true), List.append_nil,
    List.reverse_reverse]

/-- The final component of a path that a name was added to is that name. -/
theorem fileName_of_render {s : Style} {b : Lexical} (hroot : b.root.IsFull s) {name : Text}
    (h : ∀ c ∈ name, s.isSeparator c = false) :
    ValidatedPath.fileName ⟨Lexical.render s ⟨b.root, b.components ++ [name]⟩, s⟩ = name := by
  obtain ⟨front, hfront⟩ := Lexical.exists_render_append_singleton hroot name
  show Text.afterLast s.isSeparator (Lexical.render s ⟨b.root, b.components ++ [name]⟩) = name
  rw [hfront]
  exact afterLast_append (Style.isSeparator_separator s) h front

/-- The final component of the text of a canonical path is the last of its components. -/
theorem Lexical.Canonical.fileName_render {s : Style} {q : Lexical} (hq : q.Canonical s)
    {front : List Text} {name : Text} (h : q.components = front ++ [name]) :
    ValidatedPath.fileName ⟨q.render s, s⟩ = name := by
  obtain ⟨root, cs⟩ := q
  obtain rfl : cs = front ++ [name] := h
  have hname : IsComponent s name := hq.components name (by simp)
  exact fileName_of_render (b := ⟨root, front⟩) hq.isFull hname.2.2

/-! ## Bare file names -/

/-- A name that passes its check is added to the resolved base, unless it is `.`. -/
theorem combine_bare {s : Style} {cwd : WorkingDirectory} {base name : Text} {b : Lexical}
    (hb : resolveBase s cwd base = .ok b) (hcanon : b.Canonical s) (hne : name ≠ [])
    (hleaves : ¬ Leaves s name) :
    (name = ['.'] → RefusedAs .traversalRejected (combine s cwd base [name] .exactParent)) ∧
    (name ≠ ['.'] → combine s cwd base [name] .exactParent
      = .ok ⟨Lexical.render s ⟨b.root, b.components ++ [name]⟩, s⟩) := by
  have hclimb : name ≠ ['.', '.'] := ne_climb_of_not_leaves hleaves
  have hparse := Lexical.parse_of_bare hne hleaves
  constructor
  · intro hdot
    rw [if_pos hdot] at hparse
    rw [combine_relative hb hcanon hparse rfl List.not_mem_nil]
    -- nothing is added, so the result is no deeper than the base
    have hdepth : ¬ Containment.exactParent.admits b.depth (b.depth + 0) = true := by
      rw [Containment.admits, beq_iff_eq]
      omega
    exact ⟨_, if_neg hdepth, rfl⟩
  · intro hdot
    rw [if_neg hdot] at hparse
    have hmem : ['.', '.'] ∉ [name] := by
      rw [List.mem_singleton]
      exact Ne.symm hclimb
    rw [combine_relative hb hcanon hparse rfl hmem]
    exact if_pos (beq_self_eq_true _)

/-- **The outcome for a bare file name.**  A name that leads elsewhere is a traversal; else one that
is ill spelled, or a base that cannot be resolved, makes an invalid path; else `.` alone is a
traversal; and every other name is added to the resolved base as it is, and is the final component
of what is built. -/
theorem buildExact_outcome {s : Style} {cwd : WorkingDirectory} {base name : Text}
    (hcwd : cwd.IsAbsolute) (hbase : base.isBlank = false) (hname : name.isBlank = false)
    (hfault : baseFault s base = none) :
    (Leaves s name → RefusedAs .traversalRejected (buildExact s cwd base name)) ∧
    (¬ Leaves s name → IsIllSpelled s name →
      RefusedAs .invalidPath (buildExact s cwd base name)) ∧
    (¬ Leaves s name → ¬ IsIllSpelled s name → ¬ Resolvable s cwd base →
      RefusedAs .invalidPath (buildExact s cwd base name)) ∧
    (¬ Leaves s name → ¬ IsIllSpelled s name → Resolvable s cwd base →
      ∃ b, resolveBase s cwd base = .ok b ∧ b.Canonical s ∧
        (name = ['.'] → RefusedAs .traversalRejected (buildExact s cwd base name)) ∧
        (name ≠ ['.'] → ∃ p, buildExact s cwd base name = .ok p ∧
          p = ⟨Lexical.render s ⟨b.root, b.components ++ [name]⟩, s⟩ ∧ p.fileName = name)) := by
  have hne : name ≠ [] := by
    rintro rfl
    cases hname
  rw [buildExact_of_checked hbase hname hfault]
  refine ⟨?_, ?_, ?_, ?_⟩
  · intro hleaves
    obtain ⟨r, hr, hkind⟩ := fileNameFault_of_leaves hleaves
    rw [hr]
    exact ⟨r, rfl, hkind⟩
  · intro hleaves hill
    obtain ⟨r, hr, hkind⟩ := fileNameFault_of_isIllSpelled hleaves hill
    rw [hr]
    exact ⟨r, rfl, hkind⟩
  · intro hleaves hill hresolve
    rw [fileNameFault_of_isPlainName hleaves hill]
    cases hb : resolveBase s cwd base with
    | ok b => exact absurd (exists_resolveBase_iff.1 ⟨b, hb⟩) hresolve
    | error r => exact ⟨r, combine_of_resolveBase_error hb _ _, kind_of_resolveBase hb⟩
  · intro hleaves hill hresolve
    rw [fileNameFault_of_isPlainName hleaves hill]
    obtain ⟨b, hb⟩ := exists_resolveBase_iff.2 hresolve
    have hcanon : b.Canonical s := canonical_of_resolveBase hcwd hb
    obtain ⟨hdot, hadded⟩ := combine_bare hb hcanon hne hleaves
    refine ⟨b, hb, hcanon, hdot, fun hnotDot => ⟨_, hadded hnotDot, rfl, ?_⟩⟩
    refine fileName_of_render hcanon.isFull fun c hc => ?_
    rw [← Bool.not_eq_true]
    intro hsep
    exact hleaves (Or.inr ⟨c, hc, Or.inl hsep⟩)

/-- Below a relative base, a name that ends in a dot is kept as it is, `.` is a traversal and so is
a name with three dots; without a drive nothing is built. -/
theorem buildExact_outcome_dots :
    (∃ b, resolveBase .posix (.at "/w".toList) "d".toList = .ok b ∧ b.Canonical .posix ∧
      ∃ p, buildExact .posix (.at "/w".toList) "d".toList "a.".toList = .ok p ∧
        p = ⟨Lexical.render .posix ⟨b.root, b.components ++ ["a.".toList]⟩, .posix⟩ ∧
        p.fileName = "a.".toList) ∧
    RefusedAs .traversalRejected
      (buildExact .posix (.at "/w".toList) "d".toList ".".toList) ∧
    RefusedAs .traversalRejected
      (buildExact .posix (.at "/w".toList) "d".toList "...".toList) ∧
    RefusedAs .invalidPath (buildExact .windows .missing "/d".toList "a".toList) := by
  have hcwd : (WorkingDirectory.at "/w".toList).IsAbsolute := rfl
  have hbase : Text.isBlank "d".toList = false := rfl
  have hfault : baseFault .posix "d".toList = none := rfl
  have hresolve : Resolvable .posix (.at "/w".toList) "d".toList := Or.inr ⟨_, rfl⟩
  refine ⟨?_, ?_, ?_, ?_⟩
  · have hname : Text.isBlank "a.".toList = false := rfl
    obtain ⟨b, hb, hcanon, -, hadded⟩ := (buildExact_outcome hcwd hbase hname hfault).2.2.2
      (by decide) (by decide) hresolve
    exact ⟨b, hb, hcanon, hadded (by decide)⟩
  · have hname : Text.isBlank ".".toList = false := rfl
    obtain ⟨b, -, -, hdot, -⟩ := (buildExact_outcome hcwd hbase hname hfault).2.2.2
      (by decide) (by decide) hresolve
    exact hdot rfl
  · exact (buildExact_outcome hcwd hbase rfl hfault).1 (by decide)
  · have hmissing : WorkingDirectory.missing.IsAbsolute := trivial
    refine (buildExact_outcome hmissing rfl rfl rfl).2.2.1 (by decide) (by decide) ?_
    refine not_resolvable_windows ?_ ?_ _
    · rintro ⟨a, b, rest, h, -, hb⟩
      cases h
      cases hb
    · rintro ⟨letter, rest, h, -⟩
      cases h

/-! ## Tails -/

/-- A tail of the windows style that starts like a network path but names no server and share. -/
def IsIncompleteShare (s : Style) (tail : Text) : Prop :=
  s = .windows ∧ StartsDouble tail ∧ ¬ NamesShare tail

/-- Where a rooted tail leads: in the windows style one that is rooted by a separator alone stays on
the volume of the base. -/
def Lexical.onVolume (s : Style) (b t : Lexical) : Lexical :=
  if s = .windows ∧ t.root = .separator then ⟨b.root, t.components⟩ else t

/-- The path starts where the base does and with the entries of the base, and has more. -/
def StrictlyWithin (s : Style) (p base : Lexical) : Prop :=
  p.root.Same s base.root ∧ ∃ front rest, p.components = front ++ rest ∧ rest ≠ [] ∧
    List.Forall₂ (fun a b => s.sameName a b = true) front base.components

namespace Lexical

/-- A rooted tail takes the place of a base with a full root. -/
theorem join_of_rooted {s : Style} {b t : Lexical} (hfull : b.root.IsFull s)
    (hroot : t.root ≠ .relative) : b.join t = b.onVolume s t := by
  obtain ⟨broot, bs⟩ := b
  obtain ⟨troot, ts⟩ := t
  cases troot with
  | relative => exact absurd rfl hroot
  | drive letter => rw [onVolume, if_neg (by simp), join]
  | share server volume => rw [onVolume, if_neg (by simp), join]
  | separator =>
    -- only here the root of the base counts
    cases s with
    | posix =>
      obtain rfl : broot = .separator := hfull
      rfl
    | windows =>
      rcases hfull with ⟨letter, rfl⟩ | ⟨server, volume, rfl⟩
      · rfl
      · rfl

/-- What combining compares is whether a path starts with the base and has more. -/
theorem strictlyWithin_iff {s : Style} {p base : Lexical} :
    (p.isWithin s base && Containment.descendant.admits base.depth p.depth) = true ↔
      StrictlyWithin s p base := by
  rw [Bool.and_eq_true, isWithin_iff, Containment.admits, decide_eq_true_iff]
  constructor
  · rintro ⟨⟨hroot, front, rest, hcs, hfront⟩, hdepth⟩
    refine ⟨hroot, front, rest, hcs, ?_, hfront⟩
    rintro rfl
    -- with nothing more there would be as many names as in the base
    have hlength := hfront.length_eq
    rw [depth, depth, hcs, List.append_nil] at hdepth
    omega
  · rintro ⟨hroot, front, rest, hcs, hrest, hfront⟩
    refine ⟨⟨hroot, front, rest, hcs, hfront⟩, ?_⟩
    have hlength := hfront.length_eq
    have hpos : 0 < rest.length := List.length_pos_iff.2 hrest
    rw [depth, depth, hcs, List.length_append]
    omega

/-- An unrooted path has the components of its text. -/
theorem components_of_relative {s : Style} {v : Text} {t : Lexical} (h : parse s v = .ok t)
    (hroot : t.root = .relative) : t.components = split s v := by
  cases s with
  | posix =>
    cases h
    rfl
  | windows =>
    have hreads := readsAs v
    rw [h] at hreads
    cases hreads with
    | share => cases hroot
    | drive => cases hroot
    | separator => cases hroot
    | relative => rfl

/-- There are components exactly if some piece between separators is neither empty nor `.`. -/
theorem split_ne_nil_iff {s : Style} {v : Text} :
    split s v ≠ [] ↔ ∃ piece ∈ v.splitOnP s.isSeparator, piece ≠ [] ∧ piece ≠ ['.'] := by
  rw [split, Ne, List.filter_eq_nil_iff]
  push Not
  refine exists_congr fun piece => and_congr_right fun _ => ?_
  rw [Bool.and_eq_true, Bool.not_eq_true', List.isEmpty_eq_false_iff, bne_iff_ne]

end Lexical

/-- A tail that passes its check has no `..`. -/
theorem has_of_relativeFault {s : Style} {subject : Subject} {tail : Text}
    (h : relativeFault s subject tail = none) : tail.has ['.', '.'] = false := by
  rw [← Bool.not_eq_true]
  intro hhas
  rw [relativeFault, if_pos hhas] at h
  cases h

/-- **The outcome for a tail.**  A tail that cannot be read makes an invalid path.  An unrooted one
is added to the base if it has any components, and is a traversal otherwise.  A rooted one takes the
place of the base, and is taken exactly if it leads below the base. -/
theorem buildWithSubdirectories_outcome {s : Style} {cwd : WorkingDirectory} {base tail : Text}
    {b : Lexical} (hbase : base.isBlank = false) (htail : tail.isBlank = false)
    (hfault : baseFault s base = none) (hrelative : relativeFault s .relativePath tail = none)
    (hb : resolveBase s cwd base = .ok b) (hq : b.isQualified s = true) :
    (IsIncompleteShare s tail →
      RefusedAs .invalidPath (buildWithSubdirectories s cwd base tail)) ∧
    (¬ IsIncompleteShare s tail → ∃ t, Lexical.parse s tail = .ok t ∧
      (t.root = .relative →
        ((∃ piece ∈ tail.splitOnP s.isSeparator, piece ≠ [] ∧ piece ≠ ['.']) →
          buildWithSubdirectories s cwd base tail
            = .ok ⟨Lexical.render s ⟨b.root, b.components ++ t.components⟩, s⟩) ∧
        ((¬ ∃ piece ∈ tail.splitOnP s.isSeparator, piece ≠ [] ∧ piece ≠ ['.']) →
          RefusedAs .traversalRejected (buildWithSubdirectories s cwd base tail))) ∧
      (t.root ≠ .relative →
        (StrictlyWithin s (b.onVolume s t) b →
          buildWithSubdirectories s cwd base tail = .ok ⟨(b.onVolume s t).render s, s⟩) ∧
        (¬ StrictlyWithin s (b.onVolume s t) b →
          RefusedAs .traversalRejected (buildWithSubdirectories s cwd base tail)))) := by
  have hcanon : b.Canonical s := canonical_of_isQualified hb hq
  rw [buildWithSubdirectories_of_checked hbase htail hfault hrelative]
  constructor
  · rintro ⟨hs, hdouble, hshare⟩
    have hparse := Lexical.parse_eq_error_iff.2 ⟨rfl, hs, hdouble, hshare⟩
    refine ⟨.incompleteShare tail, ?_, rfl⟩
    rw [combine_of_resolveBase hb hcanon, joinAll_singleton, hparse]
    rfl
  · intro hcomplete
    cases hparse : Lexical.parse s tail with
    | error r => exact absurd (Lexical.parse_eq_error_iff.1 hparse).2 hcomplete
    | ok t =>
      have hclimb : ['.', '.'] ∉ t.components :=
        Lexical.climb_not_mem_of_parse hparse (has_of_relativeFault hrelative)
      refine ⟨t, rfl, fun hroot => ?_, fun hroot => ?_⟩
      · -- it lies within the base in any case, so only the number of its names counts
        rw [combine_relative hb hcanon hparse hroot hclimb, ← Lexical.split_ne_nil_iff,
          ← Lexical.components_of_relative hparse hroot]
        have hadmits : Containment.descendant.admits b.depth (b.depth + t.depth) = true ↔
            t.components ≠ [] := by
          have hdepth : t.depth = t.components.length := rfl
          rw [Containment.admits, decide_eq_true_iff, ← List.length_pos_iff, hdepth]
          omega
        exact ⟨fun h => if_pos (hadmits.2 h),
          fun h => ⟨_, if_neg fun hadmit => h (hadmits.1 hadmit), rfl⟩⟩
      · -- nothing of the base is left but its volume, so the comparison decides alone
        rw [combine_singleton hb hcanon hparse hclimb, Lexical.join_of_rooted hcanon.isFull hroot,
          ← Lexical.strictlyWithin_iff]
        exact ⟨fun h => if_pos h, fun h => ⟨_, if_neg h, rfl⟩⟩

/-- On a drive, a tail that spells the name of the base in another case leads below it; a tail of
dots and separators adds nothing; and a server without a share cannot be read. -/
theorem buildWithSubdirectories_outcome_rooted :
    buildWithSubdirectories .windows .missing "C:\\Data".toList "/DATA/x".toList
      = .ok ⟨"C:\\DATA\\x".toList, .windows⟩ ∧
    RefusedAs .traversalRejected
      (buildWithSubdirectories .windows .missing "C:\\Data".toList "./".toList) ∧
    RefusedAs .invalidPath
      (buildWithSubdirectories .windows .missing "C:\\Data".toList "//x".toList) := by
  have hbase : Text.isBlank "C:\\Data".toList = false := rfl
  have hfault : baseFault .windows "C:\\Data".toList = none := rfl
  have hb : resolveBase .windows .missing "C:\\Data".toList
      = .ok ⟨.drive 'C', ["Data".toList]⟩ := rfl
  have hsame : ¬ IsIncompleteShare .windows "/DATA/x".toList := by
    rintro ⟨-, ⟨a, b, rest, h, -, hb⟩, -⟩
    cases h
    cases hb
  have hdot : ¬ IsIncompleteShare .windows "./".toList := by
    rintro ⟨-, ⟨a, b, rest, h, ha, -⟩, -⟩
    cases h
    cases ha
  refine ⟨?_, ?_, ?_⟩
  · have htail : Text.isBlank "/DATA/x".toList = false := rfl
    obtain ⟨t, ht, -, hrooted⟩ :=
      (buildWithSubdirectories_outcome hbase htail hfault rfl hb rfl).2 hsame
    cases ht
    refine (hrooted (by decide)).1 ⟨.refl _, ["DATA".toList], ["x".toList], rfl, by decide, ?_⟩
    exact .cons (by rfl) .nil
  · have htail : Text.isBlank "./".toList = false := rfl
    obtain ⟨t, ht, hunrooted, -⟩ :=
      (buildWithSubdirectories_outcome hbase htail hfault rfl hb rfl).2 hdot
    cases ht
    exact (hunrooted rfl).2 (by decide)
  · refine (buildWithSubdirectories_outcome hbase rfl hfault rfl hb rfl).1 ⟨rfl, ?_, ?_⟩
    · exact ⟨'/', '/', ['x'], rfl, rfl, rfl⟩
    · rintro ⟨-, hlength⟩
      exact absurd hlength (by decide)

end Rampart.Path
