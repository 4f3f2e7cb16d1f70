import Mathlib
import Rampart.Proofs.Path.Canonical

/-!
# Confinement

Whether a combined path lies below its base is decided on roots and components, while callers use
the text.  Both the base and the combined path are canonical, so the text is read back as exactly
what was compared.

* `combine_eq_ok_iff` : what combining gives, as long as the working directory is absolute;
* `built_text_confined` : the text of every path that is built reads as a path below the base.
-/

namespace Rampart.Path

/-- A working directory that can be told is told from the root on. -/
def WorkingDirectory.IsAbsolute : WorkingDirectory → Prop
  | .at path => path.head? = some '/'
  | .missing | .illegible => True

namespace Lexical

/-! ## Canonical paths -/

/-- A well-formed path that is qualified and does not climb. -/
structure Canonical (s : Style) (p : Lexical) : Prop extends p.WellFormed s where
  qualified : p.isQualified s = true
  noClimb : ['.', '.'] ∉ p.components

/-- Normalizing makes a qualified path canonical. -/
theorem WellFormed.canonical_normalize {s : Style} {p : Lexical} (hp : p.WellFormed s)
    (hq : p.isQualified s = true) : p.normalize.Canonical s :=
  ⟨hp.normalize, hq, climb_not_mem_normalize p⟩

/-- A qualified path needs no working directory. -/
theorem absolutize_of_isQualified {s : Style} {cwd : WorkingDirectory} {p : Lexical}
    (hp : p.isQualified s = true) : p.absolutize s cwd = .ok p := by
  rw [absolutize, if_pos hp]

/-- Only on the machine's own style is the working directory read, and only if it is known. -/
theorem ofWorkingDirectory_eq_ok {s : Style} {cwd : WorkingDirectory} {w : Lexical}
    (h : ofWorkingDirectory s cwd = .ok w) :
    s = .posix ∧ ∃ path, cwd = .at path ∧ parse .posix path = .ok w := by
  cases s with
  | windows => cases h
  | posix =>
    cases cwd with
    | «at» path => exact ⟨rfl, path, rfl, h⟩
    | missing => cases h
    | illegible => cases h

/-- An anchored path is well formed. -/
theorem WellFormed.absolutize {s : Style} {cwd : WorkingDirectory} {p q : Lexical}
    (hp : p.WellFormed s) (h : p.absolutize s cwd = .ok q) : q.WellFormed s := by
  rw [Lexical.absolutize] at h
  split at h
  · cases h
    exact hp
  · rw [map_eq_ok_iff] at h
    obtain ⟨w, hw, rfl⟩ := h
    obtain ⟨rfl, path, -, hparse⟩ := ofWorkingDirectory_eq_ok hw
    exact (wellFormed_of_parse hparse).join hp

/-- A path that is anchored at an absolute working directory is qualified. -/
theorem isQualified_of_absolutize {s : Style} {cwd : WorkingDirectory} (hcwd : cwd.IsAbsolute)
    {p q : Lexical} (h : p.absolutize s cwd = .ok q) : q.isQualified s = true := by
  rw [absolutize] at h
  split at h
  · rename_i hq
    cases h
    exact hq
  · rw [map_eq_ok_iff] at h
    obtain ⟨w, hw, rfl⟩ := h
    obtain ⟨rfl, path, rfl, hparse⟩ := ofWorkingDirectory_eq_ok hw
    -- the working directory starts at the root, and so does what is joined to it
    have hw : w.isQualified .posix = true := by
      have hhead : path.head? = some '/' := hcwd
      rw [parse, hhead] at hparse
      cases hparse
      rfl
    exact isQualified_join hw p

end Lexical

/-! ## Combining -/

/-- A base that can be resolved is canonical. -/
theorem canonical_of_resolveBase {s : Style} {cwd : WorkingDirectory} (hcwd : cwd.IsAbsolute)
    {base : Text} {b : Lexical} (h : resolveBase s cwd base = .ok b) : b.Canonical s := by
  rw [resolveBase, bind_eq_ok_iff] at h
  obtain ⟨p, hparse, h⟩ := h
  rw [bind_eq_ok_iff] at h
  obtain ⟨q, habs, h⟩ := h
  cases h
  have hq := (Lexical.wellFormed_of_parse hparse).absolutize habs
  exact hq.canonical_normalize (Lexical.isQualified_of_absolutize hcwd habs)

/-- Segments that are joined to a canonical base give a canonical path, once it is normalized. -/
theorem Lexical.Canonical.normalize_joinAll {s : Style} {b j : Lexical} {tail : List Text}
    (hb : b.Canonical s) (hj : joinAll s b tail = .ok j) : j.normalize.Canonical s :=
  (hb.toWellFormed.joinAll hj).canonical_normalize (Lexical.isQualified_joinAll hb.qualified hj)

/-- What combining gives: the segments joined to the resolved base and normalized, if that lies as
far below the base as is asked.  Joined to a qualified base, no segments need the working directory
again. -/
theorem combine_eq_ok_iff {s : Style} {cwd : WorkingDirectory} (hcwd : cwd.IsAbsolute)
    {base : Text} {tail : List Text} {k : Containment} {p : ValidatedPath} :
    combine s cwd base tail k = .ok p ↔
      ∃ b j, resolveBase s cwd base = .ok b ∧ joinAll s b tail = .ok j ∧
        j.normalize.isWithin s b = true ∧ k.admits b.depth j.normalize.depth = true ∧
        p = ⟨j.normalize.render s, s⟩ := by
  have hanchor : ∀ {b j}, resolveBase s cwd base = .ok b → joinAll s b tail = .ok j →
      j.absolutize s cwd = .ok j := fun hb hj =>
    Lexical.absolutize_of_isQualified
      (Lexical.isQualified_joinAll (canonical_of_resolveBase hcwd hb).qualified hj)
  rw [combine, bind_eq_ok_iff]
  constructor
  · rintro ⟨b, hb, h⟩
    rw [bind_eq_ok_iff] at h
    obtain ⟨j, hj, h⟩ := h
    rw [hanchor hb hj] at h
    simp only [bind, Except.bind] at h
    split at h
    · rename_i hin
      rw [Bool.and_eq_true] at hin
      cases h
      exact ⟨b, j, hb, hj, hin.1, hin.2, rfl⟩
    · cases h
  · rintro ⟨b, j, hb, hj, hin, hadm, rfl⟩
    refine ⟨b, hb, bind_eq_ok_iff.2 ⟨j, hj, ?_⟩⟩
    rw [hanchor hb hj]
    simp only [bind, Except.bind, hin, hadm, Bool.and_self, if_true]
    rfl

/-! ## Requests -/

/-- A bare file name that is built was combined as the only segment. -/
theorem combine_of_buildExact {s : Style} {cwd : WorkingDirectory} {base name : Text}
    {p : ValidatedPath} (h : buildExact s cwd base name = .ok p) :
    combine s cwd base [name] .exactParent = .ok p := by
  rw [buildExact, bind_eq_ok_iff] at h
  obtain ⟨_, -, h⟩ := h
  rw [bind_eq_ok_iff] at h
  obtain ⟨_, -, h⟩ := h
  exact h

/-- A tail that is built was combined as the only segment. -/
theorem combine_of_buildWithSubdirectories {s : Style} {cwd : WorkingDirectory} {base tail : Text}
    {p : ValidatedPath} (h : buildWithSubdirectories s cwd base tail = .ok p) :
    combine s cwd base [tail] .descendant = .ok p := by
  rw [buildWithSubdirectories, bind_eq_ok_iff] at h
  obtain ⟨_, -, h⟩ := h
  rw [bind_eq_ok_iff] at h
  obtain ⟨_, -, h⟩ := h
  exact h

/-- A list of segments that is built has a base, and the others were combined with it. -/
theorem combine_of_buildFromSegments {s : Style} {cwd : WorkingDirectory} {segments : List Text}
    {p : ValidatedPath} (h : buildFromSegments s cwd segments = .ok p) :
    ∃ base tail, segments = base :: tail ∧ combine s cwd base tail .descendant = .ok p := by
  match segments, h with
  | [], h => cases h
  | [_], h => cases h
  | base :: first :: more, h =>
    rw [buildFromSegments, bind_eq_ok_iff] at h
    obtain ⟨_, -, h⟩ := h
    rw [bind_eq_ok_iff] at h
    obtain ⟨_, -, h⟩ := h
    exact ⟨base, first :: more, rfl, h⟩

/-! ## Text below the base -/

/-- A root from which a path of style `s` is found without any help. -/
def Root.IsFull : Style → Root → Prop
  | .posix, r => r = .separator
  | .windows, r => (∃ letter, r = .drive letter) ∨ ∃ server volume, r = .share server volume

namespace Lexical

/-- A canonical path has a full root. -/
theorem Canonical.isFull {s : Style} {p : Lexical} (hp : p.Canonical s) : p.root.IsFull s := by
  obtain ⟨⟨hroot, -⟩, hq, -⟩ := hp
  obtain ⟨root, cs⟩ := p
  cases s with
  | posix =>
    cases root with
    | relative => cases hq
    | separator => rfl
    | drive letter => cases hroot.1
    | share server volume => cases hroot.1
  | windows =>
    cases root with
    | relative => cases hq
    | separator => cases hq
    | drive letter => exact Or.inl ⟨letter, rfl⟩
    | share server volume => exact Or.inr ⟨server, volume, rfl⟩

/-- Names are compared letter by letter, so the names of the base are a prefix. -/
theorem startsWith_posix_iff {cs base : List Text} :
    startsWith .posix cs base = true ↔ base <+: cs := by
  induction base generalizing cs with
  | nil =>
    cases cs <;> simp [startsWith]
  | cons b base ih =>
    cases cs with
    | nil => simp [startsWith]
    | cons c cs =>
      rw [startsWith, Bool.and_eq_true, ih, List.cons_prefix_cons, Style.sameName, beq_iff_eq,
        eq_comm (a := c)]

/-- Two non-empty lists of names are written with a separator between them. -/
theorem intercalate_append {x : Char} {cs ds : List Text} (hcs : cs ≠ []) (hds : ds ≠ []) :
    [x].intercalate (cs ++ ds) = [x].intercalate cs ++ x :: [x].intercalate ds := by
  obtain ⟨c, cs, rfl⟩ := List.exists_cons_of_ne_nil hcs
  obtain ⟨d, ds, rfl⟩ := List.exists_cons_of_ne_nil hds
  rw [List.cons_append, intercalate_eq_append_flatMap, intercalate_eq_append_flatMap,
    intercalate_eq_append_flatMap]
  simp

/-- Below a base of the posix style, the text is that of the base, a separator and a rest. -/
theorem Canonical.render_below {b q : Lexical} (hb : b.Canonical .posix) (hq : q.Canonical .posix)
    (hin : q.isWithin .posix b = true) (hdepth : b.depth < q.depth) :
    ∃ rest, rest ≠ [] ∧
      q.render .posix = (if b.depth = 0 then [] else b.render .posix) ++ '/' :: rest := by
  obtain ⟨broot, bs⟩ := b
  obtain ⟨qroot, qs⟩ := q
  obtain rfl : broot = .separator := hb.isFull
  obtain rfl : qroot = .separator := hq.isFull
  rw [isWithin, Bool.and_eq_true, startsWith_posix_iff] at hin
  obtain ⟨-, rest, rfl⟩ := hin
  have hrest : rest ≠ [] := by
    rintro rfl
    simp [depth] at hdepth
  refine ⟨['/'].intercalate rest, ?_, ?_⟩
  · -- the first name of the rest is a component, so it has characters
    obtain ⟨c, cs, rfl⟩ := List.exists_cons_of_ne_nil hrest
    have hc : IsComponent .posix c := hq.components c (by simp)
    rw [intercalate_eq_append_flatMap]
    exact List.append_ne_nil_of_left_ne_nil hc.1 _
  · cases bs with
    | nil => rfl
    | cons d ds =>
      show '/' :: ['/'].intercalate (d :: ds ++ rest) = _
      rw [intercalate_append (List.cons_ne_nil d ds) hrest]
      rfl

end Lexical

/-- What is promised of a path `p` that was built below the base `b`: its text reads as a path `q`
with a full root and no `..`, deeper than the base and within it.  In the posix style it starts with
the text of the base and a separator, so that no name is taken for another that it starts with. -/
structure Confined (s : Style) (b q : Lexical) (p : ValidatedPath) : Prop where
  reads : Lexical.parse s p.text = .ok q
  full : q.root.IsFull s
  noClimb : ['.', '.'] ∉ q.components
  within : q.isWithin s b = true
  deeper : b.depth < q.depth
  text : s = .posix → ∃ rest, rest ≠ [] ∧
    p.text = (if b.depth = 0 then [] else b.render s) ++ '/' :: rest

/-- An admitted depth is greater than that of the base. -/
theorem Containment.lt_of_admits {k : Containment} {base depth : Nat}
    (h : k.admits base depth = true) : base < depth := by
  cases k with
  | exactParent =>
    have hd : depth = base + 1 := beq_iff_eq.1 h
    omega
  | descendant => exact of_decide_eq_true h

/-- A combined path is confined to its base, at a depth that was asked for. -/
theorem confined_of_combine {s : Style} {cwd : WorkingDirectory} (hcwd : cwd.IsAbsolute)
    {base : Text} {tail : List Text} {k : Containment} {p : ValidatedPath}
    (h : combine s cwd base tail k = .ok p) :
    ∃ b q, resolveBase s cwd base = .ok b ∧ Confined s b q p ∧
      k.admits b.depth q.depth = true := by
  obtain ⟨b, j, hb, hj, hin, hadm, rfl⟩ := (combine_eq_ok_iff hcwd).1 h
  have hcanon := canonical_of_resolveBase hcwd hb
  have hq : j.normalize.Canonical s := hcanon.normalize_joinAll hj
  have hdepth := Containment.lt_of_admits hadm
  refine ⟨b, j.normalize, hb, ⟨?_, hq.isFull, hq.noClimb, hin, hdepth, ?_⟩, hadm⟩
  · exact Lexical.parse_render hq.toWellFormed hq.qualified
  · rintro rfl
    exact hcanon.render_below hq hin hdepth

/-- The text of every path that is built reads as a path below its base: directly below for a bare
file name, and at any depth for a tail or a list of segments. -/
theorem built_text_confined (s : Style) (cwd : WorkingDirectory) (hcwd : cwd.IsAbsolute)
    (p : ValidatedPath) :
    (∀ base name, buildExact s cwd base name = .ok p →
      ∃ b q, resolveBase s cwd base = .ok b ∧ Confined s b q p ∧ q.depth = b.depth + 1) ∧
    (∀ base tail, buildWithSubdirectories s cwd base tail = .ok p →
      ∃ b q, resolveBase s cwd base = .ok b ∧ Confined s b q p) ∧
    (∀ segments, buildFromSegments s cwd segments = .ok p →
      ∃ base tail b q, segments = base :: tail ∧ resolveBase s cwd base = .ok b ∧
        Confined s b q p) := by
  refine ⟨fun base name h => ?_, fun base tail h => ?_, fun segments h => ?_⟩
  · obtain ⟨b, q, hb, hconf, hadm⟩ := confined_of_combine hcwd (combine_of_buildExact h)
    exact ⟨b, q, hb, hconf, beq_iff_eq.1 hadm⟩
  · obtain ⟨b, q, hb, hconf, -⟩ := confined_of_combine hcwd (combine_of_buildWithSubdirectories h)
    exact ⟨b, q, hb, hconf⟩
  · obtain ⟨base, tail, hseg, h⟩ := combine_of_buildFromSegments h
    obtain ⟨b, q, hb, hconf, -⟩ := confined_of_combine hcwd h
    exact ⟨base, tail, b, q, hseg, hb, hconf⟩

/-- A relative base is anchored at the working directory; on a share, a directory rooted by a
separator alone stays on the share, and its names count as those of the base up to case. -/
theorem built_text_confined_relative_and_share :
    ((WorkingDirectory.at ['/', 'w']).IsAbsolute ∧
      ∃ b q, resolveBase .posix (.at ['/', 'w']) ['d', '/', '.'] = .ok b ∧
        Confined .posix b q ⟨['/', 'w', '/', 'd', '/', 'x'], .posix⟩ ∧ q.depth = b.depth + 1) ∧
    (WorkingDirectory.missing.IsAbsolute ∧
      ∃ base tail b q,
        [['\\', '\\', 'S', '/', 'v', '/', 'a'], ['/', 'A', '/', 'b'], ['c']] = base :: tail ∧
        resolveBase .windows .missing base = .ok b ∧
        Confined .windows b q
          ⟨['\\', '\\', 'S', '\\', 'v', '\\', 'A', '\\', 'b', '\\', 'c'], .windows⟩) :=
  ⟨⟨rfl, (built_text_confined .posix (.at ['/', 'w']) rfl _).1 _ ['x'] (by rfl)⟩,
    ⟨trivial, (built_text_confined .windows .missing trivial _).2.2 _ (by rfl)⟩⟩

end Rampart.Path
