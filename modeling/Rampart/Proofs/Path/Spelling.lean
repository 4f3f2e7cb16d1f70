import Mathlib
import Rampart.Proofs.Path.Chaining
import Rampart.Proofs.Path.Checks

/-!
# The spelling of built paths

The checks look at the parts of a request, while callers get the text of the whole.  Every name in
that text stands in a part that was checked, or in the working directory, and between the names
there are only separators and the letter of a drive.  So the text has what the checks promise.

* `Lexical.names` : the names of a path, those of its root included;
* `Lexical.isUnreserved_of_parse` : the names in a sound text;
* `Lexical.render_eq_intercalate` : the text of a path as names with separators between them;
* `Request.exists_names` : the names in a path that is built;
* `built_text_well_spelled` : the characters of its text.
-/

namespace Rampart.Path

/-! ## Names -/

/-- The names in a root: the server and the share of a network path. -/
def Root.names : Root → List Text
  | .share server volume => [server, volume]
  | .relative | .separator | .drive _ => []

/-- The names in a path, those of its root included. -/
def Lexical.names (p : Lexical) : List Text := p.root.names ++ p.components

namespace Lexical

/-- The names of a joined path are those of its parts. -/
theorem mem_names_join {p tail : Lexical} {c : Text} (h : c ∈ (p.join tail).names) :
    c ∈ p.names ∨ c ∈ tail.names := by
  -- a tail rooted by a separator leaves nothing of the path but its volume
  have hvolume : c ∈ p.root.names ++ tail.components → c ∈ p.names ∨ c ∈ tail.names := by
    intro hc
    rcases List.mem_append.1 hc with hc | hc
    · exact Or.inl (List.mem_append_left _ hc)
    · exact Or.inr (List.mem_append_right _ hc)
  unfold join at h
  split at h
  · rw [names, ← List.append_assoc] at h
    rcases List.mem_append.1 h with h | h
    · exact Or.inl h
    · exact Or.inr (List.mem_append_right _ h)
  · exact hvolume h
  · exact hvolume h
  · exact Or.inr h

/-- Normalizing takes names away and adds none. -/
theorem mem_names_normalize {p : Lexical} {c : Text} (h : c ∈ p.normalize.names) : c ∈ p.names := by
  rcases List.mem_append.1 h with h | h
  · exact List.mem_append_left _ h
  · rcases mem_foldl_step h with h | ⟨h, -⟩
    · cases h
    · exact List.mem_append_right _ h

/-- What holds of the names of a path and of those in the segments holds of the names of the path
that the segments are joined to. -/
theorem forall_names_joinAll {P : Text → Prop} {s : Style} {p q : Lexical} {tail : List Text}
    (hp : ∀ c ∈ p.names, P c)
    (htail : ∀ v ∈ tail, ∀ t, parse s v = .ok t → ∀ c ∈ t.names, P c)
    (h : joinAll s p tail = .ok q) : ∀ c ∈ q.names, P c := by
  refine joinAll_invariant (P := fun p => ∀ c ∈ p.names, P c) ?_ hp h
  intro v hv p t hp ht c hc
  rcases mem_names_join hc with hc | hc
  · exact hp c hc
  · exact htail v hv t ht c hc

/-- What holds of the names in a base, and of those of the working directory if it is needed, holds
of the names of the resolved base. -/
theorem forall_names_resolveBase {P : Text → Prop} {s : Style} {cwd : WorkingDirectory}
    {base : Text} {b : Lexical} (hbase : ∀ q, parse s base = .ok q → ∀ c ∈ q.names, P c)
    (hcwd : ∀ q w, parse s base = .ok q → q.isQualified s = false →
      ofWorkingDirectory s cwd = .ok w → ∀ c ∈ w.names, P c)
    (h : resolveBase s cwd base = .ok b) : ∀ c ∈ b.names, P c := by
  rw [resolveBase, bind_eq_ok_iff] at h
  obtain ⟨q, hq, h⟩ := h
  rw [bind_eq_ok_iff] at h
  obtain ⟨a, ha, h⟩ := h
  cases h
  intro c hc
  have hc := mem_names_normalize hc
  rw [absolutize] at ha
  split at ha
  · cases ha
    exact hbase q hq c hc
  · rename_i hqualified
    rw [map_eq_ok_iff] at ha
    obtain ⟨w, hw, rfl⟩ := ha
    rcases mem_names_join hc with hc | hc
    · exact hcwd q w hq (Bool.not_eq_true _ ▸ hqualified) hw c hc
    · exact hbase q hq c hc

/-- The names of a well-formed path are components. -/
theorem WellFormed.isComponent_of_mem_names {s : Style} {p : Lexical} (hp : p.WellFormed s)
    {c : Text} (hc : c ∈ p.names) : IsComponent s c := by
  obtain ⟨root, cs⟩ := p
  rcases List.mem_append.1 hc with hc | hc
  · cases root with
    | share server volume =>
      obtain ⟨-, hserver, hvolume⟩ := hp.root
      rcases List.mem_cons.1 hc with rfl | hc
      · exact hserver
      · cases List.mem_singleton.1 hc
        exact hvolume
    | _ => cases hc
  · exact hp.components c hc

/-- Every name of a path stands in the text that it was read from. -/
theorem isInfix_of_mem_names {s : Style} {v : Text} {p : Lexical} (h : parse s v = .ok p)
    {c : Text} (hc : c ∈ p.names) : c <:+: v := by
  rcases List.mem_append.1 hc with hroot | hc
  · cases s with
    | posix =>
      cases h
      split at hroot <;> cases hroot
    | windows =>
      have hreads := readsAs v
      rw [h] at hreads
      cases hreads with
      | share hdouble hsplit =>
        refine isInfix_of_mem_split (s := .windows) ?_
        rw [hsplit]
        exact hc
      | drive => cases hroot
      | separator => cases hroot
      | relative => cases hroot
  · exact isInfix_of_mem_components h hc

end Lexical

/-! ## Sound names -/

/-- Every character of the name may stand in a file name. -/
def IsUnreserved (s : Style) (c : Text) : Prop :=
  ∀ x ∈ c, s.reserved.reserves s.reserved.fileName x = false

/-- A component with no character that is reserved in paths and no sign of a volume. -/
theorem IsComponent.isUnreserved {s : Style} {c : Text} (hc : IsComponent s c)
    (hpath : ∀ x ∈ c, s.reserved.reserves s.reserved.path x = false)
    (hvolume : ∀ x ∈ s.volumeSeparator, x ∉ c) : IsUnreserved s c := by
  intro x hx
  have hsign : (some x == s.volumeSeparator) = false := by
    rw [beq_eq_false_iff_ne]
    intro h
    exact hvolume x h.symm hx
  rw [reserves_fileName, hpath x hx, changesDirectory, hc.2.2 x hx, hsign]
  rfl

/-- A text that starts with two separators has no drive. -/
theorem StartsDouble.not_hasDrive {v : Text} (h : StartsDouble v) : ¬ HasDrive v := by
  obtain ⟨a, b, rest, rfl, -, hb⟩ := h
  rintro ⟨letter, rest', heq, -⟩
  cases heq
  cases hb

namespace Lexical

/-- In a text where the sign of a volume does not stray, it stands behind the letter of a drive
only, and so in no name. -/
theorem volume_not_mem_names {s : Style} {v : Text} {p : Lexical}
    (hv : ∀ x ∈ s.volumeSeparator, isStray x v = false) (h : parse s v = .ok p) {c : Text}
    (hc : c ∈ p.names) : ∀ x ∈ s.volumeSeparator, x ∉ c := by
  cases s with
  | posix =>
    intro x hx
    cases hx
  | windows =>
    intro x hx hmem
    cases hx
    have hstands := isInfix_of_mem_names h hc
    have hstray : isStray ':' v = false := hv ':' rfl
    have hnone : ¬ HasDrive v → False := by
      intro hdrive
      rw [isStray_of_not_hasDrive hdrive, ← Bool.not_eq_true, List.contains_iff_mem] at hstray
      exact hstray (hstands.subset hmem)
    have hreads := readsAs v
    rw [h] at hreads
    cases hreads with
    | share hdouble => exact hnone hdouble.not_hasDrive
    | separator hdouble hdrive => exact hnone hdrive
    | relative hdouble hdrive => exact hnone hdrive
    | @drive letter rest hv' halpha =>
      -- behind the drive there is no further sign
      subst hv'
      have hrest : ':' ∉ rest := by
        have hcolon : (':' == ':' && letter.isAlpha) = true := by
          rw [halpha]
          rfl
        rw [isStray, if_pos hcolon, ← Bool.not_eq_true, List.contains_iff_mem] at hstray
        exact hstray
      exact hrest ((isInfix_of_mem_split hc).subset hmem)

/-- The names in a sound text can stand in file names and have no `..`. -/
theorem isUnreserved_of_parse {s : Style} {v : Text} {p : Lexical} (hv : IsSound s v)
    (h : parse s v = .ok p) {c : Text} (hc : c ∈ p.names) :
    IsUnreserved s c ∧ ¬ ['.', '.'] <:+: c := by
  have hstands := isInfix_of_mem_names h hc
  refine ⟨?_, fun hclimb => hv.noClimb (hclimb.trans hstands)⟩
  refine ((wellFormed_of_parse h).isComponent_of_mem_names hc).isUnreserved ?_
    (volume_not_mem_names hv.noStray h hc)
  intro x hx
  exact hv.unreserved x (hstands.subset hx)

end Lexical

/-- No character of the working directory, as far as it can be told, is the null character. -/
def WorkingDirectory.LacksNull : WorkingDirectory → Prop
  | .at path => Char.ofNat 0 ∉ path
  | .missing | .illegible => True

/-- The names of a working directory without the null character can stand in file names. -/
theorem Lexical.isUnreserved_of_ofWorkingDirectory {s : Style} {cwd : WorkingDirectory}
    (hnull : cwd.LacksNull) {w : Lexical} (h : ofWorkingDirectory s cwd = .ok w) {c : Text}
    (hc : c ∈ w.names) : IsUnreserved s c := by
  obtain ⟨rfl, path, rfl, hparse⟩ := ofWorkingDirectory_eq_ok h
  refine ((wellFormed_of_parse hparse).isComponent_of_mem_names hc).isUnreserved ?_ nofun
  intro x hx
  have hpath : x ∈ path := (isInfix_of_mem_names hparse hc).subset hx
  have hne : x ≠ Char.ofNat 0 := by
    rintro rfl
    exact hnull hpath
  show (([Char.ofNat 0].contains x) || (false && x.toNat < 0x20)) = false
  simpa using hne

/-! ## The names in a path that is built -/

/-- A request that breaks no rule is made of sound texts, each of them with at most one `%`. -/
theorem Request.forall_of_fault {s : Style} {base : Text} {r : Request}
    (h : r.fault s base = none) : ∀ v ∈ base :: r.tail, IsSound s v ∧ v.count '%' ≤ 1 := by
  cases r with
  | bare name =>
    simp only [Request.fault, Option.orElse_eq_none] at h
    obtain ⟨-, -, hbase, hname⟩ := h
    obtain ⟨hsound, -, hpercent⟩ := fileNameFault_eq_none_iff.1 hname
    exact List.forall_mem_cons.2 ⟨baseFault_eq_none_iff.1 hbase,
      List.forall_mem_singleton.2 ⟨hsound, hpercent⟩⟩
  | below tail =>
    simp only [Request.fault, Option.orElse_eq_none] at h
    obtain ⟨-, -, hbase, htail⟩ := h
    exact List.forall_mem_cons.2 ⟨baseFault_eq_none_iff.1 hbase,
      List.forall_mem_singleton.2 (relativeFault_eq_none_iff.1 htail)⟩
  | segments names =>
    rw [Request.fault] at h
    split at h
    · cases h
    · rename_i hne
      simp only [Option.orElse_eq_none, List.findSome?_eq_none_iff] at h
      obtain ⟨-, hbase, hdirs, hname⟩ := h
      refine List.forall_mem_cons.2 ⟨baseFault_eq_none_iff.1 hbase, fun v hv => ?_⟩
      have hv : v ∈ names.dropLast ++ [names.getLast hne] := by
        rw [List.dropLast_append_getLast]
        exact hv
      rcases List.mem_append.1 hv with hv | hv
      · exact relativeFault_eq_none_iff.1 (hdirs v hv)
      · obtain ⟨hsound, -, hpercent⟩ := fileNameFault_eq_none_iff.1 hname
        rw [List.mem_singleton.1 hv]
        exact ⟨hsound, hpercent⟩

/-- The path that is built is the text of a canonical path below its base, all of whose names can
stand in file names.  They have no `..` either, unless the working directory brings it in. -/
theorem Request.exists_names {s : Style} {cwd : WorkingDirectory} (hcwd : cwd.IsAbsolute)
    (hnull : cwd.LacksNull) {base : Text} {r : Request} {p : ValidatedPath}
    (h : r.build s cwd base = .ok p) :
    ∃ q : Lexical, q.Canonical s ∧ 0 < q.depth ∧ p = ⟨q.render s, s⟩ ∧
      (∀ c ∈ q.names, IsUnreserved s c) ∧
      ((s = .posix → base.head? = some '/') → ∀ c ∈ q.names, ¬ ['.', '.'] <:+: c) := by
  rw [Request.build_eq, refuse_bind_eq_ok_iff] at h
  obtain ⟨hfault, hcombine⟩ := h
  obtain ⟨hbase, htail⟩ := List.forall_mem_cons.1 (Request.forall_of_fault hfault)
  obtain ⟨b, j, hb, hj, -, hadm, rfl⟩ := (combine_eq_ok_iff hcwd).1 hcombine
  have hcanon : b.Canonical s := canonical_of_resolveBase hcwd hb
  have hdepth : 0 < j.normalize.depth := by
    have hlt := Containment.lt_of_admits hadm
    omega
  refine ⟨j.normalize, hcanon.normalize_joinAll hj, hdepth, rfl, fun c hc => ?_,
    fun hrooted c hc => ?_⟩
  · have hnames : ∀ c ∈ b.names, IsUnreserved s c := by
      refine Lexical.forall_names_resolveBase
        (fun q hq c hc => (Lexical.isUnreserved_of_parse hbase.1 hq hc).1) ?_ hb
      intro q w _ _ hw c hc
      exact Lexical.isUnreserved_of_ofWorkingDirectory hnull hw hc
    exact Lexical.forall_names_joinAll hnames
      (fun v hv t ht c hc => (Lexical.isUnreserved_of_parse (htail v hv).1 ht hc).1) hj c
      (Lexical.mem_names_normalize hc)
  · have hnames : ∀ c ∈ b.names, ¬ ['.', '.'] <:+: c := by
      refine Lexical.forall_names_resolveBase
        (fun q hq c hc => (Lexical.isUnreserved_of_parse hbase.1 hq hc).2) ?_ hb
      -- the working directory is not read, as a base that starts at the root is qualified
      intro q w hq hqualified hw
      obtain ⟨rfl, -⟩ := Lexical.ofWorkingDirectory_eq_ok hw
      rw [Lexical.parse, hrooted rfl] at hq
      cases hq
      cases hqualified
    exact Lexical.forall_names_joinAll hnames
      (fun v hv t ht c hc => (Lexical.isUnreserved_of_parse (htail v hv).1 ht hc).2) hj c
      (Lexical.mem_names_normalize hc)

/-! ## The text of a path -/

/-- What stands before the components in the text of a path, cut at the separators. -/
def Root.pieces : Root → List Text
  | .relative => []
  | .separator => [[]]
  | .drive letter => [[letter, ':']]
  | .share server volume => [[], [], server, volume]

namespace Lexical

/-- The text of a path with components is that of its pieces, with separators between them. -/
theorem render_eq_intercalate {s : Style} {p : Lexical} (h : p.components ≠ []) :
    p.render s = [s.separator].intercalate (p.root.pieces ++ p.components) := by
  obtain ⟨root, cs⟩ := p
  obtain ⟨c, cs, rfl⟩ := List.exists_cons_of_ne_nil h
  cases root with
  | relative => rfl
  | separator => rfl
  | drive letter => rfl
  | share server volume =>
    rw [render_share]
    rfl

/-- The pieces of the text of a path are empty, the letter of a drive, or names. -/
theorem mem_pieces {p : Lexical} {v : Text} (h : v ∈ p.root.pieces ++ p.components) :
    v = [] ∨ (∃ letter, p.root = .drive letter ∧ v = [letter, ':']) ∨ v ∈ p.names := by
  obtain ⟨root, cs⟩ := p
  rcases List.mem_append.1 h with h | h
  · cases root with
    | relative => cases h
    | separator => exact Or.inl (List.mem_singleton.1 h)
    | drive letter => exact Or.inr (Or.inl ⟨letter, rfl, List.mem_singleton.1 h⟩)
    | share server volume =>
      rcases List.mem_cons.1 h with h | h
      · exact Or.inl h
      rcases List.mem_cons.1 h with h | h
      · exact Or.inl h
      · exact Or.inr (Or.inr (List.mem_append_left _ h))
  · exact Or.inr (Or.inr (List.mem_append_right _ h))

/-- The letter of the drive of a canonical path is a capital. -/
theorem Canonical.isUpper_drive {s : Style} {q : Lexical} (hq : q.Canonical s) {letter : Char}
    (h : q.root = .drive letter) : s = .windows ∧ letter.isUpper = true := by
  have hroot := hq.root
  rw [h] at hroot
  obtain ⟨hs, halpha, hupper⟩ := hroot
  have hcapital := Char.isUpper_toUpper_eq_isAlpha (c := letter)
  rw [hupper, halpha] at hcapital
  exact ⟨hs, hcapital⟩

/-- What has no separator in it stands in the text of a path only if it stands in the drive or in a
name. -/
theorem isInfix_of_isInfix_render {s : Style} {q : Lexical} (hdepth : 0 < q.depth) {needle : Text}
    (hne : needle ≠ []) (hx : s.separator ∉ needle) (h : needle <:+: q.render s) :
    (∃ letter, q.root = .drive letter ∧ needle <:+: [letter, ':']) ∨
      ∃ c ∈ q.names, needle <:+: c := by
  rw [render_eq_intercalate (List.length_pos_iff.1 hdepth), isInfix_intercalate_iff hne hx] at h
  obtain ⟨v, hv, h⟩ := h
  rcases mem_pieces hv with rfl | ⟨letter, hroot, rfl⟩ | hv
  · exact absurd (List.infix_nil.1 h) hne
  · exact Or.inl ⟨letter, hroot, h⟩
  · exact Or.inr ⟨v, hv, h⟩

/-- A character in the text of a canonical path is a separator, the capital letter of a drive or the
colon behind it, or it stands in a name. -/
theorem Canonical.mem_render {s : Style} {q : Lexical} (hq : q.Canonical s) (hdepth : 0 < q.depth)
    {x : Char} (h : x ∈ q.render s) :
    x = s.separator ∨ (s = .windows ∧ (x.isUpper = true ∨ x = ':')) ∨ ∃ c ∈ q.names, x ∈ c := by
  by_cases hx : x = s.separator
  · exact Or.inl hx
  · right
    have hsep : s.separator ∉ [x] := by
      rw [List.mem_singleton]
      exact Ne.symm hx
    rcases isInfix_of_isInfix_render hdepth (List.cons_ne_nil x []) hsep
      ((List.singleton_infix_iff _ _).2 h) with ⟨letter, hroot, hx⟩ | ⟨c, hc, hx⟩
    · obtain ⟨hs, hupper⟩ := hq.isUpper_drive hroot
      left
      rcases List.mem_cons.1 ((List.singleton_infix_iff _ _).1 hx) with rfl | hx
      · exact ⟨hs, Or.inl hupper⟩
      · exact ⟨hs, Or.inr (List.mem_singleton.1 hx)⟩
    · exact Or.inr ⟨c, hc, (List.singleton_infix_iff _ _).1 hx⟩

/-- The text of a path has no `..` if no name has. -/
theorem not_isInfix_render {s : Style} {q : Lexical} (hdepth : 0 < q.depth)
    (h : ∀ c ∈ q.names, ¬ ['.', '.'] <:+: c) : ¬ ['.', '.'] <:+: q.render s := by
  intro hclimb
  have hsep : s.separator ∉ ['.', '.'] := by
    cases s <;> decide
  rcases isInfix_of_isInfix_render hdepth (List.cons_ne_nil _ _) hsep hclimb with
    ⟨letter, -, hdrive⟩ | ⟨c, hc, hname⟩
  · have heq := hdrive.eq_of_length rfl
    cases heq
  · exact h c hc hname

/-- No capital letter is reserved. -/
theorem reserves_of_isUpper {c : Char} (h : c.isUpper = true) :
    Style.windows.reserved.reserves Style.windows.reserved.path c = false := by
  have hlisted : Style.windows.reserved.path.contains c = false := by
    rw [← Bool.not_eq_true, List.contains_iff_mem]
    intro hmem
    have hall : Style.windows.reserved.path.all (fun d => !d.isUpper) = true := rfl
    have hc : (!c.isUpper) = true := List.all_eq_true.1 hall c hmem
    rw [h] at hc
    cases hc
  have hcontrol : ¬ c.toNat < 0x20 := by
    have hcapital : 'A'.toNat ≤ c.toNat := by
      rw [Char.isUpper, decide_eq_true_iff] at h
      exact UInt32.le_iff_toNat_le.1 h.1
    have hA : 'A'.toNat = 65 := rfl
    omega
  rw [ReservedTable.reserves, hlisted, decide_eq_false hcontrol, Bool.and_false, Bool.or_false]

/-- The text of a canonical path has no character that is reserved in paths, if no name has one that
is reserved in file names. -/
theorem Canonical.unreserved_render {s : Style} {q : Lexical} (hq : q.Canonical s)
    (hdepth : 0 < q.depth) (h : ∀ c ∈ q.names, IsUnreserved s c) :
    ∀ x ∈ q.render s, s.reserved.reserves s.reserved.path x = false := by
  intro x hx
  rcases hq.mem_render hdepth hx with rfl | ⟨rfl, hx | rfl⟩ | ⟨c, hc, hx⟩
  · cases s <;> rfl
  · exact reserves_of_isUpper hx
  · rfl
  · have hname := h c hc x hx
    rw [reserves_fileName, Bool.or_eq_false_iff] at hname
    exact hname.1

/-- The text of a canonical path of the windows style has separators of one kind only. -/
theorem Canonical.slash_not_mem_render {q : Lexical} (hq : q.Canonical .windows)
    (hdepth : 0 < q.depth) : '/' ∉ q.render .windows := by
  intro h
  rcases hq.mem_render hdepth h with h | ⟨-, h | h⟩ | ⟨c, hc, h⟩
  · cases h
  · cases h
  · cases h
  · have hslash := (hq.toWellFormed.isComponent_of_mem_names hc).2.2 '/' h
    cases hslash

/-- There is a separator in the text of a canonical path with components. -/
theorem Canonical.separator_mem_render {s : Style} {q : Lexical} (hq : q.Canonical s)
    {front : List Text} {name : Text} (h : q.components = front ++ [name]) :
    s.separator ∈ q.render s := by
  obtain ⟨root, cs⟩ := q
  obtain rfl : cs = front ++ [name] := h
  obtain ⟨before, hrender⟩ := exists_render_append_singleton (b := ⟨root, front⟩) hq.isFull name
  rw [hrender]
  exact List.mem_append_right _ List.mem_cons_self

/-- The only colon in the text of a canonical path of the windows style is that of a drive, if there
is none in a name. -/
theorem Canonical.colon_render {q : Lexical} (hq : q.Canonical .windows) (hdepth : 0 < q.depth)
    (h : ∀ c ∈ q.names, ':' ∉ c) :
    ':' ∉ q.render .windows ∨ ∃ letter rest, q.render .windows = letter :: ':' :: rest ∧
      letter.isUpper = true ∧ ':' ∉ rest := by
  obtain ⟨root, cs⟩ := q
  have hcs : cs ≠ [] := List.length_pos_iff.1 hdepth
  rcases hq.isFull with ⟨letter, rfl⟩ | ⟨server, volume, rfl⟩
  · right
    refine ⟨letter, '\\' :: ['\\'].intercalate cs, rfl, (hq.isUpper_drive rfl).2, ?_⟩
    rw [List.mem_cons, mem_intercalate_iff (by decide)]
    rintro (hcolon | ⟨c, hc, hcolon⟩)
    · cases hcolon
    · exact h c (List.mem_append_right _ hc) hcolon
  · left
    rw [render_eq_intercalate hcs]
    intro hcolon
    obtain ⟨v, hv, hcolon⟩ := (mem_intercalate_iff (by decide)).1 hcolon
    rcases mem_pieces hv with rfl | ⟨letter, hroot, -⟩ | hv
    · cases hcolon
    · cases hroot
    · exact h v hv hcolon

end Lexical

/-- A text with a separator is not blank. -/
theorem isBlank_of_separator_mem {s : Style} {v : Text} (h : s.separator ∈ v) :
    v.isBlank = false := by
  rw [← Bool.not_eq_true, Text.isBlank, List.all_eq_true]
  intro hall
  have hblank := hall s.separator h
  cases s <;> cases hblank

/-- A path without reserved characters is valid if there are none in its final component either. -/
theorem isValid_of_unreserved {s : Style} {path : Text} (hblank : path.isBlank = false)
    (hpath : s.reserved.findInPath path = none)
    (hlast : s.reserved.findInFileName (path.afterLast s.isSeparator) = none) :
    isValid s path = .ok true := by
  rw [isValid, blankFault, hblank]
  show Except.ok ((s.reserved.findInPath path).isNone
    && !(hasExtension (path.afterLast s.isSeparator)
      && (s.reserved.findInFileName (path.afterLast s.isSeparator)).isSome)) = .ok true
  rw [hpath, hlast, Option.isSome_none, Bool.and_false]
  rfl

/-! ## Spelling -/

/-- What is promised of the characters of a path `p` that was built: it is valid and has no reserved
character, and it is the text of a path whose components are neither empty nor `.` or `..`. -/
structure WellSpelled (s : Style) (p : ValidatedPath) : Prop where
  valid : isValid s p.text = .ok true
  unreserved : s.reserved.findInPath p.text = none
  components : ∃ q, Lexical.parse s p.text = .ok q ∧ q.render s = p.text ∧
    ∀ c ∈ q.components, c ≠ [] ∧ c ≠ ['.'] ∧ c ≠ ['.', '.'] ∧ ∀ x ∈ c, s.isSeparator x = false

/-- The text of a canonical path with names that can stand in file names is well spelled. -/
theorem Lexical.Canonical.wellSpelled {s : Style} {q : Lexical} (hq : q.Canonical s)
    (hdepth : 0 < q.depth) (h : ∀ c ∈ q.names, IsUnreserved s c) :
    WellSpelled s ⟨q.render s, s⟩ := by
  have hunreserved : s.reserved.findInPath (q.render s) = none :=
    find?_reserves_eq_none_iff.2 (hq.unreserved_render hdepth h)
  obtain ⟨front, name, hcs⟩ :=
    (List.eq_nil_or_concat' q.components).resolve_left (List.length_pos_iff.1 hdepth)
  refine ⟨isValid_of_unreserved ?_ hunreserved ?_, hunreserved, q, ?_, rfl, fun c hc => ?_⟩
  · exact isBlank_of_separator_mem (hq.separator_mem_render hcs)
  · have hlast : (q.render s).afterLast s.isSeparator = name := hq.fileName_render hcs
    rw [hlast]
    exact find?_reserves_eq_none_iff.2 (h name (by simp [Lexical.names, hcs]))
  · exact Lexical.parse_render hq.toWellFormed hq.qualified
  · obtain ⟨hne, hdot, hsep⟩ := hq.components c hc
    refine ⟨hne, hdot, ?_, hsep⟩
    rintro rfl
    exact hq.noClimb hc

/-- **The spelling of built paths.**  Whatever is asked for, what is built is well spelled.  In the
windows style it has no `/`, no colon other than that of a drive with a capital letter, and no `..`;
in the posix style it has no `..` if the base starts at the root. -/
theorem built_text_well_spelled {s : Style} {cwd : WorkingDirectory} {base : Text} {r : Request}
    {p : ValidatedPath} (hcwd : cwd.IsAbsolute) (hnull : cwd.LacksNull)
    (h : r.build s cwd base = .ok p) :
    WellSpelled s p ∧
    (s = .windows → '/' ∉ p.text ∧
      (':' ∉ p.text ∨ ∃ letter rest, p.text = letter :: ':' :: rest ∧ letter.isUpper = true ∧
        ':' ∉ rest) ∧
      ¬ ['.', '.'] <:+: p.text) ∧
    (s = .posix → base.head? = some '/' → ¬ ['.', '.'] <:+: p.text) := by
  obtain ⟨q, hq, hdepth, rfl, hnames, hclimb⟩ := Request.exists_names hcwd hnull h
  refine ⟨hq.wellSpelled hdepth hnames, ?_, ?_⟩
  · rintro rfl
    refine ⟨hq.slash_not_mem_render hdepth, hq.colon_render hdepth fun c hc hcolon => ?_, ?_⟩
    · have hreserved := hnames c hc ':' hcolon
      cases hreserved
    · exact Lexical.not_isInfix_render hdepth (hclimb nofun)
  · rintro rfl hrooted
    exact Lexical.not_isInfix_render hdepth (hclimb fun _ => hrooted)

/-- On a drive, a rooted segment in another case; below a rooted base, a tail with a colon; and
below a working directory with dots in its name, which are kept. -/
theorem built_text_well_spelled_cases :
    (WorkingDirectory.at "/w..".toList).IsAbsolute ∧
    (WorkingDirectory.at "/w..".toList).LacksNull ∧
    (WellSpelled .windows ⟨"C:\\A\\b\\x.".toList, .windows⟩ ∧
      '/' ∉ "C:\\A\\b\\x.".toList ∧ ¬ ['.', '.'] <:+: "C:\\A\\b\\x.".toList) ∧
    ¬ ['.', '.'] <:+: "/d/a:b/x.y".toList ∧
    WellSpelled .posix ⟨"/w../d/x.y".toList, .posix⟩ := by
  have hcwd : (WorkingDirectory.at "/w..".toList).IsAbsolute := rfl
  have hnull : (WorkingDirectory.at "/w..".toList).LacksNull := by
    show Char.ofNat 0 ∉ "/w..".toList
    decide
  refine ⟨hcwd, hnull, ?_, ?_, ?_⟩
  · have hbuilt : Request.build .windows (.at "/w..".toList) "c:a".toList
        (.segments ["/A/b".toList, "x.".toList])
          = .ok ⟨"C:\\A\\b\\x.".toList, .windows⟩ := rfl
    obtain ⟨hspelled, hwindows, -⟩ := built_text_well_spelled hcwd hnull hbuilt
    obtain ⟨hslash, -, hclimb⟩ := hwindows rfl
    exact ⟨hspelled, hslash, hclimb⟩
  · have hbuilt : Request.build .posix (.at "/w..".toList) "/d".toList (.below "a:b/x.y".toList)
        = .ok ⟨"/d/a:b/x.y".toList, .posix⟩ := rfl
    exact (built_text_well_spelled hcwd hnull hbuilt).2.2 rfl rfl
  · have hbuilt : Request.build .posix (.at "/w..".toList) "d/.".toList (.bare "x.y".toList)
        = .ok ⟨"/w../d/x.y".toList, .posix⟩ := rfl
    exact (built_text_well_spelled hcwd hnull hbuilt).1

end Rampart.Path
