import Mathlib
import Rampart.File.Access
import Rampart.File.Opening
import Rampart.Proofs.File.Frame
import Rampart.Proofs.Path.Confinement

/-!
# Guarded access stays below its base

The path that is built below a base leads the machine to a place strictly below the directory that
the base denotes.  So one call changes nothing outside that directory and reads nothing from there,
and by induction no sequence of calls does.

* `Disk.resolveBase_of_denotes` : the base is resolved to the place that walking to it ends at;
* `Call.keeps_outside` : what one call leaves alone;
* `calls_confined` : what any sequence of calls leaves alone, and where its reads come from.
-/

namespace Rampart.File

open Rampart.Path (Lexical ValidatedPath resolveBase)

/-! ## Places -/

namespace Disk

/-- Walking along a path from the root, or from the working directory if the path has no root, ends
at the given place.  Names are looked up one by one, and `..` leads back. -/
def Denotes (d : Disk) (path : Text) (place : List Text) : Prop :=
  walk d.root [] (if path.head? = some '/' then names path
    else names d.workingDirectory ++ names path) = .ok place

/-- Where a walk ends, names alone decide: without links, the tree has a say only in whether it ends
at all. -/
theorem eq_foldl_of_walk {root : Node} {here ns place : List Text}
    (h : walk root here ns = .ok place) :
    place = (ns.filter (· != ['.'])).foldl Lexical.step here := by
  induction ns generalizing here with
  | nil =>
    cases h
    rfl
  | cons name ns ih =>
    rw [walk, bind_eq_ok_iff] at h
    obtain ⟨found, -, h⟩ := h
    cases found with
    | file content => cases h
    | directory entries =>
      by_cases hdot : name = ['.']
      · subst hdot
        exact ih h
      · have hkeep : (name != ['.']) = true := bne_iff_ne.2 hdot
        rw [List.filter_cons, if_pos hkeep, List.foldl_cons, Lexical.step]
        simp only [hdot, if_false] at h
        split at h
        · rename_i hclimb
          rw [if_pos hclimb]
          exact ih h
        · rename_i hclimb
          rw [if_neg hclimb]
          exact ih h

/-- The names of a path that are walked along are its components. -/
theorem filter_names (path : Text) :
    (names path).filter (· != ['.']) = Lexical.split .posix path := by
  rw [names, List.filter_filter, Lexical.split]
  refine List.filter_congr fun part _ => ?_
  rw [Bool.and_comm]

/-- The base is resolved to the place that walking to it ends at. -/
theorem resolveBase_of_denotes {d : Disk} {base : Text} {place : List Text}
    (hcwd : d.workingDirectory.head? = some '/') (h : d.Denotes base place) :
    resolveBase .posix (.at d.workingDirectory) base = .ok ⟨.separator, place⟩ := by
  have hplace := eq_foldl_of_walk h
  by_cases hroot : base.head? = some '/'
  · rw [if_pos hroot, filter_names] at hplace
    simp only [resolveBase, Lexical.parse, hroot, hplace]
    rfl
  · rw [if_neg hroot, List.filter_append, filter_names, filter_names] at hplace
    have hrel : (base.head? == some '/') = false := beq_eq_false_iff_ne.2 hroot
    simp only [resolveBase, Lexical.parse, hrel, hplace, Lexical.absolutize,
      Lexical.ofWorkingDirectory, hcwd]
    rfl

end Disk

/-- A path that starts at the root is read by the machine as it is read here. -/
theorem machineNames_of_rooted {v : Text} (h : v.head? = some '/') :
    Path.machineNames v = (true, Lexical.split .posix v) := by
  have hrooted : (v.head? == some '/') = true := beq_iff_eq.2 h
  simp only [Path.machineNames, hrooted, List.filter_filter, Lexical.split]
  refine congrArg (Prod.mk true) (List.filter_congr fun part _ => ?_)
  rw [Bool.and_comm]

/-- A path that is confined to a base leads to a place strictly below it. -/
theorem strictlyBelow_of_confined {b q : Lexical} {p : ValidatedPath}
    (h : Path.Confined .posix b q p) (d : Disk) :
    StrictlyBelow b.components (d.place p.text) := by
  obtain ⟨hreads, hfull, -, hin, hdepth, -⟩ := h
  rw [Lexical.parse, Except.ok.injEq] at hreads
  subst hreads
  -- the text starts at the root, so the machine finds the components that were compared
  have hhead : p.text.head? = some '/' := by
    by_contra hne
    have hrel : (p.text.head? == some '/') = false := beq_eq_false_iff_ne.2 hne
    simp only [Path.Root.IsFull, hrel] at hfull
    cases hfull
  have hplace : d.place p.text = Lexical.split .posix p.text := by
    rw [Disk.place, machineNames_of_rooted hhead]
  rw [Lexical.isWithin, Bool.and_eq_true, Lexical.startsWith_posix_iff] at hin
  obtain ⟨-, rest, hrest⟩ := hin
  refine ⟨rest, ?_, hplace.trans hrest.symm⟩
  rintro rfl
  rw [Lexical.depth, Lexical.depth, ← hrest, List.append_nil] at hdepth
  exact Nat.lt_irrefl _ hdepth

/-! ## Single effects -/

/-- An effect at a place strictly below a directory changes nothing outside it. -/
theorem Disk.sameOutside_apply {d : Disk} {b : List Text} {e : Effect}
    (hdir : d.root.item? b = some .directory) (hbelow : StrictlyBelow b (d.place e.path)) :
    Node.SameOutside b d.root (d.apply e).1.root ∧
      (d.apply e).1.workingDirectory = d.workingDirectory := by
  obtain ⟨rest, hrest, hplace⟩ := hbelow
  unfold Disk.apply
  split
  · exact ⟨.refl b d.root, rfl⟩
  · cases e with
    | verify path => exact ⟨.refl b d.root, rfl⟩
    | read path => exact ⟨.refl b d.root, rfl⟩
    | write path content =>
      simp only
      split
      · rename_i root hwrite
        rw [show d.place path = b ++ rest from hplace] at hwrite
        exact ⟨Node.sameOutside_write hdir hrest hwrite, rfl⟩
      · exact ⟨.refl b d.root, rfl⟩
    | createDirectories path =>
      refine ⟨?_, rfl⟩
      show Node.SameOutside b d.root (d.root.createDirectories (d.place path)).1
      rw [show d.place path = b ++ rest from hplace]
      exact Node.sameOutside_createDirectories hdir hrest

/-- What reading brings back is the content of the file at the path. -/
theorem Disk.item?_of_apply_read {d : Disk} {path : Text} {content : Bytes}
    (h : (d.apply (.read path)).2 = .ok content) :
    d.root.item? (d.place path) = some (.file content) := by
  rw [Disk.apply] at h
  split at h
  · cases h
  · exact Node.item?_of_read h

/-! ## Single calls -/

/-- A call on some base: how files are accessed, what is to be done, and the name from outside. -/
structure Call where
  access : Access
  operation : Operation
  name : Text

/-- Carries out a call. -/
def Call.perform (c : Call) (base : Text) (d : Disk) : Outcome Answer :=
  c.access.perform c.operation base c.name d

/-- The base is resolved to the place `b`, and a directory stands there. -/
structure Anchored (base : Text) (b : List Text) (d : Disk) : Prop where
  absolute : d.workingDirectory.head? = some '/'
  resolves : resolveBase .posix (.at d.workingDirectory) base = .ok ⟨.separator, b⟩
  directory : d.root.item? b = some .directory

/-- Whatever path is built leads strictly below the base. -/
theorem Anchored.strictlyBelow_of_build {base name : Text} {b : List Text} {d : Disk} {a : Access}
    {bare : Bool} {p : ValidatedPath} (hd : Anchored base b d) (ha : a.style = .posix)
    (h : a.build bare d.workingDirectory base name = .ok p) :
    StrictlyBelow b (d.place p.text) := by
  have hcombine : ∃ tail k, Path.combine .posix (.at d.workingDirectory) base tail k = .ok p := by
    rw [Access.build, ha] at h
    split at h
    · exact ⟨_, _, Path.combine_of_buildWithSubdirectories h⟩
    · exact ⟨_, _, Path.combine_of_buildExact h⟩
  obtain ⟨tail, k, hcombine⟩ := hcombine
  have hcwd : (Path.WorkingDirectory.at d.workingDirectory).IsAbsolute := hd.absolute
  obtain ⟨b', q, hb', hconf, -⟩ := Path.confined_of_combine hcwd hcombine
  rw [hd.resolves, Except.ok.injEq] at hb'
  subst hb'
  exact strictlyBelow_of_confined hconf d

/-- A call is refused and leaves the disk as it is, or it has the effect of its action at the path
that was built. -/
theorem Call.perform_cases (c : Call) (base : Text) (d : Disk) :
    ((c.perform base d).disk = d ∧ ∃ f, (c.perform base d).result = .error f) ∨
    ∃ p, c.access.build c.operation.bare d.workingDirectory base c.name = .ok p ∧
      (c.perform base d).disk = (d.apply (c.operation.action.effect p.text)).1 ∧
      (c.perform base d).result =
        ((d.apply (c.operation.action.effect p.text)).2 >>= fun content =>
          c.operation.action.answer p content).mapError Failure.io := by
  rw [Call.perform, Access.perform, Access.resolve]
  cases hbuild : c.access.build c.operation.bare d.workingDirectory base c.name with
  | error r => exact Or.inl ⟨rfl, _, rfl⟩
  | ok p => exact Or.inr ⟨p, rfl, rfl, rfl⟩

/-- One call changes nothing that is not strictly below the base, and the base stays in place. -/
theorem Call.keeps_outside {c : Call} {base : Text} {b : List Text} {d : Disk}
    (hc : c.access.style = .posix) (hd : Anchored base b d) :
    Node.SameOutside b d.root (c.perform base d).disk.root ∧
      Anchored base b (c.perform base d).disk := by
  rcases c.perform_cases base d with ⟨hdisk, -⟩ | ⟨p, hbuild, hdisk, -⟩
  · rw [hdisk]
    exact ⟨.refl b d.root, hd⟩
  · have hbelow := hd.strictlyBelow_of_build hc hbuild
    have heffect : (c.operation.action.effect p.text).path = p.text := by
      cases c.operation.action <;> rfl
    rw [← heffect] at hbelow
    obtain ⟨hsame, hcwd⟩ := Disk.sameOutside_apply hd.directory hbelow
    rw [hdisk]
    refine ⟨hsame, ⟨?_, ?_, ?_⟩⟩
    · rw [hcwd]
      exact hd.absolute
    · rw [hcwd]
      exact hd.resolves
    · -- the base is not strictly below itself
      rw [hsame b, hd.directory]
      rintro ⟨rest, hrest, h⟩
      exact hrest (List.self_eq_append_right.1 h)

/-- What an answer says was in a file. -/
def Answer.Shows : Answer → Bytes → Prop
  | .bytes content, found => content = found
  | .text t, found => Text.ofUtf8? found = some t
  | .path _, _ => False

/-- Whether an answer gives back what was read. -/
def Answer.isContent : Answer → Bool
  | .bytes _ | .text _ => true
  | .path _ => false

/-- What one call reads comes from a file strictly below the base. -/
theorem Call.reads_below {c : Call} {base : Text} {b : List Text} {d : Disk} {answer : Answer}
    (hc : c.access.style = .posix) (hd : Anchored base b d)
    (h : (c.perform base d).result = .ok answer) (hcontent : answer.isContent = true) :
    ∃ place found, StrictlyBelow b place ∧ d.root.item? place = some (.file found) ∧
      answer.Shows found := by
  rcases c.perform_cases base d with ⟨-, f, hresult⟩ | ⟨p, hbuild, -, hresult⟩
  · rw [hresult] at h
    cases h
  · have hbelow := hd.strictlyBelow_of_build hc hbuild
    rw [hresult] at h
    cases hgot : (d.apply (c.operation.action.effect p.text)).2 with
    | error f =>
      rw [hgot] at h
      cases h
    | ok found =>
      rw [hgot] at h
      -- only the two reading actions give back content
      cases haction : c.operation.action with
      | read =>
        rw [haction] at h hgot
        cases h
        exact ⟨_, found, hbelow, Disk.item?_of_apply_read hgot, rfl⟩
      | readText =>
        rw [haction] at h hgot
        cases htext : Text.ofUtf8? found with
        | none =>
          simp [bind, Except.bind, Except.mapError, Action.answer, htext] at h
        | some t =>
          simp only [bind, Except.bind, Except.mapError, Action.answer, htext,
            Except.ok.injEq] at h
          subst h
          exact ⟨_, found, hbelow, Disk.item?_of_apply_read hgot, htext⟩
      | write content =>
        rw [haction] at h
        cases h
        cases hcontent
      | createDirectories =>
        rw [haction] at h
        cases h
        cases hcontent

/-! ## Sequences of calls -/

/-- The disk after calls on one base, made one after the other. -/
def runCalls (base : Text) : List Call → Disk → Disk
  | [], d => d
  | c :: rest, d => runCalls base rest (c.perform base d).disk

/-- Calls made one after the other change nothing that is not strictly below the base, and the base
stays in place. -/
theorem runCalls_keeps_outside {base : Text} {b : List Text} {calls : List Call} {d : Disk}
    (hcalls : ∀ c ∈ calls, c.access.style = .posix) (hd : Anchored base b d) :
    Node.SameOutside b d.root (runCalls base calls d).root ∧
      Anchored base b (runCalls base calls d) := by
  induction calls generalizing d with
  | nil => exact ⟨.refl b d.root, hd⟩
  | cons c rest ih =>
    obtain ⟨hsame, hd'⟩ := Call.keeps_outside (hcalls c List.mem_cons_self) hd
    obtain ⟨hrest, hend⟩ := ih (fun c' hc' => hcalls c' (List.mem_cons_of_mem _ hc')) hd'
    exact ⟨hsame.trans hrest, hend⟩

/-- **No call escapes the base.**  Let a base denote a directory.  After any sequence of calls on
it, whatever names they are given and whether they succeed or fail, everything that is not strictly
below that directory is as it was, and what a call in the sequence read was the content of a file
strictly below it. -/
theorem calls_confined (base : Text) (b : List Text) (calls : List Call) (d : Disk)
    (hcalls : ∀ c ∈ calls, c.access.style = .posix)
    (hcwd : d.workingDirectory.head? = some '/')
    (hbase : d.Denotes base b) (hdir : d.root.item? b = some .directory) :
    (∀ place, ¬ StrictlyBelow b place →
      (runCalls base calls d).root.item? place = d.root.item? place) ∧
    (∀ before c after answer, calls = before ++ c :: after →
      (c.perform base (runCalls base before d)).result = .ok answer →
      answer.isContent = true →
      ∃ place found, StrictlyBelow b place ∧
        (runCalls base before d).root.item? place = some (.file found) ∧ answer.Shows found) := by
  have hd : Anchored base b d := ⟨hcwd, Disk.resolveBase_of_denotes hcwd hbase, hdir⟩
  refine ⟨(runCalls_keeps_outside hcalls hd).1, ?_⟩
  rintro before c after answer rfl hresult hcontent
  have hbefore : ∀ c' ∈ before, c'.access.style = .posix :=
    fun c' hc' => hcalls c' (List.mem_append_left _ hc')
  exact Call.reads_below (hcalls c (by simp)) (runCalls_keeps_outside hbefore hd).2 hresult hcontent

/-- A climbing and a rooted name beside a plain one: the file next to the base stays as it was, and
what the last call reads is the content of a file below the base. -/
theorem calls_confined_climbing_and_rooted :
    let d : Disk :=
      ⟨.directory [(['d'], .directory [(['f'], .file [3])]), (['e'], .file [1])], ['/']⟩
    let a : Access := { style := .posix, allowsSubdirectories := true }
    let calls : List Call := [⟨a, ⟨.write [2], false⟩, ['.', '.', '/', 'e']⟩,
      ⟨a, ⟨.createDirectories, false⟩, ['/', 'd', '/', 'g']⟩]
    let c : Call := ⟨a, ⟨.read, false⟩, ['f']⟩
    d.Denotes ['d'] [['d']] ∧ d.root.item? [['d']] = some .directory ∧
    (runCalls ['d'] (calls ++ [c]) d).root.item? [['e']] = some (.file [1]) ∧
    (c.perform ['d'] (runCalls ['d'] calls d)).result = .ok (.bytes [3]) ∧
    ∃ place found, StrictlyBelow [['d']] place ∧
      (runCalls ['d'] calls d).root.item? place = some (.file found) ∧
      (Answer.bytes [3]).Shows found := by
  intro d a calls c
  have hcalls : ∀ c' ∈ calls ++ [c], c'.access.style = .posix := by
    simp [calls, c, a]
  have hout : ¬ StrictlyBelow [['d']] [['e']] := by
    rintro ⟨rest, -, h⟩
    simp at h
  have hrun : runCalls ['d'] calls d = ⟨.directory [(['d'], .directory [(['f'], .file [3]),
      (['g'], .directory [])]), (['e'], .file [1])], ['/']⟩ := by
    rfl
  have hans : (c.perform ['d'] (runCalls ['d'] calls d)).result = .ok (.bytes [3]) := by
    rw [hrun]
    rfl
  obtain ⟨houtside, hreads⟩ := calls_confined ['d'] [['d']] (calls ++ [c]) d hcalls rfl rfl rfl
  refine ⟨rfl, rfl, houtside [['e']] hout, hans, ?_⟩
  exact hreads calls c [] (.bytes [3]) rfl hans rfl

end Rampart.File
