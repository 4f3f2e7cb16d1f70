import Mathlib
import Rampart.File.Access
import Rampart.Proofs.File.Frame

/-!
# The trail of a guarded access

Every operation builds its path first.  If that fails, the matter ends there: the disk is left alone
and the audit log hears of a refusal for the sake of security.  Otherwise the audit log hears that
the path is good and that access is granted, and only then is the disk asked, at that path.

* `Access.perform_of_error`, `Access.perform_of_ok` : the whole outcome of an operation, by what was
  built;
* `Access.loadVerified_of_error`, `Access.loadVerified_of_ok` : the same for verified loading;
* `Access.incidents_loadJudged` : what the audit log hears about a verdict;
* `Disk.item?_apply` : an effect changes nothing that is not on the way to its path;
* `trail_of_perform` : the steps of an audited operation, in order.
-/

namespace Rampart.File

open Rampart.Path (ValidatedPath WorkingDirectory)

/-- An action has its effect at the path that it is given. -/
theorem Action.path_effect (action : Action) (path : Text) : (action.effect path).path = path := by
  cases action <;> rfl

/-- An effect changes nothing that is not on the way to its path. -/
theorem Disk.item?_apply {d : Disk} {e : Effect} {place : List Text}
    (hplace : ¬ place <+: d.place e.path) :
    (d.apply e).1.root.item? place = d.root.item? place := by
  unfold Disk.apply
  split
  · rfl
  · cases e with
    | verify path => rfl
    | read path => rfl
    | write path content =>
      simp only
      split
      · rename_i root hwrite
        exact Node.item?_write hwrite hplace
      · rfl
    | createDirectories path => exact Node.item?_createDirectories hplace

/-- Incidents that are handed over stand in the trace in their order. -/
theorem filterMap_incident?_tell (incidents : List Audit.Incident) :
    (incidents.map Step.tell).filterMap Step.incident? = incidents := by
  rw [List.filterMap_map]
  exact List.filterMap_some

namespace Access

variable {a : Access} {op : Operation} {bare : Bool} {cwd : WorkingDirectory} {base name : Text}
  {d : Disk} {r : Path.Rejection} {p : ValidatedPath}

/-! ## What is told about a path -/

/-- An audit log that is attached hears everything. -/
theorem told_of_audited (ha : a.audited = true) (incidents : List Audit.Incident) :
    a.told incidents = incidents := if_pos ha

/-- A path is refused for the sake of security unless an argument is at fault. -/
theorem isSecurityRejection_iff (k : Kind) :
    k.isSecurityRejection = true ↔ k ≠ .invalidArgument := by
  cases k <;> decide

/-- The audit log hears of a refusal unless an argument is at fault. -/
theorem buildIncidents_error (base name : Text) (r : Path.Rejection) :
    buildIncidents base name (.error r) = if r.kind = .invalidArgument then []
      else [.pathRejected base name r.kind.category r.message] := by
  have hkind := isSecurityRejection_iff r.kind
  rw [buildIncidents]
  by_cases hr : r.kind = .invalidArgument
  · rw [if_pos hr, if_neg fun h => hkind.1 h hr]
  · rw [if_neg hr, if_pos (hkind.2 hr)]

/-! ## Operations -/

/-- Where no path is built, the refusal is all there is. -/
theorem perform_of_error (h : a.build op.bare cwd base name = .error r) :
    a.perform op base name d cwd =
      { result := .error (.refused (.path r))
        records := r.records a.style
        trace := (a.told (buildIncidents base name (.error r))).map .tell
        disk := d } := by
  rw [perform, resolve, h]
  rfl

/-- Where a path is built, the action is carried out there, after the audit log was told. -/
theorem perform_of_ok (h : a.build op.bare cwd base name = .ok p) :
    a.perform op base name d cwd =
      { result := ((d.apply (op.action.effect p.text)).2 >>= fun content =>
          op.action.answer p content).mapError Failure.io
        records := Path.buildRecords a.style (.ok p) ++ [grantRecord p.text op.action.word]
        trace := (a.told [.pathValidated p.text]).map .tell ++
          ((a.told [.accessGranted p.text op.action.word]).map .tell ++
            [.ask (op.action.effect p.text)])
        disk := (d.apply (op.action.effect p.text)).1 } := by
  rw [perform, resolve, h]
  rfl

/-! ## Verified loading -/

variable {verifier : Text → Verdict}

theorem loadVerified_of_error (h : a.build true cwd base name = .error r) :
    a.loadVerified verifier base name d cwd =
      { result := .error (.refused (.path r))
        records := r.records a.style
        trace := (a.told (buildIncidents base name (.error r))).map .tell
        disk := d } := by
  rw [loadVerified, resolve, h]
  rfl

/-- Where a path is built, the verifier is asked next, and the rest hangs on its verdict. -/
theorem loadVerified_of_ok (h : a.build true cwd base name = .ok p) :
    a.loadVerified verifier base name d cwd =
      { a.loadJudged p d (verifier p.text) with
        records := Path.buildRecords a.style (.ok p) ++
          (a.loadJudged p d (verifier p.text)).records
        trace := (a.told [.pathValidated p.text]).map .tell ++
          .ask (.verify p.text) :: (a.loadJudged p d (verifier p.text)).trace } := by
  rw [loadVerified, resolve, h]
  rfl

/-- The audit log is told what the verdict calls for: access that is granted, a signature that is
not trusted, or nothing if the verifier broke down. -/
theorem incidents_loadJudged (a : Access) (p : ValidatedPath) (d : Disk) (v : Verdict) :
    (a.loadJudged p d v).incidents = a.told (match v with
      | .trusted => [.accessGranted p.text Action.read.word]
      | .untrusted => [.signatureRejected p.text]
      | .failed => []) := by
  cases v with
  | trusted =>
    show List.filterMap Step.incident? (_ ++ _) = _
    rw [List.filterMap_append, filterMap_incident?_tell]
    exact List.append_nil _
  | untrusted => exact filterMap_incident?_tell _
  | failed => exact (ite_self _).symm

/-- Before that, the audit log is told that the path is good. -/
theorem incidents_loadVerified_of_ok (h : a.build true cwd base name = .ok p) :
    (a.loadVerified verifier base name d cwd).incidents
      = a.told [.pathValidated p.text] ++ (a.loadJudged p d (verifier p.text)).incidents := by
  rw [loadVerified_of_ok h]
  show List.filterMap Step.incident? (_ ++ _) = _
  rw [List.filterMap_append, filterMap_incident?_tell]
  rfl

end Access

/-! ## The steps in order -/

/-- **Validation comes before every effect, and the trail is exact.**  Take an operation of an
audited access, whatever it is asked to do, and the path that is built for it: with subdirectories
if the access allows them and the operation does not insist on a bare name, and for a bare name
otherwise.  If none is built, the operation fails with that very refusal, the disk is left alone,
and the only step is to tell the audit log of a refusal for the sake of security.  If one is built,
the audit log is told that it is good and that access to it is granted, and then the disk is asked
for one effect at that path, on which the result hangs and which changes nothing that is not on the
way there. -/
theorem trail_of_perform (a : Access) (op : Operation) (base name : Text) (d : Disk)
    (cwd : WorkingDirectory) (ha : a.audited = true) :
    let o := a.perform op base name d cwd
    let built := if a.allowsSubdirectories = true ∧ op.bare = false
      then Path.buildWithSubdirectories a.style cwd base name
      else Path.buildExact a.style cwd base name
    (∀ r, built = .error r →
      o.result = .error (.refused (.path r)) ∧ o.disk = d ∧
      o.trace = if r.kind = .invalidArgument then []
        else [.tell (.pathRejected base name r.kind.category r.message)]) ∧
    (∀ p, built = .ok p →
      o.trace = [.tell (.pathValidated p.text), .tell (.accessGranted p.text op.action.word),
        .ask (op.action.effect p.text)] ∧
      (op.action.effect p.text).path = p.text ∧
      o.disk = (d.apply (op.action.effect p.text)).1 ∧
      o.result = ((d.apply (op.action.effect p.text)).2 >>= fun content =>
        op.action.answer p content).mapError Failure.io ∧
      ∀ place, ¬ place <+: d.place p.text → o.disk.root.item? place = d.root.item? place) := by
  intro o built
  have hbuilt : a.build op.bare cwd base name = built := by
    simp only [Access.build, built, Bool.and_eq_true, Bool.not_eq_true']
  rw [← hbuilt]
  constructor
  · intro r hr
    have ho : o = _ := Access.perform_of_error hr
    rw [ho]
    refine ⟨rfl, rfl, ?_⟩
    simp only [Access.told_of_audited ha, Access.buildIncidents_error]
    split <;> rfl
  · intro p hp
    have ho : o = _ := Access.perform_of_ok hp
    rw [ho]
    have hpath := op.action.path_effect p.text
    refine ⟨?_, hpath, rfl, rfl, fun place hplace => Disk.item?_apply ?_⟩
    · simp only [Access.told_of_audited ha]
      rfl
    · rw [hpath]
      exact hplace

/-- A name that climbs out is told and the disk is left alone.  A plain name is told to be good, and
told to be granted although there is no such file. -/
theorem trail_of_perform_climbing_and_missing :
    let a : Access := { style := .posix, audited := true }
    let d : Disk := ⟨.directory [], ['/']⟩
    (∃ r, Path.buildExact .posix (.at ['/']) ['/', 'b'] ['.', '.'] = .error r ∧
      (a.perform ⟨.read, false⟩ ['/', 'b'] ['.', '.'] d).trace
        = [.tell (.pathRejected ['/', 'b'] ['.', '.'] r.kind.category r.message)]) ∧
    (a.perform ⟨.read, false⟩ ['/', 'b'] ['f'] d).trace
      = [.tell (.pathValidated ['/', 'b', '/', 'f']),
        .tell (.accessGranted ['/', 'b', '/', 'f'] "read".toList),
        .ask (.read ['/', 'b', '/', 'f'])] ∧
    (a.perform ⟨.read, false⟩ ['/', 'b'] ['f'] d).result = .error (.io .notFound) := by
  intro a d
  have hclimb := (trail_of_perform a ⟨.read, false⟩ ['/', 'b'] ['.', '.'] d (.at ['/']) rfl).1
    (.climbing .fileName ['.', '.']) rfl
  have hmissing := (trail_of_perform a ⟨.read, false⟩ ['/', 'b'] ['f'] d (.at ['/']) rfl).2
    ⟨['/', 'b', '/', 'f'], .posix⟩ rfl
  exact ⟨⟨_, rfl, hclimb.2.2⟩, hmissing.1, hmissing.2.2.2.1⟩

end Rampart.File
