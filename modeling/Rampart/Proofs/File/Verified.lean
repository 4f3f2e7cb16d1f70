import Mathlib
import Rampart.Proofs.File.Confinement
import Rampart.Proofs.File.Trail
import Rampart.Proofs.Path.Segments

/-!
# Verified loading

A file is loaded in three steps that can each end the matter: its path is built, the verifier is
asked about the file at that path, and the file is read.  The verifier can trust the file or not, or
break down.  Whatever happens, the verifier is asked at most once and nothing is read before it
trusts the file, and the audit log hears of exactly the steps that were taken.

* `Path.kind_of_buildExact` : a refusal is about the arguments exactly if one of them is blank;
* `Access.loadVerified_parts` : what is done once a path is built, by the verdict;
* `Access.loadVerified_eq_ok_iff` : what is loaded, and how it came to be;
* `VerifiedLoad` : what loading may do and tell;
* `verified_load_of_loadVerified` : loading does exactly that.
-/

namespace Rampart.Path

/-! ## Refusals and blank arguments -/

/-- Combining fails with an invalid path or with one that leads out of the base. -/
theorem kind_of_combine_error {s : Style} {cwd : WorkingDirectory} {base : Text}
    {tail : List Text} {k : Containment} {r : Rejection}
    (h : combine s cwd base tail k = .error r) :
    r.kind = .invalidPath ∨ r.kind = .traversalRejected := by
  rw [combine, bind_eq_error_iff] at h
  rcases h with h | ⟨b, -, h⟩
  · exact Or.inl (kind_of_resolveBase h)
  rw [bind_eq_error_iff] at h
  rcases h with h | ⟨j, -, h⟩
  · exact Or.inl (kind_of_joinAll h)
  rw [bind_eq_error_iff] at h
  rcases h with h | ⟨q, -, h⟩
  · exact Or.inl (Lexical.kind_of_absolutize h)
  · dsimp only at h
    split at h
    · cases h
    · cases h
      exact Or.inr rfl

/-- A bare name below a base is refused for its arguments exactly if one of them is blank. -/
theorem kind_of_buildExact {s : Style} {cwd : WorkingDirectory} {base name : Text} {r : Rejection}
    (h : buildExact s cwd base name = .error r) :
    r.kind = .invalidArgument ↔ base.isBlank = true ∨ name.isBlank = true := by
  rw [buildExact] at h
  cases hargs : (blankFault .basePath base <|> blankFault .fileName name) with
  | some r' =>
    rw [hargs] at h
    cases h
    rw [Option.orElse_eq_some] at hargs
    unfold blankFault at hargs
    rw [Option.ite_none_right_eq_some, Option.ite_none_right_eq_some] at hargs
    rcases hargs with ⟨hbase, ⟨⟩⟩ | ⟨-, hname, ⟨⟩⟩
    · exact iff_of_true rfl (Or.inl hbase)
    · exact iff_of_true rfl (Or.inr hname)
  | none =>
    rw [hargs] at h
    rw [Option.orElse_eq_none, blankFault_eq_none_iff, blankFault_eq_none_iff] at hargs
    have hblank : ¬ (base.isBlank = true ∨ name.isBlank = true) := by
      rw [hargs.1, hargs.2]
      decide
    refine iff_of_false ?_ hblank
    change (refuse (baseFault s base <|> fileNameFault s name) >>= fun _ =>
      combine s cwd base [name] .exactParent) = .error r at h
    rw [bind_eq_error_iff, refuse_eq_error_iff] at h
    rcases h with h | ⟨-, -, h⟩
    · exact kind_of_checks h
    · rcases kind_of_combine_error h with hkind | hkind
      · rw [hkind]
        decide
      · rw [hkind]
        decide

end Rampart.Path

namespace Rampart.File

open Rampart.Path (ValidatedPath WorkingDirectory)
open Access (Verdict)

/-! ## What is asked and told -/

/-- What is told to the audit log asks nothing of the world. -/
theorem filterMap_effect?_tell (incidents : List Audit.Incident) :
    (incidents.map Step.tell).filterMap Step.effect? = [] := by
  rw [List.filterMap_map]
  exact List.filterMap_none incidents

/-- Reading leaves the disk as it is. -/
theorem Disk.apply_read_fst (d : Disk) (path : Text) : (d.apply (.read path)).1 = d := by
  unfold Disk.apply
  split <;> rfl

namespace Access

variable {a : Access} {verifier : Text → Verdict} {cwd : WorkingDirectory} {base name : Text}
  {d : Disk} {r : Path.Rejection} {p : ValidatedPath}

/-- What is told in two parts is told in one. -/
theorem told_append (a : Access) (first next : List Audit.Incident) :
    a.told first ++ a.told next = a.told (first ++ next) := by
  unfold told
  split <;> rfl

/-- A bare name is built as such, whether or not names may descend. -/
theorem build_bare (a : Access) (cwd : WorkingDirectory) (base name : Text) :
    a.build true cwd base name = Path.buildExact a.style cwd base name := by
  rw [build, Bool.not_true, Bool.and_false]
  rfl

/-- What is loaded of a file that is trusted is what reading brings back. -/
theorem result_loadJudged_trusted (a : Access) (p : ValidatedPath) (d : Disk) :
    (a.loadJudged p d .trusted).result
      = ((d.apply (.read p.text)).2.map Answer.bytes).mapError Failure.io := by
  show ((d.apply (.read p.text)).2 >>= fun content => Action.read.answer p content).mapError _ = _
  cases (d.apply (.read p.text)).2 <;> rfl

/-- Only a file that is trusted is loaded. -/
theorem loadJudged_eq_ok_iff {v : Verdict} {answer : Answer} :
    (a.loadJudged p d v).result = .ok answer ↔
      v = .trusted ∧ ∃ content, (d.apply (.read p.text)).2 = .ok content ∧
        answer = .bytes content := by
  cases v with
  | failed => exact iff_of_false nofun (fun h => nomatch h.1)
  | untrusted => exact iff_of_false nofun (fun h => nomatch h.1)
  | trusted =>
    rw [result_loadJudged_trusted]
    cases (d.apply (.read p.text)).2 with
    | error f => exact iff_of_false nofun fun h => by obtain ⟨-, _, ⟨⟩, -⟩ := h
    | ok content =>
      constructor
      · intro h
        cases h
        exact ⟨rfl, content, rfl, rfl⟩
      · rintro ⟨-, _, ⟨⟩, rfl⟩
        rfl

/-- The disk is asked only for a file that is trusted. -/
theorem effects_loadJudged (a : Access) (p : ValidatedPath) (d : Disk) (v : Verdict) :
    (a.loadJudged p d v).effects = if v = .trusted then [.read p.text] else [] := by
  cases v with
  | failed => rfl
  | untrusted => exact filterMap_effect?_tell _
  | trusted =>
    show List.filterMap Step.effect? (_ ++ _) = _
    rw [List.filterMap_append, filterMap_effect?_tell]
    rfl

/-- No verdict changes the disk. -/
theorem disk_loadJudged (a : Access) (p : ValidatedPath) (d : Disk) (v : Verdict) :
    (a.loadJudged p d v).disk = d := by
  cases v with
  | failed => rfl
  | untrusted => rfl
  | trusted => exact d.apply_read_fst p.text

/-- What the audit log hears of the verdict on a file. -/
def Verdict.incidents (path : Text) : Verdict → List Audit.Incident
  | .trusted => [.accessGranted path Action.read.word]
  | .untrusted => [.signatureRejected path]
  | .failed => []

/-- Where a path is built, the verifier is asked about it before all else, and the rest is what its
verdict calls for. -/
theorem loadVerified_parts {v : Verdict} (h : a.build true cwd base name = .ok p)
    (hv : verifier p.text = v) :
    (a.loadVerified verifier base name d cwd).result = (a.loadJudged p d v).result ∧
    (a.loadVerified verifier base name d cwd).effects
      = .verify p.text :: (if v = .trusted then [.read p.text] else []) ∧
    (a.loadVerified verifier base name d cwd).incidents
      = a.told (.pathValidated p.text :: v.incidents p.text) := by
  subst hv
  refine ⟨by rw [loadVerified_of_ok h], ?_, ?_⟩
  · rw [loadVerified_of_ok h, ← effects_loadJudged a p d]
    show List.filterMap Step.effect? (_ ++ _) = _
    rw [List.filterMap_append, filterMap_effect?_tell]
    rfl
  · rw [incidents_loadVerified_of_ok h, incidents_loadJudged, told_append]
    cases verifier p.text <;> rfl

/-- Where no path is built, nobody is asked. -/
theorem effects_loadVerified_of_error (h : a.build true cwd base name = .error r) :
    (a.loadVerified verifier base name d cwd).effects = [] := by
  rw [loadVerified_of_error h]
  exact filterMap_effect?_tell _

/-- Where no path is built, the audit log hears of it unless an argument is blank. -/
theorem incidents_loadVerified_of_error (h : a.build true cwd base name = .error r) :
    (a.loadVerified verifier base name d cwd).incidents
      = a.told (if base.isBlank = true ∨ name.isBlank = true then []
          else [.pathRejected base name r.kind.category r.message]) := by
  rw [loadVerified_of_error h]
  show List.filterMap Step.incident? (List.map Step.tell _) = _
  rw [filterMap_incident?_tell, buildIncidents_error]
  rw [build_bare] at h
  simp only [Path.kind_of_buildExact h]

/-! ## Verified loading as a whole -/

/-- What is loaded is the content of the file at the path that was built, read there after the
verifier was asked and trusted it. -/
theorem loadVerified_eq_ok_iff {answer : Answer} :
    (a.loadVerified verifier base name d cwd).result = .ok answer ↔
      ∃ p content, a.build true cwd base name = .ok p ∧ verifier p.text = .trusted ∧
        (a.loadVerified verifier base name d cwd).effects = [.verify p.text, .read p.text] ∧
        (d.apply (.read p.text)).2 = .ok content ∧
        d.root.item? (d.place p.text) = some (.file content) ∧ answer = .bytes content := by
  constructor
  · intro hloaded
    cases h : a.build true cwd base name with
    | error r =>
      rw [loadVerified_of_error h] at hloaded
      cases hloaded
    | ok p =>
      obtain ⟨hresult, heffects, -⟩ := loadVerified_parts (d := d) h rfl
      rw [hresult, loadJudged_eq_ok_iff] at hloaded
      obtain ⟨hv, content, hread, hanswer⟩ := hloaded
      rw [if_pos hv] at heffects
      exact ⟨p, content, rfl, hv, heffects, hread, Disk.item?_of_apply_read hread, hanswer⟩
  · rintro ⟨p, content, h, hv, -, hread, -, hanswer⟩
    rw [(loadVerified_parts h hv).1, loadJudged_eq_ok_iff]
    exact ⟨rfl, content, hread, hanswer⟩

/-- Loading leaves the disk as it is. -/
theorem disk_loadVerified (a : Access) (verifier : Text → Verdict) (base name : Text) (d : Disk)
    (cwd : WorkingDirectory) : (a.loadVerified verifier base name d cwd).disk = d := by
  cases h : a.build true cwd base name with
  | error r => rw [loadVerified_of_error h]
  | ok p =>
    rw [loadVerified_of_ok h]
    exact a.disk_loadJudged p d (verifier p.text)

/-- Only what the verifier says about the path that is built has a bearing on the outcome. -/
theorem loadVerified_congr {verifier' : Text → Verdict}
    (hagree : ∀ p, a.build true cwd base name = .ok p → verifier' p.text = verifier p.text) :
    a.loadVerified verifier' base name d cwd = a.loadVerified verifier base name d cwd := by
  cases h : a.build true cwd base name with
  | error r => rw [loadVerified_of_error h, loadVerified_of_error h]
  | ok p => rw [loadVerified_of_ok h, loadVerified_of_ok h, hagree p h]

end Access

/-- What loading a name below a base may come to, by the path that is built and by the verdict on
it, with what is asked of the world and told to the audit log, if there is one. -/
structure VerifiedLoad (a : Access) (verifier : Text → Verdict) (base name : Text) (d : Disk)
    (built : Except Path.Rejection ValidatedPath) (o : Outcome Answer) : Prop where
  /-- What is loaded is the content of the file at the path that was built, which was trusted when
  the verifier was asked about it, once and before the file was read. -/
  loaded : ∀ answer, o.result = .ok answer ↔
    ∃ p content, built = .ok p ∧ verifier p.text = .trusted ∧
      o.effects = [.verify p.text, .read p.text] ∧ (d.apply (.read p.text)).2 = .ok content ∧
      d.root.item? (d.place p.text) = some (.file content) ∧ answer = .bytes content
  /-- Where no path is built, nobody is asked. -/
  refused : ∀ r, built = .error r →
    o.result = .error (.refused (.path r)) ∧ o.effects = [] ∧
    o.incidents = a.told (if base.isBlank = true ∨ name.isBlank = true then []
      else [.pathRejected base name r.kind.category r.message])
  failed : ∀ p, built = .ok p → verifier p.text = .failed →
    o.result = .error (.io .verifierFailed) ∧ o.effects = [.verify p.text] ∧
    o.incidents = a.told [.pathValidated p.text]
  untrusted : ∀ p, built = .ok p → verifier p.text = .untrusted →
    o.result = .error (.signature p.text) ∧ o.effects = [.verify p.text] ∧
    o.incidents = a.told [.pathValidated p.text, .signatureRejected p.text]
  /-- Access to a file that is trusted is granted, whether or not it can be read. -/
  trusted : ∀ p, built = .ok p → verifier p.text = .trusted →
    o.result = ((d.apply (.read p.text)).2.map Answer.bytes).mapError Failure.io ∧
    o.effects = [.verify p.text, .read p.text] ∧
    o.incidents = a.told [.pathValidated p.text, .accessGranted p.text "read".toList]
  disk : o.disk = d

/-- **Verified loading.**  Whatever the verifier says, a file is loaded only from the path that is
built for a bare name, if the verifier trusts it there; every other outcome ends at the step that
fails, with the failure and the incidents of that step.  The verifier matters only by what it says
about that path, and not at all if there is none. -/
theorem verified_load_of_loadVerified (a : Access) (verifier : Text → Verdict) (base name : Text)
    (d : Disk) (cwd : WorkingDirectory) :
    VerifiedLoad a verifier base name d (Path.buildExact a.style cwd base name)
      (a.loadVerified verifier base name d cwd) ∧
    ∀ verifier', (∀ p, Path.buildExact a.style cwd base name = .ok p →
        verifier' p.text = verifier p.text) →
      a.loadVerified verifier' base name d cwd = a.loadVerified verifier base name d cwd := by
  rw [← Access.build_bare]
  refine ⟨⟨?_, ?_, ?_, ?_, ?_, ?_⟩, ?_⟩
  · intro answer
    exact Access.loadVerified_eq_ok_iff
  · intro r h
    refine ⟨?_, Access.effects_loadVerified_of_error h, Access.incidents_loadVerified_of_error h⟩
    rw [Access.loadVerified_of_error h]
  -- once a path is built, the verdict on it settles all that is left
  · intro p h hv
    exact Access.loadVerified_parts h hv
  · intro p h hv
    exact Access.loadVerified_parts h hv
  · intro p h hv
    rw [← a.result_loadJudged_trusted p d]
    exact Access.loadVerified_parts h hv
  · exact a.disk_loadVerified verifier base name d cwd
  · intro verifier' hagree
    exact Access.loadVerified_congr hagree

/-- A file is loaded from `/b/f` if the verifier trusts it, and nothing of it is read if the
verifier breaks down. -/
theorem verified_load_of_loadVerified_trusted_and_failed :
    let a : Access := { style := .posix, audited := true }
    let d : Disk := ⟨.directory [(['b'], .directory [(['f'], .file [7])])], ['/']⟩
    (a.loadVerified (fun _ => .trusted) ['/', 'b'] ['f'] d).result = .ok (.bytes [7]) ∧
    (a.loadVerified (fun _ => .trusted) ['/', 'b'] ['f'] d).incidents
      = [.pathValidated ['/', 'b', '/', 'f'],
        .accessGranted ['/', 'b', '/', 'f'] "read".toList] ∧
    (a.loadVerified (fun _ => .failed) ['/', 'b'] ['f'] d).effects
      = [.verify ['/', 'b', '/', 'f']] ∧
    (a.loadVerified (fun _ => .failed) ['/', 'b'] ['f'] d).incidents
      = [.pathValidated ['/', 'b', '/', 'f']] := by
  intro a d
  have hbuild : Path.buildExact a.style (.at ['/']) ['/', 'b'] ['f']
      = .ok ⟨['/', 'b', '/', 'f'], .posix⟩ := rfl
  have htrusted := (verified_load_of_loadVerified a (fun _ => .trusted) ['/', 'b'] ['f'] d
    (.at ['/'])).1.trusted _ hbuild rfl
  have hfailed := (verified_load_of_loadVerified a (fun _ => .failed) ['/', 'b'] ['f'] d
    (.at ['/'])).1.failed _ hbuild rfl
  exact ⟨htrusted.1, htrusted.2.2, hfailed.2.1, hfailed.2.2⟩

end Rampart.File
