import Mathlib
import Rampart.Proofs.File.Trail
import Rampart.Proofs.Payload.Incidents

/-!
# Alerts agree with criticality

How serious a failure is follows from its kind, and whether an incident raises an alert follows from
the incident and, for a refused path, from a word in it.  The two were classified apart, and
incidents are handed over in many places.  Still each call raises one alert if its failure is
critical and none otherwise.

* `Report.AlertsAgree` : one alert for a critical failure, none for anything else;
* `Access.alertsAgree_resolve`, `Access.alertsAgree_perform`, `Access.alertsAgree_loadVerified` :
  files;
* `Report.Accounts.alertsAgree` : payloads;
* `one_alert_iff_critical` : all calls together.
-/

namespace Rampart

open Audit (Incident)

namespace Report

variable {α : Type} {audited : Bool} {r : Report α}

/-- Whether a result is a critical failure. -/
def isCritical : Except Failure α → Bool
  | .ok _ => false
  | .error f => f.isCritical

/-- Where there is an audit log, exactly one incident raises an alert if the result is a critical
failure, and none does otherwise. -/
def AlertsAgree (audited : Bool) (r : Report α) : Prop :=
  r.incidents.countP Incident.raisesAlert = if audited && isCritical r.result then 1 else 0

/-! ## Payloads -/

/-- A failure to read a payload is critical if it calls for an incident, which raises an alert. -/
theorem countP_incident? {f : Failure} (hf : f.IsOfReading) :
    f.incident?.toList.countP Incident.raisesAlert = if f.isCritical then 1 else 0 := by
  rcases hf with hplain | ⟨identity, name, rfl⟩
  · rw [Failure.incident?_of_isPlain hplain]
    unfold Failure.isPlain at hplain
    split at hplain
    · rfl
    · rfl
    · cases hplain
  · rfl

/-- What accounts for its result raises alerts as it should. -/
theorem Accounts.alertsAgree (h : r.Accounts audited) : r.AlertsAgree audited := by
  rw [AlertsAgree, h.incidents]
  cases audited with
  | false => rfl
  | true =>
    cases hresult : r.result with
    | ok a => rfl
    | error f => exact countP_incident? (h.failure f hresult)

end Report

namespace Payload.Serializer

variable {C : Catalogue} (s : Serializer C)

/-- What is refused as insecure is critical and raises an alert. -/
theorem alertsAgree_insecure {α : Type} (details : Text) :
    (s.insecure details : Report α).AlertsAgree s.audited := by
  rw [Report.AlertsAgree, incidents_insecure]
  cases s.audited <;> rfl

theorem alertsAgree_withSettings (settings : Settings) :
    (s.withSettings settings).AlertsAgree s.audited := by
  rw [withSettings]
  split
  · exact alertsAgree_insecure s _
  · exact (Report.accounts_pure _).alertsAgree

theorem alertsAgree_deserializeBound (payload : Text) :
    (s.deserializeBound payload).AlertsAgree s.audited := by
  cases hactive : s.active with
  | none =>
    rw [deserializeBound, hactive]
    exact alertsAgree_insecure s _
  | some l => exact (accounts_deserializeBound hactive payload).alertsAgree

theorem alertsAgree_serializeTagged (c : C.Code) (v : C.Value c) :
    (s.serializeTagged c v).AlertsAgree s.audited := by
  cases hactive : s.active with
  | none =>
    rw [serializeTagged, hactive]
    exact alertsAgree_insecure s _
  | some l => exact (accounts_serializeTagged hactive c v).alertsAgree

end Payload.Serializer

/-! ## Files -/

/-- The word for a kind tells it from all others, so among refused paths it marks those that
climb. -/
theorem Audit.Incident.raisesAlert_pathRejected (base attempted reason : Text) (k : Kind) :
    (Incident.pathRejected base attempted k.category reason).raisesAlert
      = decide (k = .traversalRejected) := by
  cases k <;> rfl

/-- Of the reasons for refusing a path, climbing is the only one that is critical. -/
theorem Path.Rejection.isCritical_kind (r : Path.Rejection) :
    r.kind.isCritical = decide (r.kind = .traversalRejected) := by
  cases r <;> rfl

namespace File

open Rampart.Path (WorkingDirectory)

namespace Access

variable (a : Access)

/-- Without an audit log nobody is alerted. -/
theorem countP_told (incidents : List Incident) :
    (a.told incidents).countP Incident.raisesAlert
      = if a.audited then incidents.countP Incident.raisesAlert else 0 := by
  rw [told]
  cases a.audited <;> rfl

/-- A path that is refused raises an alert if the refusal is critical. -/
theorem countP_buildIncidents (base name : Text) (r : Path.Rejection) :
    (buildIncidents base name (.error r)).countP Incident.raisesAlert
      = if r.kind.isCritical then 1 else 0 := by
  rw [buildIncidents_error, r.isCritical_kind]
  by_cases harg : r.kind = .invalidArgument
  · rw [if_pos harg, harg]
    rfl
  · rw [if_neg harg, List.countP_singleton, Incident.raisesAlert_pathRejected]

/-- What is told about a refused path agrees with the refusal. -/
theorem countP_told_buildIncidents (base name : Text) (r : Path.Rejection) :
    (a.told (buildIncidents base name (.error r))).countP Incident.raisesAlert
      = if a.audited && (Failure.refused (.path r)).isCritical then 1 else 0 := by
  rw [countP_told, countP_buildIncidents]
  cases a.audited <;> rfl

/-- Resolving a path raises alerts as it should. -/
theorem alertsAgree_resolve (bare : Bool) (cwd : WorkingDirectory) (base name : Text) :
    (a.resolve bare cwd base name).AlertsAgree a.audited := by
  rw [resolve]
  cases a.build bare cwd base name with
  | error r => exact countP_told_buildIncidents a base name r
  | ok p =>
    show (a.told [.pathValidated p.text]).countP Incident.raisesAlert = _
    rw [countP_told]
    cases a.audited <;> rfl

/-- A refused path ends an operation with the alert that it calls for. -/
theorem alertsAgree_of_refused {o : Outcome Answer} {base name : Text} {r : Path.Rejection}
    (hresult : o.result = .error (.refused (.path r)))
    (htrace : o.trace = (a.told (buildIncidents base name (.error r))).map .tell) :
    o.toReport.AlertsAgree a.audited := by
  show (o.trace.filterMap Step.incident?).countP Incident.raisesAlert
    = if a.audited && Report.isCritical o.result then 1 else 0
  rw [htrace, hresult, filterMap_incident?_tell, countP_told_buildIncidents]
  rfl

/-- Where no incident raises an alert, the result must not be critical. -/
theorem alertsAgree_of_none {o : Outcome Answer} (hresult : Report.isCritical o.result = false)
    (htrace : o.incidents.countP Incident.raisesAlert = 0) : o.toReport.AlertsAgree a.audited := by
  show o.incidents.countP Incident.raisesAlert
    = if a.audited && Report.isCritical o.result then 1 else 0
  rw [htrace, hresult, Bool.and_false]
  rfl

/-- A fault of the disk is not critical. -/
theorem isCritical_mapError_io {β : Type} (x : Except IoFault β) :
    Report.isCritical (x.mapError Failure.io) = false := by
  cases x <;> rfl

/-- Operations raise alerts as they should: for a path that climbs, and for nothing else. -/
theorem alertsAgree_perform (op : Operation) (base name : Text) (d : Disk)
    (cwd : WorkingDirectory) : (a.perform op base name d cwd).toReport.AlertsAgree a.audited := by
  cases hbuild : a.build op.bare cwd base name with
  | error r =>
    rw [perform_of_error hbuild]
    exact alertsAgree_of_refused a rfl rfl
  | ok p =>
    rw [perform_of_ok hbuild]
    refine alertsAgree_of_none a (isCritical_mapError_io _) ?_
    simp only [Outcome.incidents, List.filterMap_append, filterMap_incident?_tell,
      List.countP_append, countP_told]
    cases a.audited <;> rfl

/-- Verified loading raises alerts as it should: for a path that climbs, for a file that the
verifier does not trust, and for nothing else. -/
theorem alertsAgree_loadVerified (verifier : Text → Verdict) (base name : Text) (d : Disk)
    (cwd : WorkingDirectory) :
    (a.loadVerified verifier base name d cwd).toReport.AlertsAgree a.audited := by
  cases hbuild : a.build true cwd base name with
  | error r =>
    rw [loadVerified_of_error hbuild]
    exact alertsAgree_of_refused a rfl rfl
  | ok p =>
    have hresult : (a.loadVerified verifier base name d cwd).result
        = (a.loadJudged p d (verifier p.text)).result := by
      rw [loadVerified_of_ok hbuild]
    show (a.loadVerified verifier base name d cwd).incidents.countP Incident.raisesAlert
      = if a.audited && Report.isCritical (a.loadVerified verifier base name d cwd).result
        then 1 else 0
    rw [incidents_loadVerified_of_ok hbuild, incidents_loadJudged, List.countP_append, countP_told,
      countP_told, hresult]
    cases verifier p.text with
    | trusted =>
      rw [show Report.isCritical (a.loadJudged p d .trusted).result = false from
        isCritical_mapError_io _]
      cases a.audited <;> rfl
    | untrusted => cases a.audited <;> rfl
    | failed => cases a.audited <;> rfl

end Access

end File

/-! ## All calls -/

/-- **One alert for a critical failure, none for anything else.**  Whatever the arguments, the disk,
the working directory and the verifier, each call hands exactly one incident to an attached audit
log that raises an alert if its result is a critical failure, and no such incident if it succeeds or
fails in another way. -/
theorem one_alert_iff_critical {C : Catalogue} (a : File.Access) (s : Payload.Serializer C) :
    (∀ bare cwd base name, (a.resolve bare cwd base name).AlertsAgree a.audited) ∧
    (∀ op base name d cwd, (a.perform op base name d cwd).toReport.AlertsAgree a.audited) ∧
    (∀ verifier base name d cwd,
      (a.loadVerified verifier base name d cwd).toReport.AlertsAgree a.audited) ∧
    (∀ settings, (s.withSettings settings).AlertsAgree s.audited) ∧
    (∀ settings (allowList : Option (AllowList C)) audited,
      (Payload.Serializer.ofSettings settings allowList audited).AlertsAgree audited) ∧
    (∀ c payload, (s.deserialize c payload).AlertsAgree s.audited) ∧
    (∀ payload, (s.deserializeBound payload).AlertsAgree s.audited) ∧
    (∀ c v, (s.serializeTagged c v).AlertsAgree s.audited) := by
  refine ⟨a.alertsAgree_resolve, a.alertsAgree_perform, a.alertsAgree_loadVerified,
    s.alertsAgree_withSettings, fun settings allowList audited => ?_, fun c payload => ?_,
    s.alertsAgree_deserializeBound, s.alertsAgree_serializeTagged⟩
  · -- the audit log is attached before the settings are looked at
    exact Payload.Serializer.alertsAgree_withSettings
      { Payload.Serializer.new allowList with audited } settings
  · exact (s.accounts_deserialize c payload).alertsAgree

end Rampart
