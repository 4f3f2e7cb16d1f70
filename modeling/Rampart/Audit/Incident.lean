import Rampart.Path.Rejection

/-!
# Incidents

What the operations of this library hand to the audit log: the accesses that were granted and the
requests that were refused.  How severe an incident is decides whether it raises an alert.
-/

namespace Rampart.Audit

/-- How severe an incident is. -/
inductive Severity
  | info
  | warning
  | high
  | critical
  deriving DecidableEq, Repr

/-- The name of a severity. -/
def Severity.name : Severity → Text
  | .info => "Info"
  | .warning => "Warning"
  | .high => "High"
  | .critical => "Critical"

/-- Something that the audit log should know. -/
inductive Incident
  | pathValidated (path : Text)
  | pathRejected (base attempted category reason : Text)
  | typeRejected (assembly typeName : Text)
  | insecureConfiguration (details : Text)
  | accessGranted (path operation : Text)
  | signatureRejected (path : Text)
  | auditFailure (error : Text)
  deriving DecidableEq, Repr

namespace Incident

/-- How severe an incident is.  Of refused paths only those that climb are critical. -/
def severity : Incident → Severity
  | .pathValidated _ | .accessGranted .. => .info
  | .pathRejected _ _ category _ =>
    if category = Kind.traversalRejected.category then .critical else .warning
  | .typeRejected .. | .auditFailure _ => .critical
  | .insecureConfiguration _ | .signatureRejected _ => .high

/-- The part of the system that an incident belongs to. -/
def category : Incident → Text
  | .pathValidated _ | .pathRejected .. => "path_security"
  | .typeRejected .. | .insecureConfiguration _ => "type_binding"
  | .accessGranted .. => "file_access"
  | .signatureRejected _ => "signature"
  | .auditFailure _ => "audit_system"

/-- Whether somebody has to be told at once. -/
def raisesAlert (i : Incident) : Bool := i.severity = .high || i.severity = .critical

end Incident

end Rampart.Audit
