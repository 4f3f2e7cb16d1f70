import Rampart.Audit.Event
import Rampart.Failure

/-!
# Configuration of the audit log

Where events go, how many may wait, and which log records an event leaves.
-/

namespace Rampart.Audit

/-- The configuration of an audit log. -/
structure Config where
  /-- Whether every event leaves a log record. -/
  logToStdout : Bool := true
  /-- The file that events are appended to. -/
  logToFile : Option Text := none
  /-- How many messages may wait. -/
  bufferSize : Nat := 1000
  /-- Whether severe events raise an alert. -/
  enableAlerting : Bool := true
  deriving DecidableEq, Repr

namespace Config

/-- The object for a configuration. -/
def toJson (c : Config) : Json :=
  .obj [("log_to_stdout", .bool c.logToStdout),
    ("log_to_file", match c.logToFile with
      | some path => .str path
      | none => .null),
    ("buffer_size", .num (.int c.bufferSize)),
    ("enable_alerting", .bool c.enableAlerting)]

/-- The fields of a configuration, in order. -/
def fields : List (Json.Field Config) := [
  .of "log_to_stdout" Json.toBool fun b c => { c with logToStdout := b },
  .of "log_to_file" (Json.toOption Json.toPath) fun path c => { c with logToFile := path },
  .of "buffer_size" Json.toSize fun n c => { c with bufferSize := n },
  .of "enable_alerting" Json.toBool fun b c => { c with enableAlerting := b }]

/-- The configuration that a JSON value gives. -/
def ofJson (j : Json) : Json.Decoding Config := Json.toRecord "AuditConfig" fields {} j

end Config

/-! ## Records -/

/-- The part of the system that the audit log speaks as. -/
def target : Text := "warden_runtime::audit"

/-- A record of the audit log. -/
def record (level : Level) (message : Text) (fields : List (Text × FieldValue)) : Record :=
  { level, target, message, fields }

/-- The record of an event that happened at the time with the given text. -/
def auditRecord (i : Incident) (time : Text) (alert : Bool) : Record :=
  match i.severity with
  | .info => record .info "Security audit event"
      [("event_type", .word i.category), ("event", .shown (i.shown time))]
  | .warning => record .warn "Security audit event"
      [("event_type", .word i.category), ("event", .shown (i.shown time))]
  | _ => record .error "SECURITY ALERT"
      [("alert", .flag alert), ("event_type", .word i.category),
        ("severity", .shown i.severity.name), ("event", .shown (i.shown time))]

/-- The record of an alert where events leave no records of their own. -/
def alertRecord (e : Event) : Record :=
  record .error "Critical security alert"
    [("alert", .flag true), ("severity", .shown e.incident.severity.name),
      ("event_category", .word e.incident.category), ("event", .shown e.shown)]

/-- The record of an event for which there was no room. -/
def droppedRecord (e : Event) : Record :=
  record .error "Audit buffer full, event dropped"
    [("event_type", .word e.incident.category), ("event", .shown e.shown)]

/-- The record of an event that nobody takes any more. -/
def closedRecord : Record := record .error "Audit system failure: channel closed" []

/-- The record of a fault of the log file. -/
def faultRecord (message : Text) (f : IoFault) : Record :=
  record .error message [("error", .shown f.message)]

/-- The record of a log file that cannot be opened, at the time with the given text. -/
def unopenedRecord (c : Config) (path : Text) (f : IoFault) (now : Text) : Record :=
  auditRecord (.auditFailure ("cannot open audit log " ++ path ++ ": " ++ f.message
    ++ ", file logging disabled")) now c.enableAlerting

/-- The record of the orderly end of the audit log. -/
def endRecord : Record := record .info "Audit event handler shutdown complete" []

/-- The records that an event leaves: at most one. -/
def Config.records (c : Config) (e : Event) : List Record :=
  let alert := c.enableAlerting && e.incident.raisesAlert
  if c.logToStdout then [auditRecord e.incident e.timestamp.write alert]
  else if alert then [alertRecord e]
  else []

end Rampart.Audit
