import Rampart.File.Disk

/-!
# Guarded file access

Files are reached by a trusted base and a name from outside.  The path is built first, and a
refusal ends the matter before anything else happens.  Only then is the access put on record, and
only then is the disk touched, at the path that was built.
-/

namespace Rampart.File

open Rampart.Path (ValidatedPath)

/-- How files are accessed. -/
structure Access where
  style : Path.Style := .native
  /-- Whether names may descend into subdirectories of the base. -/
  allowsSubdirectories : Bool := false
  /-- Whether an audit log is attached. -/
  audited : Bool := false
  deriving DecidableEq, Repr

/-- What is to be done with a file or directory. -/
inductive Action
  | read
  | readText
  | write (content : Bytes)
  | createDirectories
  deriving DecidableEq, Repr

namespace Action

/-- The word for an action in records and incidents. -/
def word : Action → Text
  | .read | .readText => "read"
  | .write _ => "write"
  | .createDirectories => "create_dir"

/-- What an action does at a path. -/
def effect (path : Text) : Action → Effect
  | .read | .readText => .read path
  | .write content => .write path content
  | .createDirectories => .createDirectories path

end Action

/-- An action, and whether it insists on a bare file name. -/
structure Operation where
  action : Action
  bare : Bool := false
  deriving DecidableEq, Repr

/-- What an operation gives back. -/
inductive Answer
  | bytes (content : Bytes)
  | text (t : Text)
  | path (p : ValidatedPath)
  deriving DecidableEq, Repr

/-- The answer of an action at a path that brought back some bytes. -/
def Action.answer (p : ValidatedPath) (content : Bytes) : Action → Except IoFault Answer
  | .read => .ok (.bytes content)
  | .readText =>
    match Text.ofUtf8? content with
    | some t => .ok (.text t)
    | none => .error .notUtf8
  | .write _ | .createDirectories => .ok (.path p)

/-- What an operation does that others can see. -/
inductive Step
  /-- An incident is handed to the audit log. -/
  | tell (incident : Audit.Incident)
  /-- The world is asked for something. -/
  | ask (effect : Effect)
  deriving DecidableEq, Repr

/-- The incident that a step hands over. -/
def Step.incident? : Step → Option Audit.Incident
  | .tell i => some i
  | .ask _ => none

/-- The effect that a step asks for. -/
def Step.effect? : Step → Option Effect
  | .tell _ => none
  | .ask e => some e

/-- The result of an operation, what it put on record, its steps in the order in which they
happened, and the disk after them. -/
structure Outcome (α : Type) where
  result : Except Failure α
  records : List Record := []
  trace : List Step := []
  disk : Disk

namespace Outcome

variable {α : Type}

/-- What was handed to the audit log, in order. -/
def incidents (o : Outcome α) : List Audit.Incident := o.trace.filterMap Step.incident?

/-- What was asked of the world, in order. -/
def effects (o : Outcome α) : List Effect := o.trace.filterMap Step.effect?

/-- The outcome without what it did to the world. -/
def toReport (o : Outcome α) : Report α :=
  { result := o.result, records := o.records, incidents := o.incidents }

end Outcome

namespace Access

/-- The incidents of an audited access; others hand over nothing. -/
def told (a : Access) (incidents : List Audit.Incident) : List Audit.Incident :=
  if a.audited then incidents else []

/-! ## Resolving -/

/-- The path that is built for a name below a base. -/
def build (a : Access) (bare : Bool) (cwd : Path.WorkingDirectory) (base name : Text) :
    Except Path.Rejection ValidatedPath :=
  if a.allowsSubdirectories && !bare then Path.buildWithSubdirectories a.style cwd base name
  else Path.buildExact a.style cwd base name

/-- The incidents of a build: a path that was found good, or a refusal for the sake of security. -/
def buildIncidents (base name : Text) : Except Path.Rejection ValidatedPath → List Audit.Incident
  | .ok p => [.pathValidated p.text]
  | .error r =>
    if r.kind.isSecurityRejection then [.pathRejected base name r.kind.category r.message] else []

/-- The path of a name below a base.  A bare name is asked for if `bare` is set or if names may not
descend. -/
def resolve (a : Access) (bare : Bool) (cwd : Path.WorkingDirectory) (base name : Text) :
    Report ValidatedPath :=
  let built := a.build bare cwd base name
  { result := built.mapError fun r => .refused (.path r)
    records := Path.buildRecords a.style built
    incidents := a.told (buildIncidents base name built) }

/-! ## Operations -/

/-- What is put on record when the disk is about to be touched. -/
def grantRecord (path word : Text) : Record where
  level := .debug
  target := "warden_runtime::fs"
  message := "File access granted"
  fields := [("path", .shown path), ("operation", .word word)]

/-- Carries out an action at a path that was found good. -/
def act (a : Access) (action : Action) (p : ValidatedPath) (d : Disk) : Outcome Answer :=
  let effect := action.effect p.text
  let (disk, got) := d.apply effect
  { result := (got >>= fun content => action.answer p content).mapError Failure.io
    records := [grantRecord p.text action.word]
    trace := (a.told [.accessGranted p.text action.word]).map .tell ++ [.ask effect]
    disk }

/-- An outcome after what was reported before it. -/
def after {α β : Type} (first : Report α) (o : Outcome β) : Outcome β :=
  { o with
    records := first.records ++ o.records
    trace := first.incidents.map .tell ++ o.trace }

/-- A report that ends the matter with a failure and leaves the disk alone. -/
def stopped {α β : Type} (first : Report α) (f : Failure) (d : Disk) : Outcome β :=
  { result := .error f
    records := first.records
    trace := first.incidents.map .tell
    disk := d }

/-- Carries out an operation on a name below a base.  The working directory is told by the disk,
unless it has been removed or has a name that is not text. -/
def perform (a : Access) (op : Operation) (base name : Text) (d : Disk)
    (cwd : Path.WorkingDirectory := .at d.workingDirectory) : Outcome Answer :=
  let resolved := a.resolve op.bare cwd base name
  match resolved.result with
  | .error f => stopped resolved f d
  | .ok p => after resolved (a.act op.action p d)

/-! ## Verified loading -/

/-- What a signature verifier can say about a file. -/
inductive Verdict
  | trusted
  | untrusted
  /-- The verifier broke down. -/
  | failed
  deriving DecidableEq, Repr

/-- What is put on record when a signature is not trusted. -/
def untrustedRecord (path : Text) : Record where
  level := .warn
  target := "warden_runtime::signature"
  message := "Signature verification failed"
  fields := [("category", .word (Failure.signature path).category), ("path", .shown path)]

/-- Carries out the rest of loading a file that a verifier has been asked about. -/
def loadJudged (a : Access) (p : ValidatedPath) (d : Disk) : Verdict → Outcome Answer
  | .trusted => a.act .read p d
  | .untrusted =>
    { result := .error (.signature p.text)
      records := [untrustedRecord p.text]
      trace := (a.told [.signatureRejected p.text]).map .tell
      disk := d }
  | .failed => { result := .error (.io .verifierFailed), disk := d }

/-- Reads a bare file name directly inside a base once the verifier trusts the file. -/
def loadVerified (a : Access) (verifier : Text → Verdict) (base name : Text) (d : Disk)
    (cwd : Path.WorkingDirectory := .at d.workingDirectory) : Outcome Answer :=
  let resolved := a.resolve true cwd base name
  match resolved.result with
  | .error f => stopped resolved f d
  | .ok p =>
    let rest := a.loadJudged p d (verifier p.text)
    after resolved { rest with trace := .ask (.verify p.text) :: rest.trace }

end Access

end Rampart.File
