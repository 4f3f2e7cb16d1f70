import Rampart.Audit.Incident
import Rampart.Audit.Timestamp
import Rampart.Json.Decode
import Rampart.Json.Printer
import Rampart.Json.Reader

/-!
# Audit events

An event is an incident with the time at which it happened.  In the audit log it is a JSON object
whose member `event_type` tells the kind of incident.  Events are read back from such objects, and
also from arrays that hold the kind and the values of the fields in order.
-/

namespace Rampart.Audit

open Json

/-! ## Kinds of incidents -/

/-- The kinds of incidents. -/
inductive IncidentKind
  | pathValidated
  | pathRejected
  | typeRejected
  | insecureConfiguration
  | accessGranted
  | signatureRejected
  | auditFailure
  deriving DecidableEq, Repr

namespace IncidentKind

/-- All kinds, in order. -/
def all : List IncidentKind :=
  [.pathValidated, .pathRejected, .typeRejected, .insecureConfiguration, .accessGranted,
    .signatureRejected, .auditFailure]

/-- The name of a kind in the log. -/
def name : IncidentKind → Text
  | .pathValidated => "PathValidated"
  | .pathRejected => "PathRejected"
  | .typeRejected => "TypeResolutionRejected"
  | .insecureConfiguration => "InsecureConfigurationRejected"
  | .accessGranted => "FileAccessGranted"
  | .signatureRejected => "SignatureRejected"
  | .auditFailure => "AuditSystemFailure"

/-- The names of the fields of a kind, in order. -/
def fields : IncidentKind → List Text
  | .pathValidated => ["path".toList]
  | .pathRejected => ["base".toList, "attempted".toList, "category".toList, "reason".toList]
  | .typeRejected => ["assembly".toList, "type_name".toList]
  | .insecureConfiguration => ["details".toList]
  | .accessGranted => ["path".toList, "operation".toList]
  | .signatureRejected => ["path".toList]
  | .auditFailure => ["error".toList]

/-- The kind with the given name. -/
def ofName (name : Text) : Decoding IncidentKind :=
  match all.find? fun k => k.name == name with
  | some k => .ok k
  | none => .error (.unknownVariant name (all.map IncidentKind.name))

/-- A kind is told by its name. -/
theorem ofName_name (k : IncidentKind) : ofName k.name = .ok k := by
  cases k <;> rfl

end IncidentKind

namespace Incident

/-- The kind of an incident. -/
def kind : Incident → IncidentKind
  | .pathValidated _ => .pathValidated
  | .pathRejected .. => .pathRejected
  | .typeRejected .. => .typeRejected
  | .insecureConfiguration _ => .insecureConfiguration
  | .accessGranted .. => .accessGranted
  | .signatureRejected _ => .signatureRejected
  | .auditFailure _ => .auditFailure

/-- The values of the fields, in order. -/
def values : Incident → List Text
  | .pathValidated path => [path]
  | .pathRejected base attempted category reason => [base, attempted, category, reason]
  | .typeRejected assembly typeName => [assembly, typeName]
  | .insecureConfiguration details => [details]
  | .accessGranted path operation => [path, operation]
  | .signatureRejected path => [path]
  | .auditFailure error => [error]

/-- The incident of a kind with the given values. -/
def ofValues? : IncidentKind → List Text → Option Incident
  | .pathValidated, [path] => some (.pathValidated path)
  | .pathRejected, [base, attempted, category, reason] =>
    some (.pathRejected base attempted category reason)
  | .typeRejected, [assembly, typeName] => some (.typeRejected assembly typeName)
  | .insecureConfiguration, [details] => some (.insecureConfiguration details)
  | .accessGranted, [path, operation] => some (.accessGranted path operation)
  | .signatureRejected, [path] => some (.signatureRejected path)
  | .auditFailure, [error] => some (.auditFailure error)
  | _, _ => none

/-- An incident is told by its kind and its values. -/
theorem ofValues?_values (i : Incident) : ofValues? i.kind i.values = some i := by
  cases i <;> rfl

/-- There is a value for each field. -/
theorem length_values (i : Incident) : i.values.length = i.kind.fields.length := by
  cases i <;> rfl

/-- The named fields, in order. -/
def named (i : Incident) : List (Text × Text) := i.kind.fields.zip i.values

end Incident

/-- An incident and its time. -/
structure Event where
  incident : Incident
  timestamp : Timestamp
  deriving DecidableEq

/-! ## Writing -/

/-- The member that tells the kind. -/
def kindKey : Text := "event_type"

/-- The member that tells the time. -/
def timeKey : Text := "timestamp"

/-- The object for an incident at the time with the given text. -/
def Incident.toJson (i : Incident) (time : Text) : Json :=
  .obj ((kindKey, .str i.kind.name) :: i.named.map (fun f => (f.1, .str f.2))
    ++ [(timeKey, .str time)])

/-- An incident at the time with the given text, as it is shown in messages. -/
def Incident.shown (i : Incident) (time : Text) : Text :=
  let field (f : Text × Text) : Text := f.1 ++ ": " ++ f.2.quoted ++ ", "
  i.kind.name ++ " \x7b " ++ i.named.flatMap field ++ "timestamp: " ++ time ++ " \x7d"

namespace Event

/-- The object for an event. -/
def toJson (e : Event) : Json := e.incident.toJson e.timestamp.write

/-- The line of an event in the audit log. -/
def line (e : Event) : Text := e.toJson.write ++ ['\n']

/-- An event as it is shown in messages. -/
def shown (e : Event) : Text := e.incident.shown e.timestamp.write

/-! ## Reading from values -/

/-- Reads a time. -/
def decodeTime : Json → Decoding Timestamp
  | .str s => (Timestamp.parse s).mapError fun f => .other f.message
  | j => unexpected j "an RFC 3339 formatted date and time string"

/-- The fields that have been found so far. -/
structure Found where
  texts : List (Text × Text) := []
  time : Option Timestamp := none

/-- Takes one member into account: a field of the kind may stand only once, and other members are
passed over. -/
def take (kind : IncidentKind) (found : Found) (key : Text) (j : Json) : Decoding Found := do
  if key = timeKey then
    if found.time.isSome then throw (.duplicateField key)
    return { found with time := some (← decodeTime j) }
  else if kind.fields.contains key then
    if (found.texts.lookup key).isSome then throw (.duplicateField key)
    return { found with texts := found.texts ++ [(key, ← toText j)] }
  else return found

/-- The values of the fields, in order. -/
def valuesOf (found : Found) (fields : List Text) : Decoding (List Text) :=
  fields.mapM fun f =>
    match found.texts.lookup f with
    | some v => .ok v
    | none => .error (.missingField f)

/-- The event of a kind with the given values and time. -/
def assemble (kind : IncidentKind) (values : List Text) (time : Timestamp) : Decoding Event :=
  match Incident.ofValues? kind values with
  | some i => .ok ⟨i, time⟩
  | none => .error (.missingField timeKey)

/-- Reads an event of a known kind from the members of an object. -/
def ofMembers (kind : IncidentKind) (members : List (Text × Json)) : Decoding Event := do
  let found ← members.foldlM (fun found m => take kind found m.1 m.2) {}
  let values ← valuesOf found kind.fields
  match found.time with
  | some time => assemble kind values time
  | none => throw (.missingField timeKey)

/-- Reads the values of fields from items, from the given position on. -/
def readItems (expected : Text) :
    (position : Nat) → (fields : List Text) → List Json → Decoding (List Text × List Json)
  | _, [], items => .ok ([], items)
  | n, _ :: _, [] => .error (.wrongLength n expected)
  | n, _ :: fields, j :: items => do
    let v ← toText j
    let (vs, rest) ← readItems expected (n + 1) fields items
    return (v :: vs, rest)

/-- Reads an event of a known kind from the items of an array. -/
def ofItems (kind : IncidentKind) (items : List Json) : Decoding Event := do
  let count := kind.fields.length + 1
  let expected : Text :=
    "struct variant SecurityEvent::" ++ kind.name ++ " with " ++ Text.ofNat count ++ " elements"
  let (values, rest) ← readItems expected 0 kind.fields items
  match rest with
  | [] => throw (.wrongLength kind.fields.length expected)
  | j :: more =>
    let time ← decodeTime j
    if more.isEmpty then assemble kind values time
    else throw (.wrongLength items.length (Text.ofNat count ++ " elements in sequence"))

/-- Reads the name of a kind. -/
def decodeKind : Json → Decoding IncidentKind
  | .str s => IncidentKind.ofName s
  | j => unexpected j "variant identifier"

/-- What a value is expected to be that is neither object nor array. -/
def expectedForm : Text := "internally tagged enum SecurityEvent"

/-- Reads an event from a JSON value. -/
def ofJson : Json → Decoding Event
  | .obj members => do
    match lookup kindKey members with
    | some j => ofMembers (← decodeKind j) (Json.erase kindKey members)
    | none => throw (.missingField kindKey)
  | .arr [] => .error (.missingField kindKey)
  | .arr (j :: items) => do ofItems (← decodeKind j) items
  | j => unexpected j expectedForm

/-! ## Reading from text -/

/-- What can stop reading an event from text. -/
inductive Fault
  | malformed (f : SyntaxFault)
  | mismatch (m : Mismatch)
  deriving DecidableEq, Repr

/-- The words for a fault. -/
def Fault.message : Fault → Text
  | .malformed f => f.message
  | .mismatch m => m.message

/-- Reading that stops at a place of the text. -/
abbrev Located := Except (At Fault)

/-- Reading of JSON as part of reading an event. -/
def lift {α : Type} : Reading α → Located α
  | .ok a => .ok a
  | .error e => .error ⟨.malformed e.fault, e.place⟩

/-- A mismatch noticed in front of `rest`. -/
def mismatchAt {α : Type} (rest : Text) : Decoding α → Located α
  | .ok a => .ok a
  | .error m => stop (.mismatch m) rest

/-- Reads the name of a kind where the text tells it.  Of an array or an object not even the bracket
is read. -/
def readKind (fuel : Nat) (t : Text) : Located (IncidentKind × Text) := do
  match skipBlanks t with
  | '[' :: rest => mismatchAt ('[' :: rest) (unexpected (.arr []) "variant identifier")
  | '{' :: rest => mismatchAt ('{' :: rest) (unexpected (.obj []) "variant identifier")
  | t =>
    let (j, rest) ← lift (value false fuel 0 t)
    return (← mismatchAt rest (decodeKind j), rest)

/-- The text behind a closing bracket that comes next, or else from the next character on. -/
def past (bracket : Char) (t : Text) : Text :=
  match skipBlanks t with
  | c :: rest => if c = bracket then rest else c :: rest
  | [] => []

/-- Reads the members of an event: its kind, if told, and the other members. -/
def readMembers (room : Nat) : (fuel : Nat) → (first : Bool) → Option IncidentKind → Text →
    Located (Option IncidentKind × List (Text × Json) × Text)
  | 0, _, _, _ => stop (.malformed .endInObject) []
  | fuel + 1, first, kind, t => do
    let (more, rest) ← lift (nextKey first t)
    if more then
      let (key, rest) ← lift (stringBody rest)
      if key = kindKey then
        if kind.isSome then mismatchAt (past '}' rest) (.error (.duplicateField kindKey))
        let (_, rest) ← lift (colon rest)
        let (k, rest) ← readKind fuel rest
        readMembers room fuel false (some k) rest
      else
        let (_, rest) ← lift (colon rest)
        let (j, rest) ← lift (value false (2 * rest.length + 2) room rest)
        let (kind, members, rest) ← readMembers room fuel false kind rest
        return (kind, (key, j) :: members, rest)
    else return (kind, [], rest.drop 1)

/-- Why a text is no event. -/
inductive ReadError
  /-- A fault at a place of the text. -/
  | located (f : Fault) (p : Position)
  /-- A fault of the content as a whole. -/
  | content (m : Mismatch)
  deriving DecidableEq, Repr

/-- The words for an error, with the place if it has one. -/
def ReadError.message : ReadError → Text
  | .located f p => f.message ++ p.suffix
  | .content m => m.message

/-- Reads the outer form of an event: its kind and what else it holds, still to be decoded. -/
def readForm (text : Text) : Located (Decoding Event × Text) := do
  let fuel := 2 * text.length + 2
  match skipBlanks text with
  | '{' :: rest =>
    let (kind, members, rest) ← readMembers (maxRoom - 1) fuel true none rest
    match kind with
    | some k => return (ofMembers k members, rest)
    | none => mismatchAt rest (.error (.missingField kindKey))
  | '[' :: rest =>
    let (more, rest) ← lift (nextItem true rest)
    if more then
      let (k, rest) ← readKind fuel rest
      let (items, rest) ← lift (items false fuel (maxRoom - 1) false rest)
      return (ofItems k items, rest)
    else mismatchAt (rest.drop 1) (.error (.missingField kindKey))
  | t =>
    let (j, rest) ← lift (value false fuel 0 t)
    mismatchAt rest (unexpected j expectedForm)

/-- Reads an event from a text that holds nothing else. -/
def parse (text : Text) : Except ReadError Event := do
  let located {α : Type} (r : Located α) : Except ReadError α :=
    r.mapError fun e => .located e.fault (e.position text)
  let (event, rest) ← located (readForm text)
  let event ← event.mapError ReadError.content
  located (lift (finish event rest))

end Event

end Rampart.Audit
