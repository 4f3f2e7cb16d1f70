import Rampart.Failure
import Rampart.Json.Printer
import Rampart.Type.AllowList

/-!
# Payloads with type tags

A payload may tag its objects with type names.  A serializer takes such names only from its
allow-list: every tag of a payload is looked up before anything is decoded, and tags are then taken
out of the document.  Written values are tagged with the name that their type is trusted under.
-/

namespace Rampart.Payload

/-- The member that holds a type tag. -/
def typeKey : Text := "$type"

/-- The member that holds the content of a tagged value that is no object. -/
def valuesKey : Text := "$values"

/-! ## Settings -/

/-- Which values are tagged when they are written.  Tags are read unless this is `none`. -/
inductive Tagging
  | none
  | objects
  | arrays
  | all
  | auto
  deriving DecidableEq, Repr

namespace Tagging

/-- The name as it stands in a configuration. -/
def name : Tagging → Text
  | .none => "none"
  | .objects => "objects"
  | .arrays => "arrays"
  | .all => "all"
  | .auto => "auto"

/-- The name as it stands in messages. -/
def shown : Tagging → Text
  | .none => "None"
  | .objects => "Objects"
  | .arrays => "Arrays"
  | .all => "All"
  | .auto => "Auto"

/-- All choices, by name. -/
def choices : List (Text × Tagging) :=
  [Tagging.none, .objects, .arrays, .all, .auto].map fun t => (t.name, t)

/-- Whether tags are handled at all. -/
def isEnabled (t : Tagging) : Bool := t != .none

/-- Whether objects are tagged. -/
def tagsObjects : Tagging → Bool
  | .objects | .all | .auto => true
  | _ => false

/-- Whether arrays are tagged. -/
def tagsArrays : Tagging → Bool
  | .arrays | .all | .auto => true
  | _ => false

end Tagging

/-- The settings of a serializer. -/
structure Settings where
  tagging : Tagging := .none
  /-- How deep a payload may be nested, if there is a limit. -/
  maxDepth : Option Nat := some 64
  deriving DecidableEq, Repr

namespace Settings

/-- The fields of the settings, in order. -/
def fields : List (Json.Field Settings) := [
  .of "type_name_handling" (Json.toChoice Tagging.choices) fun t s => { s with tagging := t },
  .of "max_depth" (Json.toOption Json.toSize) fun n s => { s with maxDepth := n }]

/-- The settings that a JSON value gives. -/
def ofJson (j : Json) : Json.Decoding Settings := Json.toRecord "DeserializationConfig" fields {} j

end Settings

/-- An allow-list, if there is one, the settings, and whether an audit log is attached. -/
structure Serializer (C : Catalogue) where
  allowList : Option (AllowList C)
  settings : Settings
  audited : Bool := false

variable {C : Catalogue}

/-! ## Taking tags out -/

section

variable {m : Type → Type} [Monad m] (resolve : Json → m (Descriptor C))

mutual
/-- Resolves every tag of a value, an object before its members, and takes the tags out.  A tagged
object with content in `$values` becomes that content.  Also gives the type of the value itself. -/
def bindTreeWith : Json → m (Json × Option (Descriptor C))
  | .arr items => do
    let items ← bindItemsWith items
    return (.arr items, none)
  | .obj members => do
    match Json.lookup typeKey members with
    | some tag =>
      let d ← resolve tag
      let members ← bindMembersWith members
      match Json.lookup valuesKey members with
      | some content => return (content, some d)
      | none => return (.obj members, some d)
    | none =>
      let members ← bindMembersWith members
      return (.obj members, none)
  | j => return (j, none)

/-- Takes the tags out of the items of an array. -/
def bindItemsWith : List Json → m (List Json)
  | [] => return []
  | j :: rest => do
    let (j, _) ← bindTreeWith j
    let rest ← bindItemsWith rest
    return j :: rest

/-- Takes the tags out of the members of an object, its own tag included. -/
def bindMembersWith : List (Text × Json) → m (List (Text × Json))
  | [] => return []
  | (k, j) :: rest => do
    if k = typeKey then bindMembersWith rest
    else
      let (j, _) ← bindTreeWith j
      let rest ← bindMembersWith rest
      return (k, j) :: rest
end

end

mutual
/-- A value with all type tags erased: no `$type` anywhere, and a tagged object with `$values`
replaced by what stands there. -/
def erase : Json → Json
  | .arr items => .arr (eraseItems items)
  | .obj members =>
    let erased := eraseMembers members
    match Json.lookup typeKey members, Json.lookup valuesKey erased with
    | some _, some content => content
    | _, _ => .obj erased
  | j => j

/-- The items of an array with all type tags erased. -/
def eraseItems : List Json → List Json
  | [] => []
  | j :: rest => erase j :: eraseItems rest

/-- The members of an object with all type tags erased, its own included. -/
def eraseMembers : List (Text × Json) → List (Text × Json)
  | [] => []
  | (k, j) :: rest => if k = typeKey then eraseMembers rest else (k, erase j) :: eraseMembers rest
end

/-! ## Putting tags in -/

/-- The document that is written for the value `j` of a type trusted under `tag`. -/
def attachTag (tagging : Tagging) (tag : Text) (j : Json) : Json :=
  match j with
  | .obj members =>
    if tagging.tagsObjects then Json.ofMembers ((typeKey, .str tag) :: members) else j
  | .arr items =>
    if tagging.tagsArrays then .obj [(typeKey, .str tag), (valuesKey, .arr items)] else j
  | j => j

/-- A value together with its trusted type. -/
structure Bound (C : Catalogue) where
  descriptor : Descriptor C
  value : C.Value descriptor.code

namespace Bound

/-- The value, if it is of the given type. -/
def downcast (b : Bound C) (c : C.Code) : Option (C.Value c) :=
  if h : b.descriptor.code = c then some (h ▸ b.value) else none

/-- A bound value is of the type that its descriptor tells. -/
@[simp] theorem downcast_code (b : Bound C) : b.downcast b.descriptor.code = some b.value := by
  rw [downcast, dif_pos rfl]

/-- The bound value as it is shown in messages. -/
def shown (b : Bound C) : Text :=
  "BoundValue \x7b descriptor: " ++ b.descriptor.shown ++ ", .. \x7d"

end Bound

namespace Serializer

/-! ## Making a serializer -/

/-- A serializer with the default settings; tags are handled when there is an allow-list. -/
def new (allowList : Option (AllowList C)) : Serializer C :=
  { allowList, settings := { tagging := if allowList.isSome then .auto else .none } }

/-- The same serializer with an audit log attached. -/
def withAudit (s : Serializer C) : Serializer C := { s with audited := true }

/-- The incidents of an audited serializer; others hand over nothing. -/
def told (s : Serializer C) (incidents : List Audit.Incident) : List Audit.Incident :=
  if s.audited then incidents else []

/-- What happens when something insecure is asked for. -/
def insecure {α : Type} (s : Serializer C) (details : Text) : Report α where
  result := .error (.refused (.insecure details))
  records :=
    [{ level := .warn
       target := "warden_runtime::deserialize"
       message := "Serializer configuration rejected"
       fields := [("category", .word Kind.insecureConfiguration.category),
         ("details", .shown details)] }]
  incidents := s.told [.insecureConfiguration details]

/-- The serializer with other settings.  Tags cannot be handled without an allow-list. -/
def withSettings (s : Serializer C) (settings : Settings) : Report (Serializer C) :=
  if settings.tagging.isEnabled && s.allowList.isNone then
    s.insecure ("type name handling '" ++ settings.tagging.shown
      ++ "' requires an allow-list binder")
  else { result := .ok { s with settings } }

/-- A serializer from its configuration. -/
def ofSettings (settings : Settings) (allowList : Option (AllowList C)) (audited : Bool) :
    Report (Serializer C) :=
  { new allowList with audited }.withSettings settings

/-- The allow-list, if tags are handled. -/
def active (s : Serializer C) : Option (AllowList C) :=
  if s.settings.tagging.isEnabled then s.allowList else none

/-! ## Reading -/

/-- The document of a payload, which may not be blank or nested too deep. -/
def readDocument (s : Serializer C) (payload : Text) : Except Failure Json := do
  if payload.isBlank then throw (.refused .blankPayload)
  let j ← (Json.parse payload).mapError fun e => .payload (.malformed e)
  match s.settings.maxDepth with
  | some limit => if limit < j.depth then throw (.payload (.tooDeep j.depth limit)) else return j
  | none => return j

/-- The trusted type that a tag names.  A tag without one is put on record and handed to the audit
log where it is met. -/
def resolveTag (s : Serializer C) (l : AllowList C) : Json → Report (Descriptor C)
  | .str tag =>
    let key := TypeName.tagKey tag
    match l.resolve key with
    | .ok d => .ofResult (.ok d)
    | .error r =>
      { result := .error (.refused r)
        records := [AllowList.unknownRecord key]
        incidents := s.told [.typeRejected key.identity key.name] }
  | other => .ofResult (.error (.payload (.tagNotText other.write)))

/-- Takes the tags out of a document. -/
def takeTags (s : Serializer C) (l : AllowList C) : Json → Report (Json × Option (Descriptor C)) :=
  bindTreeWith (s.resolveTag l)

/-- What is put on record when a tagged payload was decoded. -/
def boundRecord (d : Descriptor C) : Record where
  level := .debug
  target := "warden_runtime::deserialize"
  message := "Payload bound to allow-listed type"
  fields := [("type_name", .word d.name)]

/-- The value of a type from JSON. -/
def decode (c : C.Code) (j : Json) : Except Failure (C.Value c) :=
  (C.decode c j).mapError fun m => .payload (.mismatch m)

/-- The value of the type that the root was tagged with, from a document whose tags were taken
out. -/
def readBound (j : Json) : Option (Descriptor C) → Report (Bound C)
  | none => .ofResult (.error (.payload .untagged))
  | some d => do
    let v ← Report.ofResult (decode d.code j)
    Report.note (boundRecord d)
    return ⟨d, v⟩

/-- The value of a type from a document whose tags were taken out.  If the root was tagged, the tag
has to agree, and so has what its decoder gives. -/
def readAs (c : C.Code) (j : Json) : Option (Descriptor C) → Report (C.Value c)
  | none => .ofResult (decode c j)
  | some d =>
    if d.code = c then do
      let b ← readBound j (some d)
      match b.downcast c with
      | some v => return v
      | none => .ofResult (.error (.payload (.unexpectedType d.identity)))
    else .ofResult (.error (.payload (.otherType d.identity (C.fullName c))))

/-- Reads a payload as a value of the given type.  A tag at the root has to agree with it. -/
def deserialize (s : Serializer C) (c : C.Code) (payload : Text) : Report (C.Value c) := do
  let j ← Report.ofResult (s.readDocument payload)
  match s.active with
  | none => Report.ofResult (decode c j)
  | some l =>
    let r ← s.takeTags l j
    readAs c r.1 r.2

/-- Reads a payload as a value of the type that its root is tagged with. -/
def deserializeBound (s : Serializer C) (payload : Text) : Report (Bound C) :=
  match s.active with
  | none =>
    s.insecure "type-directed binding requires an allow-list binder and type name handling"
  | some l => do
    let j ← Report.ofResult (s.readDocument payload)
    let r ← s.takeTags l j
    readBound r.1 r.2

/-! ## Writing -/

/-- Writes a value, tagged with the name that its type is trusted under. -/
def serializeTagged (s : Serializer C) (c : C.Code) (v : C.Value c) : Report Text :=
  match s.active with
  | none => s.insecure "type names cannot be written without an allow-list binder"
  | some l =>
    let tag := (l.describe (.of c)).identity
    match C.encode c v with
    | .error m => { result := .error (.payload (.mismatch m)) }
    | .ok j => { result := .ok (attachTag s.settings.tagging tag j).write }

end Serializer

end Rampart.Payload
