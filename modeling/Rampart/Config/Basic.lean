import Rampart.Audit.Config
import Rampart.Config.Setting
import Rampart.Path.Style
import Rampart.Payload.Serializer
import Rampart.Text.Case

/-!
# The configuration

The configuration has four sections.  Every section and every setting in it may be missing and then
has its default.  Settings are forgiving about their form: a truth value may be given as a number or
a word, a number as text, and text as a number.
-/

namespace Rampart.Config

/-- Settings of path building. -/
structure PathSettings where
  style : Path.Style := .native
  allowSubdirectories : Bool := false
  deriving DecidableEq, Repr

namespace PathSettings

/-- The fields of the settings, in order. -/
def fields : List (Json.Field PathSettings) := [
  .of "style" Path.Style.decode fun style s => { s with style },
  .of "allow_subdirectories" Json.toBool fun b s => { s with allowSubdirectories := b }]

/-- The settings that a JSON value gives. -/
def ofJson (j : Json) : Json.Decoding PathSettings := Json.toRecord "PathsConfig" fields {} j

end PathSettings

/-- Settings of log records. -/
structure LogSettings where
  /-- Which records are shown, unless the environment says otherwise. -/
  level : Text := "info"
  /-- Whether records are shown as JSON. -/
  json : Bool := false
  deriving DecidableEq, Repr

namespace LogSettings

/-- The fields of the settings, in order. -/
def fields : List (Json.Field LogSettings) := [
  .of "level" Json.toText fun level s => { s with level },
  .of "json" Json.toBool fun json s => { s with json }]

/-- The settings that a JSON value gives. -/
def ofJson (j : Json) : Json.Decoding LogSettings := Json.toRecord "LoggingConfig" fields {} j

end LogSettings

end Config

/-- The configuration of a program. -/
structure Config where
  paths : Config.PathSettings := {}
  payloads : Payload.Settings := {}
  audit : Audit.Config := {}
  logging : Config.LogSettings := {}
  deriving DecidableEq, Repr

namespace Config

/-! ## Writing -/

/-- The object for a configuration, with all its settings. -/
def toJson (c : Config) : Json :=
  .obj [
    ("paths", .obj [("style", .str c.paths.style.name),
      ("allow_subdirectories", .bool c.paths.allowSubdirectories)]),
    ("deserialization", .obj [("type_name_handling", .str c.payloads.tagging.name),
      ("max_depth", match c.payloads.maxDepth with
        | some n => .num (.int n)
        | none => .null)]),
    ("audit", c.audit.toJson),
    ("logging", .obj [("level", .str c.logging.level), ("json", .bool c.logging.json)])]

/-! ## Forms of a setting -/

/-- The words for `true`. -/
def yes : List Text := ["true".toList, "on".toList, "yes".toList]

/-- The words for `false`. -/
def no : List Text := ["false".toList, "off".toList, "no".toList]

/-- The greatest size. -/
def maxSize : Nat := 18446744073709551615

namespace Setting

/-- A truth value, also as a number or a word. -/
def toBool? : Setting → Option Bool
  | .bool b => some b
  | .int n => some (n != 0)
  | .float x => some x.isNonzero
  | .text t =>
    let word := Text.lower t
    if word == ['1'] || yes.contains word then some true
    else if word == ['0'] || no.contains word then some false
    else none
  | _ => none

/-- A size, which is not negative.  Numbers with a fraction are rounded, and those that are out of
range become the nearest size. -/
def toSize? : Setting → Option Nat
  | .bool b => some (if b then 1 else 0)
  | .int n => if 0 ≤ n then some n.toNat else none
  | .float x => some (x.toNat maxSize)
  | .text t =>
    let word := Text.lower t
    if yes.contains word then some 1
    else if no.contains word then some 0
    else if t.head? = some '-' then none
    else
      match Text.toInt? t with
      | some n => if n ≤ maxSize then some n.toNat else none
      | none => none
  | _ => none

/-- Text, also as a truth value or a number. -/
def toText? : Setting → Option Text
  | .text t => some t
  | .bool b => some (if b then "true" else "false").toList
  | .int n => some (Text.ofInt n)
  | .float x => some x.write
  | _ => none

/-- One of several names, given as text or as the only key of a table. -/
def toChoice? {α : Type} (choices : List (Text × α)) : Setting → Option α
  | .text t => choices.lookup t
  | .table [(name, _)] => choices.lookup name
  | _ => none

/-- Nothing for `null`, otherwise a value. -/
def toOption? {α : Type} (read : Setting → Option α) : Setting → Option (Option α)
  | .null => some none
  | s => (read s).map some

/-- How the settings of a section are looked up: in a table by name, in a list by their order. -/
def fields? (order : List Text) : Setting → Option (Text → Option Setting)
  | .table ms => some fun name => lookup name ms
  | .list xs => some fun name => (order.zip xs).lookup name
  | _ => none

end Setting

/-- A setting of a section, or its default. -/
def setting {α : Type} (get : Text → Option Setting) (name : Text) (read : Setting → Option α)
    (default : α) : Option α :=
  match get name with
  | some s => read s
  | none => some default

/-! ## Reading sections -/

namespace PathSettings

/-- Reads the section about paths. -/
def read? (s : Setting) : Option PathSettings := do
  let get ← s.fields? (fields.map Json.Field.name)
  let d : PathSettings := {}
  return {
    style := ← setting get "style" (Setting.toChoice? Path.Style.choices) d.style
    allowSubdirectories := ← setting get "allow_subdirectories" Setting.toBool?
      d.allowSubdirectories }

end PathSettings

/-- Reads the section about payloads. -/
def readPayloads? (s : Setting) : Option Payload.Settings := do
  let get ← s.fields? (Payload.Settings.fields.map Json.Field.name)
  let d : Payload.Settings := {}
  return {
    tagging := ← setting get "type_name_handling" (Setting.toChoice? Payload.Tagging.choices)
      d.tagging
    maxDepth := ← setting get "max_depth" (Setting.toOption? Setting.toSize?) d.maxDepth }

/-- Reads the section about the audit log. -/
def readAudit? (s : Setting) : Option Audit.Config := do
  let get ← s.fields? (Audit.Config.fields.map Json.Field.name)
  let d : Audit.Config := {}
  return {
    logToStdout := ← setting get "log_to_stdout" Setting.toBool? d.logToStdout
    logToFile := ← setting get "log_to_file" (Setting.toOption? Setting.toText?) d.logToFile
    bufferSize := ← setting get "buffer_size" Setting.toSize? d.bufferSize
    enableAlerting := ← setting get "enable_alerting" Setting.toBool? d.enableAlerting }

namespace LogSettings

/-- Reads the section about log records. -/
def read? (s : Setting) : Option LogSettings := do
  let get ← s.fields? (fields.map Json.Field.name)
  let d : LogSettings := {}
  return {
    level := ← setting get "level" Setting.toText? d.level
    json := ← setting get "json" Setting.toBool? d.json }

end LogSettings

/-- Reads the configuration from the settings of all sources.  Keys that mean nothing are passed
over. -/
def read? (root : Setting) : Option Config := do
  let get (name : Text) := Setting.lookup name root.members
  return {
    paths := ← setting get "paths" PathSettings.read? {}
    payloads := ← setting get "deserialization" readPayloads? {}
    audit := ← setting get "audit" readAudit? {}
    logging := ← setting get "logging" LogSettings.read? {} }

end Config

end Rampart
