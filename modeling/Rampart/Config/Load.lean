import Rampart.Config.Basic
import Rampart.Config.Environment
import Rampart.Config.Toml
import Rampart.Config.Yaml
import Rampart.Failure

/-!
# Loading the configuration

The configuration comes from a file in one of three formats, with the environment laid over it, or
from the environment alone.
-/

namespace Rampart.Config

/-- The formats of configuration files. -/
inductive Format
  | toml
  | yaml
  | json
  deriving DecidableEq, Repr

namespace Format

/-- The name that a path ends with; names that lead nowhere and slashes behind it do not count. -/
def fileName (path : Text) : Text :=
  (((path.splitOnP (· == '/')).filter fun n => !n.isEmpty && n != ['.']).getLast?).getD []

/-- The part of a file name behind its last point, if something stands in front of that point. -/
def extension? (path : Text) : Option Text :=
  let name := fileName path
  let extension := name.afterLast (· == '.')
  if extension.length + 1 < name.length && name != ['.', '.'] then some extension else none

/-- The extensions and their formats. -/
def extensions : List (Text × Format) :=
  [("toml", .toml), ("yaml", .yaml), ("yml", .yaml), ("json", .json)]

/-- The format of a file, told by its extension. -/
def ofPath? (path : Text) : Option Format := (extension? path).bind fun e => extensions.lookup e

mutual
/-- A JSON value as a setting. -/
def ofJson : Json → Setting
  | .null => .null
  | .bool b => .bool b
  | .num (.int n) => .int n
  | .num (.float x) => .float (.finite x)
  | .str s => .text s
  | .arr items => .list (ofItems items)
  | .obj members => .table (ofMembers members)

/-- The items of an array as settings. -/
def ofItems : List Json → List Setting
  | [] => []
  | j :: rest => ofJson j :: ofItems rest

/-- The members of an object as settings. -/
def ofMembers : List (Text × Json) → List (Text × Setting)
  | [] => []
  | (k, j) :: rest => (k, ofJson j) :: ofMembers rest
end

/-- The settings of a document in a format.  Its root has to be a table. -/
def parse? (content : Text) : Format → Option (List (Text × Setting))
  | .toml => Toml.parse? content
  | .yaml => Yaml.parse? content
  | .json =>
    match Json.parse content with
    | .ok (.obj members) => some (ofMembers members)
    | _ => none

end Format

/-- What is found under a path. -/
inductive Found
  | nothing
  | directory
  | file (content : Text)
  deriving DecidableEq, Repr

/-- A configuration file that is to be read. -/
structure Source where
  /-- The path as it is shown. -/
  path : Text
  /-- Whether the path is text. -/
  isLegible : Bool := true
  found : Found
  deriving DecidableEq, Repr

/-- The settings of a configuration file. -/
def Source.read (s : Source) : Except ConfigFault (List (Text × Setting)) :=
  if s.found = .nothing then .error (.fileNotFound s.path)
  else
    match Format.ofPath? s.path with
    | none => .error .unsupportedFormat
    | some format =>
      if s.isLegible then
        match s.found with
        | .file content => (format.parse? content.withoutMark).elim (.error .unusable) .ok
        | _ => .error .unusable
      else .error (.illegiblePath s.path)

/-- The configuration that settings and the environment over them make up. -/
def assemble (settings : List (Text × Setting)) (env : List (Text × Text)) :
    Except ConfigFault Config :=
  let root := ((Setting.table []).addSource settings).addSource (environment env)
  (read? root).elim (.error .unusable) .ok

/-- The configuration of a file, with the environment laid over it. -/
def ofFile (s : Source) (env : List (Text × Text)) : Except ConfigFault Config := do
  assemble (← s.read) env

/-- The configuration of the environment alone. -/
def ofEnvironment (env : List (Text × Text)) : Except ConfigFault Config :=
  assemble [] env

end Rampart.Config
