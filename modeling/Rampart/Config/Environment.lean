import Rampart.Config.Setting
import Rampart.Text.Case

/-!
# Settings from the environment

A variable whose name starts with `WARDEN__`, in any case, names a setting: two underscores lead one
level down.  Its value is read as a truth value, a whole number or a number if it looks like one,
and as text otherwise.
-/

namespace Rampart.Config

/-- How the names of variables start, in lower case. -/
def variableStart : Text := "warden__"

/-- The text with each pair of underscores replaced by a point. -/
def pointed : Text → Text
  | '_' :: '_' :: rest => '.' :: pointed rest
  | c :: rest => c :: pointed rest
  | [] => []

/-- The key that a variable stands for, if it stands for one. -/
def variableKey? (name : Text) : Option Text :=
  let name := name.lower
  if variableStart.isPrefixOf name then some (pointed (name.drop variableStart.length)) else none

/-- The value of a variable. -/
def variableValue (t : Text) : Setting :=
  if t.lower = "true".toList then .bool true
  else if t.lower = "false".toList then .bool false
  else
    match (Text.toInt? t).filter isInt64 with
    | some n => .int n
    | none =>
      match Extended.parse? t with
      | some x => .float x
      | none => .text t

/-- The settings that the environment speaks of. -/
def environment (env : List (Text × Text)) : List (Text × Setting) :=
  env.filterMap fun v => (variableKey? v.1).map fun key => (key, variableValue v.2)

end Rampart.Config
