import Rampart.Config.Yaml.Node

/-!
# Settings from YAML

A YAML text holds at most one document, whose root is a mapping.
-/

namespace Rampart.Config.Yaml

/-- The nodes of the documents of a text. -/
def documents? (text : Text) : Option (List Node) := do
  Node.ofEvents? (← Event.ofTokens? (← Token.ofText? text))

/-- The settings of a text; there are none without a document. -/
def parse? (text : Text) : Option (List (Text × Setting)) := do
  match ← documents? text with
  | [] => return []
  | [root] =>
    match ← root.toSetting? with
    | .table members => return members
    | _ => none
  | _ => none

end Rampart.Config.Yaml
