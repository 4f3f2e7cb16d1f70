import Rampart.Config.Setting
import Rampart.Config.Yaml.Event

/-!
# Nodes of YAML

Events build up the nodes of documents.  A plain scalar is a truth value, a number or nothing if it
looks like one, and a tag can say what it has to be; other scalars are text.
-/

namespace Rampart.Config.Yaml

/-- A node. -/
inductive Node
  | null
  /-- Something that is not what its tag says, or an alias inside of what it stands for. -/
  | bad
  | bool (b : Bool)
  | int (n : Int)
  /-- A number with a fraction or an exponent, as it is written. -/
  | real (t : Text)
  | text (t : Text)
  | list (items : List Node)
  | table (members : List (Node × Node))

namespace Node

/-! ## Scalars -/

/-- A whole number of 64 bits. -/
def toInt64? (t : Text) : Option Int := (Text.toInt? t).filter isInt64

/-- A whole number of 64 bits in a base of at most 16, perhaps with a sign. -/
def inBase? (base : Nat) (t : Text) : Option Int :=
  let (negative, digits) := Text.signed t
  let value? (c : Char) : Option Nat := (Text.hexDigit? c).filter (· < base)
  if digits.isEmpty then none
  else do
    let n ← digits.foldlM (fun n c => do return base * n + (← value? c)) 0
    let n : Int := if negative then -n else n
    if isInt64 n then some n else none

/-- The whole number that a plain scalar denotes, in one of its forms. -/
def toWhole? (t : Text) : Option Int :=
  let special := match t with
    | '0' :: 'x' :: digits => inBase? 16 digits
    | '0' :: 'o' :: digits => inBase? 8 digits
    | '+' :: rest => toInt64? rest
    | _ => none
  special <|> toInt64? t

/-- The words for nothing. -/
def nullWords : List Text := [[], ['~'], "null".toList]

/-- The words for `true`. -/
def trueWords : List Text := ["true".toList, "True".toList, "TRUE".toList]

/-- The words for `false`. -/
def falseWords : List Text := ["false".toList, "False".toList, "FALSE".toList]

/-- The words for infinity and no number. -/
def boundlessWords : List Text :=
  [".inf".toList, ".Inf".toList, ".INF".toList, "+.inf".toList, "+.Inf".toList, "+.INF".toList,
    "-.inf".toList, "-.Inf".toList, "-.INF".toList, ".nan".toList, ".NaN".toList, ".NAN".toList]

/-- Whether a text looks like a number. -/
def isReal (t : Text) : Bool :=
  boundlessWords.contains t || (t.any Text.isDigit && (Extended.parse? t).isSome)

/-- The node of a plain scalar without a tag. -/
def ofPlain (t : Text) : Node :=
  if nullWords.contains t then .null
  else if trueWords.contains t then .bool true
  else if falseWords.contains t then .bool false
  else
    match toWhole? t with
    | some n => .int n
    | none => if isReal t then .real t else .text t

/-- The node of a plain scalar with a tag for a common type. -/
def ofTagged (suffix t : Text) : Node :=
  if suffix == "bool".toList then
    if t == "true".toList then .bool true else if t == "false".toList then .bool false else .bad
  else if suffix == "int".toList then (toInt64? t).elim .bad .int
  else if suffix == "float".toList then if isReal t then .real t else .bad
  else if suffix == "null".toList then
    if t == ['~'] || t == "null".toList then .null else .bad
  else .text t

/-- The node of a scalar. -/
def ofScalar (isPlain : Bool) (t : Text) : Option Tag → Node
  | none => if isPlain then ofPlain t else .text t
  | some tag =>
    if isPlain && tag.origin == Outline.commonTags then ofTagged tag.suffix t else .text t

/-! ## Building -/

/-- Whether two keys are the same.  Keys that are no scalars are refused later on. -/
def isSameKey : Node → Node → Bool
  | .bool a, .bool b => a == b
  | .int m, .int n => m == n
  | .real s, .real t => s == t
  | .text s, .text t => s == t
  | _, _ => false

/-- A collection that is being built, last item first, and the number of its anchor. -/
inductive Open
  | list (anchor : Nat) (items : List Node)
  | table (anchor : Nat) (members : List (Node × Node)) (key : Option Node)

/-- The documents so far, the collections that are being built, the innermost first, the root of
the present document, and the nodes with anchors. -/
structure Builder where
  documents : List Node := []
  opened : List Open := []
  root : Option Node := none
  anchored : List (Nat × Node) := []

namespace Builder

/-- A node as a key; a bad one does not count as a key. -/
def keyOf : Node → Option Node
  | .bad => none
  | n => some n

/-- Puts a node where it belongs.  A key may stand only once in its table. -/
def put (b : Builder) (anchor : Nat) (n : Node) : Option Builder :=
  let b := if anchor = 0 then b else { b with anchored := (anchor, n) :: b.anchored }
  match b.opened with
  | [] => some { b with root := some n }
  | .list a items :: rest => some { b with opened := .list a (n :: items) :: rest }
  | .table a members none :: rest => some { b with opened := .table a members (keyOf n) :: rest }
  | .table a members (some k) :: rest =>
    if members.any fun m => isSameKey m.1 k then none
    else some { b with opened := .table a ((k, n) :: members) none :: rest }

/-- Takes an event into account. -/
def step (b : Builder) : Event → Option Builder
  | .documentStart => some { b with root := none }
  | .documentEnd => some { b with documents := b.documents ++ [b.root.getD .bad], root := none }
  | .sequenceStart anchor => some { b with opened := .list anchor [] :: b.opened }
  | .mappingStart anchor => some { b with opened := .table anchor [] none :: b.opened }
  | .sequenceEnd | .mappingEnd =>
    match b.opened with
    | [] => none
    | .list anchor items :: rest => { b with opened := rest }.put anchor (.list items.reverse)
    | .table anchor members _ :: rest =>
      { b with opened := rest }.put anchor (.table members.reverse)
  | .alias anchor => b.put 0 ((b.anchored.lookup anchor).getD .bad)
  | .scalar isPlain t anchor tag => b.put anchor (ofScalar isPlain t tag)

end Builder

/-- The nodes of the documents that events tell. -/
def ofEvents? (events : List Event) : Option (List Node) := do
  return (← events.foldlM Builder.step {}).documents

/-! ## Settings -/

/-- The name that a key stands for. -/
def keyName? : Node → Option Text
  | .text t | .real t => some t
  | .int n => some (Text.ofInt n)
  | .bool b => some (if b then "true" else "false").toList
  | _ => none

mutual
/-- A node as a setting.  Infinity and no number cannot be set. -/
def toSetting? : Node → Option Setting
  | .null | .bad => some .null
  | .bool b => some (.bool b)
  | .int n => some (.int n)
  | .real t => (Extended.parse? t).map .float
  | .text t => some (.text t)
  | .list items => (toItems? items).map .list
  | .table members => (toMembers? [] members).map .table

/-- The items of a list as settings. -/
def toItems? : List Node → Option (List Setting)
  | [] => some []
  | n :: rest => do return (← toSetting? n) :: (← toItems? rest)

/-- The members of a table as settings; of two keys with one name the last one counts. -/
def toMembers? : (done : List (Text × Setting)) → List (Node × Node) →
    Option (List (Text × Setting))
  | done, [] => some done
  | done, (k, n) :: rest => do toMembers? (Setting.insert (← keyName? k) (← toSetting? n) done) rest
end

end Node

end Rampart.Config.Yaml
