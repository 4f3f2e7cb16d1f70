import Rampart.Json.Decode

/-!
# Shapes of plain data

A shape says what JSON a plain data type is decoded from.  Reading a value against a shape gives
the value in the form that the type is written in: the members of a record in the order of its
fields, unknown members left out, the keys of a dictionary in order.
-/

namespace Rampart

/-- The shapes of plain data. -/
inductive Shape
  /-- Any JSON value. -/
  | any
  | bool
  | text
  /-- The whole numbers between two bounds, under the name of their type. -/
  | int (low high : Int) (name : Text)
  | option (content : Shape)
  | list (item : Shape)
  /-- As many items as the first number says. -/
  | array (count : Nat) (item : Shape)
  | tuple (items : List Shape)
  | dictionary (value : Shape)
  | record (name : Text) (fields : List (Text × Shape))

namespace Shape

open Json

/-- Whether a missing field counts as `null`. -/
def isOption : Shape → Bool
  | .option _ => true
  | _ => false

/-- The words for a number of elements. -/
def elements (n : Nat) : Text := Text.ofNat n ++ (if n = 1 then " element" else " elements").toList

/-- Refuses items that were left over. -/
def noMore (total : Nat) : List Json → Decoding Unit
  | [] => .ok ()
  | _ :: _ => .error (.wrongLength total "fewer elements in array")

/-- The fields of a record in their order, taken from the members that were found. -/
def collect (found : List (Text × Json)) : List (Text × Shape) → Decoding (List (Text × Json))
  | [] => .ok []
  | (name, shape) :: rest => do
    let j ← match lookup name found with
      | some j => pure j
      | none => if shape.isOption then pure .null else throw (.missingField name)
    return (name, j) :: (← collect found rest)

mutual
/-- Reads a value against a shape. -/
def read : Shape → Json → Decoding Json
  | .any, j => unwrap j
  | .bool, j => (toBool j).map .bool
  | .text, j => (toText j).map .str
  | .int low high name, j => (toInt low high name j).map fun n => .num (.int n)
  | .option content, j =>
    match j with
    | .null => .ok .null
    | j => read content j
  | .list item, j =>
    match j with
    | .arr items => (items.mapM fun j => read item j).map .arr
    | j => unexpected j "a sequence"
  | .array count item, j =>
    let expected : Text := "an array of length " ++ Text.ofNat count
    match j with
    | .arr items => do
      let front ← (items.take count).mapM fun j => read item j
      if items.length < count then throw (.wrongLength items.length expected)
      noMore items.length (items.drop count)
      return .arr front
    | j => unexpected j expected
  | .tuple shapes, j =>
    let expected : Text := "a tuple of size " ++ Text.ofNat shapes.length
    match j with
    | .arr items => do
      let front ← readTuple expected 0 shapes items
      noMore items.length (items.drop shapes.length)
      return .arr front
    | j => unexpected j expected
  | .dictionary value, j =>
    match j with
    | .obj members => do
      let members ← members.mapM fun m => do return (m.1, ← read value m.2)
      return .obj (members.mergeSort fun a b => !Text.before b.1 a.1)
    | j => unexpected j "a map"
  | .record name fields, j =>
    let expected : Text := "struct " ++ name
    match j with
    | .arr items => do
      let front ← readFields (expected ++ " with " ++ elements fields.length) 0 fields items
      noMore items.length (items.drop fields.length)
      return .obj front
    | .obj members => do
      let found ← members.foldlM (fun done m =>
        match readField fields m.1 m.2 with
        | none => pure done
        | some r => do return done ++ [(m.1, ← r)]) []
      return .obj (← collect found fields)
    | j => unexpected j expected

/-- Reads items one by one against shapes, from the given position on. -/
def readTuple (expected : Text) : (position : Nat) → List Shape → List Json → Decoding (List Json)
  | _, [], _ => .ok []
  | n, _ :: _, [] => .error (.wrongLength n expected)
  | n, shape :: shapes, j :: items => do
    let j ← read shape j
    return j :: (← readTuple expected (n + 1) shapes items)

/-- Reads items one by one as the fields of a record, from the given position on. -/
def readFields (expected : Text) :
    (position : Nat) → List (Text × Shape) → List Json → Decoding (List (Text × Json))
  | _, [], _ => .ok []
  | n, _ :: _, [] => .error (.wrongLength n expected)
  | n, (name, shape) :: fields, j :: items => do
    let j ← read shape j
    return (name, j) :: (← readFields expected (n + 1) fields items)

/-- Reads a member as the field with its key, if the record has that field. -/
def readField : List (Text × Shape) → Text → Json → Option (Decoding Json)
  | [], _, _ => none
  | (name, shape) :: fields, key, j =>
    if name = key then some (read shape j) else readField fields key j
end

end Shape

end Rampart
