import Rampart.Number.Shortest
import Rampart.Text.Quoted

/-!
# JSON values

Members of an object stand in the order in which they were written.  Numbers are whole numbers
between `-2 ^ 63` and `2 ^ 64 - 1`, or doubles.
-/

namespace Rampart

/-- A JSON number. -/
inductive JsonNumber
  | int (n : Int)
  | float (x : Binary64)
  deriving DecidableEq, Repr

/-- A JSON value. -/
inductive Json
  | null
  | bool (b : Bool)
  | num (n : JsonNumber)
  | str (s : Text)
  | arr (items : List Json)
  | obj (members : List (Text × Json))

namespace Json

instance : Inhabited Json := ⟨.null⟩

/-! ## Members -/

/-- The value of the first member with the given key. -/
def lookup (key : Text) : List (Text × Json) → Option Json
  | [] => none
  | (k, v) :: rest => if k = key then some v else lookup key rest

/-- The members with the value of `key` replaced, or with the new member at the end. -/
def insert (key : Text) (value : Json) : List (Text × Json) → List (Text × Json)
  | [] => [(key, value)]
  | (k, v) :: rest => if k = key then (k, value) :: rest else (k, v) :: insert key value rest

/-- The members without those of the given key. -/
def erase (key : Text) (members : List (Text × Json)) : List (Text × Json) :=
  members.filter fun m => m.1 != key

/-- Members as an object holds them: of several with one key the last value counts, at the place
of the first. -/
def ofMembers (members : List (Text × Json)) : Json :=
  .obj (members.foldl (fun done m => insert m.1 m.2 done) [])

/-- The member of an object; nothing for other values. -/
def get? (j : Json) (key : Text) : Option Json :=
  match j with
  | .obj members => lookup key members
  | _ => none

/-! ## Nesting -/

mutual
/-- The number of arrays and objects around the deepest place of a value. -/
def depth : Json → Nat
  | .arr items => 1 + depthItems items
  | .obj members => 1 + depthMembers members
  | _ => 0

/-- The greatest depth of the items. -/
def depthItems : List Json → Nat
  | [] => 0
  | j :: rest => max (depth j) (depthItems rest)

/-- The greatest depth of the member values. -/
def depthMembers : List (Text × Json) → Nat
  | [] => 0
  | (_, j) :: rest => max (depth j) (depthMembers rest)
end

/-! ## What a value is called in a message -/

/-- Numbers are laid out positionally from `0.00001` up to 16 whole digits. -/
def numberLayout : NumberLayout where
  positional top := -5 ≤ top && top ≤ 15
  wholePoint := true

/-- The text of a number. -/
def JsonNumber.write : JsonNumber → Text
  | .int n => Text.ofInt n
  | .float x => numberLayout.write x

/-- Text between backticks, the way messages quote values. -/
def ticked (t : Text) : Text := '\x60' :: (t ++ ['\x60'])

/-- What a value is called in a message. -/
def called : Json → Text
  | .null => "null"
  | .bool b => "boolean " ++ ticked (if b then "true" else "false").toList
  | .num (.int n) => "integer " ++ ticked (Text.ofInt n)
  | .num (.float x) => "floating point " ++ ticked (numberLayout.write x)
  | .str s => "string " ++ s.quoted
  | .arr _ => "sequence"
  | .obj _ => "map"

end Json

end Rampart
