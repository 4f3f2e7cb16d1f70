import Rampart.Json.Reader

/-!
# Decoding JSON values

Turning a JSON value into something of a given shape can fail in a handful of ways.  This module
has the ways and their wording, and the readers for the plain shapes.
-/

namespace Rampart.Json

/-- The ways in which a value fails to have a shape. -/
inductive Mismatch
  | wrongType (found expected : Text)
  | wrongValue (found expected : Text)
  | wrongLength (count : Nat) (expected : Text)
  | missingField (name : Text)
  | duplicateField (name : Text)
  | unknownVariant (name : Text) (known : List Text)
  /-- A reason in the words of the shape itself. -/
  | other (reason : Text)
  deriving DecidableEq, Repr

/-- The known names of a choice, as a message lists them. -/
def alternatives : List Text → Text
  | [] => "there are no variants"
  | [a] => "expected " ++ ticked a
  | [a, b] => "expected " ++ ticked a ++ " or " ++ ticked b
  | names => "expected one of " ++ List.intercalate ", ".toList (names.map ticked)

/-- The words for a mismatch. -/
def Mismatch.message : Mismatch → Text
  | .wrongType found expected => "invalid type: " ++ found ++ ", expected " ++ expected
  | .wrongValue found expected => "invalid value: " ++ found ++ ", expected " ++ expected
  | .wrongLength n expected => "invalid length " ++ Text.ofNat n ++ ", expected " ++ expected
  | .missingField name => "missing field " ++ ticked name
  | .duplicateField name => "duplicate field " ++ ticked name
  | .unknownVariant name known => "unknown variant " ++ ticked name ++ ", " ++ alternatives known
  | .other reason => reason

/-- Decoding gives a value or a mismatch. -/
abbrev Decoding := Except Mismatch

/-- A value that is not of the expected type. -/
def unexpected {α : Type} (j : Json) (expected : Text) : Decoding α :=
  .error (.wrongType j.called expected)

/-! ## Values that are written as text -/

mutual
/-- A value with everything read that is written as text in it.  Nothing may stand beside what is
written that way. -/
def unwrap : Json → Decoding Json
  | .arr items => do return .arr (← unwrapItems items)
  | .obj [] => .ok (.obj [])
  | .obj ((key, j) :: rest) => do
    if key = wrapMark then
      let content ← match j with
        | .str text => (parse text).mapError fun e => .other e.message
        | j => unexpected j "raw value"
      if rest.isEmpty then return content
      else throw (.wrongLength (rest.length + 1) "fewer elements in map")
    else return .obj ((key, ← unwrap j) :: (← unwrapMembers rest))
  | j => .ok j

/-- The items of an array with everything read that is written as text in them. -/
def unwrapItems : List Json → Decoding (List Json)
  | [] => .ok []
  | j :: rest => do return (← unwrap j) :: (← unwrapItems rest)

/-- Members of an object with everything read that is written as text in their values. -/
def unwrapMembers : List (Text × Json) → Decoding (List (Text × Json))
  | [] => .ok []
  | (key, j) :: rest => do return (key, ← unwrap j) :: (← unwrapMembers rest)
end

/-! ## Plain shapes -/

/-- A string. -/
def toText : Json → Decoding Text
  | .str s => .ok s
  | j => unexpected j "a string"

/-- A truth value. -/
def toBool : Json → Decoding Bool
  | .bool b => .ok b
  | j => unexpected j "a boolean"

/-- A whole number between two bounds; the name of the type stands in messages. -/
def toInt (low high : Int) (name : Text) : Json → Decoding Int
  | .num (.int n) =>
    if low ≤ n ∧ n ≤ high then .ok n else .error (.wrongValue (called (.num (.int n))) name)
  | j => unexpected j name

/-- A size of 64 bits. -/
def toSize (j : Json) : Decoding Nat := (toInt 0 18446744073709551615 "usize" j).map Int.toNat

/-- The text of a path. -/
def toPath : Json → Decoding Text
  | .str s => .ok s
  | j => unexpected j "path string"

/-- Nothing for `null`, otherwise a value. -/
def toOption {α : Type} (decode : Json → Decoding α) : Json → Decoding (Option α)
  | .null => .ok none
  | j => (decode j).map some

/-- One of several names, written as a string or as the only key of an object with value `null`. -/
def toChoice {α : Type} (choices : List (Text × α)) (j : Json) : Decoding α := do
  let pick (name : Text) : Decoding α :=
    match choices.find? fun c => c.1 == name with
    | some c => .ok c.2
    | none => .error (.unknownVariant name (choices.map (·.1)))
  match j with
  | .str name => pick name
  | .obj [(name, content)] =>
    let a ← pick name
    match content with
    | .null => return a
    | j => unexpected j "unit"
  | .obj _ => .error (.wrongValue j.called "map with a single key")
  | j => unexpected j "string or map"

/-! ## Records with defaults -/

/-- A field of the record type `α`: its name and how a value is put into a record. -/
structure Field (α : Type) where
  name : Text
  put : Json → α → Decoding α

/-- The field that is decoded on its own and then put into a record. -/
def Field.of {α β : Type} (name : Text) (decode : Json → Decoding β) (put : β → α → α) : Field α :=
  ⟨name, fun j a => do return put (← decode j) a⟩

/-- Puts a member into a record; members that are no field are passed over. -/
def Field.putMember {α : Type} (fields : List (Field α)) (a : α) (m : Text × Json) : Decoding α :=
  match fields.find? fun f => f.name == m.1 with
  | some f => f.put m.2 a
  | none => .ok a

/-- A record whose fields may all be missing: the members of an object in their order, or the items
of an array in the order of the fields, are put over the defaults. -/
def toRecord {α : Type} (name : Text) (fields : List (Field α)) (defaults : α) :
    Json → Decoding α
  | .obj members => members.foldlM (Field.putMember fields) defaults
  | .arr items => do
    let a ← (fields.zip items).foldlM (fun a p => p.1.put p.2 a) defaults
    if fields.length < items.length then
      throw (.wrongLength items.length "fewer elements in array")
    else return a
  | j => unexpected j ("struct " ++ name)

end Rampart.Json
