import Rampart.Text.Basic

/-!
# Type names

A type goes by a full name, such as `billing::dto::Page<T>` or `Billing.Dto.Page`, and by the
assembly that it comes from.  Both together are its identity.  A type tag in a payload is an
identity, possibly followed by further fields and with free use of blanks.
-/

namespace Rampart.TypeName

/-! ## Short names -/

/-- The characters that start the arguments of a generic type. -/
def opensArguments (c : Char) : Bool := c == '<' || c == '\x60' || c == '['

/-- The characters that divide the parts of a full name. -/
def dividesParts (c : Char) : Bool := c == ':' || c == '.' || c == '+'

/-- The part of a full name in front of the generic arguments. -/
def head (fullName : Text) : Text := fullName.beforeFirst opensArguments

/-- The last part of the head of a full name. -/
def short (fullName : Text) : Text := (head fullName).afterLast dividesParts

/-- The text up to the first `::`. -/
def firstPart : Text → Text
  | [] => []
  | ':' :: ':' :: _ => []
  | c :: rest => c :: firstPart rest

/-- The assembly that a full name speaks of by itself: the first part of its head. -/
def ownAssembly (fullName : Text) : Text := firstPart (head fullName)

/-- The identity of a type: its full name and its assembly. -/
def qualified (fullName assembly : Text) : Text := fullName ++ [',', ' '] ++ assembly

/-! ## Type tags -/

/-- The nesting of brackets after one more character.  A closing bracket without a partner does
not count. -/
def nest (level : Nat) (c : Char) : Nat :=
  if c == '[' || c == '<' then level + 1
  else if c == ']' || c == '>' then level - 1
  else level

/-- The text in front of the first comma outside brackets, and the text behind it; nothing if
there is no such comma. -/
def cutAtComma : (level : Nat) → Text → Option (Text × Text)
  | _, [] => none
  | level, c :: rest =>
    if c = ',' ∧ level = 0 then some ([], rest)
    else (cutAtComma (nest level c) rest).map fun p => (c :: p.1, p.2)

/-- A tag read as a full name and an assembly, which may be missing. -/
structure Tag where
  fullName : Text
  assembly : Option Text
  deriving DecidableEq, Repr

/-- Reads a tag.  What follows the assembly behind another comma is passed over. -/
def Tag.parse (tag : Text) : Tag :=
  match cutAtComma 0 tag with
  | none => ⟨tag.trim, none⟩
  | some (before, after) =>
    let assembly := (after.beforeFirst (· == ',')).trim
    ⟨before.trim, if assembly.isEmpty then none else some assembly⟩

/-- The identity that a tag stands for. -/
def Tag.identity (t : Tag) : Text :=
  match t.assembly with
  | some assembly => qualified t.fullName assembly
  | none => t.fullName

/-- The canonical form of a tag. -/
def canonical (tag : Text) : Text := (Tag.parse tag).identity

/-- What a tag is looked up under: an identity and a short name. -/
structure Key where
  identity : Text
  name : Text
  deriving DecidableEq, Repr

/-- The key of a tag. -/
def tagKey (tag : Text) : Key :=
  let t := Tag.parse tag
  ⟨t.identity, short t.fullName⟩

end Rampart.TypeName
