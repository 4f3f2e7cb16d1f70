import Rampart.Json.Basic

/-!
# Writing JSON

The compact form: no blanks, members in their order, and in strings only quotes, backslashes and
control characters escaped.
-/

namespace Rampart.Json

/-- How a character is written inside a string. -/
def escape (c : Char) : Text :=
  if c = '"' then ['\\', '"']
  else if c = '\\' then ['\\', '\\']
  else if c = '\n' then ['\\', 'n']
  else if c = '\r' then ['\\', 'r']
  else if c = '\t' then ['\\', 't']
  else if c = Char.ofNat 8 then ['\\', 'b']
  else if c = Char.ofNat 12 then ['\\', 'f']
  else if c.toNat < 0x20 then
    ['\\', 'u', '0', '0', Nat.digitChar (c.toNat / 16), Nat.digitChar (c.toNat % 16)]
  else [c]

/-- A string in its quotes. -/
def writeString (s : Text) : Text := '"' :: (s.flatMap escape ++ ['"'])

mutual
/-- The compact text of a value. -/
def write : Json → Text
  | .null => "null"
  | .bool true => "true"
  | .bool false => "false"
  | .num n => JsonNumber.write n
  | .str s => writeString s
  | .arr items => '[' :: (writeItems items ++ [']'])
  | .obj members => '{' :: (writeMembers members ++ ['}'])

/-- Items with commas between them. -/
def writeItems : List Json → Text
  | [] => []
  | [j] => write j
  | j :: rest => write j ++ ',' :: writeItems rest

/-- Members with commas between them. -/
def writeMembers : List (Text × Json) → Text
  | [] => []
  | [(k, j)] => writeString k ++ ':' :: write j
  | (k, j) :: rest => writeString k ++ ':' :: write j ++ ',' :: writeMembers rest
end

end Rampart.Json
