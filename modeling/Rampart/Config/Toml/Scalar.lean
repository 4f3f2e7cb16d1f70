import Rampart.Config.Setting
import Rampart.Config.Toml.Moment

/-!
# Lines, strings and numbers of TOML

A line ends with a line feed, before which a carriage return may stand; a carriage return elsewhere
is refused.  Strings stand between single or double quotes, on one line or, between three quotes, on
several.  Everything else without quotes is a truth value, a number or a point in time.
-/

namespace Rampart.Config.Toml

/-! ## Blanks and lines -/

/-- The blanks within a line. -/
def isBlank (c : Char) : Bool := c == ' ' || c == '\t'

/-- The text from its first character that is not blank. -/
def skipBlanks (t : Text) : Text := t.dropWhile isBlank

/-- The characters that may not stand in a comment or a string. -/
def isControl (c : Char) : Bool := (c.toNat < 0x20 && c != '\t') || c.toNat == 0x7F

/-- Takes the end of a line. -/
def newline? : Text → Option Text
  | '\n' :: rest => some rest
  | '\r' :: '\n' :: rest => some rest
  | _ => none

/-- Whether a character belongs to the end of a line. -/
def isBreak (c : Char) : Bool := c == '\n' || c == '\r'

/-- Passes over a comment, up to the end of its line. -/
def skipComment : Text → Option Text
  | '#' :: rest =>
    if (rest.takeWhile fun c => !isBreak c).any isControl then none
    else some (rest.dropWhile fun c => !isBreak c)
  | t => some t

/-- Passes over blanks and a comment up to the end of a line, and that end. -/
def endLine (t : Text) : Option Text := do
  match ← skipComment (skipBlanks t) with
  | [] => some []
  | t => newline? t

/-- Passes over blanks, comments and ends of lines. -/
def skipLines : (fuel : Nat) → Text → Option Text
  | 0, t => some t
  | fuel + 1, t =>
    match skipBlanks t with
    | '#' :: rest => do skipLines fuel (← skipComment ('#' :: rest))
    | t =>
      match newline? t with
      | some rest => skipLines fuel rest
      | none => some t

/-! ## Strings -/

/-- Reads a character by so many hexadecimal digits. -/
def hexEscape (count : Nat) (t : Text) : Option (Char × Text) :=
  if t.length < count then none else (Text.charOfHex? (t.take count)).map (·, t.drop count)

/-- Reads what stands behind a backslash. -/
def escaped : Text → Option (Char × Text)
  | 'b' :: rest => some (Char.ofNat 8, rest)
  | 't' :: rest => some ('\t', rest)
  | 'n' :: rest => some ('\n', rest)
  | 'f' :: rest => some (Char.ofNat 12, rest)
  | 'r' :: rest => some ('\r', rest)
  | 'e' :: rest => some (Char.ofNat 27, rest)
  | '"' :: rest => some ('"', rest)
  | '\\' :: rest => some ('\\', rest)
  | 'x' :: rest => hexEscape 2 rest
  | 'u' :: rest => hexEscape 4 rest
  | 'U' :: rest => hexEscape 8 rest
  | _ => none

/-- Puts text in front of what is read next. -/
def before (t : Text) : Option (Text × Text) → Option (Text × Text)
  | some (s, rest) => some (t ++ s, rest)
  | none => none

/-- Reads a string on one line up to and with its closing quote. -/
def lineString (literal : Bool) (quote : Char) : (fuel : Nat) → Text → Option (Text × Text)
  | 0, _ => none
  | _, [] => none
  | fuel + 1, c :: rest =>
    if c = quote then some ([], rest)
    else if isControl c then none
    else if c = '\\' && !literal then do
      let (x, rest) ← escaped rest
      before [x] (lineString literal quote fuel rest)
    else before [c] (lineString literal quote fuel rest)

/-- The text behind blanks and ends of lines. -/
def skipBlankLines : Text → Text
  | '\r' :: '\n' :: rest => skipBlankLines rest
  | c :: rest => if isBlank c || c == '\n' then skipBlankLines rest else c :: rest
  | [] => []

/-- Reads a string on several lines up to and with its three closing quotes, before which two more
may stand.  A backslash at the end of a line joins it with the next text. -/
def longString (literal : Bool) (quote : Char) : (fuel : Nat) → Text → Option (Text × Text)
  | 0, _ => none
  | _, [] => none
  | fuel + 1, c :: rest =>
    if c = quote then
      let more := (rest.takeWhile (· == quote)).length
      if more < 2 then before [c] (longString literal quote fuel rest)
      else if 4 < more then none
      else some (List.replicate (more - 2) quote, rest.drop more)
    else if c = '\r' then
      match rest with
      | '\n' :: rest => before ['\r', '\n'] (longString literal quote fuel rest)
      | _ => none
    else if c != '\n' && isControl c then none
    else if c = '\\' && !literal then
      match newline? (skipBlanks rest) with
      | some rest => longString literal quote fuel (skipBlankLines rest)
      | none => do
        let (x, rest) ← escaped rest
        before [x] (longString literal quote fuel rest)
    else before [c] (longString literal quote fuel rest)

/-- Reads a string behind its first quote.  The end of the line on which three quotes stand does not
belong to the string. -/
def string (literal : Bool) (quote : Char) (t : Text) : Option (Text × Text) :=
  match t with
  | a :: b :: rest =>
    if a = quote && b = quote then
      longString literal quote (rest.length + 1) ((newline? rest).getD rest)
    else lineString literal quote t.length t
  | t => lineString literal quote t.length t

/-! ## Keys -/

/-- Reads one name of a key. -/
def name : Text → Option (Text × Text)
  | '"' :: rest => lineString false '"' rest.length rest
  | '\'' :: rest => lineString true '\'' rest.length rest
  | t =>
    let bare := t.takeWhile Step.isNameChar
    if bare.isEmpty then none else some (bare, t.dropWhile Step.isNameChar)

/-- Reads names with points between them. -/
def names : (fuel : Nat) → Text → Option (List Text × Text)
  | 0, _ => none
  | fuel + 1, t => do
    let (first, rest) ← name (skipBlanks t)
    match skipBlanks rest with
    | '.' :: rest =>
      let (more, rest) ← names fuel rest
      return (first :: more, rest)
    | rest => return ([first], rest)

/-- How deep lists, tables and the names of a key may stand inside each other. -/
def maxRoom : Nat := 80

/-- Reads a key. -/
def key (t : Text) : Option (List Text × Text) := do
  let (path, rest) ← names t.length t
  if maxRoom < path.length then none else some (path, rest)

/-! ## Scalars -/

/-- A value that holds no other values. -/
inductive Scalar
  | text (t : Text)
  | bool (b : Bool)
  | int (n : Int)
  | float (x : Extended)
  | moment (m : Moment)

/-- A scalar as a setting; a point in time becomes its text. -/
def Scalar.toSetting : Scalar → Setting
  | .text t => .text t
  | .bool b => .bool b
  | .int n => .int n
  | .float x => .float x
  | .moment m => .text m.write

/-- Digits without the underscores between them. -/
def ungroup (isDigit : Char → Bool) (t : Text) : Option Text :=
  let groups := t.splitOnP (· == '_')
  if groups.all fun g => !g.isEmpty && g.all isDigit then some groups.flatten else none

/-- The whole number that digits in a base denote. -/
def inBase (base : Nat) (t : Text) : Option Scalar := do
  let isDigit (c : Char) : Bool := ((Text.hexDigit? c).filter (· < base)).isSome
  let digits ← ungroup isDigit t
  let n := digits.foldl (fun n c => base * n + (Text.hexDigit? c).getD 0) 0
  if isInt64 n then some (.int n) else none

/-- Whether digits have a zero in front that they do not need. -/
def hasIdleZero (digits : Text) : Bool := digits.head? == some '0' && digits.length != 1

/-- A number that is not too great for a double. -/
def finite? (x : Extended) : Option Scalar :=
  match x with
  | .finite _ => some (.float x)
  | _ => none

/-- Reads a decimal number as a whole. -/
def decimal (t : Text) : Option Scalar := do
  let (negative, body) := Text.signed t
  let isPart (c : Char) : Bool := Text.isDigit c || c == '_'
  let whole ← ungroup Text.isDigit (body.takeWhile isPart)
  if hasIdleZero whole then none
  else
    let rest := body.dropWhile isPart
    let (fraction, rest) : Text × Text ← match rest with
      | '.' :: rest => do
        pure ((← ungroup Text.isDigit (rest.takeWhile isPart)), rest.dropWhile isPart)
      | rest => pure ([], rest)
    if fraction.isEmpty && rest.isEmpty then
      let n : Int := Text.digitsValue whole
      let n := if negative then -n else n
      if isInt64 n then some (.int n) else none
    else
      let exponent : Int ← match rest with
        | [] => pure 0
        | c :: rest => do
          let (negative, digits) := Text.signed rest
          let digits ← ungroup Text.isDigit digits
          let n : Int := Text.digitsValue digits
          if c == 'e' || c == 'E' then pure (if negative then -n else n) else none
      finite? (Extended.ofDecimal negative (whole ++ fraction) (exponent - fraction.length))

/-- Whether a text starts as a point in time does: digits and then a dash or a colon. -/
def startsMoment (t : Text) : Bool :=
  !(t.takeWhile Text.isDigit).isEmpty && match t.dropWhile Text.isDigit with
    | c :: _ => c == '-' || c == ':'
    | [] => false

/-- The value of a text without quotes. -/
def word (t : Text) : Option Scalar :=
  if t = "true".toList then some (.bool true)
  else if t = "false".toList then some (.bool false)
  else if startsMoment t then (Moment.parse? t).map .moment
  else
    let (negative, body) := Text.signed t
    if body = "inf".toList then some (.float (.infinite negative))
    else if body = "nan".toList then some (.float .nan)
    else
      match t with
      | '0' :: 'x' :: digits => inBase 16 digits
      | '0' :: 'o' :: digits => inBase 8 digits
      | '0' :: 'b' :: digits => inBase 2 digits
      | t => decimal t

/-- The characters that end a value without quotes. -/
def endsWord (c : Char) : Bool :=
  isBlank c || isBreak c || c == '=' || c == ',' || c == '[' || c == ']' || c == '{' || c == '}'
    || c == '#' || c == '\'' || c == '"'

/-- Cuts off a value without quotes.  Between a date and a time a space may stand. -/
def cutWord (t : Text) : Text × Text :=
  let first := t.takeWhile fun c => !endsWord c
  let rest := t.dropWhile fun c => !endsWord c
  match rest with
  | ' ' :: c :: more =>
    if Text.isDigit c && (date? first).any fun p => p.2.isEmpty then
      (first ++ ' ' :: (c :: more).takeWhile fun c => !endsWord c,
        (c :: more).dropWhile fun c => !endsWord c)
    else (first, rest)
  | _ => (first, rest)

/-- Reads a scalar. -/
def scalar : Text → Option (Scalar × Text)
  | '"' :: rest => (string false '"' rest).map fun r => (.text r.1, r.2)
  | '\'' :: rest => (string true '\'' rest).map fun r => (.text r.1, r.2)
  | t =>
    let (first, rest) := cutWord t
    (word first).map (·, rest)

end Rampart.Config.Toml
