import Rampart.Json.Basic

/-!
# Reading JSON

The reader takes a text from the front and stops at the first fault.  A fault knows how many bytes
were still unread, from which the line and the column of the place are told.  At most 127 arrays
and objects may stand inside each other.

An object whose first key is a certain mark stands for the value that is written in the string
behind the mark.  Such a value is read as a text of its own.
-/

namespace Rampart.Json

/-! ## Faults -/

/-- What can be wrong with a text that should be JSON. -/
inductive SyntaxFault
  | endInValue
  | endInString
  | endInArray
  | endInObject
  | expectedValue
  | expectedWord
  | expectedColon
  | expectedItemEnd
  | expectedMemberEnd
  | keyNotString
  | trailingComma
  | trailingCharacters
  | controlCharacter
  | invalidEscape
  | unpairedSurrogate
  | incompleteEscape
  | invalidNumber
  | numberOutOfRange
  | tooDeep
  /-- Something else than a string stands where a value is written as text. -/
  | wrappedNotText (found : Text)
  deriving DecidableEq, Repr

/-- The words for a fault. -/
def SyntaxFault.message : SyntaxFault → Text
  | .endInValue => "EOF while parsing a value"
  | .endInString => "EOF while parsing a string"
  | .endInArray => "EOF while parsing a list"
  | .endInObject => "EOF while parsing an object"
  | .expectedValue => "expected value"
  | .expectedWord => "expected ident"
  | .expectedColon => "expected \x60:\x60"
  | .expectedItemEnd => "expected \x60,\x60 or \x60]\x60"
  | .expectedMemberEnd => "expected \x60,\x60 or \x60\x7d\x60"
  | .keyNotString => "key must be a string"
  | .trailingComma => "trailing comma"
  | .trailingCharacters => "trailing characters"
  | .controlCharacter => "control character (\\u0000-\\u001F) found while parsing a string"
  | .invalidEscape => "invalid escape"
  | .unpairedSurrogate => "lone leading surrogate in hex escape"
  | .incompleteEscape => "unexpected end of hex escape"
  | .invalidNumber => "invalid number"
  | .numberOutOfRange => "number out of range"
  | .tooDeep => "recursion limit exceeded"
  | .wrappedNotText found => "invalid type: " ++ found ++ ", expected raw value"

/-- A place in a text. -/
structure Position where
  line : Nat
  column : Nat
  deriving DecidableEq, Repr

/-- The place before the given byte.  Lines count from one, columns count the bytes since the last
line feed. -/
def positionOf (text : Text) (byte : Nat) : Position :=
  go text 0 ⟨1, byte⟩
where
  /-- The place so far, when the text continues with `rest` at byte `here`. -/
  go : Text → Nat → Position → Position
  | [], _, p => p
  | c :: rest, here, p =>
    if here < byte && c == '\n' then go rest (here + 1) ⟨p.line + 1, byte - (here + 1)⟩
    else go rest (here + c.utf8Size) p

/-- The words that tell a place. -/
def Position.suffix (p : Position) : Text :=
  " at line " ++ Text.ofNat p.line ++ " column " ++ Text.ofNat p.column

/-- Where a fault was noticed: so many bytes before the end of the text that is read, or at a place
of a text inside it. -/
inductive Place
  | unread (bytes : Nat)
  | inner (p : Position)
  deriving DecidableEq, Repr

/-- A fault of kind `F` and where it was noticed. -/
structure At (F : Type) where
  fault : F
  place : Place
  deriving DecidableEq, Repr

/-- The place of a fault in the text it was found in. -/
def At.position {F : Type} (text : Text) (fault : At F) : Position :=
  match fault.place with
  | .unread bytes => positionOf text (text.byteSize - bytes)
  | .inner p => p

/-- Reading gives a result, mostly with the rest of the text, or stops at a fault. -/
abbrev Reading := Except (At SyntaxFault)

/-- A fault noticed after everything before `rest` was taken. -/
def stop {α F : Type} (fault : F) (rest : Text) : Except (At F) α :=
  .error ⟨fault, .unread rest.byteSize⟩

/-- A fault noticed on the next byte, which is counted as read. -/
def stopOn {α F : Type} (fault : F) (rest : Text) : Except (At F) α :=
  .error ⟨fault, .unread (rest.byteSize - 1)⟩

/-! ## Blanks and words -/

/-- The blanks between the parts of a document. -/
def isBlank (c : Char) : Bool := c == ' ' || c == '\n' || c == '\t' || c == '\r'

/-- The text from its first character that is not blank. -/
def skipBlanks (t : Text) : Text := t.dropWhile isBlank

/-- Takes the rest of a word. -/
def word : (expected : Text) → Text → Reading (Unit × Text)
  | [], t => .ok ((), t)
  | _ :: _, [] => stop .endInValue []
  | e :: expected, c :: t => if c = e then word expected t else stopOn .expectedWord (c :: t)

/-! ## Strings -/

/-- The number that four hexadecimal digits denote. -/
def hex4? (a b c d : Char) : Option Nat := do
  let high := (← Text.hexDigit? a) * 16 + (← Text.hexDigit? b)
  let low := (← Text.hexDigit? c) * 16 + (← Text.hexDigit? d)
  return high * 256 + low

/-- A fault in the four bytes behind `\u`. -/
def badHex {α : Type} (t : Text) : Reading (α × Text) :=
  if t.byteSize < 4 then stop .endInString [] else .error ⟨.invalidEscape, .unread (t.byteSize - 4)⟩

/-- The character that a backslash and `c` stand for. -/
def simpleEscape? (c : Char) : Option Char :=
  if c = '"' || c = '\\' || c = '/' then some c
  else if c = 'b' then some (Char.ofNat 8)
  else if c = 'f' then some (Char.ofNat 12)
  else if c = 'n' then some '\n'
  else if c = 'r' then some '\r'
  else if c = 't' then some '\t'
  else none

/-- Puts a character in front of what is read next. -/
def push (c : Char) : Reading (Text × Text) → Reading (Text × Text)
  | .ok (s, rest) => .ok (c :: s, rest)
  | .error e => .error e

/-- Reads a string up to and with its closing quote.  Two `\u` escapes in a row can make up one
character; half of such a pair is a fault. -/
def stringBody : Text → Reading (Text × Text)
  | [] => stop .endInString []
  | c :: t =>
    if c = '"' then .ok ([], t)
    else if c = '\\' then
      match t with
      | [] => stop .endInString []
      | e :: t =>
        if e = 'u' then
          match t with
          | h₁ :: h₂ :: h₃ :: h₄ :: t' =>
            match hex4? h₁ h₂ h₃ h₄ with
            | none => badHex t
            | some n =>
              if 0xDC00 ≤ n && n ≤ 0xDFFF then stop .unpairedSurrogate t'
              else if 0xD800 ≤ n && n ≤ 0xDBFF then
                match t' with
                | [] => stop .endInString []
                | [b] => if b = '\\' then stop .endInString [] else stopOn .incompleteEscape t'
                | b :: u :: t'' =>
                  if b ≠ '\\' then stopOn .incompleteEscape t'
                  else if u ≠ 'u' then stopOn .incompleteEscape (u :: t'')
                  else
                    match t'' with
                    | g₁ :: g₂ :: g₃ :: g₄ :: rest =>
                      match hex4? g₁ g₂ g₃ g₄ with
                      | none => badHex t''
                      | some m =>
                        if 0xDC00 ≤ m && m ≤ 0xDFFF then
                          push (Char.ofNat ((n - 0xD800) * 0x400 + (m - 0xDC00) + 0x10000))
                            (stringBody rest)
                        else stop .unpairedSurrogate rest
                    | _ => badHex t''
              else push (Char.ofNat n) (stringBody t')
          | _ => badHex t
        else
          match simpleEscape? e with
          | some x => push x (stringBody t)
          | none => stopOn .invalidEscape (e :: t)
    else if c.toNat < 0x20 then stop .controlCharacter t
    else push c (stringBody t)

/-! ## Numbers -/

/-- The greatest whole number that is kept as one. -/
def maxWhole : Nat := 18446744073709551615

/-- Appends digits to a number as long as it stays within `limit`; also tells how many were left
over. -/
def absorb (limit : Nat) : Nat → Text → Nat × Nat
  | n, [] => (n, 0)
  | n, c :: digits =>
    let m := 10 * n + (Text.digit? c).getD 0
    if m ≤ limit then absorb limit m digits else (n, digits.length + 1)

/-- The double for `significand * 10 ^ exponent`, got by dividing or multiplying the rounded
significand by a rounded power of ten; very small numbers are divided step by step. -/
def scale (significand : Nat) (exponent : Int) : Option Binary64 := do
  go 40 (← Binary64.ofNat? significand) exponent
where
  /-- One division by `10 ^ 308` for each step. -/
  go : Nat → Binary64 → Int → Option Binary64
  | 0, x, _ => some x
  | steps + 1, x, e => do
    if e.natAbs ≤ 308 then
      let power ← Binary64.ofNat? (Nat.pow 10 e.natAbs)
      if 0 ≤ e then x.mul power else x.div power
    else if x.isZero then some x
    else if 0 ≤ e then none
    else go steps (← x.div (← Binary64.ofNat? (Nat.pow 10 308))) (e + 308)

/-- The number `± significand * 10 ^ exponent`, read just before `rest`. -/
def finishFloat (negative : Bool) (significand : Nat) (exponent : Int) (rest : Text) :
    Reading (JsonNumber × Text) :=
  match scale significand exponent with
  | none => stop .numberOutOfRange rest
  | some x => .ok (.float (if negative then x.neg else x), rest)

/-- The greatest exponent that is told from infinity. -/
def maxExponent : Nat := 2147483647

/-- Reads an exponent, after its mark. -/
def exponentPart (negative : Bool) (significand : Nat) (start : Int) (t : Text) :
    Reading (JsonNumber × Text) :=
  let (down, t) :=
    match t with
    | '+' :: t => (false, t)
    | '-' :: t => (true, t)
    | _ => (false, t)
  match t with
  | [] => stop .endInValue []
  | c :: _ =>
    if Text.isDigit c then
      let digits := t.takeWhile Text.isDigit
      let rest := t.dropWhile Text.isDigit
      let (e, left) := absorb maxExponent 0 digits
      if left = 0 then finishFloat negative significand (if down then start - e else start + e) rest
      else if significand ≠ 0 && !down then
        .error ⟨.numberOutOfRange, .unread (Text.byteSize rest + (left - 1))⟩
      else .ok (.float (.zero negative), rest)
    else stopOn .invalidNumber t

/-- Reads a number from its fraction on, if it has one. -/
def fractionPart (negative : Bool) (significand : Nat) (start : Int) (whole : Bool) (t : Text) :
    Reading (JsonNumber × Text) :=
  match t with
  | '.' :: t =>
    let digits := t.takeWhile Text.isDigit
    let rest := t.dropWhile Text.isDigit
    if digits.isEmpty then stopOn (if rest.isEmpty then .endInValue else .invalidNumber) rest
    else
      let (m, left) := absorb maxWhole significand digits
      let e : Int := start - (digits.length - left)
      match rest with
      | c :: after =>
        if c = 'e' || c = 'E' then exponentPart negative m e after
        else finishFloat negative m e rest
      | [] => finishFloat negative m e rest
  | c :: after =>
    if c = 'e' || c = 'E' then exponentPart negative significand start after
    else wholePart t
  | [] => wholePart t
where
  /-- A number without fraction and exponent. -/
  wholePart (rest : Text) : Reading (JsonNumber × Text) :=
    if !whole then finishFloat negative significand start rest
    else if !negative then .ok (.int significand, rest)
    else if 0 < significand && significand ≤ 9223372036854775808 then
      .ok (.int (-significand), rest)
    else finishFloat true significand 0 rest

/-- Reads a number after its minus sign, if it has one.  Whole numbers of more than 64 bits are
doubles, and so is `-0`. -/
def number (negative : Bool) (t : Text) : Reading (JsonNumber × Text) :=
  match t with
  | [] => stop .endInValue []
  | c :: after =>
    if c = '0' then
      match after with
      | d :: _ => if Text.isDigit d then stopOn .invalidNumber after
        else fractionPart negative 0 0 true after
      | [] => fractionPart negative 0 0 true after
    else if Text.isDigit c then
      let digits := t.takeWhile Text.isDigit
      let rest := t.dropWhile Text.isDigit
      let (m, left) := absorb maxWhole 0 digits
      fractionPart negative m left (left = 0) rest
    else stopOn .invalidNumber t

/-! ## Values -/

/-- Whether an object goes on with another key, and the text from there. -/
def nextKey (first : Bool) (t : Text) : Reading (Bool × Text) :=
  match skipBlanks t with
  | [] => stop .endInObject []
  | c :: rest =>
    if c = '}' then .ok (false, c :: rest)
    else if first then
      if c = '"' then .ok (true, rest) else stopOn .keyNotString (c :: rest)
    else if c = ',' then
      match skipBlanks rest with
      | [] => stop .endInValue []
      | d :: rest' =>
        if d = '"' then .ok (true, rest')
        else if d = '}' then stopOn .trailingComma (d :: rest')
        else stopOn .keyNotString (d :: rest')
    else stopOn .expectedMemberEnd (c :: rest)

/-- Takes the colon behind a key. -/
def colon (t : Text) : Reading (Unit × Text) :=
  match skipBlanks t with
  | [] => stop .endInObject []
  | c :: rest => if c = ':' then .ok ((), rest) else stopOn .expectedColon (c :: rest)

/-- Whether an array goes on with another item, and the text from there. -/
def nextItem (first : Bool) (t : Text) : Reading (Bool × Text) :=
  match skipBlanks t with
  | [] => stop .endInArray []
  | c :: rest =>
    if c = ']' then .ok (false, c :: rest)
    else if first then .ok (true, c :: rest)
    else if c = ',' then
      match skipBlanks rest with
      | [] => stop .endInValue []
      | d :: rest' =>
        if d = ']' then stopOn .trailingComma (d :: rest') else .ok (true, d :: rest')
    else stopOn .expectedItemEnd (c :: rest)

/-- The number of arrays and objects that may stand inside each other. -/
def maxRoom : Nat := 127

/-- Nothing but blanks may follow the value. -/
def finish {α : Type} (a : α) (rest : Text) : Reading α :=
  match skipBlanks rest with
  | [] => .ok a
  | c :: rest => stopOn .trailingCharacters (c :: rest)

/-! ### Values that are written as text -/

/-- The key of a value that is written as text. -/
def wrapMark : Text := "$serde_json::private::RawValue"

/-- Reads a value that is neither string, array nor object. -/
def simpleValue (t : Text) : Reading (Json × Text) :=
  match t with
  | [] => stop .endInValue []
  | c :: rest =>
    if c = 'n' then do
      let (_, rest) ← word ['u', 'l', 'l'] rest
      return (.null, rest)
    else if c = 't' then do
      let (_, rest) ← word ['r', 'u', 'e'] rest
      return (.bool true, rest)
    else if c = 'f' then do
      let (_, rest) ← word ['a', 'l', 's', 'e'] rest
      return (.bool false, rest)
    else if c = '-' then do
      let (n, rest) ← number true rest
      return (.num n, rest)
    else if Text.isDigit c then do
      let (n, rest) ← number false (c :: rest)
      return (.num n, rest)
    else stopOn .expectedValue (c :: rest)

/-- Reads the text of a wrapped value.  Of an array or an object in its place not even the bracket
is read. -/
def wrappedText (t : Text) : Reading (Text × Text) :=
  match skipBlanks t with
  | '"' :: rest => stringBody rest
  | '[' :: rest => stop (.wrappedNotText (called (.arr []))) ('[' :: rest)
  | '{' :: rest => stop (.wrappedNotText (called (.obj []))) ('{' :: rest)
  | t => do
    let (j, rest) ← simpleValue t
    stop (.wrappedNotText j.called) rest

/-- Takes the brace behind a wrapped value, which stands alone in its object. -/
def wrapEnd (t : Text) : Reading (Unit × Text) :=
  match skipBlanks t with
  | [] => stop .endInObject []
  | c :: rest =>
    if c = '}' then .ok ((), rest)
    else if c = ',' then stopOn .trailingComma (c :: rest)
    else stopOn .trailingCharacters (c :: rest)

/-- What was read from a text inside the text; its faults keep their place there. -/
def within {α : Type} (text : Text) : Reading α → Reading α
  | .ok a => .ok a
  | .error e => .error ⟨e.fault, .inner (e.position text)⟩

/-! ### All values -/

mutual
/-- Reads a value in which `room` arrays and objects may still be opened.  If `unwraps` says so,
values that are written as text are understood. -/
def value (unwraps : Bool) : (fuel room : Nat) → Text → Reading (Json × Text)
  | 0, _, _ => stop .endInValue []
  | fuel + 1, room, t =>
    match skipBlanks t with
    | '"' :: rest => do
      let (s, rest) ← stringBody rest
      return (.str s, rest)
    | '{' :: rest => if room = 0 then stopOn .tooDeep ('{' :: rest)
      else object unwraps fuel (room - 1) rest
    | '[' :: rest =>
      if room = 0 then stopOn .tooDeep ('[' :: rest)
      else do
        let (items, rest) ← items unwraps fuel (room - 1) true rest
        return (.arr items, rest)
    | t => simpleValue t

/-- Reads an object behind its brace, or the value that it stands for. -/
def object (unwraps : Bool) : (fuel room : Nat) → Text → Reading (Json × Text)
  | 0, _, _ => stop .endInObject []
  | fuel + 1, room, t => do
    let (more, rest) ← nextKey true t
    if more then
      let (key, rest) ← stringBody rest
      let (_, rest) ← colon rest
      if unwraps && key = wrapMark then
        let (text, rest) ← wrappedText rest
        let (j, tail) ← within text (value unwraps fuel maxRoom text)
        let j ← within text (finish j tail)
        let (_, rest) ← wrapEnd rest
        return (j, rest)
      else
        let (j, rest) ← value unwraps fuel room rest
        let (ms, rest) ← members unwraps fuel room false rest
        return (ofMembers ((key, j) :: ms), rest)
    else return (.obj [], rest.drop 1)

/-- Reads the members of an object up to and with its brace; repeated keys are kept. -/
def members (unwraps : Bool) :
    (fuel room : Nat) → (first : Bool) → Text → Reading (List (Text × Json) × Text)
  | 0, _, _, _ => stop .endInObject []
  | fuel + 1, room, first, t => do
    let (more, rest) ← nextKey first t
    if more then
      let (key, rest) ← stringBody rest
      let (_, rest) ← colon rest
      let (j, rest) ← value unwraps fuel room rest
      let (ms, rest) ← members unwraps fuel room false rest
      return ((key, j) :: ms, rest)
    else return ([], rest.drop 1)

/-- Reads the items of an array up to and with its bracket. -/
def items (unwraps : Bool) :
    (fuel room : Nat) → (first : Bool) → Text → Reading (List Json × Text)
  | 0, _, _, _ => stop .endInArray []
  | fuel + 1, room, first, t => do
    let (more, rest) ← nextItem first t
    if more then
      let (j, rest) ← value unwraps fuel room rest
      let (js, rest) ← items unwraps fuel room false rest
      return (j :: js, rest)
    else return ([], rest.drop 1)
end

/-- A syntax fault and its place. -/
structure SyntaxError where
  fault : SyntaxFault
  position : Position
  deriving DecidableEq, Repr

/-- The words for an error, with its place. -/
def SyntaxError.message (e : SyntaxError) : Text := e.fault.message ++ e.position.suffix

/-- Reads a text that holds one JSON value. -/
def parse (text : Text) : Except SyntaxError Json :=
  let read : Reading Json := do
    let (j, rest) ← value true (2 * text.length + 2) maxRoom text
    finish j rest
  match read with
  | .ok j => .ok j
  | .error e => .error ⟨e.fault, e.position text⟩

end Rampart.Json
