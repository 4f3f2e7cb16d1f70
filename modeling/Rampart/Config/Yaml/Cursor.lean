import Rampart.Text.Basic

/-!
# Places in a YAML text

In YAML the column of a character matters as much as the character.  A cursor is a place in a text
that knows its line and column, and whether only blanks stand before it on its line.
-/

namespace Rampart.Config.Yaml

/-! ## Characters -/

/-- What is seen behind the end of the text. -/
def endMark : Char := Char.ofNat 0

/-- The blanks within a line. -/
def isBlank (c : Char) : Bool := c == ' ' || c == '\t'

/-- The characters that end a line. -/
def isBreak (c : Char) : Bool := c == '\n' || c == '\r'

/-- Whether a line or the text ends here. -/
def isLineEnd (c : Char) : Bool := isBreak c || c == endMark

/-- Whether a character separates words. -/
def isGap (c : Char) : Bool := isBlank c || isLineEnd c

/-- The marks of flow collections. -/
def isFlow (c : Char) : Bool := c == ',' || c == '[' || c == ']' || c == '{' || c == '}'

/-- The characters of names of directives and tags. -/
def isNameChar (c : Char) : Bool := c.isAlphanum || c == '_' || c == '-'

/-! ## Cursors -/

/-- A place in a text. -/
structure Cursor where
  rest : Text
  index : Nat := 0
  line : Nat := 1
  column : Nat := 0
  /-- Whether nothing but blanks stands before this place on its line. -/
  leading : Bool := true
  deriving DecidableEq, Repr

namespace Cursor

/-- The character so many places ahead. -/
def peek (c : Cursor) (n : Nat) : Char := (c.rest.drop n).head?.getD endMark

/-- The next character. -/
def next (c : Cursor) : Char := c.rest.head?.getD endMark

/-- Passes over blanks, so many characters. -/
def pass (c : Cursor) (n : Nat) : Cursor :=
  { c with rest := c.rest.drop n, index := c.index + n, column := c.column + n }

/-- Passes over content, so many characters. -/
def passContent (c : Cursor) (n : Nat) : Cursor := { c.pass n with leading := false }

/-- Passes over the end of a line, if it is here. -/
def passBreak (c : Cursor) : Cursor :=
  let c := if c.next == '\r' && c.peek 1 == '\n' then c.pass 1 else c
  if isBreak c.next then
    { rest := c.rest.drop 1, index := c.index + 1, line := c.line + 1 }
  else c

/-- The characters from here on that have a property. -/
def run (c : Cursor) (p : Char → Bool) : Text := c.rest.takeWhile fun x => x != endMark && p x

/-- Passes over content up to the end of the line. -/
def passLine (c : Cursor) : Cursor :=
  match c.run fun x => !isBreak x with
  | [] => c
  | line => c.passContent line.length

/-! ## Marks of documents -/

/-- Whether three characters stand here, and a gap behind them. -/
def isAt (c : Cursor) (mark : Char) : Bool :=
  c.next == mark && c.peek 1 == mark && c.peek 2 == mark && isGap (c.peek 3)

/-- Whether a document starts here. -/
def atStart (c : Cursor) : Bool := c.isAt '-'

/-- Whether a document ends here. -/
def atEnd (c : Cursor) : Bool := c.isAt '.'

/-- Whether a mark of a document stands at the start of the line. -/
def atIndicator (c : Cursor) : Bool := c.column == 0 && (c.atStart || c.atEnd)

/-! ## The rest of a line -/

/-- What stood between a place and the next content or the end of the line. -/
structure Gap where
  tab : Bool
  space : Bool
  after : Cursor

/-- Passes over blanks and a comment.  A comment has to be apart from what stands before it. -/
def gapFrom (tabs : Bool) : (fuel : Nat) → (tab space : Bool) → Cursor → Option Gap
  | 0, _, _, _ => none
  | fuel + 1, tab, space, c =>
    if c.next == ' ' then gapFrom tabs fuel tab true (c.pass 1)
    else if c.next == '\t' && tabs then gapFrom tabs fuel true space (c.pass 1)
    else if c.next == '#' then
      if tab || space then gapFrom tabs fuel tab space c.passLine else none
    else some ⟨tab, space, c⟩

/-- The gap from here on; tabulators may be among its blanks. -/
def gap (c : Cursor) : Option Gap := gapFrom true (c.rest.length + 1) false false c

/-- The place behind a gap in which a line ends. -/
def lineEnd? (c : Cursor) : Option Cursor := do
  let g ← c.gap
  if isLineEnd g.after.next then some g.after else none

end Cursor

end Rampart.Config.Yaml
