import Rampart.Config.Yaml.Scalar

/-!
# Tokens of YAML

A YAML text is cut into tokens.  Where a key is only recognised by the colon behind it, tokens are
put in front of it after the fact; so the lexer keeps in mind where keys may have begun.  The
indentation of lines opens and closes blocks, for which there are tokens as well.
-/

namespace Rampart.Config.Yaml

/-- A token. -/
inductive Token
  | version
  | tagDirective (handle tagPrefix : Text)
  | documentStart
  | documentEnd
  | blockSequenceStart
  | blockMappingStart
  | blockEnd
  | flowSequenceStart
  | flowSequenceEnd
  | flowMappingStart
  | flowMappingEnd
  | blockEntry
  | flowEntry
  | key
  | value
  | alias (name : Text)
  | anchor (name : Text)
  | tag (handle suffix : Text)
  | scalar (isPlain : Bool) (text : Text)
  | streamEnd
  deriving DecidableEq, Repr

/-! ## Names, tags and directives -/

/-- The characters of anchors. -/
def isAnchorChar (c : Char) : Bool := !isGap c && !isFlow c && c.toNat != 0xFEFF

/-- The characters of a resource name. -/
def isUriChar (c : Char) : Bool := isNameChar c || "#;/?:@&=+$,.!~*'()[]%".toList.contains c

/-- The characters of a tag behind its handle. -/
def isTagChar (c : Char) : Bool := isUriChar c && !isFlow c && c != '!'

/-- The number of bytes that a first byte announces. -/
def byteCount? (byte : Nat) : Option Nat :=
  if byte < 0x80 then some 1
  else if byte / 0x20 == 6 then some 2
  else if byte / 0x10 == 14 then some 3
  else if byte / 8 == 30 then some 4
  else none

/-- Reads a byte that is written as a percent sign and two hexadecimal digits. -/
def uriByte? (c : Cursor) : Option (Nat × Cursor) := do
  if c.next == '%' then
    return ((← Text.hexDigit? (c.peek 1)) * 16 + (← Text.hexDigit? (c.peek 2)), c.passContent 3)
  else none

/-- Reads so many more bytes of a character; the bytes are strung together as they are. -/
def uriTail : (count : Nat) → (code : Nat) → Cursor → Option (Char × Cursor)
  | 0, code, c => (Text.charOf? code).map (·, c)
  | count + 1, code, c => do
    let (byte, c) ← uriByte? c
    if byte / 0x40 == 2 then uriTail count (code * 256 + byte) c else none

/-- Reads a character that is written by its bytes. -/
def uriEscape? (c : Cursor) : Option (Char × Cursor) := do
  let (byte, c) ← uriByte? c
  uriTail ((← byteCount? byte) - 1) byte c

/-- Reads characters of a resource name with the given property. -/
def uriRun (p : Char → Bool) : (fuel : Nat) → Text → Cursor → Option (Text × Cursor)
  | 0, _, _ => none
  | fuel + 1, text, c =>
    if !p c.next then some (text.reverse, c)
    else if c.next == '%' then do
      let (x, c) ← uriEscape? c
      uriRun p fuel (x :: text) c
    else uriRun p fuel (c.next :: text) (c.passContent 1)

/-- Reads the handle of a tag: an exclamation mark, a name, and perhaps a second mark. -/
def tagHandle? (c : Cursor) : Option (Text × Cursor) :=
  if c.next == '!' then
    let c := c.passContent 1
    let name := c.run isNameChar
    let c := c.passContent name.length
    if c.next == '!' then some ('!' :: name ++ ['!'], c.passContent 1) else some ('!' :: name, c)
  else none

/-- Whether a handle has a mark at both ends. -/
def isWholeHandle (handle : Text) : Bool := 2 ≤ handle.length && handle.getLast? == some '!'

/-- Reads a tag that is given as a whole between angle brackets. -/
def wholeTag? (c : Cursor) : Option (Token × Cursor) := do
  let c := c.passContent 2
  let (suffix, c) ← uriRun isUriChar (c.rest.length + 1) [] c
  if c.next == '>' then return (.tag [] suffix, c.passContent 1) else none

/-- Reads a tag with a handle. -/
def shortTag? (c : Cursor) : Option (Token × Cursor) := do
  let (handle, c) ← tagHandle? c
  let (tail, c) ← uriRun isTagChar (c.rest.length + 1) [] c
  if isWholeHandle handle then
    if tail.isEmpty then none else return (.tag handle tail, c)
  else
    let suffix := handle.drop 1 ++ tail
    if suffix.isEmpty then return (.tag [] ['!'], c) else return (.tag ['!'] suffix, c)

/-- Reads a tag. -/
def tag? (inFlow : Bool) (c : Cursor) : Option (Token × Cursor) := do
  let (token, c) ← if c.peek 1 == '<' then wholeTag? c else shortTag? c
  if isGap c.next || (inFlow && isFlow c.next) then return (token, c) else none

/-- Reads the name of an anchor behind its mark. -/
def anchorName? (c : Cursor) : Option (Text × Cursor) :=
  let c := c.passContent 1
  let name := c.run isAnchorChar
  if name.isEmpty then none else some (name, c.passContent name.length)

/-- Reads a number of at most nine digits. -/
def versionNumber? (c : Cursor) : Option Cursor :=
  let digits := c.run Text.isDigit
  if digits.isEmpty || 9 < digits.length then none else some (c.passContent digits.length)

/-- Passes over blanks. -/
def passBlanks (c : Cursor) : Cursor := c.pass (c.run isBlank).length

/-- Reads what a tag directive says: a handle, and what it stands for. -/
def tagDirective? (c : Cursor) : Option (Token × Cursor) := do
  let (handle, c) ← tagHandle? (passBlanks c)
  if handle != ['!'] && !isWholeHandle handle then none
  else
    let c := passBlanks c
    if c.next == '!' || isTagChar c.next then
      let (text, c) ← uriRun isUriChar (c.rest.length + 1) [] c
      if isGap c.next then return (.tagDirective handle text, c) else none
    else none

/-- Reads a directive and the end of its line.  Unknown directives say nothing. -/
def directive? (c : Cursor) : Option (Token × Cursor) := do
  let c := c.passContent 1
  let name := c.run isNameChar
  let c := c.passContent name.length
  if name.isEmpty || !isGap c.next then none
  else
    let (token, c) ←
      if name == "YAML".toList then do
        let c ← versionNumber? (passBlanks c)
        if c.next == '.' then pure (Token.version, ← versionNumber? (c.passContent 1)) else none
      else if name == "TAG".toList then tagDirective? c
      else pure (Token.tagDirective [] [], c.passLine)
    return (token, (← c.lineEnd?).passBreak)

/-! ## The lexer -/

/-- A place where a key may have begun. -/
structure KeyStart where
  /-- Whether nothing but a key can stand there. -/
  required : Bool
  /-- The number of tokens before it. -/
  number : Nat
  index : Nat
  line : Nat
  column : Nat
  deriving DecidableEq, Repr

/-- The indentation around a construct; blocks are closed by a token. -/
structure Indent where
  outer : Int
  isBlock : Bool
  deriving DecidableEq, Repr

/-- What is known in the middle of a text. -/
structure Lexer where
  cursor : Cursor
  /-- The tokens so far and their columns. -/
  tokens : Array (Nat × Token) := #[]
  /-- Whether a key may begin here. -/
  keyAllowed : Bool := true
  /-- Where keys may have begun, for each flow collection that is open, the innermost first. -/
  keys : List (Option KeyStart) := [none]
  indent : Int := -1
  indents : List Indent := []
  /-- The number of flow collections that are open. -/
  flow : Nat := 0
  /-- Where a colon needs no gap behind it. -/
  adjacent : Nat := 0
  /-- Whether a flow mapping was begun by a mark of its own. -/
  mappingBegun : Bool := false
  /-- For each flow sequence that is open, whether it stands in a pair without braces. -/
  pairs : List Bool := []

namespace Lexer

/-- Whether a flow collection is open. -/
def inFlow (l : Lexer) : Bool := l.flow != 0

/-- Adds a token. -/
def push (l : Lexer) (column : Nat) (token : Token) : Lexer :=
  { l with tokens := l.tokens.push (column, token) }

/-- Puts a token before the token of the given number. -/
def insert (l : Lexer) (number : Nat) (token : Token) : Lexer :=
  { l with tokens := l.tokens.insertIdxIfInBounds number (0, token) }

/-! ### Keys -/

/-- Keeps in mind that a key may begin here. -/
def saveKey (l : Lexer) : Lexer :=
  if l.keyAllowed then
    let required := !l.inFlow && l.indent == l.cursor.column && l.indents.head?.any Indent.isBlock
    let c := l.cursor
    let start : KeyStart := ⟨required, l.tokens.size, c.index, c.line, c.column⟩
    { l with keys := some start :: l.keys.drop 1 }
  else l

/-- The place where the innermost key may have begun. -/
def key? (l : Lexer) : Option KeyStart := l.keys.head?.join

/-- Gives up the innermost key, which may not be required. -/
def dropKey (l : Lexer) : Option Lexer :=
  if l.key?.any KeyStart.required then none else some { l with keys := none :: l.keys.drop 1 }

/-- How long a key may be. -/
def maxKeyLength : Nat := 1024

/-- Whether a key that began at a place cannot end any more.  Inside flow collections it always
can. -/
def isStale (l : Lexer) (k : KeyStart) : Bool :=
  !l.inFlow && (k.line < l.cursor.line || k.index + maxKeyLength < l.cursor.index)

/-- Gives up the keys that cannot end any more. -/
def dropStale (l : Lexer) : Option Lexer :=
  if l.keys.any fun k => k.any fun k => l.isStale k && k.required then none
  else some { l with keys := l.keys.map fun k => k.filter fun k => !l.isStale k }

/-! ### Indentation -/

/-- Closes what is indented deeper than a column. -/
def unroll (column : Int) : (indents : List Indent) → Lexer → Lexer
  | [], l => l
  | i :: rest, l =>
    if l.inFlow || l.indent ≤ column then l
    else
      let l := { l with indent := i.outer, indents := rest }
      unroll column rest (if i.isBlock then l.push l.cursor.column .blockEnd else l)

/-- Closes what is indented deeper than a column. -/
def unrollTo (l : Lexer) (column : Int) : Lexer := unroll column l.indents l

/-- Forgets the innermost indentations that are no blocks. -/
def unrollLoose : (indents : List Indent) → Lexer → Lexer
  | [], l => l
  | i :: rest, l =>
    if i.isBlock then l else unrollLoose rest { l with indent := i.outer, indents := rest }

/-- Forgets the innermost indentations that are no blocks. -/
def withoutLoose (l : Lexer) : Lexer := unrollLoose l.indents l

/-- Opens a block at a column if it is deeper than the last one.  Its token is added, or put before
the token of the given number. -/
def roll (l : Lexer) (column : Nat) (number : Option Nat) (token : Token) : Lexer :=
  if l.inFlow then l
  else
    let l : Lexer := match l.indents with
      | i :: rest =>
        if l.indent ≤ column && !i.isBlock then { l with indent := i.outer, indents := rest } else l
      | [] => l
    if l.indent < column then
      let l := { l with indents := ⟨l.indent, true⟩ :: l.indents, indent := column }
      match number with
      | some n => l.insert n token
      | none => l.push column token
    else l

/-- Asks for one more column of indentation inside a block. -/
def rollLoose (l : Lexer) : Lexer :=
  if !l.inFlow && l.indents.head?.any Indent.isBlock then
    { l with indents := ⟨l.indent, false⟩ :: l.indents, indent := l.indent + 1 }
  else l

/-! ### Gaps -/

/-- Passes over blanks, comments and the ends of lines.  Tabulators may not indent a line that has
something on it. -/
def skipGaps : (fuel : Nat) → Lexer → Option Lexer
  | 0, _ => none
  | fuel + 1, l =>
    let c := l.cursor
    if c.next == '\t' && !l.indents.isEmpty && c.leading && c.column < l.indent then do
      skipGaps fuel { l with cursor := ← c.lineEnd? }
    else if isBlank c.next then skipGaps fuel { l with cursor := c.pass 1 }
    else if isBreak c.next then
      skipGaps fuel { l with cursor := c.passBreak, keyAllowed := l.keyAllowed || !l.inFlow }
    else if c.next == '#' then skipGaps fuel { l with cursor := c.passLine }
    else some l

/-- Passes over everything up to the next token. -/
def toContent (l : Lexer) : Option Lexer := skipGaps (l.cursor.rest.length + 1) l

/-- Passes over spaces, comments and the ends of lines behind the mark of a key.  There has to be
at least one of them. -/
def skipKeyGap : (fuel : Nat) → (found : Bool) → Lexer → Option Lexer
  | 0, _, _ => none
  | fuel + 1, found, l =>
    let c := l.cursor
    if c.next == ' ' then skipKeyGap fuel true { l with cursor := c.pass 1 }
    else if isBreak c.next then
      skipKeyGap fuel true
        { l with cursor := c.passBreak, keyAllowed := l.keyAllowed || !l.inFlow }
    else if c.next == '#' then skipKeyGap fuel found { l with cursor := c.passLine }
    else if found then some l
    else none

/-- Passes over a mark and the gap behind it on its line. -/
def passMark (l : Lexer) : Option Lexer := do
  return { l with cursor := (← (l.cursor.passContent 1).gap).after }

/-! ### Marks of documents -/

/-- Takes a directive. -/
def directive (l : Lexer) : Option Lexer := do
  let l ← (l.unrollTo (-1)).dropKey
  let (token, cursor) ← directive? l.cursor
  return { l.push 0 token with cursor, keyAllowed := false }

/-- Takes a mark of a document. -/
def indicator (l : Lexer) (token : Token) : Option Lexer := do
  let l ← (l.unrollTo (-1)).dropKey
  return { l.push 0 token with cursor := l.cursor.passContent 3, keyAllowed := false }

/-- Takes the mark of the end of a document; only a comment may follow on its line. -/
def documentEnd (l : Lexer) : Option Lexer := do
  let l ← l.indicator .documentEnd
  return { l with cursor := ← l.cursor.lineEnd? }

/-- Takes the end of the text. -/
def streamEnd (l : Lexer) : Option Lexer :=
  if l.keys.any fun k => k.any KeyStart.required then none
  else
    let l := { l with keys := l.keys.map fun _ => none }
    some ((l.unrollTo (-1)).push 0 .streamEnd)

/-! ### Flow collections -/

/-- How many flow collections may stand inside each other. -/
def maxFlow : Nat := 255

/-- Takes the opening mark of a flow collection. -/
def flowStart (l : Lexer) (token : Token) : Option Lexer := do
  let l := l.saveKey.rollLoose
  if l.flow = maxFlow then none
  else
    let column := l.cursor.column
    let l := { l with keys := none :: l.keys, flow := l.flow + 1, keyAllowed := true }
    let l := if token = .flowMappingStart then { l with mappingBegun := true }
      else { l with pairs := false :: l.pairs }
    return (← l.passMark).push column token

/-- Ends a pair without braces, if there is one. -/
def endPair (l : Lexer) : Lexer :=
  match l.pairs with
  | true :: rest =>
    { l.push l.cursor.column .flowMappingEnd with mappingBegun := false, pairs := false :: rest }
  | _ => l

/-- Takes the closing mark of a flow collection. -/
def flowEnd (l : Lexer) (token : Token) : Option Lexer := do
  let l ← l.dropKey
  let l := if l.inFlow then { l with flow := l.flow - 1, keys := l.keys.drop 1 } else l
  let l := { l with keyAllowed := false }
  let l := if token = .flowSequenceEnd then { l.endPair with pairs := l.pairs.drop 1 } else l
  let column := l.cursor.column
  let l ← l.passMark
  let l := if l.inFlow then { l with adjacent := l.cursor.index } else l
  return l.push column token

/-- Takes the comma between the items of a flow collection. -/
def flowEntry (l : Lexer) : Option Lexer := do
  let l := { ← l.dropKey with keyAllowed := true }.endPair
  let column := l.cursor.column
  return (← l.passMark).push column .flowEntry

/-! ### Block collections -/

/-- Whether an anchor or a tag at the start of a line came last. -/
def followsProperty (l : Lexer) : Bool :=
  match l.tokens.back? with
  | some (0, .anchor _) | some (0, .tag _ _) => true
  | _ => false

/-- Takes the dash before an item of a block sequence. -/
def blockEntry (l : Lexer) : Option Lexer := do
  let column := l.cursor.column
  if l.inFlow || !l.keyAllowed then none
  else if column == 0 && -1 < l.indent && l.followsProperty then none
  else
    let l := { l with cursor := l.cursor.passContent 1 }.roll column none .blockSequenceStart
    let g ← l.cursor.gap
    let c := g.after
    if g.tab && c.next == '-' && isGap (c.peek 1) then none
    else
      let l := { l with cursor := c }
      let l := if isBreak c.next || isFlow c.next then l.rollLoose else l
      let l ← l.dropKey
      return { l.push c.column .blockEntry with keyAllowed := true }

/-- Takes the question mark before a key. -/
def explicitKey (l : Lexer) : Option Lexer := do
  let column := l.cursor.column
  if !l.inFlow && !l.keyAllowed then none
  else
    let l := if l.inFlow then { l with mappingBegun := true }
      else l.roll column none .blockMappingStart
    let l := { ← l.dropKey with keyAllowed := !l.inFlow, cursor := l.cursor.passContent 1 }
    let l ← skipKeyGap (l.cursor.rest.length + 1) false l
    if l.cursor.next == '\t' then none else return l.push column .key

/-- Passes over a colon.  A tabulator alone does not part it from a word. -/
def passColon (c : Cursor) : Option Cursor := do
  let c := c.passContent 1
  if c.next == '\t' then
    let g ← c.gap
    if !g.space && isNameChar g.after.next then none else return g.after
  else return c

/-- Takes the colon before a value. -/
def value (l : Lexer) : Option Lexer := do
  let start := l.cursor
  let isPair := !l.pairs.isEmpty && !l.mappingBegun
  let l := if isPair then { l with pairs := true :: l.pairs.drop 1 } else l
  let l := { l with cursor := ← passColon start }
  match l.key? with
  | some k =>
    let l := l.insert k.number .key
    if isPair && k.line < start.line then none
    else
      let l := if isPair then l.insert k.number .flowMappingStart else l
      let l := (l.roll k.column (some k.number) .blockMappingStart).rollLoose
      return { l.push start.column .value with keys := none :: l.keys.drop 1, keyAllowed := false }
  | none =>
    let l := if isPair then l.push start.column .flowMappingStart else l
    if !l.inFlow && !l.keyAllowed then none
    else
      let l := (l.roll start.column none .blockMappingStart).rollLoose
      return { l.push start.column .value with keyAllowed := !l.inFlow }

/-- Takes a colon in a flow collection without a gap behind it.  Only behind quotes or brackets may
another collection follow directly. -/
def flowValue (l : Lexer) : Option Lexer :=
  let next := l.cursor.peek 1
  if l.cursor.index != l.adjacent && (next == '[' || next == '{') then none else l.value

/-! ### Nodes -/

/-- Takes an anchor or an alias. -/
def anchor (l : Lexer) (isAlias : Bool) : Option Lexer := do
  let column := l.cursor.column
  let l := l.saveKey
  let (name, cursor) ← anchorName? l.cursor
  let token := if isAlias then Token.alias name else .anchor name
  return { l.push column token with cursor, keyAllowed := false }

/-- Takes a tag. -/
def tag (l : Lexer) : Option Lexer := do
  let column := l.cursor.column
  let l := l.saveKey
  let (token, cursor) ← tag? l.inFlow l.cursor
  return { l.push column token with cursor, keyAllowed := false }

/-- Takes a block of lines. -/
def blockScalar (l : Lexer) (literal : Bool) : Option Lexer := do
  let l := l.saveKey.withoutLoose
  let (text, cursor) ← block? literal l.indent l.cursor
  return { l.push l.cursor.column (.scalar false text) with cursor, keyAllowed := true }

/-- Takes a quoted scalar. -/
def quotedScalar (l : Lexer) (single : Bool) : Option Lexer := do
  let column := l.cursor.column
  let l := l.saveKey
  let (text, cursor) ← quoted? l.inFlow single l.indent l.cursor
  let l ← { l with cursor, keyAllowed := false }.toContent
  return { l.push column (.scalar false text) with adjacent := l.cursor.index }

/-- Takes a plain scalar. -/
def plainScalar (l : Lexer) : Option Lexer := do
  let l := l.saveKey.withoutLoose
  let (text, cursor) ← plain? l.inFlow (l.indent + 1) l.cursor
  return { l.push l.cursor.column (.scalar true text) with cursor, keyAllowed := cursor.leading }

/-! ### All tokens -/

/-- Takes what stands at a place inside a document. -/
def content (l : Lexer) : Option Lexer :=
  let c := l.cursor.next
  let next := l.cursor.peek 1
  if c == '[' then l.flowStart .flowSequenceStart
  else if c == '{' then l.flowStart .flowMappingStart
  else if c == ']' then l.flowEnd .flowSequenceEnd
  else if c == '}' then l.flowEnd .flowMappingEnd
  else if c == ',' then l.flowEntry
  else if c == '-' && isGap next then l.blockEntry
  else if c == '?' && isGap next then l.explicitKey
  else if c == ':' && isGap next then l.value
  else if c == ':' && l.inFlow && (isFlow next || l.cursor.index == l.adjacent) then l.flowValue
  else if c == '*' then l.anchor true
  else if c == '&' then l.anchor false
  else if c == '!' then l.tag
  else if c == '|' && !l.inFlow then l.blockScalar true
  else if c == '>' && !l.inFlow then l.blockScalar false
  else if c == '\'' then l.quotedScalar true
  else if c == '"' then l.quotedScalar false
  else if c == '%' || c == '@' || c == '\x60' then none
  else l.plainScalar

/-- Takes the next token, and tells whether it was the last. -/
def step (l : Lexer) : Option (Bool × Lexer) := do
  let l ← (← l.toContent).dropStale
  let l := l.unrollTo l.cursor.column
  let c := l.cursor
  if c.next == endMark then return (true, ← l.streamEnd)
  else if c.column == 0 && c.next == '%' then return (false, ← l.directive)
  else if c.column == 0 && c.atStart then return (false, ← l.indicator .documentStart)
  else if c.column == 0 && c.atEnd then return (false, ← l.documentEnd)
  else if c.column < l.indent then none
  else return (false, ← l.content)

/-- Takes all tokens. -/
def run : (fuel : Nat) → Lexer → Option Lexer
  | 0, _ => none
  | fuel + 1, l => do
    let (isLast, l) ← l.step
    if isLast then some l else run fuel l

end Lexer

/-- The tokens of a text. -/
def Token.ofText? (text : Text) : Option (List Token) := do
  let cursor : Cursor := { rest := text.takeWhile (· != endMark) }
  let l ← Lexer.run (text.length + 2) { cursor }
  return (l.tokens.map Prod.snd).toList

end Rampart.Config.Yaml
