import Rampart.Config.Yaml.Cursor

/-!
# Scalars of YAML

A scalar is written plainly, between quotes, or as a block of lines.  Line breaks inside a plain or
quoted scalar are folded: one break becomes a space, and of several one is dropped.
-/

namespace Rampart.Config.Yaml

/-! ## Folding -/

/-- The text of a scalar so far, last character first, and what may still come between it and the
next content. -/
structure Gathered where
  text : Text := []
  /-- Blanks on the same line, last one first. -/
  blanks : Text := []
  /-- Whether the line has ended. -/
  broken : Bool := false
  /-- The number of empty lines. -/
  breaks : Nat := 0

namespace Gathered

/-- So many line feeds. -/
def feeds (n : Nat) : Text := List.replicate n '\n'

/-- Folds the breaks between lines. -/
def fold (g : Gathered) : Gathered :=
  let text := if g.broken && g.breaks == 0 then ' ' :: g.text else feeds g.breaks ++ g.text
  { text }

/-- Keeps the blanks between words. -/
def keepBlanks (g : Gathered) : Gathered := { g with text := g.blanks ++ g.text, blanks := [] }

/-- Takes the end of a line into account: the first is told apart from the others. -/
def endLine (g : Gathered) (first : Bool) : Gathered :=
  if first then { g with blanks := [], broken := true } else { g with breaks := g.breaks + 1 }

end Gathered

/-! ## Plain scalars -/

/-- Whether the next character can belong to a plain scalar. -/
def isPlain (inFlow : Bool) (c : Cursor) : Bool :=
  let ends := c.next == ':' && (isGap (c.peek 1) || (inFlow && isFlow (c.peek 1)))
  !isGap c.next && !ends && !(inFlow && isFlow c.next)

/-- Takes the characters of a plain scalar up to the next gap. -/
def plainRun (inFlow : Bool) : (fuel : Nat) → Text → Cursor → Text × Cursor
  | 0, text, c => (text, c)
  | fuel + 1, text, c =>
    if isPlain inFlow c then plainRun inFlow fuel (c.next :: text) (c.passContent 1) else (text, c)

/-- Passes over the blanks and breaks inside a plain scalar.  A tabulator does not indent. -/
def plainGap (indent : Int) : (fuel : Nat) → Gathered → Cursor → Option (Gathered × Cursor)
  | 0, _, _ => none
  | fuel + 1, g, c =>
    if isBlank c.next then
      if !c.leading then
        plainGap indent fuel { g with blanks := c.next :: g.blanks } (c.pass 1)
      else if c.column < indent && c.next == '\t' then do
        plainGap indent fuel g (← c.lineEnd?)
      else plainGap indent fuel g (c.pass 1)
    else if isBreak c.next then plainGap indent fuel (g.endLine !c.leading) c.passBreak
    else some (g, c)

/-- Reads a plain scalar line by line. -/
def plainLines (inFlow : Bool) (indent : Int) :
    (fuel : Nat) → Gathered → Cursor → Option (Gathered × Cursor)
  | 0, _, _ => none
  | fuel + 1, g, c =>
    if c.atIndicator || c.next == '#' then some (g, c)
    else if inFlow && c.next == '-' && isFlow (c.peek 1) then none
    else do
      let (g, c) :=
        if isPlain inFlow c then
          let g := if c.leading then g.fold else g.keepBlanks
          let (text, c) := plainRun inFlow (c.rest.length + 1) g.text c
          ({ g with text }, c)
        else (g, c)
      if isBlank c.next || isBreak c.next then
        let (g, c) ← plainGap indent (c.rest.length + 1) g c
        if !inFlow && c.column < indent then some (g, c) else plainLines inFlow indent fuel g c
      else some (g, c)

/-- Reads a plain scalar whose lines have to be indented so far. -/
def plain? (inFlow : Bool) (indent : Int) (c : Cursor) : Option (Text × Cursor) := do
  if inFlow && c.column < indent then none
  else
    let (g, c) ← plainLines inFlow indent (c.rest.length + 1) {} c
    return (g.text.reverse, c)

/-! ## Quoted scalars -/

/-- The characters that a backslash and a letter stand for. -/
def escapes : List (Char × Char) :=
  [('0', Char.ofNat 0), ('a', Char.ofNat 7), ('b', Char.ofNat 8), ('t', '\t'), ('\t', '\t'),
    ('n', '\n'), ('v', Char.ofNat 11), ('f', Char.ofNat 12), ('r', '\r'), ('e', Char.ofNat 27),
    (' ', ' '), ('"', '"'), ('/', '/'), ('\\', '\\'), ('N', Char.ofNat 0x85),
    ('_', Char.ofNat 0xA0), ('L', Char.ofNat 0x2028), ('P', Char.ofNat 0x2029)]

/-- The letters of escapes by number, and how many hexadecimal digits they take. -/
def numbered : List (Char × Nat) := [('x', 2), ('u', 4), ('U', 8)]

/-- Reads an escape. -/
def escape? (c : Cursor) : Option (Char × Cursor) :=
  match escapes.lookup (c.peek 1), numbered.lookup (c.peek 1) with
  | some x, _ => some (x, c.passContent 2)
  | none, some count =>
    let digits := (c.rest.drop 2).take count
    if digits.length < count then none
    else (Text.charOfHex? digits).map (·, c.passContent (2 + count))
  | none, none => none

/-- Takes the characters of a quoted scalar up to the next gap or the closing quote.  Also tells
whether a backslash joined the line with the next one. -/
def quotedRun (single : Bool) : (fuel : Nat) → Text → Cursor → Option (Text × Bool × Cursor)
  | 0, _, _ => none
  | fuel + 1, text, c =>
    if isGap c.next then some (text, false, c)
    else if single then
      if c.next == '\'' then
        if c.peek 1 == '\'' then quotedRun single fuel ('\'' :: text) (c.passContent 2)
        else some (text, false, c)
      else quotedRun single fuel (c.next :: text) (c.passContent 1)
    else if c.next == '"' then some (text, false, c)
    else if c.next == '\\' then
      if isBreak (c.peek 1) then some (text, true, (c.passContent 1).passBreak)
      else do
        let (x, c) ← escape? c
        quotedRun single fuel (x :: text) c
    else quotedRun single fuel (c.next :: text) (c.passContent 1)

/-- Passes over the blanks and breaks inside a quoted scalar and folds them. -/
def quotedGap (indent : Int) : (fuel : Nat) → (joined : Bool) → Gathered → Cursor →
    Option (Text × Cursor)
  | 0, _, _, _ => none
  | fuel + 1, joined, g, c =>
    if isBlank c.next then
      if !joined then
        quotedGap indent fuel joined { g with blanks := c.next :: g.blanks } (c.pass 1)
      else if c.next == '\t' && c.column < indent then none
      else quotedGap indent fuel joined g (c.pass 1)
    else if isBreak c.next then quotedGap indent fuel true (g.endLine !joined) c.passBreak
    else some ((if joined then g.fold else g.keepBlanks).text, c)

/-- Reads a quoted scalar up to its closing quote. -/
def quotedLines (single : Bool) (indent : Int) : (fuel : Nat) → Text → Cursor →
    Option (Text × Cursor)
  | 0, _, _ => none
  | fuel + 1, text, c =>
    if c.atIndicator || c.next == endMark || c.column < indent then none
    else do
      let (text, joined, c) ← quotedRun single (c.rest.length + 1) text c
      if c.next == (if single then '\'' else '"') then some (text, c)
      else
        let (text, c) ← quotedGap indent (c.rest.length + 1) joined { text } c
        quotedLines single indent fuel text c

/-- Whether something may follow a quoted scalar that began on the given line. -/
def mayFollow (inFlow : Bool) (line : Nat) (c : Cursor) : Bool :=
  isLineEnd c.next
    || (inFlow && (c.next == ',' || c.next == '}' || c.next == ']' || c.next == ':'))
    || (!inFlow && c.next == ':' && line == c.line)

/-- Reads a quoted scalar and the gap behind it. -/
def quoted? (inFlow single : Bool) (indent : Int) (c : Cursor) : Option (Text × Cursor) := do
  let (text, after) ← quotedLines single indent (c.rest.length + 1) [] (c.passContent 1)
  let g ← (after.passContent 1).gap
  if mayFollow inFlow c.line g.after then return (text.reverse, g.after) else none

/-! ## Blocks of lines -/

/-- What becomes of the line breaks at the end of a block. -/
inductive Chomping
  | clip
  | keep
  | strip
  deriving DecidableEq, Repr

/-- The chomping that a sign stands for. -/
def chomping? (c : Char) : Option Chomping :=
  if c == '+' then some .keep else if c == '-' then some .strip else none

/-- The indentation that a digit stands for; zero is refused. -/
def indentation? (c : Char) : Option (Option Nat) :=
  match Text.digit? c with
  | none => some none
  | some 0 => none
  | some n => some (some n)

/-- Reads the signs at the head of a block: chomping and indentation, in either order. -/
def blockHead? (c : Cursor) : Option (Chomping × Nat × Cursor) := do
  match chomping? c.next with
  | some chomping =>
    match ← indentation? (c.peek 1) with
    | some n => return (chomping, n, c.passContent 2)
    | none => return (chomping, 0, c.passContent 1)
  | none =>
    match ← indentation? c.next with
    | some n =>
      match chomping? (c.peek 1) with
      | some chomping => return (chomping, n, c.passContent 2)
      | none => return (.clip, n, c.passContent 1)
    | none => return (.clip, 0, c)

/-- Passes over the indentation of a block and over empty lines, which are counted. -/
def blockIndent (width : Nat) : (fuel : Nat) → (breaks : Nat) → Cursor → Nat × Cursor
  | 0, breaks, c => (breaks, c)
  | fuel + 1, breaks, c =>
    let spaces := (c.run (· == ' ')).take (width - c.column)
    let c := c.pass spaces.length
    if isBreak c.next then blockIndent width fuel (breaks + 1) c.passBreak else (breaks, c)

/-- Passes over empty lines in front of a block, and tells how far its first lines reach. -/
def blockStart : (fuel : Nat) → (width breaks : Nat) → Cursor → Nat × Nat × Cursor
  | 0, width, breaks, c => (width, breaks, c)
  | fuel + 1, width, breaks, c =>
    let c := c.pass (c.run (· == ' ')).length
    let width := max width c.column
    if isBreak c.next then blockStart fuel width (breaks + 1) c.passBreak else (width, breaks, c)

/-- Reads the lines of a block.  In a folded block the break between two lines that do not start
with a blank is folded. -/
def blockLines (literal : Bool) (width : Nat) : (fuel : Nat) → (blankBefore : Bool) → Gathered →
    Cursor → Gathered × Cursor
  | 0, _, g, c => (g, c)
  | fuel + 1, blankBefore, g, c =>
    if c.column != width || c.next == endMark || (width == 0 && c.atEnd) then (g, c)
    else
      let blank := isBlank c.next
      let g :=
        if !literal && g.broken && !blankBefore && !blank then g.fold
        else { text := Gathered.feeds (g.breaks + if g.broken then 1 else 0) ++ g.text }
      let line := c.run fun x => !isBreak x
      let g := { g with text := line.reverse ++ g.text }
      let c := c.pass line.length
      if c.next == endMark then (g, c)
      else
        let (breaks, c) := blockIndent width (c.rest.length + 1) 0 c.passBreak
        blockLines literal width fuel blank { g with broken := true, breaks } c

/-- The text of a block, with the breaks at its end as its head says. -/
def chomp (chomping : Chomping) (width : Nat) (g : Gathered) (c : Cursor) : Text :=
  let kept := if chomping = .strip then []
    else (if g.broken then ['\n'] else [])
      ++ (if c.next == endMark && max width 1 ≤ c.column then ['\n'] else [])
  g.text.reverse ++ kept ++ if chomping = .keep then Gathered.feeds g.breaks else []

/-- The text of a block without content at the end of the text; `more` tells whether a line ended
behind its head. -/
def emptyBlock (chomping : Chomping) (more : Bool) (breaks : Nat) : Text :=
  if chomping = .strip || !more then []
  else if chomping = .keep && 0 < breaks then Gathered.feeds breaks
  else ['\n']

/-- Reads a block of lines inside a construct with the given indentation. -/
def block? (literal : Bool) (indent : Int) (c : Cursor) : Option (Text × Cursor) := do
  let (chomping, increment, head) ← blockHead? (c.passContent 1)
  let head ← head.lineEnd?
  let first := head.passBreak
  if first.next == '\t' then none
  else
    let fuel := first.rest.length + 1
    let (width, breaks, body) :=
      if 0 < increment then
        let width := (if 0 ≤ indent then indent.toNat else 0) + increment
        let (breaks, body) := blockIndent width fuel 0 first
        (width, breaks, body)
      else
        let (width, breaks, body) := blockStart fuel 0 0 first
        let width := max width (indent + 1).toNat
        ((if 0 < indent then max width 1 else width), breaks, body)
    if body.next == endMark then some (emptyBlock chomping (body.line != c.line) breaks, body)
    else if body.column < width && indent < body.column then none
    else
      let (g, after) := blockLines literal width fuel false { breaks } body
      some (chomp chomping width g after, after)

end Rampart.Config.Yaml
