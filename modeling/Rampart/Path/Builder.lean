import Rampart.Path.Lexical

/-!
# Building paths below a base

A trusted base is combined with names from outside.  Every request is first checked for blank
arguments, then each part against the rules for its place, and last the combined path is resolved
and compared with the base.  The result lies below the base, or there is none.
-/

namespace Rampart.Path

/-- A canonical path that was built below some base. -/
structure ValidatedPath where
  text : Text
  style : Style
  deriving DecidableEq, Repr

/-- The final component. -/
def ValidatedPath.fileName (p : ValidatedPath) : Text := p.text.afterLast p.style.isSeparator

/-- What the machine reads in a path: whether it is rooted, and its names.  Repeated separators and
`.` are passed over, except for a `.` that starts a path without root. -/
def machineNames (v : Text) : Bool × List Text :=
  let rooted := v.head? == some '/'
  let names := (v.splitOnP (· == '/')).filter fun part => !part.isEmpty
  match rooted, names with
  | false, first :: rest => (false, first :: rest.filter (· != ['.']))
  | _, names => (rooted, names.filter (· != ['.']))

/-- Whether a path and a text are the same to the machine. -/
def ValidatedPath.denotes (p : ValidatedPath) (v : Text) : Bool :=
  machineNames p.text == machineNames v

/-- How far below the base a combined path may land. -/
inductive Containment
  /-- The base is the immediate parent. -/
  | exactParent
  /-- Any depth below the base. -/
  | descendant
  deriving DecidableEq, Repr

/-- Whether a depth is the wanted one above the depth of the base. -/
def Containment.admits : Containment → (base depth : Nat) → Bool
  | .exactParent, base, depth => depth == base + 1
  | .descendant, base, depth => base < depth

/-! ## Rules for the parts -/

/-- Refuses a blank argument. -/
def blankFault (argument : Argument) (v : Text) : Option Rejection :=
  if v.isBlank then some (.blank argument) else none

/-- Refuses a character that may not stand in a path. -/
def reservedPathFault (s : Style) (subject : Subject) (v : Text) : Option Rejection :=
  (s.reserved.findInPath v).map fun c => .reserved subject c v

/-- Refuses a character that may not stand in a file name. -/
def reservedNameFault (s : Style) (v : Text) : Option Rejection :=
  (s.reserved.findInFileName v).map fun c => .reserved .fileName c v

/-- Whether `c` stands in `v` elsewhere than directly behind a leading letter. -/
def isStray (c : Char) (v : Text) : Bool :=
  match v with
  | letter :: second :: rest =>
    if second == c && letter.isAlpha then rest.contains c else v.contains c
  | _ => v.contains c

/-- Refuses a volume separator outside a leading drive prefix, where it would name a stream. -/
def volumeFault (s : Style) (subject : Subject) (v : Text) : Option Rejection :=
  s.volumeSeparator.bind fun c => if isStray c v then some (.strayVolume subject c v) else none

/-- Refuses more than one `%`. -/
def percentFault (v : Text) : Option Rejection :=
  if 1 < v.count '%' then some (.manyPercents v) else none

/-- The first rule that a base breaks. -/
def baseFault (s : Style) (v : Text) : Option Rejection :=
  reservedPathFault s .base v
    <|> (if v.has ['.', '.'] then some (.climbingBase v) else none)
    <|> volumeFault s .base v
    <|> percentFault v

/-- The first rule that a tail or a directory name breaks. -/
def relativeFault (s : Style) (subject : Subject) (v : Text) : Option Rejection :=
  (if v.has ['.', '.'] then some (.climbing subject v) else none)
    <|> reservedPathFault s subject v
    <|> volumeFault s subject v
    <|> percentFault v

/-- Whether `c` would lead out of a directory or off a volume. -/
def changesDirectory (s : Style) (c : Char) : Bool :=
  s.isSeparator c || some c == s.volumeSeparator

/-- The first rule that a file name breaks. -/
def fileNameFault (s : Style) (v : Text) : Option Rejection :=
  (if v.has ['.', '.'] then some (.climbing .fileName v) else none)
    <|> (if v.any (changesDirectory s) then some (.notBare v) else none)
    <|> reservedNameFault s v
    <|> percentFault v

/-- The first fault, if any, as an error. -/
def refuse : Option Rejection → Except Rejection Unit
  | some r => .error r
  | none => .ok ()

/-! ## Combining -/

/-- The base as a qualified path without `..`. -/
def resolveBase (s : Style) (cwd : WorkingDirectory) (base : Text) : Except Rejection Lexical := do
  let p ← Lexical.parse s base
  let p ← p.absolutize s cwd
  return p.normalize

/-- Reads the segments one after the other and joins them to `p`. -/
def joinAll (s : Style) (p : Lexical) : List Text → Except Rejection Lexical
  | [] => .ok p
  | segment :: rest => do
    let tail ← Lexical.parse s segment
    joinAll s (p.join tail) rest

/-- The path of `tail` below `base`. -/
def combine (s : Style) (cwd : WorkingDirectory) (base : Text) (tail : List Text)
    (containment : Containment) : Except Rejection ValidatedPath := do
  let b ← resolveBase s cwd base
  let p ← joinAll s b tail
  let p ← p.absolutize s cwd
  let p := p.normalize
  if p.isWithin s b && containment.admits b.depth p.depth then
    return ⟨p.render s, s⟩
  else
    throw (.outside (p.render s) (b.render s))

/-! ## Requests -/

/-- The path of a bare file name directly inside a base. -/
def buildExact (s : Style) (cwd : WorkingDirectory) (base fileName : Text) :
    Except Rejection ValidatedPath := do
  refuse (blankFault .basePath base <|> blankFault .fileName fileName)
  refuse (baseFault s base <|> fileNameFault s fileName)
  combine s cwd base [fileName] .exactParent

/-- The path of a tail, which may name directories, below a base. -/
def buildWithSubdirectories (s : Style) (cwd : WorkingDirectory) (base tail : Text) :
    Except Rejection ValidatedPath := do
  refuse (blankFault .basePath base <|> blankFault .relativePath tail)
  refuse (baseFault s base <|> relativeFault s .relativePath tail)
  combine s cwd base [tail] .descendant

/-- The path of a list of a base, any number of directories and a file name. -/
def buildFromSegments (s : Style) (cwd : WorkingDirectory) (segments : List Text) :
    Except Rejection ValidatedPath :=
  match segments with
  | base :: first :: more => do
    let tail := first :: more
    refuse (segments.findSome? (blankFault .segments))
    refuse (baseFault s base <|> tail.dropLast.findSome? (relativeFault s .segment)
      <|> fileNameFault s (tail.getLast (List.cons_ne_nil _ _)))
    combine s cwd base tail .descendant
  | _ => .error (.tooFewSegments segments.length)

/-- Whether a file name has an extension: a dot that is not its last character. -/
def hasExtension (name : Text) : Bool := name.contains '.' && name.getLast? != some '.'

/-- Whether a path is free of reserved characters; a last component with an extension has to be
free of those reserved in file names. -/
def isValid (s : Style) (path : Text) : Except Rejection Bool := do
  refuse (blankFault .path path)
  let last := path.afterLast s.isSeparator
  return (s.reserved.findInPath path).isNone
    && !(hasExtension last && (s.reserved.findInFileName last).isSome)

/-! ## Records -/

/-- What is put on record about the outcome of a build. -/
def buildRecords (s : Style) : Except Rejection ValidatedPath → List Record
  | .error r => r.records s
  | .ok p =>
    [{ level := .debug
       target := "warden_core::path"
       message := "Path validated"
       fields := [("path", .shown p.text), ("style", .shown s.name)] }]

end Rampart.Path
