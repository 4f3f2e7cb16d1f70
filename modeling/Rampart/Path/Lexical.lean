import Rampart.Path.Rejection

/-!
# Lexical paths

A path is read into a root and a list of components without looking at any disk.  On this form
paths are joined, anchored at the working directory, freed of `..`, compared and written out again.
-/

namespace Rampart.Path

/-- Where a path starts. -/
inductive Root
  | relative
  /-- A leading separator and no volume. -/
  | separator
  /-- A drive, by its upper-case letter. -/
  | drive (letter : Char)
  | share (server volume : Text)
  deriving DecidableEq, Repr

/-- The text of a root, up to the first component. -/
def Root.render (s : Style) : Root → Text
  | .relative => []
  | .separator => [s.separator]
  | .drive letter => [letter, ':', s.separator]
  | .share server volume => [s.separator, s.separator] ++ server ++ [s.separator] ++ volume

/-- A path as a root and its components. -/
structure Lexical where
  root : Root
  components : List Text
  deriving DecidableEq, Repr

/-- The directory that relative paths start from, as far as it can be told. -/
inductive WorkingDirectory
  | at (path : Text)
  /-- It has been removed. -/
  | missing
  /-- Its name is not text. -/
  | illegible
  deriving DecidableEq, Repr

instance : Coe Text WorkingDirectory := ⟨.at⟩

namespace Lexical

/-! ## Reading -/

/-- The components of a text: the non-empty pieces between separators, other than `.`. -/
def split (s : Style) (v : Text) : List Text :=
  (v.splitOnP s.isSeparator).filter fun part => !part.isEmpty && part != ['.']

/-- Reads a path of the windows style. -/
def parseWindows (v : Text) : Except Rejection Lexical :=
  let parts := split .windows
  match v with
  | a :: b :: rest =>
    if Style.windows.isSeparator a && Style.windows.isSeparator b then
      match parts v with
      | server :: volume :: components => .ok ⟨.share server volume, components⟩
      | _ => .error (.incompleteShare v)
    else if b == ':' && a.isAlpha then .ok ⟨.drive a.toUpper, parts rest⟩
    else if Style.windows.isSeparator a then .ok ⟨.separator, parts v⟩
    else .ok ⟨.relative, parts v⟩
  | [a] =>
    if Style.windows.isSeparator a then .ok ⟨.separator, parts v⟩ else .ok ⟨.relative, parts v⟩
  | [] => .ok ⟨.relative, []⟩

/-- Reads a path. -/
def parse : Style → Text → Except Rejection Lexical
  | .posix, v => .ok ⟨if v.head? == some '/' then .separator else .relative, split .posix v⟩
  | .windows, v => parseWindows v

/-! ## Joining and anchoring -/

/-- `p` followed by `tail`.  A rooted tail replaces `p`, except that a tail rooted by a separator
alone stays on the volume of `p`. -/
def join (p tail : Lexical) : Lexical :=
  match tail.root, p.root with
  | .relative, _ => ⟨p.root, p.components ++ tail.components⟩
  | .separator, .drive _ | .separator, .share _ _ => ⟨p.root, tail.components⟩
  | _, _ => tail

/-- Whether a path of style `s` names its place without help of the working directory. -/
def isQualified (s : Style) (p : Lexical) : Bool :=
  match p.root, s with
  | .relative, _ => false
  | .separator, .windows => false
  | _, _ => true

/-- The working directory as a path of style `s`. -/
def ofWorkingDirectory (s : Style) (cwd : WorkingDirectory) : Except Rejection Lexical :=
  if s = .native then
    match cwd with
    | .at path => parse s path
    | .missing => .error .noWorkingDirectory
    | .illegible => .error .illegibleWorkingDirectory
  else .error (.unqualified s)

/-- Anchors a path that is not qualified at the working directory. -/
def absolutize (s : Style) (cwd : WorkingDirectory) (p : Lexical) : Except Rejection Lexical :=
  if p.isQualified s then .ok p
  else (ofWorkingDirectory s cwd).map fun w => w.join p

/-! ## Resolving `..` -/

/-- One step of a walk through the tree: `..` goes back, and stays where it is at the root. -/
def step (here : List Text) (component : Text) : List Text :=
  if component = ['.', '.'] then here.dropLast else here ++ [component]

/-- The path with each `..` taken back against the component before it. -/
def normalize (p : Lexical) : Lexical := ⟨p.root, p.components.foldl step []⟩

/-! ## Containment -/

/-- Whether two roots are the same place. -/
def sameRoot (s : Style) : Root → Root → Bool
  | .share a b, .share a' b' => s.sameName a a' && s.sameName b b'
  | r, r' => r == r'

/-- Whether the names of `base` start the names of `p`, one by one. -/
def startsWith (s : Style) : List Text → List Text → Bool
  | _, [] => true
  | [], _ :: _ => false
  | a :: p, b :: base => s.sameName a b && startsWith s p base

/-- Whether `p` is `base` or lies somewhere beneath it. -/
def isWithin (s : Style) (p base : Lexical) : Bool :=
  sameRoot s p.root base.root && startsWith s p.components base.components

/-- The number of components. -/
def depth (p : Lexical) : Nat := p.components.length

/-! ## Writing -/

/-- The text of a path. -/
def render (s : Style) (p : Lexical) : Text :=
  match p.root with
  | .share .. => p.root.render s ++ p.components.flatMap fun c => s.separator :: c
  | _ => p.root.render s ++ [s.separator].intercalate p.components

end Lexical

end Rampart.Path
