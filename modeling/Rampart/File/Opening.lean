import Rampart.File.Disk

/-!
# Opening a file to append to it

Unlike the paths that are built below a base, the path of a log file is taken as it stands.  It is
walked name by name, `..` leads back, and the file is created if it is not there.
-/

namespace Rampart.File

namespace Disk

/-- The names of a path. -/
def names (path : Text) : List Text := (path.splitOnP (· == '/')).filter fun part => !part.isEmpty

/-- Whether a name stands for a directory by itself. -/
def isDirectoryName (name : Text) : Bool := name == ['.'] || name == ['.', '.']

/-- Walks through directories, one name after the other. -/
def walk (root : Node) : (here : List Text) → List Text → Except IoFault (List Text)
  | here, [] => .ok here
  | here, name :: rest => do
    match ← root.find here with
    | .file _ => throw .notDirectory
    | .directory _ =>
      if name = ['.'] then walk root here rest
      else if name = ['.', '.'] then walk root here.dropLast rest
      else walk root (here ++ [name]) rest

/-- The place of the file that a path leads to, in a directory that has to be there. -/
def filePlace (d : Disk) (path : Text) : Except IoFault (List Text) := do
  if path.contains '\x00' then throw .nullCharacter
  if path.isEmpty then throw .notFound
  if maxPathSize ≤ path.byteSize then throw .nameTooLong
  let start := if path.head? = some '/' then [] else names d.workingDirectory
  match (names path).getLast? with
  | none => throw .isDirectory
  | some last =>
    let parent ← walk d.root start (names path).dropLast
    match ← d.root.find parent with
    | .file _ => throw .notDirectory
    | .directory _ =>
      if isDirectoryName last || path.getLast? = some '/' then throw .isDirectory
      return parent ++ [last]

/-- The disk with a file at a place, an empty one if there was none. -/
def ensureFile (d : Disk) (place : List Text) : Except IoFault Disk :=
  match d.root.find place with
  | .ok (.file _) => .ok d
  | .ok (.directory _) => .error .isDirectory
  | .error .notFound => do return { d with root := ← d.root.write [] place }
  | .error f => .error f

/-- The place of the file that is opened by a path, and the disk with that file on it. -/
def openToAppend (d : Disk) (path : Text) : Except IoFault (List Text × Disk) := do
  let place ← d.filePlace path
  return (place, ← d.ensureFile place)

/-- The disk with more bytes at the end of a file. -/
def append (d : Disk) (place : List Text) (content : Bytes) : Except IoFault Disk := do
  let old ← d.root.read place
  return { d with root := ← d.root.write (old ++ content) place }

end Disk

end Rampart.File
