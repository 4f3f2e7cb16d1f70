import Rampart.File.Tree
import Rampart.Path.Builder

/-!
# Disks

A disk is a file tree and a working directory.  What a program does to it, and what it asks a
signature verifier, are effects that are listed in the order in which they happen.
-/

namespace Rampart.File

/-- A file tree and the directory that paths without root start from. -/
structure Disk where
  root : Node
  workingDirectory : Text

/-- What an operation asks of the world around it. -/
inductive Effect
  /-- A verifier is asked about the file with this path. -/
  | verify (path : Text)
  | read (path : Text)
  | write (path : Text) (content : Bytes)
  | createDirectories (path : Text)
  deriving DecidableEq, Repr

/-- The path that an effect is about. -/
def Effect.path : Effect → Text
  | .verify path | .read path | .write path _ | .createDirectories path => path

namespace Disk

/-- The sizes from which on a path is refused as a whole, in bytes. -/
def maxPathSize : Nat := 4096

/-- The place that a path without `..` leads to. -/
def place (d : Disk) (path : Text) : List Text :=
  match Path.machineNames path with
  | (true, names) => names
  | (false, names) => (Path.machineNames d.workingDirectory).2 ++ names

/-- What an effect does to the disk, and the bytes that it brings back. -/
def apply (d : Disk) (e : Effect) : Disk × Except IoFault Bytes :=
  if maxPathSize ≤ e.path.byteSize then (d, .error .nameTooLong)
  else
    match e with
    | .verify _ => (d, .ok [])
    | .read path => (d, d.root.read (d.place path))
    | .write path content =>
      match d.root.write content (d.place path) with
      | .ok root => ({ d with root }, .ok [])
      | .error f => (d, .error f)
    | .createDirectories path =>
      let (root, result) := d.root.createDirectories (d.place path)
      ({ d with root }, result.map fun _ => [])

end Disk

end Rampart.File
