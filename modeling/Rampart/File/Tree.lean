import Rampart.Failure

/-!
# File trees

A file tree without links.  A place in it is a list of names, and every operation walks that list
from the top, one name after the other: through a file nothing can be reached, a name that is too
long is refused where it is met, and only then is it looked up.
-/

namespace Rampart.File

/-- The content of a file. -/
abbrev Bytes := List UInt8

/-- A file, or a directory with its named entries. -/
inductive Node
  | file (content : Bytes)
  | directory (entries : List (Text × Node))

namespace Node

instance : Inhabited Node := ⟨.directory []⟩

/-- The greatest size of a name, in bytes. -/
def maxNameSize : Nat := 255

/-- Whether a name has a size that no entry can have. -/
def isTooLong (name : Text) : Bool := maxNameSize < name.byteSize

/-! ## Entries -/

/-- The entry with the given name. -/
def child? (name : Text) : List (Text × Node) → Option Node
  | [] => none
  | (k, n) :: rest => if k = name then some n else child? name rest

/-- Replaces the entry with the given name, or puts a new one in front of the first greater name. -/
def setChild (name : Text) (node : Node) : List (Text × Node) → List (Text × Node)
  | [] => [(name, node)]
  | (k, n) :: rest =>
    if k = name then (name, node) :: rest
    else if Text.before name k then (name, node) :: (k, n) :: rest
    else (k, n) :: setChild name node rest

/-- An entry is found under the name that it was set for. -/
theorem child?_setChild_self (name : Text) (node : Node) (entries : List (Text × Node)) :
    child? name (setChild name node entries) = some node := by
  induction entries with
  | nil => simp [setChild, child?]
  | cons e rest ih =>
    obtain ⟨k, n⟩ := e
    unfold setChild
    split
    · simp [child?]
    · split
      · simp [child?]
      · rename_i h _
        simp [child?, h, ih]

/-- Entries with other names stay as they are. -/
theorem child?_setChild_of_ne {name other : Text} (node : Node) (entries : List (Text × Node))
    (h : other ≠ name) : child? other (setChild name node entries) = child? other entries := by
  induction entries with
  | nil => simp [setChild, child?, Ne.symm h]
  | cons e rest ih =>
    obtain ⟨k, n⟩ := e
    unfold setChild
    split
    · rename_i hk
      subst hk
      simp [child?, Ne.symm h]
    · split
      · simp [child?, Ne.symm h]
      · simp [child?, ih]

/-! ## Operations at a place -/

/-- The node at a place. -/
def find : List Text → Node → Except IoFault Node
  | [], node => .ok node
  | _ :: _, .file _ => .error .notDirectory
  | name :: rest, .directory entries =>
    if isTooLong name then .error .nameTooLong
    else
      match child? name entries with
      | some node => find rest node
      | none => .error .notFound

/-- The content of the file at a place. -/
def read (place : List Text) (node : Node) : Except IoFault Bytes := do
  match ← node.find place with
  | .file content => return content
  | .directory _ => throw .isDirectory

/-- The tree with the file at a place created or overwritten.  Its directory has to be there. -/
def write (content : Bytes) : List Text → Node → Except IoFault Node
  | [], .file _ => .ok (.file content)
  | [], .directory _ => .error .isDirectory
  | _ :: _, .file _ => .error .notDirectory
  | name :: rest, .directory entries =>
    if isTooLong name then .error .nameTooLong
    else
      match child? name entries, rest with
      | some node, rest => do return .directory (setChild name (← write content rest node) entries)
      | none, [] => .ok (.directory (setChild name (.file content) entries))
      | none, _ :: _ => .error .notFound

/-- The tree with the directory at a place and all directories on the way to it.  What was created
on the way to a fault stays. -/
def createDirectories : List Text → Node → Node × Except IoFault Unit
  | [], .directory entries => (.directory entries, .ok ())
  | [], .file content => (.file content, .error .exists)
  | _ :: _, .file content => (.file content, .error .notDirectory)
  | name :: rest, .directory entries =>
    if isTooLong name then (.directory entries, .error .nameTooLong)
    else
      let (node, result) := createDirectories rest ((child? name entries).getD (.directory []))
      (.directory (setChild name node entries), result)

/-! ## Views -/

/-- What stands at a place, without what is below it. -/
inductive Item
  | directory
  | file (content : Bytes)
  deriving DecidableEq, Repr

/-- A node without what is below it. -/
def item : Node → Item
  | .file content => .file content
  | .directory _ => .directory

/-- What stands at a place, if it can be reached. -/
def item? (place : List Text) (node : Node) : Option Item :=
  match node.find place with
  | .ok n => some n.item
  | .error _ => none

mutual
/-- The places below a node and what stands there, a directory before its entries. -/
def listing : Node → List (List Text × Item)
  | .file _ => []
  | .directory entries => listEntries entries

/-- The places of entries and below them. -/
def listEntries : List (Text × Node) → List (List Text × Item)
  | [] => []
  | (name, node) :: rest =>
    ([name], node.item) :: (listing node).map (fun p => (name :: p.1, p.2)) ++ listEntries rest
end

end Node

end Rampart.File
