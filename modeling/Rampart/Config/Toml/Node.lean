import Rampart.Config.Toml.Scalar

/-!
# Tables of TOML under construction

The tables of a document grow statement by statement.  How a table came about decides who may still
add to it: a table that was written in one piece is closed, and a table with a header of its own
cannot be opened again.
-/

namespace Rampart.Config.Toml

/-- How a table came about. -/
inductive Origin
  /-- On the way to the table of a header. -/
  | implied
  /-- By a header of its own. -/
  | header
  /-- On the way to a value. -/
  | dotted
  /-- In one piece, between braces. -/
  | inline
  deriving DecidableEq, Repr

/-- What stands under a key so far. -/
inductive Node
  | scalar (s : Scalar)
  | list (items : List Node)
  | table (origin : Origin) (members : List (Text × Node))
  /-- Tables in a list, by headers in double brackets. -/
  | tables (items : List (List (Text × Node)))

namespace Node

/-! ## Members -/

/-- What stands under a key. -/
def child? (key : Text) : List (Text × Node) → Option Node
  | [] => none
  | (k, n) :: rest => if k = key then some n else child? key rest

/-- Replaces what stands under a key, or adds it at the end. -/
def setChild (key : Text) (node : Node) : List (Text × Node) → List (Text × Node)
  | [] => [(key, node)]
  | (k, n) :: rest => if k = key then (k, node) :: rest else (k, n) :: setChild key node rest

/-- Changes the members of the last table of a list. -/
def modifyLast (f : List (Text × Node) → Option (List (Text × Node))) :
    List (List (Text × Node)) → Option (List (List (Text × Node)))
  | [] => none
  | [members] => (f members).map ([·])
  | members :: rest => (modifyLast f rest).map (members :: ·)

/-! ## Headers -/

/-- Changes what stands at the end of the path of a header. -/
def atHeader (f : Option Node → Option Node) : List Text → List (Text × Node) →
    Option (List (Text × Node))
  | [], _ => none
  | [k], members => (f (child? k members)).map fun n => setChild k n members
  | k :: rest, members =>
    match child? k members with
    | none => (atHeader f rest []).map fun sub => setChild k (.table .implied sub) members
    | some (.table origin sub) =>
      if origin = .inline then none
      else (atHeader f rest sub).map fun sub => setChild k (.table origin sub) members
    | some (.tables items) =>
      (modifyLast (atHeader f rest) items).map fun items => setChild k (.tables items) members
    | some _ => none

/-- Opens the table of a header. -/
def openTable : Option Node → Option Node
  | none => some (.table .header [])
  | some (.table .implied members) => some (.table .header members)
  | _ => none

/-- Adds a table to the list of a header in double brackets. -/
def addTable : Option Node → Option Node
  | none => some (.tables [[]])
  | some (.tables items) => some (.tables (items ++ [[]]))
  | _ => none

/-! ## Values -/

/-- Gives a value to a key.  On the way, tables without a header may be passed; but the table that
takes the value has to be the open one or one that came about in the same way. -/
def assign (value : Node) : (takes : Bool) → List Text → List (Text × Node) →
    Option (List (Text × Node))
  | _, [], _ => none
  | takes, [k], members =>
    if takes && (child? k members).isNone then some (setChild k value members) else none
  | _, k :: rest, members =>
    match child? k members with
    | none => (assign value true rest []).map fun sub => setChild k (.table .dotted sub) members
    | some (.table .dotted sub) =>
      (assign value true rest sub).map fun sub => setChild k (.table .dotted sub) members
    | some (.table .implied sub) =>
      (assign value false rest sub).map fun sub => setChild k (.table .implied sub) members
    | some (.tables items) =>
      (modifyLast (assign value false rest) items).map fun items =>
        setChild k (.tables items) members
    | some _ => none

/-- Gives a value to a key in a table that is open. -/
def assignIn (path : List Text) (value : Node) : Option Node → Option Node
  | some (.table origin members) => (assign value true path members).map (.table origin)
  | some (.tables items) => (modifyLast (assign value true path) items).map .tables
  | _ => none

/-! ## Settings -/

/-- The key of a table that stands for a point in time. -/
def momentMark : Text := "$__toml_private_datetime"

/-- The point in time that a table stands for: the mark comes first among its keys. -/
def marked? (members : List (Text × Node)) : Option Node :=
  if members.any fun m => Text.before m.1 momentMark then none else child? momentMark members

mutual
/-- What stands under a key as a setting. -/
def toSetting? : Node → Option Setting
  | .scalar s => some s.toSetting
  | .list items => (toItems? items).map .list
  | .table _ members =>
    match marked? members with
    | some (.scalar (.text t)) => (Moment.parse? t).map fun m => .text m.write
    | some _ => none
    | none => (toMembers? members).map .table
  | .tables items => (toTables? items).map .list

/-- The items of a list as settings. -/
def toItems? : List Node → Option (List Setting)
  | [] => some []
  | n :: rest => do return (← toSetting? n) :: (← toItems? rest)

/-- The members of a table as settings. -/
def toMembers? : List (Text × Node) → Option (List (Text × Setting))
  | [] => some []
  | (k, n) :: rest => do return (k, ← toSetting? n) :: (← toMembers? rest)

/-- The tables of a list as settings. -/
def toTables? : List (List (Text × Node)) → Option (List Setting)
  | [] => some []
  | members :: rest => do
    let first ← match marked? members with
      | some (.scalar (.text t)) => (Moment.parse? t).map fun m => .text m.write
      | some _ => none
      | none => (toMembers? members).map .table
    return first :: (← toTables? rest)
end

end Node

end Rampart.Config.Toml
