import Rampart.Config.Toml.Node

/-!
# Settings from TOML

A TOML document is read into statements, which open tables and give values to keys, and the
statements are carried out one after the other.
-/

namespace Rampart.Config.Toml

/-! ## Values -/

mutual
/-- Reads a value in which `room` lists and tables may still be opened. -/
def value : (fuel room : Nat) → Text → Option (Node × Text)
  | 0, _, _ => none
  | fuel + 1, room, t =>
    match t with
    | '[' :: rest => do
      if room = 0 then none
      else
        let (xs, rest) ← items fuel (room - 1) rest
        return (.list xs, rest)
    | '{' :: rest => do
      if room = 0 then none
      else
        let (members, rest) ← inlineMembers fuel (room - 1) [] rest
        return (.table .inline members, rest)
    | t => (scalar t).map fun r => (.scalar r.1, r.2)

/-- Reads the items of a list up to its closing bracket. -/
def items : (fuel room : Nat) → Text → Option (List Node × Text)
  | 0, _, _ => none
  | fuel + 1, room, t => do
    match ← skipLines t.length t with
    | ']' :: rest => return ([], rest)
    | t =>
      let (first, rest) ← value fuel room t
      match ← skipLines rest.length rest with
      | ']' :: rest => return ([first], rest)
      | ',' :: rest =>
        let (more, rest) ← items fuel room rest
        return (first :: more, rest)
      | _ => none

/-- Reads the members of a table between braces up to the closing one.  Lines may end anywhere but
within a key. -/
def inlineMembers : (fuel room : Nat) → List (Text × Node) → Text →
    Option (List (Text × Node) × Text)
  | 0, _, _, _ => none
  | fuel + 1, room, members, t => do
    match ← skipLines t.length t with
    | '}' :: rest => return (members, rest)
    | t =>
      let (path, rest) ← key t
      match ← skipLines rest.length rest with
      | '=' :: rest =>
        let (n, rest) ← value fuel room (← skipLines rest.length rest)
        let members ← Node.assign n true path members
        match ← skipLines rest.length rest with
        | '}' :: rest => return (members, rest)
        | ',' :: rest => inlineMembers fuel room members rest
        | _ => none
      | _ => none
end

/-! ## Documents -/

/-- What a line of a document says. -/
inductive Statement
  | table (path : List Text)
  | addTable (path : List Text)
  | assign (path : List Text) (value : Node)

/-- Reads one statement and the end of its line. -/
def statement (t : Text) : Option (Statement × Text) :=
  match t with
  | '[' :: '[' :: rest => do
    let (path, rest) ← key rest
    match skipBlanks rest with
    | ']' :: ']' :: rest => return (.addTable path, ← endLine rest)
    | _ => none
  | '[' :: rest => do
    let (path, rest) ← key rest
    match skipBlanks rest with
    | ']' :: rest => return (.table path, ← endLine rest)
    | _ => none
  | t => do
    let (path, rest) ← key t
    match skipBlanks rest with
    | '=' :: rest =>
      let (n, rest) ← value (2 * rest.length + 2) maxRoom (skipBlanks rest)
      return (.assign path n, ← endLine rest)
    | _ => none

/-- Reads all statements of a text. -/
def statements : (fuel : Nat) → Text → Option (List Statement)
  | 0, _ => none
  | fuel + 1, t => do
    match ← skipLines t.length t with
    | [] => return []
    | t =>
      let (first, rest) ← statement t
      return first :: (← statements fuel rest)

/-- Carries out a statement on the members so far, in the table that is open. -/
def carryOut (state : List (Text × Node) × List Text) :
    Statement → Option (List (Text × Node) × List Text)
  | .table path => (Node.atHeader Node.openTable path state.1).map (·, path)
  | .addTable path => (Node.atHeader Node.addTable path state.1).map (·, path)
  | .assign path n =>
    let members :=
      if state.2.isEmpty then Node.assign n true path state.1
      else Node.atHeader (Node.assignIn path n) state.2 state.1
    members.map (·, state.2)

/-- The settings of a document, unless it stands for a point in time as a whole. -/
def parse? (text : Text) : Option (List (Text × Setting)) := do
  let text := text.withoutMark
  let (members, _) ← (← statements (text.length + 1) text).foldlM carryOut ([], [])
  match ← (Node.table .implied members).toSetting? with
  | .table settings => some settings
  | _ => none

end Rampart.Config.Toml
