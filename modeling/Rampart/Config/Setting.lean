import Rampart.Number.Extended

/-!
# Settings as data

What configuration files and the environment say is kept as data of one type until all of it is
known.  Sources are laid over one another key by key: a table goes into the table that is already
there, and anything else takes the place of what was there.
-/

namespace Rampart.Config

/-- A setting as a source gives it. -/
inductive Setting
  | null
  | bool (b : Bool)
  | int (n : Int)
  | float (x : Extended)
  | text (t : Text)
  | list (items : List Setting)
  | table (members : List (Text × Setting))

namespace Setting

instance : Inhabited Setting := ⟨.null⟩

/-! ## Tables -/

/-- The value of a key. -/
def lookup (key : Text) : List (Text × Setting) → Option Setting
  | [] => none
  | (k, s) :: rest => if k = key then some s else lookup key rest

/-- The members with the value of a key replaced, or with a new member at the end. -/
def insert (key : Text) (value : Setting) : List (Text × Setting) → List (Text × Setting)
  | [] => [(key, value)]
  | (k, s) :: rest => if k = key then (k, value) :: rest else (k, s) :: insert key value rest

/-- A key has the value that was inserted for it. -/
theorem lookup_insert_self (key : Text) (value : Setting) (members : List (Text × Setting)) :
    lookup key (insert key value members) = some value := by
  induction members with
  | nil => simp [insert, lookup]
  | cons m rest ih =>
    obtain ⟨k, s⟩ := m
    by_cases h : k = key
    · simp [insert, lookup, h]
    · simp [insert, lookup, h, ih]

/-- Other keys keep their values. -/
theorem lookup_insert_of_ne {key other : Text} (value : Setting) (members : List (Text × Setting))
    (h : other ≠ key) : lookup other (insert key value members) = lookup other members := by
  induction members with
  | nil => simp [insert, lookup, Ne.symm h]
  | cons m rest ih =>
    obtain ⟨k, s⟩ := m
    by_cases hk : k = key
    · subst hk
      simp [insert, lookup, Ne.symm h]
    · by_cases ho : k = other
      · subst ho
        simp [insert, lookup, hk]
      · simp [insert, lookup, hk, ho, ih]

/-- The members of a table; other settings have none. -/
def members : Setting → List (Text × Setting)
  | .table ms => ms
  | _ => []

/-- The items of a list; other settings have none. -/
def items : Setting → List Setting
  | .list xs => xs
  | _ => []

/-! ## Laying over -/

mutual
/-- What becomes of `under` when the first setting is laid over it. -/
def overlay : Setting → (under : Setting) → Setting
  | .table ms, under => .table (overlayMembers ms under.members)
  | s, _ => s

/-- Lays members over members, one after the other. -/
def overlayMembers : List (Text × Setting) → (under : List (Text × Setting)) → List (Text × Setting)
  | [], under => under
  | (k, s) :: rest, under =>
    overlayMembers rest (insert k (overlay s ((lookup k under).getD .null)) under)
end

end Setting

/-! ## Places of settings -/

/-- Whether a number is a whole number of 64 bits. -/
def isInt64 (n : Int) : Bool := -9223372036854775808 ≤ n && n ≤ 9223372036854775807

/-- One step down to a setting. -/
inductive Step
  | key (name : Text)
  /-- A position in a list; negative ones count from the end. -/
  | index (i : Int)
  deriving DecidableEq, Repr

namespace Step

/-- The characters of a name. -/
def isNameChar (c : Char) : Bool := c.isAlphanum || c == '_' || c == '-'

/-- The position between two brackets; spaces and tabulators may stand around it, but no plus sign
in front. -/
def index? (t : Text) : Option Int :=
  let isSpace (c : Char) : Bool := c == ' ' || c == '\t'
  let t := ((t.dropWhile isSpace).reverse.dropWhile isSpace).reverse
  if t.head? = some '+' then none else (Text.toInt? t).filter isInt64

/-- Reads steps below a setting: `.name` or `[index]`, any number of them. -/
def parseMore : (fuel : Nat) → Text → Option (List Step)
  | _, [] => some []
  | 0, _ :: _ => none
  | fuel + 1, c :: rest =>
    if c = '.' then
      let name := rest.takeWhile isNameChar
      if name.isEmpty then none
      else (parseMore fuel (rest.dropWhile isNameChar)).map (.key name :: ·)
    else if c = '[' then
      match index? (rest.takeWhile (· != ']')), rest.dropWhile (· != ']') with
      | some i, _ :: rest => (parseMore fuel rest).map (.index i :: ·)
      | _, _ => none
    else none

/-- The steps that a key of a source stands for.  A key that cannot be read so is a name as a
whole. -/
def parse (key : Text) : List Step :=
  let name := key.takeWhile isNameChar
  if name.isEmpty then [.key key]
  else
    match parseMore key.length (key.dropWhile isNameChar) with
    | some steps => .key name :: steps
    | none => [.key key]

end Step

namespace Setting

/-- The item at a position of a list changed.  The list grows as needed, at its end or, for a
position too far before its start, in front. -/
def modifyItem (i : Int) (f : Setting → Setting) (xs : List Setting) : List Setting :=
  let n : Int := xs.length
  if 0 ≤ i then
    let xs := xs ++ List.replicate (i + 1 - n).toNat .null
    xs.modify i.toNat f
  else if -i ≤ n then xs.modify (n + i).toNat f
  else f .null :: (List.replicate (-i - n - 1).toNat .null ++ xs)

/-- The setting with what stands at a place changed.  Whatever is in the way of a table or a list
gives way to it. -/
def modifyAt (f : Setting → Setting) : List Step → Setting → Setting
  | [], s => f s
  | .key name :: rest, s =>
    .table (insert name (modifyAt f rest ((lookup name s.members).getD .null)) s.members)
  | .index i :: rest, s => .list (modifyItem i (modifyAt f rest) s.items)

/-- Lays a setting over what stands at a place. -/
def assign (root : Setting) (place : List Step) (value : Setting) : Setting :=
  modifyAt (overlay value) place root

/-- Lays a source, given by its keys, over what earlier sources said. -/
def addSource (root : Setting) (source : List (Text × Setting)) : Setting :=
  source.foldl (fun root m => root.assign (Step.parse m.1) m.2) root

end Setting

end Rampart.Config
