import Rampart.Refusal
import Rampart.Type.Catalogue
import Rampart.Type.Exploitable

/-!
# Allow-lists

An allow-list is built once from the descriptors that are to be trusted.  A name in a payload is
looked up in it and in nothing else.  Of two candidates with one key the later counts, and a type
with several names is written under the first.
-/

namespace Rampart

/-- The trusted types by key, and the key that each type is written under. -/
structure AllowList (C : Catalogue) where
  entries : List (TypeName.Key × Descriptor C)
  tags : List (C.Code × TypeName.Key)

namespace AllowList

variable {C : Catalogue}

/-! ## Building -/

/-- Puts `d` in place of the entry with its key, or behind all others. -/
def insertEntry (d : Descriptor C) :
    List (TypeName.Key × Descriptor C) → List (TypeName.Key × Descriptor C)
  | [] => [(d.key, d)]
  | (k, e) :: rest => if k = d.key then (k, d) :: rest else (k, e) :: insertEntry d rest

/-- Records the key of `d` unless its type has one already. -/
def insertTag (d : Descriptor C) (tags : List (C.Code × TypeName.Key)) :
    List (C.Code × TypeName.Key) :=
  if tags.any fun t => t.1 = d.code then tags else tags ++ [(d.code, d.key)]

/-- The list with one more trusted type. -/
def add (l : AllowList C) (d : Descriptor C) : AllowList C :=
  ⟨insertEntry d l.entries, insertTag d l.tags⟩

/-- The first candidate that is known to be exploitable, with the fragment that tells. -/
def firstExploitable (candidates : List (Descriptor C)) : Option (Text × Text) :=
  candidates.findSome? fun d => (Exploitable.find? d.identity).map fun f => (d.identity, f)

/-- The allow-list of the candidates, if there are any and none is exploitable. -/
def build (candidates : Option (List (Descriptor C))) : Except Refusal (AllowList C) :=
  match candidates with
  | none => .error .noCandidates
  | some [] => .error .emptyCandidates
  | some cs =>
    match firstExploitable cs with
    | some (identity, fragment) => .error (.exploitable identity fragment)
    | none => .ok (cs.foldl add ⟨[], []⟩)

/-! ## Looking up -/

/-- The trusted type with the given key. -/
def find? (l : AllowList C) (key : TypeName.Key) : Option (Descriptor C) :=
  (l.entries.find? fun e => e.1 = key).map (·.2)

/-- The trusted type with the given key, or a refusal that names it. -/
def resolve (l : AllowList C) (key : TypeName.Key) : Except Refusal (Descriptor C) :=
  match l.find? key with
  | some d => .ok d
  | none => .error (.unknownType key.identity key.name)

/-- The key that values of a type are written under: the one it was trusted under first, or the
descriptor's own. -/
def describe (l : AllowList C) (d : Descriptor C) : TypeName.Key :=
  match l.tags.find? fun t => t.1 = d.code with
  | some t => t.2
  | none => d.key

/-- The number of trusted keys. -/
def size (l : AllowList C) : Nat := l.entries.length

/-- The trusted types. -/
def types (l : AllowList C) : List (Descriptor C) := l.entries.map (·.2)

/-! ## Records -/

/-- What is put on record about the outcome of a build. -/
def buildRecords : Except Refusal (AllowList C) → List Record
  | .ok l =>
    [{ level := .debug
       target := "warden_core::binder"
       message := "Type binder built"
       fields := [("types", .count l.size)] }]
  | .error (.exploitable identity fragment) =>
    [{ level := .warn
       target := "warden_core::binder"
       message := "Refusing to allow-list exploitable type"
       fields := [("category", .word Kind.knownExploitableType.category),
         ("type_name", .shown identity), ("fragment", .word fragment)] }]
  | .error _ => []

/-- What is put on record when a key is not trusted. -/
def unknownRecord (key : TypeName.Key) : Record where
  level := .warn
  target := "warden_core::binder"
  message := "Payload references a type outside the allow-list"
  fields := [("category", .word Kind.unknownType.category),
    ("assembly", .word key.identity), ("type_name", .word key.name)]

end AllowList

end Rampart
