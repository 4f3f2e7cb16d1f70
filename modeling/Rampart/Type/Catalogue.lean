import Rampart.Json.Decode
import Rampart.Type.Name

/-!
# Catalogues and descriptors

A catalogue says which types there are: how they are told apart, what their values are, what they
are called, and how values are decoded from and encoded to JSON.  A descriptor publishes one of
these types under a full name and an assembly.
-/

namespace Rampart

/-- The types that a program knows. -/
structure Catalogue where
  /-- What tells types apart. -/
  Code : Type
  decEq : DecidableEq Code
  /-- The values of a type. -/
  Value : Code → Type
  /-- The full name of a type. -/
  fullName : Code → Text
  decode : (c : Code) → Json → Json.Decoding (Value c)
  encode : (c : Code) → Value c → Json.Decoding Json

instance (C : Catalogue) : DecidableEq C.Code := C.decEq

/-- A type of a catalogue and the name that it is published under. -/
structure Descriptor (C : Catalogue) where
  fullName : Text
  assembly : Text
  code : C.Code

namespace Descriptor

variable {C : Catalogue}

/-- The descriptor of a type under its own name. -/
def of (c : C.Code) : Descriptor C := ⟨C.fullName c, TypeName.ownAssembly (C.fullName c), c⟩

/-- The short name. -/
def name (d : Descriptor C) : Text := TypeName.short d.fullName

/-- The identity: full name and assembly. -/
def identity (d : Descriptor C) : Text := TypeName.qualified d.fullName d.assembly

/-- What the type is looked up under. -/
def key (d : Descriptor C) : TypeName.Key := ⟨d.identity, d.name⟩

instance : DecidableEq (Descriptor C) := fun a b =>
  if h : a.fullName = b.fullName ∧ a.assembly = b.assembly ∧ a.code = b.code then
    isTrue (by
      obtain ⟨_, _, _⟩ := a
      obtain ⟨_, _, _⟩ := b
      obtain ⟨rfl, rfl, rfl⟩ := h
      rfl)
  else isFalse (fun e => h (e ▸ ⟨rfl, rfl, rfl⟩))

/-- The descriptor as it is shown in messages. -/
def shown (d : Descriptor C) : Text :=
  "TypeDescriptor \x7b full_name: " ++ d.fullName.quoted ++ ", assembly: " ++ d.assembly.quoted
    ++ ", name: " ++ d.name.quoted ++ ", .. \x7d"

end Descriptor

end Rampart
