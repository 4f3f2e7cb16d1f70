import Rampart.Json.Decode

/-!
# Path styles and reserved characters

A style is a convention for writing paths: which characters separate components, whether there are
volumes, and how two names are compared.  Each style has a table of the characters that may not
stand in a path, and of those that may not stand in a bare file name.
-/

namespace Rampart.Path

/-- The convention that a path is written in. -/
inductive Style
  /-- Drive letters and network shares, `\` and `/` as separators, names equal up to case. -/
  | windows
  /-- A single root `/`, names equal only when identical. -/
  | posix
  deriving DecidableEq, Repr

namespace Style

/-- The style of the machine that paths are resolved on. -/
def native : Style := .posix

/-- The name of a style. -/
def name : Style → Text
  | .windows => "windows"
  | .posix => "posix"

/-- All styles, by name. -/
def choices : List (Text × Style) := [Style.windows, .posix].map fun s => (s.name, s)

/-- Reads the name of a style. -/
def decode : Json → Json.Decoding Style := Json.toChoice choices

/-- The separator that paths are rendered with. -/
def separator : Style → Char
  | .windows => '\\'
  | .posix => '/'

/-- The characters that divide components when a path is read. -/
def isSeparator : Style → Char → Bool
  | .windows, c => c == '\\' || c == '/'
  | .posix, c => c == '/'

/-- The character that divides a volume from the rest, where the style has volumes. -/
def volumeSeparator : Style → Option Char
  | .windows => some ':'
  | .posix => none

/-- Whether names that differ in case are different. -/
def isCaseSensitive : Style → Bool
  | .windows => false
  | .posix => true

/-- Whether two component names denote the same entry. -/
def sameName : Style → Text → Text → Bool
  | .windows, a, b => a.lower == b.lower
  | .posix, a, b => a == b

@[simp] theorem isSeparator_separator (s : Style) : s.isSeparator s.separator = true := by
  cases s <;> rfl

@[simp] theorem sameName_refl (s : Style) (a : Text) : s.sameName a a = true := by
  cases s <;> simp [sameName]

/-- It does not matter which name comes first. -/
theorem sameName_comm (s : Style) (a b : Text) : s.sameName a b = s.sameName b a := by
  cases s <;> simp only [sameName] <;> rw [Bool.beq_comm]

/-- Naming the same entry is transitive. -/
theorem sameName_trans {s : Style} {a b c : Text} (hab : s.sameName a b = true)
    (hbc : s.sameName b c = true) : s.sameName a c = true := by
  cases s <;> simp only [sameName, beq_iff_eq] at * <;> rw [hab, hbc]

end Style

/-! ## Reserved characters -/

/-- A named and versioned table of reserved characters. -/
structure ReservedTable where
  name : Text
  version : Nat
  /-- The characters that may stand nowhere in a path. -/
  path : List Char
  /-- The characters that may not stand in a file name. -/
  fileName : List Char
  /-- Whether the control characters below the space are reserved as well. -/
  controls : Bool

namespace ReservedTable

/-- The reserved characters of the windows style. -/
def windows : ReservedTable where
  name := "windows"
  version := 1
  path := [Char.ofNat 0, '"', '<', '>', '|', '*', '?']
  fileName := [Char.ofNat 0, '"', '<', '>', '|', '*', '?', ':', '\\', '/']
  controls := true

/-- The reserved characters of the posix style. -/
def posix : ReservedTable where
  name := "posix"
  version := 1
  path := [Char.ofNat 0]
  fileName := [Char.ofNat 0, '/']
  controls := false

/-- Whether `c` is reserved, given the listed characters. -/
def reserves (t : ReservedTable) (listed : List Char) (c : Char) : Bool :=
  listed.contains c || (t.controls && c.toNat < 0x20)

/-- The first character of `v` that may not stand in a path. -/
def findInPath (t : ReservedTable) (v : Text) : Option Char := v.find? (t.reserves t.path)

/-- The first character of `v` that may not stand in a file name. -/
def findInFileName (t : ReservedTable) (v : Text) : Option Char := v.find? (t.reserves t.fileName)

end ReservedTable

/-- The table of a style. -/
def Style.reserved : Style → ReservedTable
  | .windows => .windows
  | .posix => .posix

end Rampart.Path
