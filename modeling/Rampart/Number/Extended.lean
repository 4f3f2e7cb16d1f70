import Rampart.Number.Shortest

/-!
# Doubles with infinities

Where numbers come from outside, a double may be infinite or no number at all.  This module reads
such numbers from their decimal text, writes them, and rounds them to whole numbers.
-/

namespace Rampart

/-- A double that may be infinite or no number. -/
inductive Extended
  | finite (x : Binary64)
  | infinite (negative : Bool)
  | nan
  deriving DecidableEq, Repr

namespace Extended

/-! ## Reading -/

/-- The power of ten from which on every number is infinite, and below whose inverse every number
is zero. -/
def farOff : Int := 400

/-- The double nearest to `± digits * 10 ^ scale`. -/
def ofDecimal (negative : Bool) (digits : Text) (scale : Int) : Extended :=
  let digits := digits.dropWhile (· == '0')
  let top : Int := digits.length + scale
  if digits.isEmpty || top < -farOff then .finite (.zero negative)
  else if farOff < top then .infinite negative
  else
    match (Decimal.mk (Text.digitsValue digits) scale).toBinary64 negative with
    | some x => .finite x
    | none => .infinite negative

/-- Reads what follows the digits of a number: nothing, or an exponent. -/
def exponent? : Text → Option Int
  | [] => some 0
  | c :: rest =>
    let (negative, digits) := Text.signed rest
    if (c == 'e' || c == 'E') && !digits.isEmpty && digits.all Text.isDigit then
      some (if negative then -Text.digitsValue digits else Text.digitsValue digits)
    else none

/-- Reads the digits of a number, with a point among them or not, and its exponent. -/
def magnitude? (negative : Bool) (t : Text) : Option Extended := do
  let whole := t.takeWhile Text.isDigit
  let rest := t.dropWhile Text.isDigit
  let (fraction, rest) : Text × Text := match rest with
    | '.' :: rest => (rest.takeWhile Text.isDigit, rest.dropWhile Text.isDigit)
    | rest => ([], rest)
  if whole.isEmpty && fraction.isEmpty then none
  else return ofDecimal negative (whole ++ fraction) ((← exponent? rest) - fraction.length)

/-- Reads a number.  Infinity and no number go by their names, in any case. -/
def parse? (t : Text) : Option Extended :=
  let (negative, body) := Text.signed t
  let name := body.map Char.toLower
  if name = "inf".toList ∨ name = "infinity".toList then some (.infinite negative)
  else if name = "nan".toList then some .nan
  else magnitude? negative body

/-! ## Writing and rounding -/

/-- All digits are written out, and a whole number has no point. -/
def layout : NumberLayout where
  positional _ := true
  wholePoint := false

/-- The text of a number. -/
def write : Extended → Text
  | .finite x => layout.write x
  | .infinite negative => if negative then "-inf" else "inf"
  | .nan => "NaN"

/-- Whether a number differs from zero. -/
def isNonzero : Extended → Bool
  | .finite x => !x.isZero
  | _ => true

/-- The nearest whole number between zero and `limit`, a half going up. -/
def toNat (limit : Nat) : Extended → Nat
  | .finite x => if x.negative then 0 else min x.roundMagnitude limit
  | .infinite negative => if negative then 0 else limit
  | .nan => 0

end Extended

end Rampart
