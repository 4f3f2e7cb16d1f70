import Rampart.Number.Binary64

/-!
# Shortest decimals

A double is written with the fewest digits that still read back as that double, and among those
with the ones nearest to it.  How the digits are laid out is up to the format that writes them.
-/

namespace Rampart

/-- The decimal `digits * 10 ^ scale`. -/
structure Decimal where
  digits : Nat
  scale : Int
  deriving DecidableEq, Repr

namespace Decimal

/-- The magnitude as a quotient of natural numbers. -/
def toRatio (d : Decimal) : Nat × Nat :=
  if 0 ≤ d.scale then (d.digits * Nat.pow 10 d.scale.toNat, 1)
  else (d.digits, Nat.pow 10 (-d.scale).toNat)

/-- The double nearest to a decimal. -/
def toBinary64 (negative : Bool) (d : Decimal) : Option Binary64 :=
  Binary64.ofRatio negative d.toRatio.1 d.toRatio.2

/-- The decimal without zeros at its end, at most `fuel` of them. -/
def stripZeros : (fuel : Nat) → Decimal → Decimal
  | 0, d => d
  | fuel + 1, d =>
    if d.digits % 10 = 0 && d.digits ≠ 0 then stripZeros fuel ⟨d.digits / 10, d.scale + 1⟩ else d

end Decimal

namespace Binary64

/-- The power of ten of the first digit of a number other than zero. -/
def decimalExponent (x : Binary64) : Int :=
  let (n, d) := x.toRatio
  ((Nat.toDigits 10 (n * Nat.pow 10 400 / d)).length : Int) - 401

/-- The decimal with `count` digits nearest to `x` that reads back as `x`, if there is one. -/
def withDigits (x : Binary64) (count : Nat) : Option Decimal :=
  let scale := x.decimalExponent - count + 1
  let (n, d) := x.toRatio
  let (n, d) :=
    if 0 ≤ scale then (n, d * Nat.pow 10 scale.toNat) else (n * Nat.pow 10 (-scale).toNat, d)
  let below : Decimal := ⟨n / d, scale⟩
  let above : Decimal := ⟨n / d + 1, scale⟩
  let readsBack (c : Decimal) : Bool := c.toBinary64 x.negative == some x
  let nearest := if Binary64.roundHalfEven n d = n / d then below else above
  if readsBack nearest then some nearest
  else if readsBack below then some below
  else if readsBack above then some above
  else none

/-- The shortest decimal of `x`. -/
def shortest (x : Binary64) : Decimal :=
  if x.isZero then ⟨0, 0⟩
  else
    match (List.range 17).findSome? fun k => x.withDigits (k + 1) with
    | some d => d.stripZeros 17
    | none => ⟨0, 0⟩

end Binary64

/-- The decisions of a format that writes decimal numbers. -/
structure NumberLayout where
  /-- Whether a number whose first digit stands for this power of ten is written without an
  exponent. -/
  positional : Int → Bool
  /-- Whether a whole number keeps a point and a zero. -/
  wholePoint : Bool

/-- The text of a double.  An exponent has its sign in front and no further zeros. -/
def NumberLayout.write (layout : NumberLayout) (x : Binary64) : Text :=
  let d := x.shortest
  let digits := Text.ofNat d.digits
  let top : Int := d.scale + digits.length - 1
  let sign : Text := if x.negative then ['-'] else []
  let body : Text :=
    if layout.positional top then
      if (digits.length : Int) ≤ top + 1 then
        digits ++ List.replicate (top + 1 - digits.length).toNat '0'
          ++ (if layout.wholePoint then ".0" else "").toList
      else if 0 ≤ top then
        digits.take (top + 1).toNat ++ '.' :: digits.drop (top + 1).toNat
      else
        ['0', '.'] ++ List.replicate (-top - 1).toNat '0' ++ digits
    else
      digits.take 1 ++ (if digits.length = 1 then [] else '.' :: digits.drop 1)
        ++ 'e' :: (if top < 0 then '-' else '+') :: Text.ofNat top.natAbs
  sign ++ body

end Rampart
