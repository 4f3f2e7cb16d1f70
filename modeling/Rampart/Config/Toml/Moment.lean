import Rampart.Audit.Timestamp

/-!
# Points in time in TOML

A point in time is told by a date, by a time of day, or by both, and then perhaps with an offset
from UTC.  Seconds and their fraction may be left out, and what was left out is not written.
-/

namespace Rampart.Config.Toml

/-- The time of a day. -/
structure Clock where
  hour : Nat
  minute : Nat
  second : Option Nat
  /-- The fraction of the second, in nanoseconds. -/
  nano : Option Nat
  deriving DecidableEq, Repr

/-- How far a place's time is ahead of UTC. -/
inductive Offset
  | utc
  | minutes (n : Int)
  deriving DecidableEq, Repr

/-- A point in time, as far as it is told. -/
inductive Moment
  | date (d : Audit.Date)
  | time (c : Clock)
  | both (d : Audit.Date) (c : Clock) (offset : Option Offset)
  deriving DecidableEq

/-! ## Reading -/

/-- Reads a number of exactly so many digits. -/
def exactly (count : Nat) (t : Text) : Option (Nat × Text) :=
  let digits := t.takeWhile Text.isDigit
  if digits.length = count then some (Text.digitsValue digits, t.dropWhile Text.isDigit) else none

/-- Takes a character. -/
def taking (c : Char) : Text → Option Text
  | [] => none
  | d :: rest => if d = c then some rest else none

/-- Reads a date: year, month and day. -/
def date? (t : Text) : Option (Audit.Date × Text) := do
  let (year, t) ← exactly 4 t
  let (month, t) ← exactly 2 (← taking '-' t)
  let (day, t) ← exactly 2 (← taking '-' t)
  return (← Audit.Date.of? year month day, t)

/-- The nanoseconds that the digits of a fraction denote; only the first nine count. -/
def nanoOf (digits : Text) : Nat :=
  Text.digitsValue (digits.take 9 ++ List.replicate (9 - digits.length) '0')

/-- Reads the fraction of a second, if there is one. -/
def fraction? : Text → Option (Option Nat × Text)
  | '.' :: rest =>
    let digits := rest.takeWhile Text.isDigit
    if digits.isEmpty then none else some (some (nanoOf digits), rest.dropWhile Text.isDigit)
  | t => some (none, t)

/-- Reads the seconds of a time, if it has any.  Second 60 is a leap second. -/
def seconds? : Text → Option (Option Nat × Option Nat × Text)
  | ':' :: rest => do
    let (second, rest) ← exactly 2 rest
    let (nano, rest) ← fraction? rest
    if 60 < second then none else some (some second, nano, rest)
  | t => some (none, none, t)

/-- Reads hours and minutes with a colon between them. -/
def hourMinute? (t : Text) : Option (Nat × Nat × Text) := do
  let (hour, t) ← exactly 2 t
  let (minute, t) ← exactly 2 (← taking ':' t)
  if 23 < hour || 59 < minute then none else some (hour, minute, t)

/-- Reads the time of a day. -/
def clock? (t : Text) : Option (Clock × Text) := do
  let (hour, minute, t) ← hourMinute? t
  let (second, nano, t) ← seconds? t
  return (⟨hour, minute, second, nano⟩, t)

/-- Reads an offset that takes up all of a text, if there is one. -/
def offset? : Text → Option (Option Offset)
  | [] => some none
  | c :: rest => do
    if c = 'Z' || c = 'z' then
      if rest.isEmpty then some (some .utc) else none
    else if c = '+' || c = '-' then
      let (hour, minute, rest) ← hourMinute? rest
      let n : Int := 60 * hour + minute
      if rest.isEmpty then some (some (.minutes (if c = '-' then -n else n))) else none
    else none

namespace Moment

/-- Reads a point in time. -/
def parse? (t : Text) : Option Moment := do
  match t.dropWhile Text.isDigit with
  | ':' :: _ =>
    let (c, rest) ← clock? t
    if rest.isEmpty then some (.time c) else none
  | _ =>
    let (d, rest) ← date? t
    match rest with
    | [] => some (.date d)
    | c :: rest =>
      if c = 'T' || c = 't' || c = ' ' then
        let (clock, rest) ← clock? rest
        some (.both d clock (← offset? rest))
      else none

end Moment

/-! ## Writing -/

/-- The text of a date. -/
def writeDate (d : Audit.Date) : Text :=
  Text.padded 4 d.year.toNat ++ '-' :: Text.padded 2 d.month ++ '-' :: Text.padded 2 d.day

/-- The digits of a fraction, without zeros at their end but at least one digit. -/
def fractionDigits (nano : Nat) : Text :=
  let digits := ((Text.padded 9 nano).reverse.dropWhile (· == '0')).reverse
  if digits.isEmpty then ['0'] else digits

/-- The text of a time of day. -/
def Clock.write (c : Clock) : Text :=
  Text.padded 2 c.hour ++ ':' :: Text.padded 2 c.minute
    ++ (c.second.elim [] fun s => ':' :: Text.padded 2 s)
    ++ (c.nano.elim [] fun n => '.' :: fractionDigits n)

/-- The text of an offset. -/
def Offset.write : Offset → Text
  | .utc => ['Z']
  | .minutes n =>
    (if n < 0 then '-' else '+') :: Text.padded 2 (n.natAbs / 60)
      ++ ':' :: Text.padded 2 (n.natAbs % 60)

/-- The text of a point in time. -/
def Moment.write : Moment → Text
  | .date d => writeDate d
  | .time c => c.write
  | .both d c offset => writeDate d ++ 'T' :: c.write ++ offset.elim [] Offset.write

end Rampart.Config.Toml
