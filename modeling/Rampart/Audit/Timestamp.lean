import Rampart.Text.Basic

/-!
# Timestamps

Points in time in UTC, down to the nanosecond, in the proleptic Gregorian calendar.  They are read
from the usual internet format, with some freedom in blanks, letter case and offset, and written
in one way only.
-/

namespace Rampart.Audit

/-! ## Dates -/

/-- Whether a year has a 29th of February. -/
def isLeapYear (year : Int) : Bool := year % 4 = 0 && (year % 100 ≠ 0 || year % 400 = 0)

/-- The number of days of a month. -/
def daysIn (year : Int) (month : Nat) : Nat :=
  if month = 2 then if isLeapYear year then 29 else 28
  else if month = 4 || month = 6 || month = 9 || month = 11 then 30
  else 31

/-- A day of the calendar, in one of the years that timestamps can have. -/
structure Date where
  year : Int
  month : Nat
  day : Nat
  year_mem : -262143 ≤ year ∧ year ≤ 262142
  month_mem : 1 ≤ month ∧ month ≤ 12
  day_mem : 1 ≤ day ∧ day ≤ daysIn year month
  deriving DecidableEq

namespace Date

/-- The day with the given numbers, if there is one. -/
def of? (year : Int) (month day : Nat) : Option Date :=
  if hy : -262143 ≤ year ∧ year ≤ 262142 then
    if hm : 1 ≤ month ∧ month ≤ 12 then
      if hd : 1 ≤ day ∧ day ≤ daysIn year month then some ⟨year, month, day, hy, hm, hd⟩ else none
    else none
  else none

/-- A day is the one with its own numbers. -/
theorem of?_self (d : Date) : of? d.year d.month d.day = some d := by
  simp [of?, d.year_mem, d.month_mem, d.day_mem]

/-- The day after. -/
def next? (d : Date) : Option Date :=
  if d.day < daysIn d.year d.month then of? d.year d.month (d.day + 1)
  else if d.month < 12 then of? d.year (d.month + 1) 1
  else of? (d.year + 1) 1 1

/-- The day before. -/
def previous? (d : Date) : Option Date :=
  if 1 < d.day then of? d.year d.month (d.day - 1)
  else if 1 < d.month then of? d.year (d.month - 1) (daysIn d.year (d.month - 1))
  else of? (d.year - 1) 12 31

end Date

/-- A point in time.  Second 60 is a leap second. -/
structure Timestamp where
  date : Date
  hour : Nat
  minute : Nat
  second : Nat
  nano : Nat
  hour_lt : hour < 24
  minute_lt : minute < 60
  second_le : second ≤ 60
  nano_lt : nano < 1000000000
  deriving DecidableEq

/-! ## Reading -/

/-- What can be wrong with a text that should be a timestamp. -/
inductive TimeFault
  | outOfRange
  | impossible
  | invalid
  | tooShort
  | tooLong
  deriving DecidableEq, Repr

/-- The words for a fault. -/
def TimeFault.message : TimeFault → Text
  | .outOfRange => "input is out of range"
  | .impossible => "no possible date and time matching input"
  | .invalid => "input contains invalid characters"
  | .tooShort => "premature end of input"
  | .tooLong => "trailing input"

namespace Timestamp

/-- The text from its first character that is not blank. -/
def skipBlanks (t : Text) : Text := t.dropWhile Text.isBlankChar

/-- Reads a number of at most `most` digits. -/
def number (most : Nat) (t : Text) : Except TimeFault (Nat × Text) :=
  if t.isEmpty then .error .tooShort
  else
    let digits := (t.take most).takeWhile Text.isDigit
    if digits.isEmpty then .error .invalid
    else .ok (Text.digitsValue digits, t.drop digits.length)

/-- Reads a number of at most two digits, between two bounds. -/
def field (low high : Nat) (t : Text) : Except TimeFault (Nat × Text) := do
  let (n, rest) ← number 2 (skipBlanks t)
  if low ≤ n ∧ n ≤ high then return (n, rest) else throw .outOfRange

/-- Reads a year: four digits, or a sign and any number of them. -/
def year (t : Text) : Except TimeFault (Int × Text) := do
  match skipBlanks t with
  | '-' :: rest =>
    let (n, rest) ← number rest.length rest
    if n ≤ 2147483648 then return (-(n : Int), rest) else throw .outOfRange
  | '+' :: rest =>
    let (n, rest) ← number rest.length rest
    if n < 2147483648 then return ((n : Int), rest) else throw .outOfRange
  | t =>
    let (n, rest) ← number 4 t
    return ((n : Int), rest)

/-- Takes a mark, after blanks. -/
def mark (c : Char) (t : Text) : Except TimeFault Text :=
  match skipBlanks t with
  | [] => .error .tooShort
  | d :: rest => if d = c then .ok rest else .error .invalid

/-- Reads the fraction of a second as nanoseconds, if there is one. -/
def fraction (t : Text) : Except TimeFault (Nat × Text) := do
  match t with
  | '.' :: rest =>
    let (n, after) ← number 9 rest
    let count := rest.length - after.length
    return (n * Nat.pow 10 (9 - count), after.dropWhile Text.isDigit)
  | t => return (0, t)

/-- Two digits at the front of a text. -/
def twoDigits (t : Text) : Except TimeFault (Nat × Nat) :=
  if t.byteSize < 2 then .error .tooShort
  else
    match t with
    | a :: b :: _ =>
      match Text.digit? a, Text.digit? b with
      | some a, some b => .ok (a, b)
      | _, _ => .error .invalid
    | _ => .error .invalid

/-- Reads an offset from UTC, in minutes to the east. -/
def offset (t : Text) : Except TimeFault (Int × Text) := do
  match t with
  | [] => throw .tooShort
  | c :: rest =>
    if c = 'Z' || c = 'z' then return (0, rest)
    else if c = '+' || c = '-' || c = '−' then
      let (h₁, h₂) ← twoDigits rest
      let rest := (rest.drop 2).dropWhile fun c => c == ':' || Text.isBlankChar c
      let (m₁, m₂) ← twoDigits rest
      if 6 ≤ m₁ then throw .outOfRange
      let minutes : Nat := (10 * h₁ + h₂) * 60 + (10 * m₁ + m₂)
      return (if c = '+' then (minutes : Int) else -(minutes : Int), rest.drop 2)
    else throw .invalid

/-- Reads the name of the time zone or an offset. -/
def zone (t : Text) : Except TimeFault (Int × Text) :=
  match t with
  | a :: b :: c :: rest =>
    if a.toLower = 'u' ∧ b.toLower = 't' ∧ c.toLower = 'c' then .ok (0, rest) else offset t
  | t => offset t

/-- The time with the given numbers, `east` minutes ahead of UTC. -/
def assemble (year : Int) (month day hour minute second nano : Nat) (east : Int) :
    Except TimeFault Timestamp := do
  let some date := Date.of? year month day | throw .outOfRange
  if ¬ (-1440 < east ∧ east < 1440) then throw .outOfRange
  let total : Int := hour * 60 + minute - east
  let days := total.fdiv 1440
  let minutes := (total.fmod 1440).toNat
  let shifted :=
    if days = 0 then some date else if days < 0 then date.previous? else date.next?
  match shifted with
  | none => throw .impossible
  | some date =>
    if h : minutes / 60 < 24 ∧ second ≤ 60 ∧ nano < 1000000000 then
      return {
        date, hour := minutes / 60, minute := minutes % 60, second, nano
        hour_lt := h.1
        minute_lt := Nat.mod_lt _ (by decide)
        second_le := h.2.1
        nano_lt := h.2.2 }
    else throw .outOfRange

/-- Reads a timestamp. -/
def parse (t : Text) : Except TimeFault Timestamp := do
  let (year, t) ← year t
  let t ← mark '-' t
  let (month, t) ← field 1 12 t
  let t ← mark '-' t
  let (day, t) ← field 1 31 t
  let t ← match t with
    | [] => throw .tooShort
    | c :: rest => if c = 'T' || c = 't' || c = ' ' then pure rest else throw .invalid
  let (hour, t) ← field 0 23 t
  let t ← mark ':' t
  let (minute, t) ← field 0 59 t
  let t ← mark ':' t
  let (second, t) ← field 0 60 t
  let (nano, t) ← fraction t
  let (east, t) ← zone (skipBlanks t)
  if !t.isBlank then throw .tooLong
  assemble year month day hour minute second nano east

/-! ## Writing -/

/-- A year in four digits; others have a sign in front. -/
def writeYear (year : Int) : Text :=
  if 0 ≤ year ∧ year ≤ 9999 then Text.padded 4 year.toNat
  else (if year < 0 then '-' else '+') :: Text.padded 4 year.natAbs

/-- The fraction of a second in as many groups of three digits as it takes. -/
def writeFraction (nano : Nat) : Text :=
  if nano = 0 then []
  else if nano % 1000000 = 0 then '.' :: Text.padded 3 (nano / 1000000)
  else if nano % 1000 = 0 then '.' :: Text.padded 6 (nano / 1000)
  else '.' :: Text.padded 9 nano

/-- The text of a timestamp. -/
def write (t : Timestamp) : Text :=
  writeYear t.date.year ++ '-' :: Text.padded 2 t.date.month ++ '-' :: Text.padded 2 t.date.day
    ++ 'T' :: Text.padded 2 t.hour ++ ':' :: Text.padded 2 t.minute ++ ':' :: Text.padded 2 t.second
    ++ writeFraction t.nano ++ ['Z']

end Timestamp

end Rampart.Audit
