import Rampart.Config.Basic
import Rampart.Json.Printer
import Rampart.Record.Filter
import Rampart.Text.Quoted

/-!
# Showing log records

Once a program has chosen how, records are shown as lines of text or of JSON.  The choice is made
once; until then nothing is shown.
-/

namespace Rampart.Record

/-- How records are shown. -/
structure Subscriber where
  filter : Filter
  json : Bool
  deriving DecidableEq, Repr

namespace Subscriber

/-- The filter that counts: that of the environment if it has a good one, else the configured
one. -/
def chooseFilter (override : Option Text) (level : Text) : Except ConfigFault Filter :=
  match override.map Filter.parse with
  | some (.ok f) => .ok f
  | _ => Filter.parse level

/-- Chooses how records are shown, unless that was done before. -/
def install (current : Option Subscriber) (override : Option Text) (s : Config.LogSettings) :
    Except ConfigFault Subscriber := do
  let filter ← chooseFilter override s.level
  if current.isSome then throw .alreadyLogging
  return ⟨filter, s.json⟩

/-! ## Lines -/

/-- How a character of a message is shown: control characters of terminals by their number. -/
def shownChar (c : Char) : Text :=
  let n := c.toNat
  if n = 0x1B || n = 0x07 || n = 0x08 || n = 0x0C || n = 0x7F then
    ['\\', 'x', Nat.digitChar (n / 16), Nat.digitChar (n % 16)]
  else if 0x80 ≤ n && n ≤ 0x9F then "\\u\x7b" ++ Text.hex n ++ "\x7d"
  else [c]

/-- The value of a field on a line of text. -/
def fieldText : FieldValue → Text
  | .word t => t.quoted
  | .shown t => t
  | .flag b => (if b then "true" else "false").toList
  | .count n => Text.ofNat n

/-- The line of text for a record, without the time. -/
def textLine (r : Record) : Text :=
  r.level.name ++ ' ' :: r.target ++ ": " ++ r.message.flatMap shownChar
    ++ r.fields.flatMap fun f => ' ' :: f.1 ++ '=' :: fieldText f.2

/-- The value of a field in JSON. -/
def fieldJson : FieldValue → Json
  | .word t | .shown t => .str t
  | .flag b => .bool b
  | .count n => .num (.int n)

/-- The object for a record, without the time and the place in the program. -/
def jsonLine (r : Record) : Json :=
  let fields := r.fields.map fun f => (f.1, fieldJson f.2)
  .obj [("level", .str r.level.name),
    ("fields", .obj (("message".toList, .str r.message) :: fields)), ("target", .str r.target)]

/-- A line that is shown. -/
inductive Line
  | text (t : Text)
  | json (j : Json)

/-- The lines for records. -/
def lines (s : Subscriber) (records : List Record) : List Line :=
  (records.filter s.filter.shows).map fun r =>
    if s.json then .json (jsonLine r) else .text (textLine r)

end Subscriber

end Rampart.Record
