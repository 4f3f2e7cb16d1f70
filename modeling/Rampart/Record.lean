import Rampart.Text.Basic

/-!
# Log records

What an operation has to say about itself is data: a list of records beside its result.  A record
has a level, the part of the system that speaks, a message and named fields.
-/

namespace Rampart

/-- How severe a log record is, from `error` down to `trace`. -/
inductive Level
  | error
  | warn
  | info
  | debug
  | trace
  deriving DecidableEq, Repr

namespace Level

/-- The name of a level as it stands in a record. -/
def name : Level → Text
  | .error => "ERROR"
  | .warn => "WARN"
  | .info => "INFO"
  | .debug => "DEBUG"
  | .trace => "TRACE"

/-- Levels in order of detail: `error` has rank 1 and `trace` has rank 5. -/
def rank : Level → Nat
  | .error => 1
  | .warn => 2
  | .info => 3
  | .debug => 4
  | .trace => 5

end Level

/-- The value of a field.  A `word` is shown in quotes on a text line, a `shown` value as it is. -/
inductive FieldValue
  | word (t : Text)
  | shown (t : Text)
  | flag (b : Bool)
  | count (n : Nat)
  deriving DecidableEq, Repr

/-- One log record. -/
structure Record where
  level : Level
  /-- The part of the system that speaks. -/
  target : Text
  message : Text
  fields : List (Text × FieldValue)
  deriving DecidableEq, Repr

end Rampart
