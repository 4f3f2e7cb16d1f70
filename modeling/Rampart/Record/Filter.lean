import Rampart.Failure
import Rampart.Text.Alphanumeric

/-!
# Filters for log records

A filter is a list of directives with commas between them.  A directive sets the level for all
records, or for those whose target starts with a given name; a record is judged by the most specific
directive that speaks about it.  Directives about spans are understood, but records here stand in no
span, so that such directives show nothing.
-/

namespace Rampart

/-- How detailed the records are that are shown; nothing at all is also a choice. -/
abbrev Verbosity := Option Level

namespace Verbosity

/-- The rank of the most detailed level. -/
def rank : Verbosity → Nat
  | none => 0
  | some level => level.rank

/-- Whether records of a level are shown. -/
def shows (v : Verbosity) (level : Level) : Bool := level.rank ≤ v.rank

/-- All choices, by name. -/
def choices : List (Text × Verbosity) :=
  [("off", none), ("error", some .error), ("warn", some .warn), ("info", some .info),
    ("debug", some .debug), ("trace", some .trace)]

/-- Reads a verbosity: a name in any case, a number up to five, or nothing. -/
def parse? (t : Text) : Option Verbosity :=
  let named : Option Verbosity :=
    if t.isEmpty then some (some .error) else choices.lookup (t.map Char.toLower)
  if t.head? = some '-' then named
  else
    match Text.toInt? t with
    | some n => (choices[n.toNat]?.map Prod.snd) <|> named
    | none => named

end Verbosity

namespace Record

/-! ## Directives -/

/-- One directive of a filter. -/
structure Directive where
  verbosity : Verbosity := some .trace
  /-- How the target of a record has to start. -/
  target : Option Text := none
  /-- The span that a record has to stand in. -/
  span : Option Text := none
  /-- The field that a record has to have, and its value if one is given. -/
  field : Option (Text × Option Text) := none
  deriving DecidableEq, Repr

namespace Directive

/-- Reads the verbosity behind a target; if there is none, everything is shown. -/
def levelOf (t : Text) : Except ConfigFault Verbosity :=
  if t.isEmpty then .ok (some .trace)
  else
    match Verbosity.parse? t with
    | some v => .ok v
    | none => .error .badFilter

/-- Whether a directive may start with a character. -/
def mayStart (c : Char) : Bool :=
  c == '-' || c == ':' || c == '_' || Text.isAlphanumeric c

/-- The part of a text between two of its bytes. -/
def slice (t : Text) (i j : Nat) : Text := (t.takeBytes j).dropBytes i

/-- Reads what follows the closing bracket of a span, from a byte on. -/
def afterSpan (whole rest : Text) (position : Nat) (d : Directive) : Except ConfigFault Directive :=
  match rest with
  | [] => .ok d
  | '=' :: _ => do return { d with verbosity := ← levelOf (whole.dropBytes (position + 1)) }
  | _ => .error .badDirective

/-- Reads the fields of a span, from the byte behind the opening brace on. -/
def fieldOf (whole rest : Text) (position : Nat) (d : Directive) : Except ConfigFault Directive :=
  let close := position + Text.byteSize (rest.takeWhile (· != '}'))
  let field := slice whole position close
  match rest.dropWhile (· != '}') with
  | '}' :: ']' :: rest =>
    if field.isEmpty then .error .badDirective
    else
      let name := field.takeWhile (· != '=')
      let value := (field.dropWhile (· != '=')).drop 1
      let value := if name.length < field.length then some (value.takeWhile (· != '=')) else none
      afterSpan whole rest (close + 2) { d with field := some (name, value) }
  | _ => .error .badDirective

/-- Reads a span, from the byte behind the opening bracket on. -/
def spanOf (whole rest : Text) (position : Nat) (d : Directive) : Except ConfigFault Directive :=
  let close := position + Text.byteSize (rest.takeWhile fun c => c != ']' && c != '{')
  let span := slice whole position close
  match rest.dropWhile fun c => c != ']' && c != '{' with
  | ']' :: rest => afterSpan whole rest (close + 1) { d with span := some span }
  | '{' :: rest =>
    fieldOf whole rest (close + 1) { d with span := if span.isEmpty then none else some span }
  | _ => .error .badDirective

/-- Reads a directive.  Marks are looked for in the text without blanks at its ends, but the parts
are cut out of the text as it stands. -/
def parse (whole : Text) : Except ConfigFault Directive :=
  let t := whole.trim
  match t with
  | [] => .error .badDirective
  | '[' :: rest => spanOf whole rest 1 {}
  | c :: _ =>
    if mayStart c then
      let name := t.takeWhile fun c => c != '=' && c != '['
      let i := Text.byteSize name
      match t.drop name.length with
      | [] =>
        match Verbosity.parse? whole with
        | some v => .ok { verbosity := v }
        | none => .ok { target := some whole }
      | '[' :: rest => spanOf whole rest (i + 1) { target := some (slice whole 0 i) }
      | _ => do
        let verbosity ← levelOf (whole.dropBytes (i + 1))
        return { target := some (slice whole 0 i), verbosity }
    else .error .badDirective

/-- Whether a directive can show records that stand in no span. -/
def isStatic (d : Directive) : Bool :=
  d.span.isNone && match d.field with
    | some (_, some _) => false
    | _ => true

/-- Whether a directive speaks about a record. -/
def concerns (d : Directive) (r : Record) : Bool :=
  (d.target.all fun t => t.isPrefixOf r.target)
    && d.field.all fun f => f.1 = "message".toList || (r.fields.lookup f.1).isSome

/-- How specific a directive is: by the size of its target, then by its field. -/
def specificity (d : Directive) : Nat × Nat :=
  (d.target.elim 0 fun t => t.byteSize + 1, if d.field.isSome then 1 else 0)

/-- Whether a directive counts before an earlier one that concerns the same record.  Of two that
differ only in the field the one with the greater name counts. -/
def outranks (later earlier : Directive) : Bool :=
  let (a, b) := later.specificity
  let (c, d) := earlier.specificity
  c < a || (a == c && (d < b || (b == d &&
    !Text.before ((later.field.map Prod.fst).getD []) ((earlier.field.map Prod.fst).getD []))))

end Directive

/-! ## Filters -/

/-- The directives of a filter. -/
structure Filter where
  directives : List Directive
  deriving DecidableEq, Repr

namespace Filter

/-- What an empty filter says: errors only. -/
def fallback : Directive := { verbosity := some .error }

/-- Reads a filter. -/
def parse (t : Text) : Except ConfigFault Filter := do
  let parts := (t.splitOnP (· == ',')).filter fun part => !part.isEmpty
  let directives ← parts.mapM Directive.parse
  return ⟨if directives.isEmpty then [fallback] else directives⟩

/-- The directive that decides about a record. -/
def decisive? (f : Filter) (r : Record) : Option Directive :=
  (f.directives.filter fun d => d.isStatic && d.concerns r).foldl
    (fun best d =>
      match best with
      | none => some d
      | some b => if d.outranks b then some d else some b) none

/-- Whether a record is shown. -/
def shows (f : Filter) (r : Record) : Bool :=
  match f.decisive? r with
  | some d => d.verbosity.shows r.level
  | none => false

end Filter

end Record

end Rampart
