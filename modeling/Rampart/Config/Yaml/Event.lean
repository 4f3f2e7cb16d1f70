import Rampart.Config.Yaml.Token

/-!
# Events of YAML

Tokens make up documents, and a document is told as a sequence of events: collections start and end,
and scalars and aliases stand in between.  What is left out, such as a key or a value, is told as an
empty scalar.  Anchors are numbered from one on; zero stands for none.
-/

namespace Rampart.Config.Yaml

/-- A tag: what its handle stands for, and what follows. -/
structure Tag where
  origin : Text
  suffix : Text
  deriving DecidableEq, Repr

/-- An event. -/
inductive Event
  | documentStart
  | documentEnd
  | sequenceStart (anchor : Nat)
  | sequenceEnd
  | mappingStart (anchor : Nat)
  | mappingEnd
  | alias (anchor : Nat)
  | scalar (isPlain : Bool) (text : Text) (anchor : Nat) (tag : Option Tag)
  deriving DecidableEq, Repr

/-- The event for something that was left out. -/
def Event.empty : Event := .scalar true ['~'] 0 none

/-- What is expected next. -/
inductive Phase
  /-- A document, whose start needs a mark or not. -/
  | documentStart (implicit : Bool)
  /-- What follows the mark of a document's start. -/
  | documentContent
  | documentEnd
  | blockNode
  | blockKey
  | blockValue
  | blockEntry
  /-- An item of a block sequence that is not indented more than the mapping around it. -/
  | looseEntry
  | flowEntry (first : Bool)
  | flowKey (first : Bool)
  | flowValue
  /-- A value that is missing for sure. -/
  | flowNoValue
  /-- The parts of a pair in a flow sequence. -/
  | pairKey
  | pairValue
  | pairEnd
  deriving DecidableEq, Repr

/-- What is known between two events. -/
structure Outline where
  tokens : List Token
  phase : Phase := .documentStart true
  /-- What is expected after the present node, and after those around it. -/
  pending : List Phase := []
  /-- The numbers of anchors of this document, the last one first. -/
  anchors : List (Text × Nat) := []
  nextAnchor : Nat := 1
  /-- What the handles of tags stand for. -/
  handles : List (Text × Text) := []

namespace Outline

/-- The events are at their end, or there is a next one. -/
abbrev Step := Option (Option Event × Outline)

/-- The next token. -/
def peek (o : Outline) : Token := o.tokens.head?.getD .streamEnd

/-- Passes over the next token. -/
def skip (o : Outline) : Outline := { o with tokens := o.tokens.drop 1 }

/-- Goes on in a phase. -/
def goOn (o : Outline) (phase : Phase) (e : Event) : Step := some (some e, { o with phase })

/-- Goes on with what was pending. -/
def goBack (o : Outline) (e : Event) : Step :=
  match o.pending with
  | phase :: pending => some (some e, { o with phase, pending })
  | [] => none

/-- Keeps in mind what comes after the next node. -/
def await (o : Outline) (phase : Phase) : Outline := { o with pending := phase :: o.pending }

/-! ## Nodes -/

/-- What the handle of tags for common types stands for unless a directive says otherwise. -/
def commonTags : Text := "tag:yaml.org,2002:"

/-- The tag that a handle and a suffix denote.  A named handle has to be declared. -/
def resolve (o : Outline) (handle suffix : Text) : Option Tag :=
  if handle == ['!', '!'] then some ⟨(o.handles.lookup handle).getD commonTags, suffix⟩
  else
    match o.handles.lookup handle with
    | some origin => some ⟨origin, suffix⟩
    | none => if isWholeHandle handle then none else some ⟨handle, suffix⟩

/-- Gives an anchor its number. -/
def register (o : Outline) (name : Text) : Outline :=
  { o with anchors := (name, o.nextAnchor) :: o.anchors, nextAnchor := o.nextAnchor + 1 }

/-- Takes the anchor and the tag in front of a node, in either order. -/
def properties (o : Outline) : Option (Nat × Option Tag × Outline) := do
  match o.peek with
  | .anchor name =>
    let id := o.nextAnchor
    let o := (o.register name).skip
    match o.peek with
    | .tag handle suffix => return (id, some (← o.resolve handle suffix), o.skip)
    | _ => return (id, none, o)
  | .tag handle suffix =>
    let tag ← o.resolve handle suffix
    let o := o.skip
    match o.peek with
    | .anchor name => return (o.nextAnchor, some tag, (o.register name).skip)
    | _ => return (0, some tag, o)
  | _ => return (0, none, o)

/-- Takes a node, or the start of one. -/
def node (o : Outline) (inBlock loose : Bool) : Step := do
  match o.peek with
  | .alias name => o.skip.goBack (.alias (← o.anchors.lookup name))
  | _ =>
    let (anchor, tag, o) ← o.properties
    match o.peek with
    | .blockEntry =>
      if loose then o.goOn .looseEntry (.sequenceStart anchor) else empty o anchor tag
    | .scalar isPlain text => o.skip.goBack (.scalar isPlain text anchor tag)
    | .flowSequenceStart => o.skip.goOn (.flowEntry true) (.sequenceStart anchor)
    | .flowMappingStart => o.skip.goOn (.flowKey true) (.mappingStart anchor)
    | .blockSequenceStart =>
      if inBlock then o.skip.goOn .blockEntry (.sequenceStart anchor) else empty o anchor tag
    | .blockMappingStart =>
      if inBlock then o.skip.goOn .blockKey (.mappingStart anchor) else empty o anchor tag
    | _ => empty o anchor tag
where
  /-- An anchor or a tag may stand alone. -/
  empty (o : Outline) (anchor : Nat) (tag : Option Tag) : Step :=
    if tag.isSome || anchor != 0 then o.goBack (.scalar true [] anchor tag) else none

/-! ## Documents -/

/-- Takes the directives of a document.  Only what the last one says about tags counts; the version
is told at most once. -/
def directives : List Token → (told : Bool) → Outline → Option Outline
  | .version :: rest, told, o =>
    if told then none else directives rest true { o.skip with handles := [] }
  | .tagDirective handle origin :: rest, told, o =>
    directives rest told { o.skip with handles := [(handle, origin)] }
  | _, _, o => some o

/-- Takes the start of a document that has a mark. -/
def markedDocument (o : Outline) : Step := do
  let o ← directives o.tokens false o
  match o.peek with
  | .documentStart => (o.skip.await .documentEnd).goOn .documentContent .documentStart
  | _ => none

/-- Takes the start of a document, or the end of all documents. -/
def documentStart (o : Outline) (implicit : Bool) : Step :=
  let o := { o with
    tokens := o.tokens.dropWhile (· == Token.documentEnd), anchors := [] }
  match o.peek with
  | .streamEnd => some (none, o)
  | .version | .tagDirective _ _ | .documentStart => o.markedDocument
  | _ =>
    if implicit then (o.await .documentEnd).goOn .blockNode .documentStart else o.markedDocument

/-- Takes what follows the mark of a document's start. -/
def documentContent (o : Outline) : Step :=
  match o.peek with
  | .version | .tagDirective _ _ | .documentStart | .documentEnd | .streamEnd => o.goBack .empty
  | _ => o.node true false

/-- Takes the end of a document.  Directives may follow only behind a mark. -/
def documentEnd (o : Outline) : Step :=
  let o := { o with handles := [] }
  match o.peek with
  | .documentEnd => o.skip.goOn (.documentStart true) .documentEnd
  | .version | .tagDirective _ _ => none
  | _ => o.goOn (.documentStart false) .documentEnd

/-! ## Block collections -/

/-- Takes a key of a block mapping, or its end. -/
def blockKey (o : Outline) : Step :=
  match o.peek with
  | .key =>
    let o := o.skip
    match o.peek with
    | .key | .value | .blockEnd => o.goOn .blockValue .empty
    | _ => (o.await .blockValue).node true true
  | .value => o.goOn .blockValue .empty
  | .blockEnd => o.skip.goBack .mappingEnd
  | _ => none

/-- Takes a value of a block mapping. -/
def blockValue (o : Outline) : Step :=
  match o.peek with
  | .value =>
    let o := o.skip
    match o.peek with
    | .key | .value | .blockEnd => o.goOn .blockKey .empty
    | _ => (o.await .blockKey).node true true
  | _ => o.goOn .blockKey .empty

/-- Takes an item of a block sequence, or its end. -/
def blockEntry (o : Outline) : Step :=
  match o.peek with
  | .blockEnd => o.skip.goBack .sequenceEnd
  | .blockEntry =>
    let o := o.skip
    match o.peek with
    | .blockEntry | .blockEnd => o.goOn .blockEntry .empty
    | _ => (o.await .blockEntry).node true false
  | _ => none

/-- Takes an item of a block sequence without indentation, or its end. -/
def looseEntry (o : Outline) : Step :=
  match o.peek with
  | .blockEntry =>
    let o := o.skip
    match o.peek with
    | .blockEntry | .key | .value | .blockEnd => o.goOn .looseEntry .empty
    | _ => (o.await .looseEntry).node true false
  | _ => o.goBack .sequenceEnd

/-! ## Flow collections -/

/-- Takes an item of a flow sequence, or its end. -/
def flowEntry (o : Outline) (first : Bool) : Step := do
  let o ← match o.peek with
    | .flowSequenceEnd => some o
    | .flowEntry => if first then some o else some o.skip
    | _ => if first then some o else none
  match o.peek with
  | .flowSequenceEnd => o.skip.goBack .sequenceEnd
  | .key => o.skip.goOn .pairKey (.mappingStart 0)
  | _ => (o.await (.flowEntry false)).node false false

/-- Takes a key of a flow mapping, or its end. -/
def flowKey (o : Outline) (first : Bool) : Step := do
  let o ← match o.peek with
    | .flowMappingEnd => some o
    | .flowEntry => if first then some o else some o.skip
    | _ => if first then some o else none
  match o.peek with
  | .flowMappingEnd => o.skip.goBack .mappingEnd
  | .key =>
    let o := o.skip
    match o.peek with
    | .value | .flowEntry | .flowMappingEnd => o.goOn .flowValue .empty
    | _ => (o.await .flowValue).node false false
  | .value => o.goOn .flowValue .empty
  | _ => (o.await .flowNoValue).node false false

/-- Takes a value of a flow mapping. -/
def flowValue (o : Outline) : Step :=
  match o.peek with
  | .value =>
    let o := o.skip
    match o.peek with
    | .flowEntry | .flowMappingEnd => o.goOn (.flowKey false) .empty
    | _ => (o.await (.flowKey false)).node false false
  | _ => o.goOn (.flowKey false) .empty

/-- Takes the key of a pair in a flow sequence.  If the key is missing, the next token is passed
over. -/
def pairKey (o : Outline) : Step :=
  match o.peek with
  | .value | .flowEntry | .flowSequenceEnd => o.skip.goOn .pairValue .empty
  | _ => (o.await .pairValue).node false false

/-- Takes the value of a pair in a flow sequence. -/
def pairValue (o : Outline) : Step :=
  match o.peek with
  | .value =>
    let o := o.skip
    match o.peek with
    | .flowEntry | .flowSequenceEnd => o.goOn .pairEnd .empty
    | _ => (o.await .pairEnd).node false false
  | _ => o.goOn .pairEnd .empty

/-! ## All events -/

/-- Takes the next event. -/
def step (o : Outline) : Step :=
  match o.phase with
  | .documentStart implicit => o.documentStart implicit
  | .documentContent => o.documentContent
  | .documentEnd => o.documentEnd
  | .blockNode => o.node true false
  | .blockKey => o.blockKey
  | .blockValue => o.blockValue
  | .blockEntry => o.blockEntry
  | .looseEntry => o.looseEntry
  | .flowEntry first => o.flowEntry first
  | .flowKey first => o.flowKey first
  | .flowValue => o.flowValue
  | .flowNoValue => o.goOn (.flowKey false) .empty
  | .pairKey => o.pairKey
  | .pairValue => o.pairValue
  | .pairEnd => o.goOn (.flowEntry false) .mappingEnd

/-- Takes all events. -/
def run : (fuel : Nat) → Outline → Option (List Event)
  | 0, _ => none
  | fuel + 1, o => do
    match ← o.step with
    | (none, _) => return []
    | (some e, o) => return e :: (← run fuel o)

end Outline

/-- The events that tokens tell. -/
def Event.ofTokens? (tokens : List Token) : Option (List Event) :=
  Outline.run (4 * tokens.length + 4) { tokens }

end Rampart.Config.Yaml
