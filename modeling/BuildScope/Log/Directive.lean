import BuildScope.Log.Level
import BuildScope.Number.Natural
import BuildScope.Number.Real
import BuildScope.Pattern.WellFormed
import BuildScope.Text.Offset
import BuildScope.Text.Parts

/-!
# Directives

A directive of a log filter gives a level, for all events or for those of some targets, spans and
fields. It is written like `target[span{field=value}]=level`, of which each part may be left out.

* `Directive.Reading.step`: the reading of one character of a directive.
* `Directive.ofText`, `Directive.allOf`: the directives that a text spells.
-/

namespace BuildScope.Log

/-- The least important events that are logged, if any. -/
abbrev Threshold := Option Level

namespace Threshold

/-- Whether events of a level are logged. -/
def admits (threshold : Threshold) (level : Level) : Bool :=
  threshold.any fun least => level.number ≤ least.number

/-- The threshold of a number. -/
def ofNumber? : Nat → Option Threshold
  | 0 => some none
  | 1 => some (some .error)
  | 2 => some (some .warn)
  | 3 => some (some .info)
  | 4 => some (some .debug)
  | 5 => some (some .trace)
  | _ => none

/-- The threshold that a word in lower case names. -/
def ofWord? : String → Option Threshold
  | "off" => some none
  | "error" => some (some .error)
  | "warn" => some (some .warn)
  | "info" => some (some .info)
  | "debug" => some (some .debug)
  | "trace" => some (some .trace)
  | _ => none

/-- The threshold that a text names by a number or by a word, whatever the case of its letters. -/
def ofText? (text : String) : Option Threshold :=
  match Number.natural? text with
  | some number => ofNumber? number
  | none => ofWord? text.toLower

end Threshold

/-- What a directive asks of a field. -/
structure FieldCondition where
  /-- Name of the field. -/
  name : String
  /-- Whether it asks for a value too. -/
  hasValue : Bool
  deriving DecidableEq, Repr

/-- A directive of a filter. -/
structure Directive where
  /-- How the targets begin that it is about, unless it is about all. -/
  target : Option String := none
  /-- The span that it is about, if any. -/
  span : Option String := none
  /-- The field that it asks for, if any. -/
  field : Option FieldCondition := none
  /-- The least important events that it lets through. -/
  threshold : Threshold := some .trace
  deriving DecidableEq, Repr

/-- Why a text spells no directive. -/
inductive DirectiveFault where
  /-- It has another form, or one of its parts has no meaning. -/
  | unreadable
  /-- One of its parts cannot be cut out of it. -/
  | cut (fault : Text.CutFault)
  deriving DecidableEq, Repr

/-- Whether a text can be the value of a field: a number or a pattern. -/
def isFieldValue (text : List Char) : Bool :=
  Number.isReal text || Pattern.isPattern text

/-- The condition that a text spells: a name, perhaps with a value after an equals sign. What comes
after one more such sign does not count. -/
def FieldCondition.ofText? (text : List Char) : Option FieldCondition :=
  if text.isEmpty then none
  else
    match Text.parts '=' text with
    | [] => none
    | [name] => some ⟨.ofList name, false⟩
    | name :: value :: _ => if isFieldValue value then some ⟨.ofList name, true⟩ else none

namespace Directive

/-- Whether a directive can begin with a character. -/
def isOpening (c : Char) : Bool :=
  c == '-' || c == ':' || c == '_' || Text.isAlphanumeric c

/-- A directive with the threshold that a text names. Without a text it lets everything through. -/
def withThreshold? (directive : Directive) (text : List Char) : Option Directive :=
  if text.isEmpty then some { directive with threshold := some .trace }
  else (Threshold.ofText? (.ofList text)).map fun threshold => { directive with threshold }

/-- The directive that a text names alone: a level for all events, or a target whose events are all
let through. -/
def ofWord (word : String) : Directive :=
  match Threshold.ofText? word with
  | some threshold => { threshold }
  | none => { target := some word }

/-- Where in a directive its reader is. A part that goes on comes with the place where it starts. -/
inductive Stage where
  /-- Before the first character. -/
  | opening
  /-- In the target, or in a level that stands alone. -/
  | word
  /-- In the name of the span. -/
  | span (start : Nat)
  /-- In the condition for a field. -/
  | field (start : Nat)
  /-- After that condition, before the closing bracket. -/
  | closing
  /-- After the closing bracket. -/
  | closed
  /-- In the level. -/
  | level (start : Nat)

/-- A directive being read. -/
structure Reading where
  /-- Where the reader is. -/
  stage : Stage := .opening
  /-- What has been read. -/
  directive : Directive := {}

namespace Reading

/-- A part of the text of a directive. -/
def part (text : List Char) (start stop : Nat) : Except DirectiveFault (List Char) :=
  (Text.slice text start stop).mapError .cut

/-- Take the character at a place. -/
def step (text : List Char) (reading : Reading) (place : Nat) (c : Char) :
    Except DirectiveFault Reading :=
  let directive := reading.directive
  match reading.stage with
  | .opening =>
    if c = '[' then .ok ⟨.span (place + 1), directive⟩
    else if isOpening c then .ok ⟨.word, directive⟩
    else .error .unreadable
  | .word =>
    if c = '=' || c = '[' then do
      let target ← part text 0 place
      let stage := if c = '=' then .level (place + 1) else .span (place + 1)
      .ok ⟨stage, { directive with target := some (.ofList target) }⟩
    else .ok reading
  | .span start =>
    if c = ']' then do
      let span ← part text start place
      .ok ⟨.closed, { directive with span := some (.ofList span) }⟩
    else if c = '\x7b' then do
      let span ← part text start place
      -- before a field the span may be left out
      .ok ⟨.field (place + 1),
        { directive with span := if span.isEmpty then none else some (.ofList span) }⟩
    else .ok reading
  | .field start =>
    if c = '\x7d' then do
      match FieldCondition.ofText? (← part text start place) with
      | some field => .ok ⟨.closing, { directive with field := some field }⟩
      | none => .error .unreadable
    else .ok reading
  | .closing => if c = ']' then .ok ⟨.closed, directive⟩ else .error .unreadable
  | .closed => if c = '=' then .ok ⟨.level (place + 1), directive⟩ else .error .unreadable
  | .level _ => .ok reading

/-- The directive at the end of its text. -/
def finish (text : List Char) (reading : Reading) : Except DirectiveFault Directive :=
  match reading.stage with
  -- one word alone may be a level as well as a target
  | .word => .ok (ofWord (.ofList text))
  | .closed => .ok reading.directive
  | .level start => do
    match reading.directive.withThreshold? (← (Text.sliceFrom text start).mapError .cut) with
    | some directive => .ok directive
    | none => .error .unreadable
  | .opening | .span _ | .field _ | .closing => .error .unreadable

end Reading

/-- The directive that a text spells. The places of its parts are those in the text without the
blanks at its ends, but the parts are taken from the text itself. -/
def ofText (text : List Char) : Except DirectiveFault Directive := do
  let reading ← (Text.withOffsets 0 (Text.trim text)).foldlM
    (fun reading (place, c) => Reading.step text reading place c) {}
  reading.finish text

/-- The directives that a text spells, with commas between. Between two commas there may be
nothing. -/
def allOf (text : String) : Except DirectiveFault (List Directive) :=
  ((Text.parts ',' text.toList).filter (!·.isEmpty)).mapM ofText

end Directive

end BuildScope.Log
