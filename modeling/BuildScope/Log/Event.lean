import BuildScope.Json.Printer
import BuildScope.Log.Level
import BuildScope.Text.Quoted

/-!
# Log Events

An event has a level, a target that says which part of the program it comes from, a message, and
fields. It is written as a line or as a JSON object.

* `Event.text`: an event as a line.
* `Event.toValue`: an event as a JSON object.
-/

namespace BuildScope.Log

open Json (Value)

/-- Value of a field of an event. -/
inductive FieldValue where
  /-- A text, which a line shows between quotes. -/
  | quoted (text : String)
  /-- A text, which a line shows as it is. -/
  | shown (text : String)
  /-- A number. -/
  | number (value : Nat)
  deriving DecidableEq, Repr

namespace FieldValue

/-- A field value in a line. -/
def text : FieldValue → String
  | .quoted text => Text.quote text
  | .shown text => text
  | .number value => toString value

/-- A field value in a JSON object. -/
def toValue : FieldValue → Value
  | .quoted text | .shown text => .text text
  | .number value => .int value

end FieldValue

/-- An event. -/
structure Event where
  /-- How important it is. -/
  level : Level
  /-- The part of the program that it comes from. -/
  target : String
  /-- What has happened. -/
  message : String
  /-- More about it. -/
  fields : List (String × FieldValue) := []
  deriving DecidableEq, Repr

/-- Name under which the message counts as a field. -/
def messageField : String := "message"

/-- How a line shows one character of a message. Controls that could change how a terminal shows
the rest are spelled out. -/
def escapeControl (c : Char) : List Char :=
  match c with
  | '\x1b' => ['\\', 'x', '1', 'b']
  | '\x07' => ['\\', 'x', '0', '7']
  | '\x08' => ['\\', 'x', '0', '8']
  | '\x0c' => ['\\', 'x', '0', 'c']
  | '\x7f' => ['\\', 'x', '7', 'f']
  | c =>
    if 0x80 ≤ c.toNat && c.toNat ≤ 0x9F then
      ['\\', 'u', '\x7b'] ++ Text.hexDigits c.toNat ++ ['\x7d']
    else [c]

/-- Width of the column for levels. -/
def levelWidth : Nat := 5

namespace Event

/-- Names of the fields of an event; the message is one of them. -/
def fieldNames (event : Event) : List String :=
  messageField :: event.fields.map Prod.fst

/-- An event as a line. There are several only if the event itself has line breaks in it. -/
def text (event : Event) : String :=
  let level := event.level.label
  let padding := List.replicate (levelWidth - level.length) ' '
  let message := event.message.toList.flatMap escapeControl
  let fields := event.fields.map fun (name, value) => " " ++ name ++ "=" ++ value.text
  .ofList padding ++ level ++ " " ++ event.target ++ ": " ++ .ofList message ++ String.join fields

/-- An event as a JSON object. -/
def toValue (event : Event) : Value :=
  let fields := event.fields.map fun (name, value) => (name, value.toValue)
  .object
    [("fields", .object (Json.sortMembers ((messageField, .text event.message) :: fields))),
      ("level", .text event.level.label), ("target", .text event.target)]

end Event

end BuildScope.Log
