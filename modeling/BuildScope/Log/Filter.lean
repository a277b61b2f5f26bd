import BuildScope.Log.Directive
import BuildScope.Log.Event

/-!
# Log Filters

A filter says which events are logged. It is written as directives with commas between, such as
`info,matcher=debug`.

* `Filter.ofText`: the filter that a text spells.
* `Filter.enables`: whether an event is logged, which the most specific directive decides.
-/

namespace BuildScope.Log

namespace Directive

/-- Whether a directive decides about events. What asks for a span or for the value of a field is
about spans only, of which there are none. -/
def isAboutEvents (directive : Directive) : Bool :=
  directive.span.isNone && !directive.field.any (·.hasValue)

/-- Whether a directive is about an event. -/
def caresAbout (directive : Directive) (event : Event) : Bool :=
  directive.isAboutEvents
    && directive.target.all (fun target => target.toList.isPrefixOf event.target.toList)
    && directive.field.all (fun field => event.fieldNames.contains field.name)

/-- Length of the target of a directive, where none is shorter than any. -/
def targetRank (directive : Directive) : Nat :=
  match directive.target with
  | none => 0
  | some target => target.utf8ByteSize + 1

/-- Whether a directive gives way to a later one that is about the same event: that is as specific
or more. -/
def givesWayTo (directive later : Directive) : Bool :=
  directive.targetRank < later.targetRank
    || directive.targetRank == later.targetRank
      && match directive.field, later.field with
        | none, _ => true
        | some _, none => false
        | some a, some b => a.name ≤ b.name

end Directive

/-- A filter. -/
structure Filter where
  /-- Its directives, as written. -/
  directives : List Directive
  deriving DecidableEq, Repr

namespace Filter

/-- The filter that lets events of a level and more important ones through. -/
def ofLevel (level : Level) : Filter :=
  ⟨[{ threshold := some level }]⟩

/-- The filter of a text. Without directives only errors are let through; a text with one that is
unreadable is taken for `info`. -/
def ofText (text : String) : Except Text.CutFault Filter :=
  match Directive.allOf text with
  | .error .unreadable => .ok (ofLevel .info)
  | .error (.cut fault) => .error fault
  | .ok [] => .ok (ofLevel .error)
  | .ok directives => .ok ⟨directives⟩

/-- The filter of a setting, which is `info` if there is none. -/
def ofSetting : Option String → Except Text.CutFault Filter
  | some text => ofText text
  | none => .ok (ofLevel .info)

/-- The directive that decides about an event. -/
def decisive? (filter : Filter) (event : Event) : Option Directive :=
  (filter.directives.filter (·.caresAbout event)).foldl
    (fun best directive =>
      match best with
      | none => some directive
      | some best => some (if best.givesWayTo directive then directive else best))
    none

/-- Whether an event is logged. -/
def enables (filter : Filter) (event : Event) : Bool :=
  (filter.decisive? event).any (·.threshold.admits event.level)

/-- A filter for a level lets through what is at least as important. -/
theorem enables_ofLevel (level : Level) (event : Event) :
    (ofLevel level).enables event = decide (event.level.number ≤ level.number) := by
  simp [enables, decisive?, ofLevel, Directive.caresAbout, Directive.isAboutEvents,
    Threshold.admits]

end Filter

end BuildScope.Log
