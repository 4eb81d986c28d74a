import Rulebook.Log.Directive

/-!
# Filters of logs

A filter is a list of directives. A record is let through by the directives that single out the
spans around it, or else by the directive that decides on its target: the one with the longest
beginning of the target.
-/

namespace Rulebook.Log

/-- A filter: its directives, at most one for each target and selection. -/
abbrev Filter := List Directive

namespace Filter

/-- Add a directive in place of the one with the same target and selection. -/
def add (filter : Filter) (directive : Directive) : Filter :=
  filter.filter (fun other => other.target ≠ directive.target ∨
    other.selection ≠ directive.selection) ++ [directive]

/-- The filter of a text: directives with commas between them. -/
def ofText? (text : Text) : Option Filter :=
  let items := (Text.splitOn ',' text).filter fun item => !item.isEmpty
  (items.mapM Directive.ofText?).map fun directives => directives.foldl add []

/-- The filter that lets records up to `info` through. -/
def standard : Filter :=
  [⟨none, none, .upTo .info⟩]

/-- The first valid one of some filters, and the standard filter if there is none. -/
def choose (texts : List Text) : Filter :=
  (texts.findSome? ofText?).getD standard

/-- The directives that take part in the choice of the level for a target. -/
def general (filter : Filter) : List Directive :=
  filter.filter Directive.isGeneral

/-- The directives that single out spans. -/
def selective (filter : Filter) : List Directive :=
  filter.filter (·.selection.isSome)

/-- The texts of the directives in order, where one that counts twice is written twice. A filter
without directives has the empty text alone. -/
def texts (filter : Filter) : List Text :=
  match filter with
  | [] => [[]]
  | filter =>
      ((filter.general ++ filter.selective).map Directive.text).mergeSort fun left right =>
        !(decide (right < left))

/-- The most specific one of some directives. -/
def mostSpecific? (directives : List Directive) : Option Directive :=
  directives.foldl (fun best directive =>
    match best with
    | none => some directive
    | some other => some (if directive.isMoreSpecific other then directive else other)) none

/-- The directive that decides on a target, where only some field names count. -/
def decisive? (filter : Filter) (target : Text) (hasField : Text → Bool) : Option Directive :=
  mostSpecific? (filter.general.filter fun directive =>
    directive.isFor target && directive.fieldName?.all hasField)

/-- What is let through within a span because directives single it out. `late` holds the fields that
are known at its end only: it has them, but still without values. None if no directive singles the
span out. -/
def within? (filter : Filter) (span : Span) (late : List Field) : Option Threshold :=
  let chosen := filter.selective.filter fun directive =>
    directive.isFor span.target &&
      directive.selection.any (·.covers span.name (span.fields ++ late))
  if chosen.isEmpty then none
  else
    some ((chosen.filter fun directive => directive.selection.any (·.isMet span.fields)).foldl
      (fun threshold directive => threshold.join directive.threshold) .off)

/-- Whether an event is let through, where the spans around it let some records through. -/
def allowsEvent (filter : Filter) (around : Threshold) (event : Event) : Bool :=
  around.allows event.level ||
    (filter.decisive? event.target fun name =>
      name == "message".toList || event.fields.any (·.name == name)).any
        (·.threshold.allows event.level)

/-- Whether a span that no directive singles out is let through. -/
def allowsSpan (filter : Filter) (around : Threshold) (span : Span) : Bool :=
  around.allows .info ||
    (filter.decisive? span.target fun _ => true).any (·.threshold.allows .info)

end Filter

end Rulebook.Log
