import Rulebook.Text.Basic

/-!
# Log records

What a run reports is a forest: events are its leaves, and a span holds all that is reported while
it is open. Which records are kept and how they are written is decided afterwards.
-/

namespace Rulebook.Log

/-- How grave an event is. -/
inductive Level where
  | error
  | warn
  | info
  | debug
  | trace
deriving DecidableEq

namespace Level

/-- The place of a level: the smaller, the graver. -/
def rank : Level → Nat
  | .error => 1
  | .warn => 2
  | .info => 3
  | .debug => 4
  | .trace => 5

def name : Level → Text
  | .error => "ERROR".toList
  | .warn => "WARN".toList
  | .info => "INFO".toList
  | .debug => "DEBUG".toList
  | .trace => "TRACE".toList

end Level

/-- The value of a field. -/
inductive FieldValue where
  /-- A text that is written as it is. -/
  | plain (text : Text)
  /-- A text that stands in quotes where it is written in a line. -/
  | quoted (text : Text)
  /-- A list of texts, which is always written with quotes and brackets. -/
  | texts (texts : List Text)
  | natural (n : Nat)
  | flag (value : Bool)

/-- A named field. -/
structure Field where
  name : Text
  value : FieldValue

/-- Something that is reported. -/
structure Event where
  level : Level
  target : Text
  message : Text
  fields : List Field

/-- An activity. Spans have the level `info`. -/
structure Span where
  name : Text
  target : Text
  fields : List Field

/-- A record of a log. -/
inductive Record where
  | event (event : Event)
  /-- A span, the fields that are known at its end only, and what is reported within it. -/
  | span (span : Span) (late : List Field) (inside : List Record)

end Rulebook.Log
