import Rulebook.Json.Value
import Rulebook.Log.Filter
import Rulebook.Text.Literal
import Rulebook.Text.Numeral

/-!
# Written logs

A log is written as one line for each event, or as one JSON object for each event and for each end
of a span. What a filter holds back is not written, and a span that it holds back is not shown
around what lies within.
-/

namespace Rulebook.Log

/-- How a log is written. -/
inductive Format where
  | json
  | pretty
deriving DecidableEq

namespace FieldValue

/-- How a value is written in a line. -/
def text : FieldValue → Text
  | .plain text => text
  | .quoted text => Text.inQuotes text
  | .texts elements => Text.listInQuotes elements
  | .natural n => Numeral.ofNat n
  | .flag true => "true".toList
  | .flag false => "false".toList

/-- How a value is written in JSON. -/
def toJson : FieldValue → Json.Value
  | .plain text | .quoted text => .text text
  | .texts elements => .text (Text.listInQuotes elements)
  | .natural n => .ofNat n
  | .flag value => .boolean value

end FieldValue

namespace Field

/-- How a field is written in a line. -/
def text (field : Field) : Text :=
  field.name ++ '=' :: field.value.text

/-- The member of a JSON object that shows a field. -/
def member (field : Field) : Text × Json.Value :=
  (field.name, field.value.toJson)

end Field

namespace Span

/-- How a span is written in a line. -/
def text (span : Span) : Text :=
  match span.fields with
  | [] => span.name
  | fields => span.name ++ '\x7b' :: (Text.join [' '] (fields.map Field.text) ++ ['\x7d'])

def toJson (span : Span) : Json.Value :=
  .object (Json.Members.ofList
    (("name".toList, .text span.name) :: span.fields.map Field.member))

end Span

namespace Event

/-- The line of an event within spans, the outermost first. -/
def line (spans : List Span) (event : Event) : Text :=
  let place := match spans with
    | [] => []
    | spans => Text.join [':'] (spans.map Span.text) ++ ": ".toList
  Text.join [' '] ((event.level.name ++ ' ' :: (place ++ event.target ++ ": ".toList ++
    event.message)) :: event.fields.map Field.text)

/-- The members of a JSON object that do not depend on the spans around. -/
def members (event : Event) : List (Text × Json.Value) :=
  [("level".toList, .text event.level.name), ("target".toList, .text event.target),
    ("fields".toList, .object (Json.Members.ofList
      (("message".toList, .text event.message) :: event.fields.map Field.member))),
    ("has_time".toList, .boolean true), ("has_thread".toList, .boolean true)]

/-- The JSON object of an event within spans, the outermost first. -/
def toJson (spans : List Span) (event : Event) : Json.Value :=
  let place := match spans.getLast? with
    | some span =>
        [("span".toList, span.toJson), ("spans".toList, .array (spans.map Span.toJson))]
    | none => []
  .object (Json.Members.ofList (event.members ++ place))

end Event

namespace Span

/-- The event at the end of a span. -/
def closing (span : Span) : Event :=
  ⟨.info, span.target, "close".toList, []⟩

/-- The JSON object at the end of a span that lies within others, the outermost first. -/
def closingJson (spans : List Span) (span : Span) : Json.Value :=
  .object (Json.Members.ofList (span.closing.members ++
    [("span".toList, span.toJson), ("spans".toList, .array (spans.map Span.toJson))]))

end Span

namespace Format

mutual

/-- Write a record that lies within spans, the outermost first, which let records up to `around`
through. -/
def writeRecord (format : Format) (filter : Filter) (around : Threshold) (spans : List Span) :
    Record → List Json.Value
  | .event event =>
      if filter.allowsEvent around event then
        match format with
        | .pretty => [.text (event.line spans)]
        | .json => [event.toJson spans]
      else []
  | .span span late inside =>
      let within := filter.within? span late
      if within.isSome || filter.allowsSpan around span then
        let around := around.join (within.getD .off)
        let written := writeRecords format filter around (spans ++ [span]) inside
        match format with
        | .pretty => written
        | .json =>
            let ended : Span := { span with fields := span.fields ++ late }
            written ++ [ended.closingJson spans]
      else writeRecords format filter around spans inside

/-- Write records that lie within spans, the outermost first, which let records up to `around`
through. -/
def writeRecords (format : Format) (filter : Filter) (around : Threshold) (spans : List Span) :
    List Record → List Json.Value
  | [] => []
  | record :: rest =>
      writeRecord format filter around spans record ++ writeRecords format filter around spans rest

end

def write (format : Format) (filter : Filter) (records : List Record) : List Json.Value :=
  writeRecords format filter .off [] records

end Format

end Rulebook.Log
