import Rulebook.Json.Reader

/-!
# Bodies of requests

A body is a JSON object with known fields, or an array of their values in the order of the fields.
It is read in one pass that stops at the first fault: a lexeme that no JSON text could have there,
or a value that the body should not have there. Values of unknown fields are skipped for their form
alone.
-/

namespace Rulebook.Http

open Json

/-- The kind of value that a field of a body takes. -/
inductive FieldKind where
  | text
  | texts
  | record
  | flag
deriving DecidableEq

/-- A field of a body. -/
structure BodyField where
  name : Text
  kind : FieldKind
  /-- The value of the field where it is left out; without one it must be there. -/
  fallback : Option Value

/-- Why a body cannot be read. -/
inductive BodyFault where
  | notJson
  | wrongShape
deriving DecidableEq

namespace BodyFault

/-- The fault of a lexeme in place of a value of another kind. -/
def ofLexeme : Lexeme → BodyFault
  | .openArray | .openObject | .quoted _ | .scalar _ => .wrongShape
  | .closeArray | .closeObject | .comma | .colon => .notJson

end BodyFault

/-- The greatest number of containers that may be open within a body. -/
def maxNesting : Nat :=
  127

/-- Read strings up to the end of their array. `done` holds those before, last first. -/
def readTexts (done : List Text) (text : Text) : Except BodyFault (List Text × Text) :=
  match _first : Lexeme.next? .meaning text with
  | none => .error .notJson
  | some (.quoted element, rest) =>
      match _second : Lexeme.next? .meaning rest with
      | some (.comma, rest) => readTexts (element :: done) rest
      | some (.closeArray, rest) => .ok ((element :: done).reverse, rest)
      | _ => .error .notJson
  | some (lexeme, _) => .error (.ofLexeme lexeme)
termination_by text.length
decreasing_by
  have := Lexeme.next?_length _first
  have := Lexeme.next?_length _second
  omega

theorem readTexts_length {done elements : List Text} {text rest : Text}
    (found : readTexts done text = .ok (elements, rest)) : rest.length < text.length := by
  fun_induction readTexts done text with
  | case1 => cases found
  | case2 done text element after first rest' second induction =>
      have := Lexeme.next?_length first
      have := Lexeme.next?_length second
      have := induction found
      omega
  | case3 done text element after first rest' second =>
      have := Lexeme.next?_length first
      have := Lexeme.next?_length second
      cases found
      omega
  | case4 => cases found
  | case5 => cases found

/-- Read the strings of an array after its opening bracket. -/
def readTextArray (text : Text) : Except BodyFault (List Text × Text) :=
  match Lexeme.next? .meaning text with
  | some (.closeArray, rest) => .ok ([], rest)
  | _ => readTexts [] text

theorem readTextArray_length {elements : List Text} {text rest : Text}
    (found : readTextArray text = .ok (elements, rest)) : rest.length < text.length := by
  unfold readTextArray at found
  split at found
  · next lexeme_found =>
    cases found
    exact Lexeme.next?_length lexeme_found
  · exact readTexts_length found

namespace FieldKind

/-- Read a value of a kind. Within the body it may open containers up to the greatest number. -/
def read (kind : FieldKind) (text : Text) : Except BodyFault (Value × Text) :=
  match Lexeme.next? .meaning text with
  | none => .error .notJson
  | some (lexeme, rest) =>
      match kind, lexeme with
      | .text, .quoted contents => .ok (.text contents, rest)
      | .flag, .scalar (.boolean value) => .ok (.boolean value, rest)
      | .texts, .openArray =>
          (readTextArray rest).map fun (elements, rest) => (Value.ofTexts elements, rest)
      | .record, .openObject =>
          match Value.front? (some (maxNesting - 1)) text with
          | some read => .ok read
          | none => .error .notJson
      | _, lexeme => .error (.ofLexeme lexeme)

theorem read_length {kind : FieldKind} {text rest : Text} {value : Value}
    (found : kind.read text = .ok (value, rest)) : rest.length < text.length := by
  unfold read at found
  split at found
  · cases found
  · next tail lexeme_found =>
    have := Lexeme.next?_length lexeme_found
    split at found
    · cases found
      omega
    · cases found
      omega
    · cases array_found : readTextArray tail with
      | error => simp [array_found, Except.map] at found
      | ok array =>
          have := readTextArray_length array_found
          simp only [array_found, Except.map, Except.ok.injEq, Prod.mk.injEq] at found
          obtain ⟨_, rfl⟩ := found
          omega
    · split at found
      · next front_found =>
        cases found
        exact Value.front?_length front_found
      · cases found
    · cases found

end FieldKind

/-- Read the value of a member after its key. -/
def readMember (fields : List BodyField) (found : Members) (key text : Text) :
    Except BodyFault (Members × Text) :=
  match fields.find? (·.name == key) with
  | none =>
      match Lexeme.next? .meaning text with
      | some (.colon, rest) =>
          match Value.skip? rest with
          | some rest => .ok (found, rest)
          | none => .error .notJson
      | _ => .error .notJson
  | some field =>
      if (found.get? key).isSome then .error .wrongShape
      else
        match Lexeme.next? .meaning text with
        | some (.colon, rest) =>
            (field.kind.read rest).map fun (value, rest) => (found.insert key value, rest)
        | _ => .error .notJson

theorem readMember_length {fields : List BodyField} {found after : Members} {key text rest : Text}
    (read : readMember fields found key text = .ok (after, rest)) : rest.length < text.length := by
  unfold readMember at read
  split at read
  · split at read
    · next colon_found =>
      have := Lexeme.next?_length colon_found
      split at read
      · next skip_found =>
        have := Value.skip?_length skip_found
        cases read
        omega
      · cases read
    · cases read
  · next field _ =>
    split at read
    · cases read
    · split at read
      · next tail colon_found =>
        have := Lexeme.next?_length colon_found
        cases value_found : field.kind.read tail with
        | error => simp [value_found, Except.map] at read
        | ok value =>
            have := FieldKind.read_length value_found
            simp only [value_found, Except.map, Except.ok.injEq, Prod.mk.injEq] at read
            obtain ⟨_, rfl⟩ := read
            omega
      · cases read

/-- Read members up to the end of their object. -/
def readMembers (fields : List BodyField) (found : Members) (text : Text) :
    Except BodyFault (Members × Text) :=
  match _key : Lexeme.next? .meaning text with
  | some (.quoted key, rest) =>
      match _member : readMember fields found key rest with
      | .error fault => .error fault
      | .ok (found, rest) =>
          match _after : Lexeme.next? .meaning rest with
          | some (.comma, rest) => readMembers fields found rest
          | some (.closeObject, rest) => .ok (found, rest)
          | _ => .error .notJson
  | _ => .error .notJson
termination_by text.length
decreasing_by
  have := Lexeme.next?_length _key
  have := readMember_length _member
  have := Lexeme.next?_length _after
  omega

/-- Add the fallbacks of the fields that were left out. -/
def complete (fields : List BodyField) (found : Members) : Except BodyFault Members :=
  match fields with
  | [] => .ok found
  | field :: fields =>
      match found.get? field.name, field.fallback with
      | some _, _ => complete fields found
      | none, some value => complete fields (found.insert field.name value)
      | none, none => .error .wrongShape

/-- Read an object after its opening brace. -/
def readObject (fields : List BodyField) (text : Text) : Except BodyFault (Members × Text) := do
  let (found, rest) ← match Lexeme.next? .meaning text with
    | some (.closeObject, rest) => .ok ([], rest)
    | _ => readMembers fields [] text
  let members ← complete fields found
  .ok (members, rest)

/-- Read the values of fields up to the end of their array. There is a comma before each of them,
except before the first element. -/
def readElements (isFirst : Bool) (found : Members) (fields : List BodyField) (text : Text) :
    Except BodyFault (Members × Text) :=
  match fields with
  | [] =>
      match Lexeme.next? .meaning text with
      | some (.closeArray, rest) => .ok (found, rest)
      | _ => .error .notJson
  | field :: fields =>
      match Lexeme.next? .meaning text with
      | some (.closeArray, rest) =>
          (complete (field :: fields) found).map fun members => (members, rest)
      | next =>
          let start := match next with
            | some (.comma, rest) => if isFirst then none else some rest
            | _ => if isFirst then some text else none
          match start with
          | none => .error .notJson
          | some start => do
              let (value, rest) ← field.kind.read start
              readElements false (found.insert field.name value) fields rest

def readBody (fields : List BodyField) (body : Text) : Except BodyFault Members :=
  match Lexeme.next? .meaning body with
  | none => .error .notJson
  | some (lexeme, rest) => do
      let (members, rest) ← match lexeme with
        | .openObject => readObject fields rest
        | .openArray => readElements true [] fields rest
        | lexeme => .error (.ofLexeme lexeme)
      if (Lexeme.skipSpace rest).isEmpty then .ok members else .error .notJson

end Rulebook.Http
