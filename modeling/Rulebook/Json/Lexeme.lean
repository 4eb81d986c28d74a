import Rulebook.Json.Number
import Rulebook.Json.Printer

/-!
# Lexemes of JSON texts

A JSON text is read one lexeme at a time: a bracket, a comma, a colon, a string, or a scalar that is
not a string. White space before a lexeme is skipped. Where a value is not wanted, its lexemes may
be read for their form alone.
-/

namespace Rulebook.Json

/-- A lexeme of a JSON text. -/
inductive Lexeme where
  | openArray
  | closeArray
  | openObject
  | closeObject
  | comma
  | colon
  | quoted (contents : Text)
  | scalar (value : Value)

/-- What is asked of strings and numbers: what they stand for, or their form alone. In a string of
the right form an escape may have any code, and a number of the right form may be of any size. -/
inductive Demand where
  | meaning
  | form
deriving DecidableEq

namespace Demand

/-- The string after an opening quote. If its form alone is asked for, it counts as empty. -/
def quoted? (demand : Demand) (text : Text) : Option (Text × Text) :=
  match demand with
  | .meaning => Quoted.read [] text
  | .form => (Quoted.form? text).map fun rest => ([], rest)

/-- The number at the front of a text. If its form alone is asked for, it counts as zero. -/
def number? (demand : Demand) (text : Text) : Option (Number × Text) :=
  match demand with
  | .meaning => Number.number? text
  | .form => (Number.written? text).map fun written => (.integer 0, written.2)

theorem quoted?_length {demand : Demand} {text contents rest : Text}
    (found : demand.quoted? text = some (contents, rest)) : rest.length < text.length := by
  cases demand with
  | meaning => exact Quoted.read_length found
  | form =>
      simp only [quoted?, Option.map_eq_some_iff, Prod.mk.injEq] at found
      obtain ⟨_, form_found, _, rfl⟩ := found
      exact Quoted.form?_length form_found

theorem number?_length {demand : Demand} {text rest : Text} {number : Number}
    (found : demand.number? text = some (number, rest)) : rest.length < text.length := by
  cases demand with
  | meaning => exact Number.number?_length found
  | form =>
      simp only [number?, Option.map_eq_some_iff, Prod.mk.injEq] at found
      obtain ⟨_, written_found, _, rfl⟩ := found
      exact Number.written?_length written_found

end Demand

namespace Lexeme

/-- Whether a character is JSON white space. -/
def isSpace (c : Char) : Bool :=
  c == ' ' || c == '\n' || c == '\r' || c == '\t'

def skipSpace (text : Text) : Text :=
  text.dropWhile isSpace

/-- The rest of a word, and the value that the word stands for. -/
def word? (word : Text) (value : Value) (text : Text) : Option (Lexeme × Text) :=
  (Text.after? word text).map fun rest => (.scalar value, rest)

/-- The lexeme that a single character makes. -/
def mark? (c : Char) : Option Lexeme :=
  if c = '[' then some .openArray
  else if c = ']' then some .closeArray
  else if c = '{' then some .openObject
  else if c = '}' then some .closeObject
  else if c = ',' then some .comma
  else if c = ':' then some .colon
  else none

/-- The lexeme at the front of a text that does not begin with white space. -/
def front? (demand : Demand) : Text → Option (Lexeme × Text)
  | [] => none
  | c :: rest =>
      match mark? c with
      | some mark => some (mark, rest)
      | none =>
          if c = '"' then (demand.quoted? rest).map (Prod.map .quoted id)
          else if c = 'n' then word? ['u', 'l', 'l'] .null rest
          else if c = 't' then word? ['r', 'u', 'e'] (.boolean true) rest
          else if c = 'f' then word? ['a', 'l', 's', 'e'] (.boolean false) rest
          else
            (demand.number? (c :: rest)).map
              (Prod.map (fun number => .scalar (.number number)) id)

private theorem word?_length {word text rest : Text} {value : Value} {lexeme : Lexeme}
    (found : word? word value text = some (lexeme, rest)) : rest.length ≤ text.length := by
  unfold word? at found
  simp only [Option.map_eq_some_iff, Prod.mk.injEq] at found
  obtain ⟨_, after_found, _, rfl⟩ := found
  have := Text.length_of_after? after_found
  omega

theorem front?_length {demand : Demand} {text rest : Text} {lexeme : Lexeme}
    (found : front? demand text = some (lexeme, rest)) : rest.length < text.length := by
  unfold front? at found
  split at found
  · cases found
  · next c tail =>
    have word_lt {word : Text} {value : Value}
        (word_found : word? word value tail = some (lexeme, rest)) :
        rest.length < (c :: tail).length :=
      Nat.lt_succ_of_le (word?_length word_found)
    split at found
    · cases found
      exact Nat.lt_succ_self _
    · split at found
      · simp only [Option.map_eq_some_iff, Prod.map_apply, Prod.mk.injEq, Prod.exists] at found
        obtain ⟨_, _, read_found, _, rfl⟩ := found
        exact Nat.lt_succ_of_lt (Demand.quoted?_length read_found)
      · split at found
        · exact word_lt found
        · split at found
          · exact word_lt found
          · split at found
            · exact word_lt found
            · simp only [Option.map_eq_some_iff, Prod.map_apply, Prod.mk.injEq, Prod.exists]
                at found
              obtain ⟨_, _, number_found, _, rfl⟩ := found
              exact Demand.number?_length number_found

/-- The next lexeme of a text and what follows it. None if the text is at its end, or if what comes
is no lexeme. -/
def next? (demand : Demand) (text : Text) : Option (Lexeme × Text) :=
  front? demand (skipSpace text)

theorem next?_length {demand : Demand} {text rest : Text} {lexeme : Lexeme}
    (found : next? demand text = some (lexeme, rest)) : rest.length < text.length := by
  have := front?_length found
  have : (skipSpace text).length ≤ text.length := (List.dropWhile_sublist _).length_le
  omega

end Lexeme

end Rulebook.Json
