import Rulebook.Json.Lexeme

/-!
# Reading JSON texts

A JSON text is read by a machine with a stack. Between two lexemes its state holds the containers
that are open, innermost first, and what may come next; each lexeme moves it one step, and it stops
when a value is complete. So nesting costs no recursion, and the number of open containers at any
point is the height of the stack.
-/

namespace Rulebook.Json

/-- A container that is open, with what has been read of it. -/
inductive Frame where
  /-- An array and its elements so far, last first. -/
  | array (elements : List Value)
  /-- An object and its members so far. -/
  | object (members : Members)
  /-- An object and the key of the member that is being read. -/
  | member (members : Members) (key : Text)

/-- What may come next. -/
inductive Need where
  | value
  | elementOrClose
  | keyOrClose
  | key
  | colon
  | commaOrClose

/-- The state of reading a value. -/
inductive Progress where
  | inside (frames : List Frame) (need : Need)
  | complete (value : Value)

namespace Progress

def start : Progress :=
  .inside [] .value

/-- The number of containers that are open. -/
def openContainers : Progress → Nat
  | .inside frames _ => frames.length
  | .complete _ => 0

/-- Put a value where one was awaited. -/
def settle (value : Value) : List Frame → Option Progress
  | [] => some (.complete value)
  | .array elements :: outer => some (.inside (.array (value :: elements) :: outer) .commaOrClose)
  | .member members key :: outer =>
      some (.inside (.object (members.insert key value) :: outer) .commaOrClose)
  | .object _ :: _ => none

/-- Read a lexeme where a value may come. -/
def takeValue (frames : List Frame) : Lexeme → Option Progress
  | .openArray => some (.inside (.array [] :: frames) .elementOrClose)
  | .openObject => some (.inside (.object [] :: frames) .keyOrClose)
  | .quoted contents => settle (.text contents) frames
  | .scalar value => settle value frames
  | _ => none

def takeKey : List Frame → Lexeme → Option Progress
  | .object members :: outer, .quoted key => some (.inside (.member members key :: outer) .colon)
  | _, _ => none

def close : List Frame → Lexeme → Option Progress
  | .array elements :: outer, .closeArray => settle (.array elements.reverse) outer
  | .object members :: outer, .closeObject => settle (.object members) outer
  | _, _ => none

/-- Read a comma and go on to the next element or member. -/
def takeComma : List Frame → Option Progress
  | .array elements :: outer => some (.inside (.array elements :: outer) .value)
  | .object members :: outer => some (.inside (.object members :: outer) .key)
  | _ => none

/-- Read one lexeme. None if it may not come here. -/
def step : Progress → Lexeme → Option Progress
  | .complete _, _ => none
  | .inside frames .value, lexeme => takeValue frames lexeme
  | .inside frames .elementOrClose, .closeArray => close frames .closeArray
  | .inside frames .elementOrClose, lexeme => takeValue frames lexeme
  | .inside frames .keyOrClose, .closeObject => close frames .closeObject
  | .inside frames .keyOrClose, lexeme => takeKey frames lexeme
  | .inside frames .key, lexeme => takeKey frames lexeme
  | .inside frames .colon, .colon => some (.inside frames .value)
  | .inside _ .colon, _ => none
  | .inside frames .commaOrClose, .comma => takeComma frames
  | .inside frames .commaOrClose, lexeme => close frames lexeme

/-- Read on until the value is complete, and give what follows it. None at the first lexeme that may
not come, at the end of the text, or when more than `limit` containers are open. -/
def run (demand : Demand) (limit : Option Nat) (progress : Progress) (text : Text) :
    Option (Value × Text) :=
  match progress with
  | .complete value => some (value, text)
  | .inside frames need =>
      if limit.any (· < frames.length) then none
      else
        match _found : Lexeme.next? demand text with
        | none => none
        | some (lexeme, rest) =>
            match step (.inside frames need) lexeme with
            | none => none
            | some after => run demand limit after rest
termination_by text.length
decreasing_by exact Lexeme.next?_length _found

theorem run_length {demand : Demand} {limit : Option Nat} {progress : Progress} {text rest : Text}
    {value : Value} (found : run demand limit progress text = some (value, rest)) :
    rest.length ≤ text.length := by
  fun_induction run demand limit progress text with
  | case1 => cases found; exact Nat.le_refl _
  | case2 => cases found
  | case3 => cases found
  | case4 => cases found
  | case5 text frames need _ lexeme after lexeme_found next _ induction =>
      have := induction found
      have := Lexeme.next?_length lexeme_found
      omega

theorem run_inside_length {demand : Demand} {limit : Option Nat} {frames : List Frame} {need : Need}
    {text rest : Text} {value : Value}
    (found : run demand limit (.inside frames need) text = some (value, rest)) :
    rest.length < text.length := by
  unfold run at found
  split at found
  · cases found
  · split at found
    · cases found
    · next lexeme_found =>
      split at found
      · cases found
      · have := run_length found
        have := Lexeme.next?_length lexeme_found
        omega

end Progress

namespace Value

/-- The value at the front of a text, with at most `limit` containers open at a time, and what
follows it. -/
def front? (limit : Option Nat) (text : Text) : Option (Value × Text) :=
  Progress.start.run .meaning limit text

/-- What follows the value at the front of a text, whatever its strings and numbers stand for. -/
def skip? (text : Text) : Option Text :=
  (Progress.start.run .form none text).map Prod.snd

theorem front?_length {limit : Option Nat} {text rest : Text} {value : Value}
    (found : front? limit text = some (value, rest)) : rest.length < text.length :=
  Progress.run_inside_length found

theorem skip?_length {text rest : Text} (found : skip? text = some rest) :
    rest.length < text.length := by
  simp only [skip?, Option.map_eq_some_iff, Prod.exists, exists_eq_right] at found
  obtain ⟨_, run_found⟩ := found
  exact Progress.run_inside_length run_found

/-- Read a text that holds one value and nothing else but white space, with at most `limit`
containers open at a time. -/
def read? (limit : Option Nat) (text : Text) : Option Value :=
  match front? limit text with
  | some (value, rest) => if (Lexeme.skipSpace rest).isEmpty then some value else none
  | none => none

end Value

/-- The scan that bounds the nesting of a text without reading it: outside of strings, opening
brackets count up and closing brackets down, and a bracket within a string does not count. -/
structure NestingScan where
  /-- The containers open so far; a surplus closing bracket counts nothing. -/
  depth : Nat
  /-- The greatest depth so far. -/
  deepest : Nat
  /-- Whether the scan is within a string. -/
  quoted : Bool
  /-- Whether the next character of the string is escaped. -/
  escaped : Bool

namespace NestingScan

def next (scan : NestingScan) (c : Char) : NestingScan :=
  if scan.quoted then
    if scan.escaped then { scan with escaped := false }
    else if c = '\\' then { scan with escaped := true }
    else if c = '"' then { scan with quoted := false }
    else scan
  else if c = '"' then { scan with quoted := true }
  else if c = '{' ∨ c = '[' then
    { scan with depth := scan.depth + 1, deepest := max scan.deepest (scan.depth + 1) }
  else if c = '}' ∨ c = ']' then { scan with depth := scan.depth - 1 }
  else scan

end NestingScan

/-- The nesting of a text, by brackets alone. -/
def nesting (text : Text) : Nat :=
  (text.foldl NestingScan.next ⟨0, 0, false, false⟩).deepest

end Rulebook.Json
