import Rulebook.Config.Environment
import Rulebook.Text.Alphanumeric

/-!
# Environment files

An environment file has an assignment on each line, possibly after the word `export`. Values may
stand in quotes, where they may go over several lines; a dollar sign stands for the value of a
variable unless it is escaped or in apostrophes. Reading stops at the first line that is no
assignment.
-/

namespace Rulebook.Config.Dotenv

/-- What was read last of a line, as far as its end depends on that. -/
inductive Place where
  | plain
  | blank
  | escape
  | quoted
  | quotedEscape
  | literal
  | literalEscape
  | comment
deriving DecidableEq

namespace Place

/-- Read a character outside of quotes. -/
def open? (c : Char) : Option Place :=
  if c = '\\' then some .escape
  else if c = '"' then some .quoted
  else if c = '\x27' then some .literal
  else none

def next : Place → Char → Place
  | .plain, c =>
      (open? c).getD (if Text.isBlank c && c != '\n' && c != '\r' then .blank else .plain)
  | .blank, c => if c = '#' then .comment else (open? c).getD .plain
  | .escape, _ => .plain
  | .quoted, c => if c = '\\' then .quotedEscape else if c = '"' then .plain else .quoted
  | .quotedEscape, _ => .quoted
  | .literal, c => if c = '\\' then .literalEscape else if c = '\x27' then .plain else .literal
  | .literalEscape, _ => .literal
  | .comment, c => if c = '\n' then .plain else .comment

end Place

/-- The lines of a text, the first of which has `current` already read, last character first.
Comments are dropped, and a line in which quotes are open goes on. A last line with open quotes is
dropped. -/
def linesFrom (place : Place) (current : Text) : Text → List Text
  | [] =>
      if place = .comment ∨ (place = .plain ∧ !current.isEmpty) then [current.reverse] else []
  | c :: rest =>
      let start := if c = '#' ∧ current.all Text.isBlank then Place.comment else place.next c
      match start with
      | .comment => linesFrom .comment current rest
      | .plain =>
          if c = '\n' then current.reverse :: linesFrom .plain [] rest
          else linesFrom .plain (c :: current) rest
      | place => linesFrom place (c :: current) rest

/-- The lines of a text, whose byte order mark does not count. -/
def lines (text : Text) : List Text :=
  linesFrom .plain [] (Text.dropMark text)

/-- Where reading a value stands. -/
inductive Mode where
  | bare
  /-- In quotes. -/
  | quoted
  /-- In apostrophes. -/
  | literal
  /-- After the value. -/
  | ended
deriving DecidableEq

/-- A reference to a variable that is being read. -/
inductive Reference where
  | none
  /-- After a dollar sign, with the name so far, last character first. -/
  | bare (name : Text)
  /-- In braces after a dollar sign. -/
  | braced (name : Text)

/-- The state of reading a value. -/
structure ValueState where
  mode : Mode
  escaped : Bool
  reference : Reference
  /-- What has been read, last character first. -/
  done : Text

namespace ValueState

def start : ValueState :=
  ⟨.bare, false, .none, []⟩

def add (state : ValueState) (text : Text) : ValueState :=
  { state with done := text.reverse ++ state.done }

/-- Put the value of a variable in place of a reference. -/
def resolve (lookup : Text → Text) (name : Text) (state : ValueState) : ValueState :=
  { state with reference := .none }.add (lookup name.reverse)

def nextEscaped? (state : ValueState) (c : Char) : Option ValueState :=
  let state := { state with escaped := false }
  if c ∈ ['\\', '\x27', '"', '$', ' '] then some (state.add [c])
  else if c = 'n' then some (state.add ['\n'])
  else none

/-- Read a character in bare text or in quotes. -/
def nextPlain (state : ValueState) (c : Char) : ValueState :=
  if c = '$' then { state with reference := .bare [] }
  else if c = '\\' then { state with escaped := true }
  else if state.mode = .quoted then
    if c = '"' then { state with mode := .bare } else state.add [c]
  else if c = '"' then { state with mode := .quoted }
  else if c = '\x27' then { state with mode := .literal }
  else if c = ' ' ∨ c = '\t' then { state with mode := .ended }
  else state.add [c]

def next? (lookup : Text → Text) (state : ValueState) (c : Char) : Option ValueState :=
  match state.mode, state.escaped, state.reference with
  | .ended, _, _ => if c = ' ' ∨ c = '\t' then some state else none
  | _, true, _ => state.nextEscaped? c
  | .literal, _, _ =>
      some (if c = '\x27' then { state with mode := .bare } else state.add [c])
  | _, _, .bare name =>
      if Text.isAlphanumeric c then some { state with reference := .bare (c :: name) }
      else if c = '\x7b' ∧ name.isEmpty then some { state with reference := .braced [] }
      else
        let state := state.resolve lookup name
        if c = '$' then some { state with reference := .bare [] } else some (state.add [c])
  | _, _, .braced name =>
      if c = '\x7d' then some (state.resolve lookup name)
      else some { state with reference := .braced (c :: name) }
  | _, _, .none => some (state.nextPlain c)

/-- The value that has been read, unless quotes or braces are open. -/
def finish? (lookup : Text → Text) (state : ValueState) : Option Text :=
  match state.mode, state.reference with
  | .quoted, _ | .literal, _ | _, .braced _ => none
  | _, .bare name => some (state.resolve lookup name).done.reverse
  | _, .none => some state.done.reverse

end ValueState

/-- Read a value. After it, a comment may follow a blank. -/
def value? (lookup : Text → Text) (state : ValueState) : Text → Option Text
  | [] => state.finish? lookup
  | c :: rest =>
      if state.mode = .ended ∧ c = '#' then state.finish? lookup
      else
        match state.next? lookup c with
        | some state => value? lookup state rest
        | none => none

/-- Whether a character may stand in the name of a variable. -/
def isNameCharacter (c : Char) : Bool :=
  c.isAlphanum || c == '_' || c == '.'

/-- A name and what follows it and the blanks after it. -/
def name? (text : Text) : Option (Text × Text) :=
  let name := text.takeWhile isNameCharacter
  if name.head?.any fun c => c.isAlpha || c == '_' then
    some (name, (text.drop name.length).dropWhile Text.isBlank)
  else none

/-- The name that a line assigns to, and what follows the sign of equality. -/
def target? (line : Text) : Option (Text × Text) :=
  match name? line with
  | some (name, '=' :: rest) => some (name, rest)
  | some (name, rest) =>
      if name = "export".toList then
        match name? rest with
        | some (name, '=' :: rest) => some (name, rest)
        | _ => none
      else none
  | none => none

def assignment? (lookup : Text → Text) (line : Text) : Option (Text × Text) :=
  match target? line with
  | none => none
  | some (name, rest) =>
      match rest.dropWhile Text.isBlank with
      | [] => some (name, [])
      | '#' :: _ => some (name, [])
      | text => (value? lookup .start text).map fun value => (name, value)

/-- The value of a variable: that of the environment or the last one assigned. -/
def lookup (environment assigned : Environment) (name : Text) : Text :=
  match environment.find? (·.1 == name), assigned.reverse.find? (·.1 == name) with
  | some (_, value), _ => value
  | none, some (_, value) => value
  | none, none => []

/-- The assignments of some lines, after others. -/
def assignments (environment assigned : Environment) : List Text → Environment
  | [] => assigned
  | line :: rest =>
      match Text.trim line with
      | [] => assignments environment assigned rest
      | '#' :: _ => assignments environment assigned rest
      | line =>
          match assignment? (lookup (environment.extend assigned) assigned) line with
          | some assignment => assignments environment (assigned ++ [assignment]) rest
          | none => assigned

/-- The environment with the variables that a file adds. -/
def load (environment : Environment) (file : Text) : Environment :=
  environment.extend (assignments environment [] (lines file))

end Rulebook.Config.Dotenv
