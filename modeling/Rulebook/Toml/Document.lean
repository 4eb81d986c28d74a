import Rulebook.Toml.Quoted
import Rulebook.Toml.Scalar
import Rulebook.Toml.Entries

/-!
# TOML documents

A TOML text has a statement on each line: an assignment to a key, the header of a table, or the
header of an element of an array of tables. Keys are paths of names. Comments begin with a number
sign. The statements of a text make one table. An assignment goes into the table or element that
was opened last; no table is opened twice, and no value is replaced.
-/

namespace Rulebook.Toml

open Config

/-- A statement of a TOML text. -/
inductive Statement where
  | assign (path : List Text) (value : Value)
  | table (path : List Text)
  | element (path : List Text)

namespace Statement

def skipBlank (text : Text) : Text :=
  text.dropWhile fun c => c == ' ' || c == '\t'

/-- Skip a comment, up to the end of its line. -/
def skipComment : Text → Text
  | '#' :: rest => rest.dropWhile Quoted.isPlain
  | text => text

/-- Skip blanks, comments and line breaks. What can be none of these stays. -/
def skipVoid (inComment : Bool) : Text → Text
  | [] => []
  | c :: rest =>
      if c = '\n' then skipVoid false rest
      else if c = '\r' ∧ rest.head? = some '\n' then skipVoid inComment rest
      else if inComment && Quoted.isPlain c then skipVoid true rest
      else if !inComment && (c == ' ' || c == '\t') then skipVoid false rest
      else if !inComment && c == '#' then skipVoid true rest
      else c :: rest

/-- What follows the end of a line. -/
def lineEnd? (text : Text) : Option Text :=
  match skipComment (skipBlank text) with
  | [] => some []
  | '\n' :: rest => some rest
  | '\r' :: '\n' :: rest => some rest
  | _ => none

/-- Whether a character may stand in a bare name. -/
def isBare (c : Char) : Bool :=
  c.isAlphanum || c == '_' || c == '-'

/-- A name of a key: bare, or a string of one line. -/
def name? : Text → Option (Text × Text)
  | '"' :: rest => Quoted.line? rest
  | '\x27' :: rest => Quoted.literalLine? rest
  | text =>
      let name := text.takeWhile isBare
      if name.isEmpty then none else some (name, text.drop name.length)

/-- The path of a key and what follows it, reading at most `fuel` names. -/
def pathFrom (fuel : Nat) (text : Text) : Option (List Text × Text) :=
  match fuel with
  | 0 => none
  | fuel + 1 => do
      let (name, rest) ← name? (skipBlank text)
      match skipBlank rest with
      | '.' :: rest =>
          let (path, rest) ← pathFrom fuel rest
          some (name :: path, rest)
      | rest => some ([name], rest)

/-- The greatest number of names of a key, and of arrays and inline tables within each other. -/
def maxNesting : Nat :=
  80

/-- The path of a key, and what follows it and the blanks after it. -/
def path? (text : Text) : Option (List Text × Text) :=
  pathFrom maxNesting text

mutual

/-- Read a value within `room` more arrays and inline tables. Each value and each step to the next
one takes one of `fuel`. -/
def valueFrom (fuel room : Nat) (text : Text) : Option (Value × Text) :=
  match fuel with
  | 0 => none
  | fuel + 1 =>
      match text, room with
      | [], _ => none
      | '[' :: rest, room + 1 => elementsFrom fuel room [] rest
      | '\x7b' :: rest, room + 1 => membersFrom fuel room [] rest
      | '[' :: _, 0 => none
      | '\x7b' :: _, 0 => none
      | c :: rest, _ =>
          if c = '"' ∨ c = '\x27' then (Quoted.read? (c :: rest)).map (Prod.map .text id)
          else Scalar.front? (c :: rest)

/-- Read elements up to the end of their array. `done` holds those before, last first. A comma may
follow the last element. -/
def elementsFrom (fuel room : Nat) (done : List Value) (text : Text) : Option (Value × Text) :=
  match fuel with
  | 0 => none
  | fuel + 1 =>
      match skipVoid false text with
      | ']' :: rest => some (.list done.reverse, rest)
      | text => do
          let (value, rest) ← valueFrom fuel room text
          match skipVoid false rest with
          | ',' :: rest => elementsFrom fuel room (value :: done) rest
          | ']' :: rest => some (.list (value :: done).reverse, rest)
          | _ => none

/-- Read members up to the end of their inline table. `entries` holds those before. A comma may
follow the last member. -/
def membersFrom (fuel room : Nat) (entries : Entries) (text : Text) : Option (Value × Text) :=
  match fuel with
  | 0 => none
  | fuel + 1 =>
      match skipVoid false text with
      | '\x7d' :: rest => some (.table entries.toTable, rest)
      | text => do
          let (path, rest) ← path? text
          match skipVoid false rest with
          | '=' :: rest =>
              let (value, rest) ← valueFrom fuel room (skipVoid false rest)
              let entries ← Entries.assign? value path entries
              match skipVoid false rest with
              | ',' :: rest => membersFrom fuel room entries rest
              | '\x7d' :: rest => some (.table entries.toTable, rest)
              | _ => none
          | _ => none

end

def value? (text : Text) : Option (Value × Text) :=
  valueFrom (2 * text.length + 1) maxNesting text

/-- Read a statement that begins a line, and what follows it on the line. -/
def front? : Text → Option (Statement × Text)
  | '[' :: '[' :: rest => do
      let (path, rest) ← path? rest
      match rest with
      | ']' :: ']' :: rest => some (.element path, rest)
      | _ => none
  | '[' :: rest => do
      let (path, rest) ← path? rest
      match rest with
      | ']' :: rest => some (.table path, rest)
      | _ => none
  | text => do
      let (path, rest) ← path? text
      match rest with
      | '=' :: rest =>
          let (value, rest) ← value? (skipBlank rest)
          some (.assign path value, rest)
      | _ => none

/-- Read the statements of at most `fuel` lines. -/
def statementsFrom (fuel : Nat) (text : Text) : Option (List Statement) :=
  match skipVoid false text with
  | [] => some []
  | text =>
      match fuel with
      | 0 => none
      | fuel + 1 => do
          let (statement, rest) ← front? text
          let rest ← lineEnd? rest
          let statements ← statementsFrom fuel rest
          some (statement :: statements)

/-- Read the statements of a text, whose byte order mark does not count. -/
def ofText? (text : Text) : Option (List Statement) :=
  let text := Text.dropMark text
  statementsFrom text.length text

end Statement

/-- A table under construction. -/
structure Construction where
  entries : Entries
  /-- The path of the header above, which is empty before the first one. -/
  heading : List Text

namespace Construction

def start : Construction :=
  ⟨[], []⟩

/-- Open what a path names by opening its last name in the table before. -/
def open? (openLast? : Text → Entries → Option Entries) (path : List Text)
    (construction : Construction) : Option Construction :=
  match path.getLast? with
  | none => none
  | some last =>
      (Entries.withinHeader? (openLast? last) path.dropLast construction.entries).map
        fun entries => ⟨entries, path⟩

def next? (construction : Construction) : Statement → Option Construction
  | .table path => construction.open? Entries.openTable? path
  | .element path => construction.open? Entries.openElement? path
  | .assign path value =>
      (Entries.withinHeader? (Entries.assign? value path) construction.heading
        construction.entries).map fun entries => { construction with entries }

end Construction

def ofText? (text : Text) : Option Table :=
  match Statement.ofText? text with
  | none => none
  | some statements =>
      (statements.foldlM Construction.next? .start).map fun construction =>
        construction.entries.toTable

end Rulebook.Toml
