import Rulebook.Text.Numeral

/-!
# TOML strings

A string stands between quotes, where a backslash escapes, or between apostrophes, where nothing
does. Three of either enclose a string of several lines, whose first line break does not count. Line
breaks within it stay as they are.
-/

namespace Rulebook.Toml.Quoted

/-- Whether a character may stand for itself in a line. -/
def isPlain (c : Char) : Bool :=
  c == '\t' || (0x20 ≤ c.toNat && c.toNat != 0x7F)

/-- Where reading a string in quotes stands. -/
inductive Place where
  | plain
  | escape
  /-- In an escape by code: how many digits are to come, and the code so far. -/
  | code (left value : Nat)
  /-- After a backslash at the end of a line; whether the line break was read. -/
  | continuation (broken : Bool)
  /-- The same, in the middle of a line break. -/
  | continuationReturn
  | carriageReturn
  /-- After some quotes. -/
  | quotes (count : Nat)

/-- The character that a letter after a backslash stands for. -/
def escapeLetter? (c : Char) : Option Char :=
  if c = 'b' then some '\x08'
  else if c = 'e' then some '\x1b'
  else if c = 't' then some '\t'
  else if c = 'n' then some '\n'
  else if c = 'f' then some '\x0c'
  else if c = 'r' then some '\r'
  else if c = '"' ∨ c = '\\' then some c
  else none

def character? (code : Nat) : Option Char :=
  if code < 0xD800 ∨ (0xE000 ≤ code ∧ code < 0x110000) then some (Char.ofNat code) else none

/-- Read a character that is neither a quote nor in an escape. Gives the place after it and the
characters read, last first. -/
def ordinary? (severalLines : Bool) (done : Text) (c : Char) : Option (Place × Text) :=
  if c = '\\' then some (.escape, done)
  else if isPlain c then some (.plain, c :: done)
  else if severalLines && c == '\n' then some (.plain, c :: done)
  else if severalLines && c == '\r' then some (.carriageReturn, done)
  else none

/-- Read a character after a backslash. -/
def escape? (severalLines : Bool) (done : Text) (c : Char) : Option (Place × Text) :=
  match escapeLetter? c with
  | some escaped => some (.plain, escaped :: done)
  | none =>
      if c = 'x' then some (.code 2 0, done)
      else if c = 'u' then some (.code 4 0, done)
      else if c = 'U' then some (.code 8 0, done)
      else if severalLines && c == '\n' then some (.continuation true, done)
      else if severalLines && c == '\r' then some (.continuationReturn, done)
      else if severalLines && (c == ' ' || c == '\t') then some (.continuation false, done)
      else none

/-- Read a digit of an escape by code. -/
def digit? (left value : Nat) (done : Text) (c : Char) : Option (Place × Text) :=
  match Numeral.hexDigit? c with
  | none => none
  | some digit =>
      let value := 16 * value + digit
      if left = 1 then (character? value).map fun c => (.plain, c :: done)
      else some (.code (left - 1) value, done)

/-- Read a character after a backslash at the end of a line. Blanks and empty lines do not count. -/
def continue? (severalLines broken : Bool) (done : Text) (c : Char) : Option (Place × Text) :=
  if c = '\n' then some (.continuation true, done)
  else if c = '\r' then some (.continuationReturn, done)
  else if c = ' ' ∨ c = '\t' then some (.continuation broken, done)
  else if !broken then none
  else if c = '"' then some (.quotes 1, done)
  else ordinary? severalLines done c

/-- Read a character that does not end the string. -/
def next? (severalLines : Bool) (place : Place) (done : Text) (c : Char) : Option (Place × Text) :=
  match place with
  | .plain => if c = '"' then some (.quotes 1, done) else ordinary? severalLines done c
  | .escape => escape? severalLines done c
  | .code left value => digit? left value done c
  | .continuation broken => continue? severalLines broken done c
  | .continuationReturn => if c = '\n' then some (.continuation true, done) else none
  | .carriageReturn => if c = '\n' then some (.plain, '\n' :: '\r' :: done) else none
  | .quotes count =>
      if c = '"' then some (.quotes (count + 1), done)
      else ordinary? severalLines (List.replicate count '"' ++ done) c

def closing (severalLines : Bool) : Nat :=
  if severalLines then 3 else 1

/-- Whether a string has ended after some quotes before a character that may be one more. In a
string of several lines up to two quotes more belong to it. -/
def isClosed (severalLines : Bool) (count : Nat) (next : Option Char) : Bool :=
  closing severalLines ≤ count &&
    (!severalLines || next != some '"' || count == 5)

/-- Read a string up to its closing quotes. `done` holds the characters read, last first. -/
def basicFrom (severalLines : Bool) (place : Place) (done : Text) (text : Text) :
    Option (Text × Text) :=
  let closed? : Option (Text × Text) := match place with
    | .quotes count =>
        if isClosed severalLines count text.head? then
          some ((List.replicate (count - closing severalLines) '"' ++ done).reverse, text)
        else none
    | _ => none
  match closed?, text with
  | some result, _ => some result
  | none, [] => none
  | none, c :: rest =>
      match next? severalLines place done c with
      | some (place, done) => basicFrom severalLines place done rest
      | none => none
termination_by text.length

def skipBreak : Text → Text
  | '\n' :: rest => rest
  | '\r' :: '\n' :: rest => rest
  | text => text

/-- Read a string of several lines between apostrophes. `count` apostrophes have just been read. -/
def literalLinesFrom (count : Nat) (done : Text) : Text → Option (Text × Text)
  | [] => if 3 ≤ count then some ((List.replicate (count - 3) '\x27' ++ done).reverse, []) else none
  | c :: rest =>
      if c = '\x27' ∧ count < 5 then literalLinesFrom (count + 1) done rest
      else if 3 ≤ count then
        some ((List.replicate (count - 3) '\x27' ++ done).reverse, c :: rest)
      else
        let done := List.replicate count '\x27' ++ done
        if isPlain c ∨ c = '\n' then literalLinesFrom 0 (c :: done) rest
        else if c = '\r' ∧ rest.head? = some '\n' then literalLinesFrom 0 (c :: done) rest
        else none

/-- Read a string of one line after its opening quote. -/
def line? (text : Text) : Option (Text × Text) :=
  basicFrom false .plain [] text

/-- Read a string of one line after its opening apostrophe. -/
def literalLine? (text : Text) : Option (Text × Text) :=
  let contents := text.takeWhile fun c => isPlain c && c != '\x27'
  match text.drop contents.length with
  | '\x27' :: rest => some (contents, rest)
  | _ => none

def read? : Text → Option (Text × Text)
  | '"' :: '"' :: '"' :: rest => basicFrom true .plain [] (skipBreak rest)
  | '"' :: rest => line? rest
  | '\x27' :: '\x27' :: '\x27' :: rest => literalLinesFrom 0 [] (skipBreak rest)
  | '\x27' :: rest => literalLine? rest
  | _ => none

end Rulebook.Toml.Quoted
