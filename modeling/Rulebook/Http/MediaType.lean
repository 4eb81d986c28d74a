import Rulebook.Text.Basic

/-!
# Media types

A media type is a type and a subtype with a slash between them, possibly followed by parameters. A
plus sign within the subtype splits it into what it is and the format that it is written in.
-/

namespace Rulebook.Http.MediaType

/-- Whether a character may stand in a name. -/
def isToken (c : Char) : Bool :=
  c.isAlphanum ||
    c ∈ ['!', '#', '$', '%', '&', '\x27', '*', '+', '-', '.', '^', '_', '\x60', '|', '~']

/-- Whether a character may stand between quotes. -/
def isQuotable (c : Char) : Bool :=
  0x20 ≤ c.toNat && c.toNat ≤ 0x7E

/-- What was read last in the parameters of a media type. -/
inductive Place where
  /-- A semicolon, possibly with spaces after it. -/
  | separator
  | name
  | equals
  | value
  | openingQuote
  | quotedValue
  /-- A closing quote, possibly with spaces after it. -/
  | closingQuote
deriving DecidableEq

namespace Place

/-- Read a character of the parameters. -/
def next? : Place → Char → Option Place
  | .separator, c => if c = ' ' then some .separator else if isToken c then some .name else none
  | .name, c => if c = '=' then some .equals else if isToken c then some .name else none
  | .equals, c => if c = '"' then some .openingQuote else if isToken c then some .value else none
  | .value, c => if c = ';' then some .separator else if isToken c then some .value else none
  | .openingQuote, c => if isQuotable c then some .quotedValue else none
  | .quotedValue, c =>
      if c = '"' then some .closingQuote else if isQuotable c then some .quotedValue else none
  | .closingQuote, c =>
      if c = ';' then some .separator else if c = ' ' then some .closingQuote else none

/-- Whether the parameters may end here. -/
def mayEnd : Place → Bool
  | .separator | .equals | .value | .closingQuote => true
  | .name | .openingQuote | .quotedValue => false

end Place

/-- Whether a text is what may follow a subtype. -/
def areParameters : Text → Bool
  | [] => true
  | c :: rest => c == ';' && (rest.foldlM Place.next? .separator).any Place.mayEnd

/-- Cut a text at its last plus sign, unless that is its first character. -/
def cutAtPlus? (text : Text) : Option (Text × Text) :=
  let format := (text.reverse.takeWhile (· ≠ '+')).reverse
  let front := text.take (text.length - format.length)
  if 1 < front.length then some (front.dropLast, format) else none

/-- Whether a subtype is JSON or something written in JSON. -/
def isJsonSubtype (subtype : Text) : Bool :=
  let json := "json".toList
  match cutAtPlus? (Text.lower subtype) with
  | some (kind, format) => kind == json || format == json
  | none => Text.lower subtype == json

/-- Whether a content type announces JSON. -/
def isJson (contentType : Text) : Bool :=
  let type := contentType.takeWhile isToken
  match contentType.drop type.length with
  | '/' :: rest =>
      let subtype := rest.takeWhile isToken
      Text.lower type == "application".toList && isJsonSubtype subtype &&
        areParameters (rest.drop subtype.length)
  | _ => false

end Rulebook.Http.MediaType
