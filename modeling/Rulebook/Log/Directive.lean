import Rulebook.Log.Record
import Rulebook.Number.Extended
import Rulebook.Text.Alphanumeric
import Rulebook.Text.Literal

/-!
# Directives of filters

A directive lets records up to a level through. It may be for the targets that begin with its own.
It may also single out spans, by their name or by a field: those are let through whatever their
level, and so are all records up to the level of the directive that lie within them.
-/

namespace Rulebook.Log

/-- Up to which level records are let through. -/
inductive Threshold where
  | off
  | upTo (level : Level)
deriving DecidableEq

namespace Threshold

def name : Threshold → Text
  | .off => "off".toList
  | .upTo level => Text.lower level.name

/-- The place of a threshold: the greater, the more is let through. -/
def rank : Threshold → Nat
  | .off => 0
  | .upTo level => level.rank

/-- All thresholds, in the order of the numbers that they may be given by. -/
def all : List Threshold :=
  [off, upTo .error, upTo .warn, upTo .info, upTo .debug, upTo .trace]

/-- The threshold with a name or a number. The case of a name does not matter. -/
def ofText? (text : Text) : Option Threshold :=
  match Numeral.nat? text with
  | some n => all[n]?
  | none => all.find? (·.name == Text.lower text)

/-- The threshold that is written after a sign of equality. Nothing stands for the last one. -/
def ofRest? (text : Text) : Option Threshold :=
  if text.isEmpty then some (.upTo .trace) else ofText? text

/-- Whether a record of a level is let through. -/
def allows (threshold : Threshold) (level : Level) : Bool :=
  level.rank ≤ threshold.rank

/-- The threshold that lets through what either of two does. -/
def join (left right : Threshold) : Threshold :=
  if left.rank < right.rank then right else left

end Threshold

/-- The value that a field must have. A text must be the whole text of the field. -/
inductive FieldPattern where
  | flag (value : Bool)
  | integer (n : Int)
  | float (x : Extended)
  | text (t : Text)
deriving DecidableEq

namespace FieldPattern

/-- The pattern of a text, which is a text itself unless it is a truth value or a number. -/
def ofText (text : Text) : FieldPattern :=
  if text = "true".toList then .flag true
  else if text = "false".toList then .flag false
  else
    match (Numeral.int? text).filter Range.isInteger64, Extended.ofText? text with
    | some n, _ => .integer n
    | none, some x => .float x
    | none, none => .text text

def written : FieldPattern → Text
  | .flag true => "true".toList
  | .flag false => "false".toList
  | .integer n => Numeral.ofInt n
  | .float x => x.text
  | .text t => t

/-- Whether a field has the value that it must have. -/
def isMet (pattern : FieldPattern) (value : FieldValue) : Bool :=
  match pattern, value with
  | .flag b, .flag c => b == c
  | .integer m, .natural n => m == n
  | .text t, .plain other | .text t, .quoted other => t == other
  | .text t, .texts elements => t == Text.listInQuotes elements
  | _, _ => false

end FieldPattern

/-- Which spans a directive singles out. -/
structure Selection where
  /-- The name that the span must have. -/
  name : Option Text
  /-- The name of a field that the span must have, and possibly the value of the field. -/
  field : Option (Text × Option FieldPattern)
deriving DecidableEq

namespace Selection

def text (selection : Selection) : Text :=
  let field := match selection.field with
    | none => []
    | some (name, none) => '\x7b' :: (name ++ ['\x7d'])
    | some (name, some pattern) => '\x7b' :: (name ++ '=' :: (pattern.written ++ ['\x7d']))
  '[' :: (selection.name.getD [] ++ field ++ [']'])

/-- A field of a selection: its name, and possibly its value after a sign of equality. -/
def fieldOf (text : Text) : Text × Option FieldPattern :=
  match Text.splitOn '=' text with
  | name :: value :: _ => (name, some (.ofText value))
  | _ => (text, none)

/-- Read a selection after its opening bracket. -/
def read? (text : Text) : Option (Selection × Text) :=
  let name := text.takeWhile fun c => c ≠ ']' ∧ c ≠ '\x7b'
  match text.drop name.length with
  | ']' :: rest => some (⟨some name, none⟩, rest)
  | _ :: rest =>
      let field := rest.takeWhile (· ≠ '\x7d')
      match rest.drop field.length with
      | '\x7d' :: ']' :: rest =>
          if field.isEmpty then none
          else some (⟨if name.isEmpty then none else some name, some (fieldOf field)⟩, rest)
      | _ => none
  | [] => none

/-- Whether a span with some fields is singled out. -/
def covers (selection : Selection) (name : Text) (fields : List Field) : Bool :=
  selection.name.all (· == name) &&
    selection.field.all fun (name, _) => fields.any (·.name == name)

/-- Whether the field that a span must have has its value. -/
def isMet (selection : Selection) (fields : List Field) : Bool :=
  match selection.field with
  | some (name, some pattern) =>
      fields.any fun field => field.name == name && pattern.isMet field.value
  | _ => true

/-- Whether spans are singled out by the presence of a field alone. -/
def isPresence (selection : Selection) : Bool :=
  selection.name.isNone && selection.field.any (·.2.isNone)

end Selection

/-- A directive of a filter. -/
structure Directive where
  /-- The beginning of the targets that it is for; without one it is for all. -/
  target : Option Text
  /-- The spans that it singles out, if it does. -/
  selection : Option Selection
  threshold : Threshold
deriving DecidableEq

namespace Directive

def text (directive : Directive) : Text :=
  match directive.target.getD [] ++ (directive.selection.map Selection.text).getD [] with
  | [] => directive.threshold.name
  | place => place ++ '=' :: directive.threshold.name

/-- Whether a target may begin with a character. -/
def mayBegin (c : Char) : Bool :=
  Text.isAlphanumeric c || c == '-' || c == ':' || c == '_'

/-- Read what follows the opening bracket of a selection. Without a level, everything is let
through. -/
def ofSelection? (target : Option Text) (text : Text) : Option Directive :=
  match Selection.read? text with
  | some (selection, '=' :: rest) =>
      (Threshold.ofRest? rest).map fun threshold => ⟨target, some selection, threshold⟩
  | some (selection, rest) =>
      if rest.all Text.isBlank then some ⟨target, some selection, .upTo .trace⟩ else none
  | none => none

/-- Read a level, a target with a level, or a target alone, for which everything is let through;
a selection may follow the target. Blanks belong to the names beside them. -/
def ofTarget? (text : Text) : Option Directive :=
  let target := text.takeWhile fun c => c ≠ '=' ∧ c ≠ '['
  match text.drop target.length with
  | [] =>
      match Threshold.ofText? text with
      | some threshold => some ⟨none, none, threshold⟩
      | none => some ⟨some text, none, .upTo .trace⟩
  | mark :: rest =>
      if target.head?.any Text.isBlank then none
      else if mark = '[' then ofSelection? (some target) rest
      else (Threshold.ofRest? rest).map fun threshold => ⟨some target, none, threshold⟩

def ofText? : Text → Option Directive
  | '[' :: rest => ofSelection? none rest
  | text => if (text.dropWhile Text.isBlank).head?.any mayBegin then ofTarget? text else none

/-- Whether a directive is for a target. -/
def isFor (directive : Directive) (target : Text) : Bool :=
  directive.target.all (·.isPrefixOf target)

/-- Whether a directive takes part in the choice of the level for a target. -/
def isGeneral (directive : Directive) : Bool :=
  directive.selection.all Selection.isPresence

/-- The name of the field that a directive singles out spans by. -/
def fieldName? (directive : Directive) : Option Text :=
  directive.selection.bind fun selection => selection.field.map Prod.fst

/-- Whether a directive is more specific than another one that is for the same target. -/
def isMoreSpecific (directive other : Directive) : Bool :=
  let length := (directive.target.map List.length).getD 0
  let otherLength := (other.target.map List.length).getD 0
  otherLength < length || (otherLength == length &&
    match directive.fieldName?, other.fieldName? with
    | some name, some otherName => decide (otherName < name)
    | some _, none => true
    | none, _ => false)

end Directive

end Rulebook.Log
