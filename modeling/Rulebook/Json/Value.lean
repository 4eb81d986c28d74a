import Rulebook.Number.Binary64
import Rulebook.Text.Basic

/-!
# JSON values

Numbers are exact integers within `-2 ^ 63 … 2 ^ 64 - 1` and finite binary64 numbers otherwise.
Objects hold their members in increasing order of keys, each key once.
-/

namespace Rulebook.Json

/-- A JSON number. -/
inductive Number where
  | integer (n : Int)
  | float (x : Binary64)
deriving DecidableEq

/-- A JSON value. -/
inductive Value where
  | null
  | boolean (b : Bool)
  | number (n : Number)
  | text (t : Text)
  | array (elements : List Value)
  | object (members : List (Text × Value))

/-- The members of an object, in increasing order of keys. -/
abbrev Members := List (Text × Value)

namespace Members

def insert (key : Text) (value : Value) : Members → Members
  | [] => [(key, value)]
  | (other, old) :: rest =>
      if key = other then (key, value) :: rest
      else if key < other then (key, value) :: (other, old) :: rest
      else (other, old) :: insert key value rest

def get? (key : Text) : Members → Option Value
  | [] => none
  | (other, value) :: rest => if key = other then some value else get? key rest

/-- The members given in any order; of several with one key the last one counts. -/
def ofList (members : List (Text × Value)) : Members :=
  members.foldl (fun done member => insert member.1 member.2 done) []

end Members

namespace Value

/-- The object with the given members. -/
def ofMembers (members : List (String × Value)) : Value :=
  .object (Members.ofList (members.map fun (key, value) => (key.toList, value)))

/-- The string value of a literal text. -/
def ofString (text : String) : Value :=
  .text text.toList

/-- The number value of a natural number. -/
def ofNat (n : Nat) : Value :=
  .number (.integer n)

def ofTexts (texts : List Text) : Value :=
  .array (texts.map .text)

/-- The value of a key, if the value is an object that has it. -/
def member? (key : String) : Value → Option Value
  | .object members => Members.get? key.toList members
  | _ => none

def isNull : Value → Bool
  | .null => true
  | _ => false

end Value

end Rulebook.Json
