import Rulebook.Number.Extended

/-!
# Configuration values

A configuration is a table of values. Scalars turn into what a setting needs wherever that makes
sense; lists and tables do not turn into scalars, and no setting can have nothing for its value.
-/

namespace Rulebook.Config

/-- A value of a configuration. -/
inductive Value where
  | nothing
  | text (t : Text)
  | integer (n : Int)
  | float (x : Extended)
  | flag (b : Bool)
  | list (elements : List Value)
  | table (entries : List (Text × Value))

/-- The entries of a table, each key once. -/
abbrev Table := List (Text × Value)

namespace Table

def get? (key : Text) : Table → Option Value
  | [] => none
  | (other, value) :: rest => if key = other then some value else get? key rest

/-- The value of a key, which is nothing if the key is not there. -/
def value (key : Text) (table : Table) : Value :=
  (table.get? key).getD .nothing

def set (key : Text) (value : Value) : Table → Table
  | [] => [(key, value)]
  | (other, old) :: rest =>
      if key = other then (key, value) :: rest else (other, old) :: set key value rest

theorem get?_set (table : Table) (key other : Text) (value : Value) :
    get? other (table.set key value) = if other = key then some value else get? other table := by
  induction table with
  | nil => simp [set, get?]
  | cons entry rest induction =>
      obtain ⟨name, old⟩ := entry
      simp only [set]
      split
      · simp only [get?]
        grind
      · simp only [get?, induction]
        grind

end Table

namespace Value

/-- The entries of a table. Anything else has none. -/
def entries : Value → Table
  | .table entries => entries
  | _ => []

/-- The elements of a list. Anything else has none. -/
def elements : Value → List Value
  | .list elements => elements
  | _ => []

def asText? : Value → Option Text
  | .text t => some t
  | .integer n => some (Numeral.ofInt n)
  | .float x => some x.text
  | .flag true => some "true".toList
  | .flag false => some "false".toList
  | .nothing | .list _ | .table _ => none

def yesWords : List Text :=
  ["true".toList, "on".toList, "yes".toList]

def noWords : List Text :=
  ["false".toList, "off".toList, "no".toList]

/-- The greatest natural number that any scalar turns into. -/
def greatestNat : Nat :=
  Range.natural64 - 1

/-- The natural number that a scalar is, at most `greatest`. -/
def asNat? (greatest : Nat) (value : Value) : Option Nat :=
  let number := match value with
    | .text t =>
        if yesWords.contains (Text.lower t) then some 1
        else if noWords.contains (Text.lower t) then some 0
        else Numeral.nat? t
    | .integer n => if n < 0 then none else some n.toNat
    | .float x => some (x.clamp greatestNat)
    | .flag b => some (if b then 1 else 0)
    | .nothing | .list _ | .table _ => none
  number.filter (· ≤ greatest)

/-- The truth value that a scalar is. -/
def asFlag? : Value → Option Bool
  | .text t =>
      if t == ['1'] || yesWords.contains (Text.lower t) then some true
      else if t == ['0'] || noWords.contains (Text.lower t) then some false
      else none
  | .integer n => some (n != 0)
  | .float x => some !x.isZero
  | .flag b => some b
  | .nothing | .list _ | .table _ => none

end Value

end Rulebook.Config
