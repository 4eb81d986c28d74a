import Rulebook.Config.Value
import Rulebook.Toml.Moment

/-!
# TOML scalars

A scalar that is not a string is a truth value, an integer of 64 bits, a number or a moment. Digits
may be grouped by single underscores. A moment counts as its text.
-/

namespace Rulebook.Toml.Scalar

open Config

/-- Take the underscores out of digits. Each must stand between two of them. -/
def ungroup? (isDigit : Char → Bool) (text : Text) : Option Text :=
  let groups := Text.splitOn '_' text
  if groups.all fun group => !group.isEmpty && group.all isDigit then some groups.flatten else none

/-- The digits of a decimal number before its point. A zero must stand alone. -/
def wholeDigits? (text : Text) : Option Text :=
  match ungroup? Char.isDigit text with
  | some ('0' :: _ :: _) => none
  | digits? => digits?

def valueIn (base : Nat) (digits : Text) : Nat :=
  digits.foldl (fun value digit => base * value + (Numeral.hexDigit? digit).getD 0) 0

/-- The natural number after a mark for its base. -/
def basedNat? : Text → Option Nat
  | '0' :: 'x' :: rest =>
      (ungroup? (fun c => (Numeral.hexDigit? c).isSome) rest).map (valueIn 16)
  | '0' :: 'o' :: rest => (ungroup? (fun c => '0' ≤ c && c ≤ '7') rest).map (valueIn 8)
  | '0' :: 'b' :: rest => (ungroup? (fun c => c == '0' || c == '1') rest).map (valueIn 2)
  | _ => none

def integer? (text : Text) : Option Int :=
  let number? : Option Int := match basedNat? text with
    | some n => some n
    | none =>
        let (negative, digits) := Extended.splitSign text
        (wholeDigits? digits).map fun digits =>
          if negative then -(Numeral.value digits : Int) else Numeral.value digits
  number?.filter Range.isSigned64

/-- The digits after the point of a number, if there is one, without underscores. -/
def fraction? : Text → Option Text
  | [] => some []
  | '.' :: digits => ungroup? Char.isDigit digits
  | _ => none

/-- The exponent of a number, if there is one. -/
def exponent? : Text → Option Int
  | [] => some 0
  | _ :: rest =>
      let (negative, digits) := Extended.splitSign rest
      (ungroup? Char.isDigit digits).map fun digits =>
        if negative then -(Numeral.value digits : Int) else Numeral.value digits

/-- A number with a point or an exponent, without its sign. -/
def magnitude? (negative : Bool) (text : Text) : Option Extended :=
  let mantissa := text.takeWhile fun c => c ≠ 'e' ∧ c ≠ 'E'
  let wholeText := mantissa.takeWhile (· ≠ '.')
  if wholeText.length = text.length then none
  else do
    let whole ← wholeDigits? wholeText
    let fraction ← fraction? (mantissa.drop wholeText.length)
    let exponent ← exponent? (text.drop mantissa.length)
    some (.ofDecimal negative (Numeral.value (whole ++ fraction)) (exponent - fraction.length))

/-- A finite number with a point or an exponent, an infinity, or `nan`. -/
def float? (text : Text) : Option Extended :=
  let (negative, rest) := Extended.splitSign text
  if rest = "inf".toList then some (.infinite negative)
  else if rest = "nan".toList then some .nan
  else
    (magnitude? negative rest).filter fun x =>
      match x with
      | .finite _ => true
      | _ => false

def ofText? (text : Text) : Option Value :=
  if text = "true".toList then some (.flag true)
  else if text = "false".toList then some (.flag false)
  else
    match Moment.ofText? text, integer? text, float? text with
    | some moment, _, _ => some (.text moment)
    | none, some n, _ => some (.integer n)
    | none, none, some x => some (.float x)
    | none, none, none => none

/-- Whether a character may stand in a scalar. -/
def isCharacter (c : Char) : Bool :=
  c.isAlphanum || c ∈ ['_', '+', '-', '.', ':']

/-- The scalar at the front of a text. A space may stand between a date and a time. -/
def front? (text : Text) : Option (Value × Text) :=
  let run := text.takeWhile isCharacter
  let rest := text.drop run.length
  let (scalar, rest) := match Moment.isDate run, rest with
    | true, ' ' :: digit :: after =>
        if digit.isDigit then
          let time := (digit :: after).takeWhile isCharacter
          (run ++ ' ' :: time, (digit :: after).drop time.length)
        else (run, rest)
    | _, rest => (run, rest)
  (ofText? scalar).map fun value => (value, rest)

end Rulebook.Toml.Scalar
