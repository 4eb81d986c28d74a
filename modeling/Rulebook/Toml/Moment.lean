import Rulebook.Text.Numeral

/-!
# TOML dates and times

A moment is a date, a time of day, or both, then possibly with an offset from universal time. It is
written with the letter `T` between date and time, and without seconds if it is given without them.
-/

namespace Rulebook.Toml.Moment

/-- The number that some digits stand for, if it lies in a range. -/
def number? (low high : Nat) (digits : Text) : Option Nat :=
  if Numeral.isNumeral digits && low ≤ Numeral.value digits && Numeral.value digits ≤ high then
    some (Numeral.value digits)
  else none

def daysIn (year month : Nat) : Nat :=
  if month = 2 then
    if year % 4 = 0 ∧ (year % 100 ≠ 0 ∨ year % 400 = 0) then 29 else 28
  else if month ∈ [4, 6, 9, 11] then 30
  else 31

/-- Whether a text is a date, such as `2024-02-29`. -/
def isDate (text : Text) : Bool :=
  match text with
  | [a, b, c, d, '-', e, f, '-', g, h] =>
      match number? 0 9999 [a, b, c, d], number? 1 12 [e, f] with
      | some year, some month => (number? 1 (daysIn year month) [g, h]).isSome
      | _, _ => false
  | _ => false

/-- Write a fraction of a second, to nine places and without more zeros at its end than it needs. -/
def fraction? : Text → Option Text
  | [] => some []
  | '.' :: digits =>
      if Numeral.isNumeral digits then
        match Text.dropEndWhile (· == '0') (digits.take 9) with
        | [] => some ['.', '0']
        | digits => some ('.' :: digits)
      else none
  | _ => none

/-- Write the seconds of a time of day, if there are any. -/
def seconds? : Text → Option Text
  | [] => some []
  | ':' :: a :: b :: rest => do
      let _ ← number? 0 60 [a, b]
      let fraction ← fraction? rest
      some (':' :: a :: b :: fraction)
  | _ => none

/-- Write a time of day, such as `23:59` or `23:59:00.5`. -/
def time? (text : Text) : Option Text :=
  match text with
  | a :: b :: ':' :: c :: d :: rest => do
      let _ ← number? 0 23 [a, b]
      let _ ← number? 0 59 [c, d]
      let seconds ← seconds? rest
      some ([a, b, ':', c, d] ++ seconds)
  | _ => none

/-- Write an offset, such as `+01:00`. None at all is written with a plus. -/
def offset? (text : Text) : Option Text :=
  match text with
  | [] => some []
  | ['Z'] | ['z'] => some ['Z']
  | [sign, a, b, ':', c, d] =>
      if sign = '+' ∨ sign = '-' then do
        let hours ← number? 0 23 [a, b]
        let minutes ← number? 0 59 [c, d]
        some ((if hours + minutes = 0 then '+' else sign) :: [a, b, ':', c, d])
      else none
  | _ => none

/-- Whether a character stands in a time of day. -/
def isTimeCharacter (c : Char) : Bool :=
  c.isDigit || c == ':' || c == '.'

def ofText? (text : Text) : Option Text :=
  let date := text.take 10
  if isDate date then
    match text.drop 10 with
    | [] => some date
    | mark :: rest =>
        if mark = 'T' ∨ mark = 't' ∨ mark = ' ' then do
          let time := rest.takeWhile isTimeCharacter
          let written ← time? time
          let offset ← offset? (rest.drop time.length)
          some (date ++ 'T' :: (written ++ offset))
        else none
  else time? text

end Rulebook.Toml.Moment
