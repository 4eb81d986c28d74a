import Rulebook.Text.Basic

/-!
# Decimal numerals

Whole numbers are written in ASCII digits without leading zeros; any number of leading zeros may be
read.
-/

namespace Rulebook.Numeral

/-- Whether a text is a nonempty run of ASCII digits. -/
def isNumeral (text : Text) : Bool :=
  !text.isEmpty && text.all Char.isDigit

/-- The number that a run of decimal digits stands for. -/
def value (digits : Text) : Nat :=
  Nat.ofDigitChars 10 digits 0

/-- Write a natural number in decimal. -/
def ofNat (n : Nat) : Text :=
  Nat.toDigits 10 n

theorem value_ofNat (n : Nat) : value (ofNat n) = n :=
  Nat.ofDigitChars_ten_toDigits

theorem isDigit_of_mem_ofNat {n : Nat} {c : Char} (member : c ∈ ofNat n) : c.isDigit = true :=
  Nat.isDigit_of_mem_toDigits (by decide) (by decide) member

theorem isNumeral_ofNat (n : Nat) : isNumeral (ofNat n) = true := by
  have some_digit : (ofNat n).isEmpty = false := List.isEmpty_eq_false_iff.mpr Nat.toDigits_ne_nil
  rw [isNumeral, some_digit, List.all_eq_true.mpr fun _ => isDigit_of_mem_ofNat]
  rfl

/-- Write an integer in decimal, with a minus sign if it is negative. -/
def ofInt : Int → Text
  | .ofNat n => ofNat n
  | .negSucc n => '-' :: ofNat (n + 1)

/-- Read a natural number, with at most a plus sign before its digits. -/
def nat? (text : Text) : Option Nat :=
  let digits := match text with
    | '+' :: rest => rest
    | _ => text
  if isNumeral digits then some (value digits) else none

/-- Read an integer, with at most one sign before its digits. -/
def int? (text : Text) : Option Int :=
  match text with
  | '-' :: rest => if isNumeral rest then some (-(value rest : Int)) else none
  | _ => (nat? text).map Int.ofNat

/-- The value of a hexadecimal digit. -/
def hexDigit? (c : Char) : Option Nat :=
  if c.isDigit then some (c.toNat - 48)
  else if 'a' ≤ c && c ≤ 'f' then some (c.toNat - 87)
  else if 'A' ≤ c && c ≤ 'F' then some (c.toNat - 55)
  else none

end Rulebook.Numeral
