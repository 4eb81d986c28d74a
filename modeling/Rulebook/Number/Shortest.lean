import Rulebook.Number.Binary64
import Rulebook.Text.Numeral

/-!
# Shortest decimal texts of binary64 numbers

A number is written with the fewest significant digits that read back as the same number; of several
such digit runs, the nearest to the number is taken. Digits and exponent are found here; where the
point stands is up to the format that writes them.
-/

namespace Rulebook

/-- The decimal number `d₁.d₂…dₙ * 10 ^ exponent`, without trailing zeros among its digits. -/
structure Scientific where
  digits : Text
  exponent : Int
deriving DecidableEq

namespace Scientific

/-- Drop the zeros at the end of a run of digits. -/
def dropZeros (digits : Text) : Text :=
  (digits.reverse.dropWhile (· == '0')).reverse

/-- The scientific form of `count * 10 ^ place`. -/
def ofPlace (count : Nat) (place : Int) : Scientific :=
  let digits := Numeral.ofNat count
  ⟨dropZeros digits, digits.length - 1 + place⟩

/-- The digits before and after the point in positional notation. -/
def positional (number : Scientific) : Text × Text :=
  if number.exponent < 0 then
    (['0'], List.replicate (number.exponent.natAbs - 1) '0' ++ number.digits)
  else
    let size := number.exponent.natAbs + 1
    let whole := number.digits.take size
    (whole ++ List.replicate (size - whole.length) '0', number.digits.drop size)

end Scientific

namespace Magnitude

open Binary64

/-- A positive magnitude and the numbers that round to it, all counted in quarter units. -/
structure Neighbourhood where
  lowest : Nat
  centre : Nat
  highest : Nat
  /-- Whether the two ends round to the centre as well. -/
  closed : Bool

/-- The neighbourhood of a positive magnitude. Below a power of two the grid is twice as fine. -/
def neighbourhood (magnitude : Magnitude) : Neighbourhood :=
  let units := magnitude.units
  let step := spacing units
  let below := if units = twoTo units.log2 ∧ 1 < step then step else 2 * step
  ⟨4 * units - below, 4 * units, 4 * units + 2 * step, units / step % 2 = 0⟩

/-- The number of quarter units in one. -/
def quarters : Nat :=
  4 * one

/-- The ratio of two counts of quarter units after scaling by `10 ^ place`: numerator side and
denominator side. -/
def scaled (count : Nat) (place : Int) : Nat × Nat :=
  if place < 0 then (count * tenTo place.natAbs, quarters)
  else (count, quarters * tenTo place.natAbs)

/-- The decimal exponent of a positive count of quarter units: the greatest `e` with `10 ^ e` at
most that number. The logarithm gives it up to one place. -/
def decimalExponent (count : Nat) : Int :=
  let guess : Int := ((count.log2 : Int) - 1076) * 30103 / 100000
  let reaches (place : Int) : Bool :=
    let (num, den) := scaled count place
    den ≤ num
  if !reaches guess then guess - 1
  else if reaches (guess + 1) then guess + 1
  else guess

/-- Whether `count * 10 ^ place` lies in a neighbourhood. -/
def Neighbourhood.contains (near : Neighbourhood) (count : Nat) (place : Int) : Bool :=
  let (low, den) := scaled near.lowest place
  let (high, _) := scaled near.highest place
  let point := count * den
  if near.closed then low ≤ point && point ≤ high else low < point && point < high

/-- The count of `10 ^ place` in a neighbourhood that is nearest to its centre, if there is one; of
two equally near the even one. -/
def Neighbourhood.nearest? (near : Neighbourhood) (place : Int) : Option Nat :=
  let (centre, den) := scaled near.centre place
  let count := centre / den
  let down := near.contains count place
  let up := near.contains (count + 1) place
  if down && up then some (Binary64.nearest centre den)
  else if down then some count
  else if up then some (count + 1)
  else none

/-- Search the places from a leading one downwards. -/
def Neighbourhood.search (near : Neighbourhood) (leading : Int) : (digits : Nat) → Scientific
  | 0 => ⟨['0'], 0⟩
  | left + 1 =>
      match near.nearest? leading with
      | some count => Scientific.ofPlace count leading
      | none => near.search (leading - 1) left

/-- The fewest digits that read back as a magnitude. Seventeen always suffice. -/
def shortest (magnitude : Magnitude) : Scientific :=
  if magnitude.units = 0 then ⟨['0'], 0⟩
  else
    let near := magnitude.neighbourhood
    near.search (decimalExponent near.centre) 17

end Magnitude

end Rulebook
