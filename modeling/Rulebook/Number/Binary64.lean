import Rulebook.Number.Power

/-!
# Finite binary64 numbers

Every finite binary64 number is a whole number of units of `2 ^ -1074`. The counts that occur are
those with at most 53 significant bits below `2 ^ 2098`; a ratio is rounded to the nearest of them,
a tie going to the even neighbour.
-/

namespace Rulebook

namespace Binary64

def one : Nat :=
  twoTo 1074

/-- The number of bits of the largest finite count of units. -/
def width : Nat :=
  2098

/-- All finite binary64 numbers lie below this count of units. -/
def bound : Nat :=
  twoTo width

theorem bound_pos : 0 < bound :=
  twoTo_pos width

/-- The distance between neighbouring binary64 numbers at a count of units. -/
def spacing (units : Nat) : Nat :=
  twoTo (units.log2 - 52)

/-- A count of units that is the magnitude of a finite binary64 number. -/
def OnGrid (units : Nat) : Prop :=
  spacing units ∣ units ∧ units < bound

/-- Divide to the nearest integer, a tie going to the even one. -/
def nearest (num den : Nat) : Nat :=
  let whole := num / den
  let twice := 2 * (num % den)
  if twice < den then whole
  else if den < twice then whole + 1
  else if whole % 2 = 0 then whole
  else whole + 1

/-- The count of units on the binary64 grid that is nearest to a ratio of units. -/
def roundUnits (num den : Nat) : Nat :=
  let step := spacing (num / den)
  nearest num (den * step) * step

theorem nearest_le (num den : Nat) : nearest num den ≤ num / den + 1 := by
  unfold nearest
  dsimp only
  split <;> (try split) <;> (try split) <;> omega

theorem spacing_mul_dvd {count shift : Nat} (count_le : count ≤ twoTo 53) :
    spacing (count * twoTo shift) ∣ count * twoTo shift := by
  unfold spacing
  rcases Nat.eq_zero_or_pos count with rfl | count_pos
  · simp
  rcases Nat.lt_or_eq_of_le count_le with count_lt | rfl
  · have product_ne : count * twoTo shift ≠ 0 :=
      Nat.mul_ne_zero (by omega) (Nat.ne_of_gt (twoTo_pos shift))
    have product_lt : count * twoTo shift < twoTo (53 + shift) := by
      rw [twoTo_add]
      exact Nat.mul_lt_mul_of_pos_right count_lt (twoTo_pos shift)
    have log_lt : (count * twoTo shift).log2 < 53 + shift := (log2_lt_iff product_ne).2 product_lt
    exact Nat.dvd_trans (twoTo_dvd (by omega)) (Nat.dvd_mul_left _ _)
  · rw [← twoTo_add, log2_twoTo]
    exact twoTo_dvd (by omega)

/-- The nearest multiple of the spacing has a significand of 53 bits, or one more by a carry. -/
theorem nearest_spacing_le (num den : Nat) :
    nearest num (den * spacing (num / den)) ≤ twoTo 53 := by
  have whole_lt : num / den < twoTo ((num / den).log2 - 52 + 53) :=
    Nat.lt_of_lt_of_le (lt_twoTo_log2 _) (twoTo_le (by omega))
  have quotient_lt : num / (den * spacing (num / den)) < twoTo 53 := by
    rw [← Nat.div_div_eq_div_mul]
    apply Nat.div_lt_of_lt_mul
    rw [spacing, ← twoTo_add]
    exact whole_lt
  have := nearest_le num (den * spacing (num / den))
  omega

theorem spacing_roundUnits_dvd (num den : Nat) :
    spacing (roundUnits num den) ∣ roundUnits num den :=
  spacing_mul_dvd (nearest_spacing_le num den)

end Binary64

/-- The magnitude of a finite binary64 number. -/
structure Magnitude where
  /-- How many units of `2 ^ -1074` it is. -/
  units : Nat
  /-- The count is on the binary64 grid. -/
  onGrid : Binary64.OnGrid units
deriving DecidableEq

namespace Magnitude

open Binary64

def zero : Magnitude :=
  ⟨0, Nat.dvd_zero _, bound_pos⟩

/-- The magnitude nearest to a ratio of units, unless it is too large for a finite number. -/
def ofUnits? (num den : Nat) : Option Magnitude :=
  if small : roundUnits num den < bound then
    some ⟨roundUnits num den, spacing_roundUnits_dvd num den, small⟩
  else none

/-- The magnitude nearest to a natural number. -/
def ofNat? (n : Nat) : Option Magnitude :=
  ofUnits? (n * one) 1

def mul? (left right : Magnitude) : Option Magnitude :=
  ofUnits? (left.units * right.units) one

def div? (left right : Magnitude) : Option Magnitude :=
  ofUnits? (left.units * one) right.units

/-- The magnitude nearest to `digits * 10 ^ exponent`. Outside the given range of leading places the
result is known to be too large or to round to zero, so that no huge power is formed. -/
def ofDecimal? (digits : Nat) (exponent : Int) : Option Magnitude :=
  let places := (Nat.toDigits 10 digits).length + exponent
  if digits = 0 ∨ places ≤ -324 then some zero
  else if 309 < places then none
  else if exponent < 0 then ofUnits? (digits * one) (tenTo exponent.natAbs)
  else ofUnits? (digits * tenTo exponent.natAbs * one) 1

end Magnitude

/-- A finite binary64 number. Zero has two signs. -/
structure Binary64 where
  /-- Whether the sign is minus. -/
  negative : Bool
  /-- The magnitude. -/
  magnitude : Magnitude
deriving DecidableEq

namespace Binary64

/-- The signed count of units. Both zeros count nothing. -/
def units (number : Binary64) : Int :=
  if number.negative then -(number.magnitude.units : Int) else number.magnitude.units

end Binary64

end Rulebook
