import Rulebook.Json.Number
import Rulebook.Proofs.Rounding

/-!
# Integers that are read from JSON

An integer that fits 64 bits is read exactly.  Of a longer one the leading digits are rounded and
scaled by a rounded power of ten; so the float that it becomes need not be the nearest one, but it
has the same sign and lies beyond all integers of 63 bits.  Close below the limit of finite numbers
the two roundings may pass the limit, and then the text is refused.
-/

namespace Rulebook

namespace Binary64

variable {num : Nat}

theorem one_pos : 0 < one :=
  twoTo_pos 1074

theorem roundUnits_error (large : twoTo 52 ≤ num) :
    twoTo 53 * roundUnits num 1 ≤ (twoTo 53 + 1) * num := by
  have num_ne : num ≠ 0 := fun none => absurd large (by rw [none]; decide)
  have enough_bits : 52 ≤ num.log2 := (Nat.le_log2 num_ne).mpr large
  have spacing_le : twoTo 52 * spacing num ≤ num := by
    rw [spacing, ← twoTo_add, Nat.add_sub_cancel' enough_bits]
    exact Nat.log2_self_le num_ne
  have double : twoTo 53 = twoTo 52 * 2 := rfl
  have near : 2 * roundUnits num 1 ≤ 2 * num + spacing num := by
    have below := floor_le num
    have cases := roundUnits_cases num 1
    rw [Nat.div_one, Nat.mul_one, Nat.mul_one] at cases
    omega
  calc
    twoTo 53 * roundUnits num 1 = twoTo 52 * (2 * roundUnits num 1) := by
      rw [double, Nat.mul_assoc]
    _ ≤ twoTo 52 * (2 * num + spacing num) := Nat.mul_le_mul_left _ near
    _ = twoTo 53 * num + twoTo 52 * spacing num := by rw [Nat.mul_add, double, Nat.mul_assoc]
    _ ≤ (twoTo 53 + 1) * num := by rw [Nat.succ_mul]; exact Nat.add_le_add_left spacing_le _

end Binary64

namespace Magnitude

open Binary64

theorem units_of_ofUnits? {num den : Nat} {magnitude : Magnitude}
    (found : ofUnits? num den = some magnitude) : magnitude.units = roundUnits num den := by
  unfold ofUnits? at found
  split at found
  · cases found
    rfl
  · cases found

def greatest : Nat :=
  (twoTo 53 - 1) * twoTo 2045

theorem exists_ofUnits? {num den : Nat} (den_pos : 0 < den) (le : num ≤ greatest * den) :
    ∃ magnitude, ofUnits? num den = some magnitude := by
  have onGrid : spacing greatest ∣ greatest := spacing_mul_dvd (by decide)
  have small : greatest < bound := by decide +kernel
  exact ⟨_, dif_pos (Nat.lt_of_le_of_lt (roundUnits_le den_pos onGrid le) small)⟩

theorem exists_ofNat? {n : Nat} (le : n * one ≤ greatest) :
    ∃ magnitude, ofNat? n = some magnitude :=
  exists_ofUnits? Nat.one_pos (by rwa [Nat.mul_one])

/-- Where a number of 53 bits is at most a natural number, it is at most what that is rounded to. -/
theorem mul_twoTo_le_of_ofNat? {count shift n : Nat} {magnitude : Magnitude}
    (count_le : count ≤ twoTo 53) (le : count * twoTo shift ≤ n)
    (found : ofNat? n = some magnitude) : count * twoTo (shift + 1074) ≤ magnitude.units := by
  rw [units_of_ofUnits? found]
  apply le_roundUnits Nat.one_pos (spacing_mul_dvd count_le)
  rw [Nat.mul_one, twoTo_add, ← Nat.mul_assoc]
  exact Nat.mul_le_mul_right _ le

theorem units_pos_of_ofNat? {n : Nat} {magnitude : Magnitude} (n_pos : 0 < n)
    (found : ofNat? n = some magnitude) : 0 < magnitude.units := by
  have le : 1 * twoTo 0 ≤ n := n_pos
  exact Nat.lt_of_lt_of_le (by decide +kernel) (mul_twoTo_le_of_ofNat? (by decide) le found)

end Magnitude

namespace Json

namespace WrittenNumber

open Binary64

/-- Whether a number is spelled as an integer, without a fraction and an exponent. -/
def IsWhole (written : WrittenNumber) : Prop :=
  written.fraction = none ∧ written.exponent = none

/-- The integer that a number is spelled as. -/
def integer (written : WrittenNumber) : Int :=
  if written.negative then -(Numeral.value written.whole : Int) else Numeral.value written.whole

variable {significand : Nat} {digits left : Text}

theorem absorb_value (significand : Nat) (digits : Text) :
    Nat.ofDigitChars 10 (absorb significand digits).2 (absorb significand digits).1 =
      Nat.ofDigitChars 10 digits significand := by
  induction digits generalizing significand with
  | nil => rfl
  | cons digit rest induction =>
      rw [absorb]
      split
      · rw [induction, Nat.ofDigitChars_cons]
        rfl
      · rfl

/-- Digits are left over once the significand would become too large. -/
theorem lt_of_absorb {digit : Char} {rest : Text} (all_digits : ∀ c ∈ digits, c.isDigit = true)
    (left_over : (absorb significand digits).2 = digit :: rest) :
    largestSignificand < 10 * (absorb significand digits).1 + 10 := by
  induction digits generalizing significand with
  | nil => cases left_over
  | cons first others induction =>
      rw [List.forall_mem_cons] at all_digits
      rw [absorb] at left_over ⊢
      split at left_over
      · next fits =>
        rw [if_pos fits]
        exact induction all_digits.2 left_over
      · next too_large =>
        rw [if_neg too_large]
        have bounds : 48 ≤ first.toNat ∧ first.toNat ≤ 57 := Char.isDigit_iff_toNat.mp all_digits.1
        dsimp only
        omega

/-- An integer of more than 64 bits is scaled up by the number of the digits that are left over. -/
theorem number?_of_left {negative : Bool} (cut : absorb 0 digits = (significand, left))
    (some_left : left ≠ []) :
    number? ⟨negative, digits, none, none⟩ =
      (Magnitude.ofNat? significand >>= (scaleUp? · left.length)).map fun magnitude =>
        .float ⟨negative, magnitude⟩ := by
  cases left with
  | nil => exact absurd rfl some_left
  | cons digit rest =>
      rw [number?, cut]
      rfl

section Scaling

variable {places : Nat} {magnitude : Magnitude}

theorem scaled_eq_some (significand_pos : 0 < significand)
    (scaled : (Magnitude.ofNat? significand >>= (scaleUp? · places)) = some magnitude) :
    ∃ base power, Magnitude.ofNat? significand = some base ∧
      Magnitude.ofNat? (tenTo places) = some power ∧ base.mul? power = some magnitude := by
  obtain ⟨base, base_found, scaled⟩ := Option.bind_eq_some_iff.mp scaled
  have base_pos := Magnitude.units_pos_of_ofNat? significand_pos base_found
  unfold scaleUp? at scaled
  split at scaled
  · obtain ⟨power, power_found, product⟩ := Option.bind_eq_some_iff.mp scaled
    exact ⟨base, power, base_found, power_found, product⟩
  · rw [if_neg (Nat.ne_of_gt base_pos)] at scaled
    cases scaled

/-- A significand that cannot take another digit, scaled up, lies beyond all integers of 63 bits. -/
theorem lt_units_of_scaled (large : twoTo 60 ≤ significand) (places_pos : 0 < places)
    (scaled : (Magnitude.ofNat? significand >>= (scaleUp? · places)) = some magnitude) :
    Range.signed64 * one < magnitude.units := by
  obtain ⟨base, power, base_found, power_found, product⟩ :=
    scaled_eq_some (Nat.lt_of_lt_of_le (twoTo_pos 60) large) scaled
  have base_le : 1 * twoTo (60 + 1074) ≤ base.units :=
    Magnitude.mul_twoTo_le_of_ofNat? (by decide) (by rwa [Nat.one_mul]) base_found
  have ten_le : tenTo 1 ≤ tenTo places := tenTo_le places_pos
  have power_le : 10 * twoTo (0 + 1074) ≤ power.units :=
    Magnitude.mul_twoTo_le_of_ofNat? (by decide) ten_le power_found
  have product_le : 10 * twoTo 1134 ≤ magnitude.units := by
    rw [Magnitude.units_of_ofUnits? product]
    apply le_roundUnits Binary64.one_pos (spacing_mul_dvd (by decide))
    calc
      10 * twoTo 1134 * one = 1 * twoTo (60 + 1074) * (10 * twoTo (0 + 1074)) := by
        decide +kernel
      _ ≤ base.units * power.units := Nat.mul_le_mul base_le power_le
  exact Nat.lt_of_lt_of_le (by decide +kernel) product_le

/-- What is far enough below the limit of finite numbers can be scaled. -/
theorem exists_scaled (significand_pos : 0 < significand)
    (le : significand * tenTo places ≤ twoTo 1024 - twoTo 973) :
    ∃ magnitude, (Magnitude.ofNat? significand >>= (scaleUp? · places)) = some magnitude := by
  have finite {n : Nat} (n_le : n ≤ twoTo 1024 - twoTo 973) : n * one ≤ Magnitude.greatest :=
    Nat.le_trans (Nat.mul_le_mul_right one n_le) (by decide +kernel)
  have power_pos : 0 < tenTo places := Nat.pow_pos (by decide)
  have significand_le := Nat.le_trans (Nat.le_mul_of_pos_right significand power_pos) le
  have power_le := Nat.le_trans (Nat.le_mul_of_pos_left (tenTo places) significand_pos) le
  have few_places : places ≤ 308 := by
    by_contra many
    have power_ge := tenTo_le (Nat.lt_of_not_le many)
    exact absurd (Nat.le_trans power_ge power_le) (by decide +kernel)
  obtain ⟨base, base_found⟩ := Magnitude.exists_ofNat? (finite significand_le)
  obtain ⟨power, power_found⟩ := Magnitude.exists_ofNat? (finite power_le)
  have large {n : Nat} (n_pos : 0 < n) : twoTo 52 ≤ n * one :=
    Nat.le_trans (by decide +kernel) (Nat.le_mul_of_pos_left one n_pos)
  have base_error := roundUnits_error (large significand_pos)
  have power_error := roundUnits_error (large power_pos)
  rw [← Magnitude.units_of_ofUnits? base_found] at base_error
  rw [← Magnitude.units_of_ofUnits? power_found] at power_error
  have product_error := Nat.mul_le_mul base_error power_error
  rw [Nat.mul_mul_mul_comm, Nat.mul_mul_mul_comm (twoTo 53 + 1), Nat.mul_mul_mul_comm significand]
    at product_error
  have product_le : base.units * power.units ≤ Magnitude.greatest * one := by
    apply Nat.le_of_mul_le_mul_left _ (Nat.mul_pos (twoTo_pos 53) (twoTo_pos 53))
    calc
      _ ≤ (twoTo 53 + 1) * (twoTo 53 + 1) * (significand * tenTo places * (one * one)) :=
        product_error
      _ ≤ (twoTo 53 + 1) * (twoTo 53 + 1) * ((twoTo 1024 - twoTo 973) * (one * one)) :=
        Nat.mul_le_mul_left _ (Nat.mul_le_mul_right _ le)
      _ ≤ twoTo 53 * twoTo 53 * (Magnitude.greatest * one) := by decide +kernel
  obtain ⟨magnitude, product⟩ := Magnitude.exists_ofUnits? Binary64.one_pos product_le
  refine ⟨magnitude, Option.bind_eq_some_iff.mpr ⟨base, base_found, ?_⟩⟩
  rw [scaleUp?, if_pos few_places]
  exact Option.bind_eq_some_iff.mpr ⟨power, power_found, product⟩

end Scaling

/-- Digits that follow a significand scale it up at least as zeros would. -/
theorem mul_tenTo_le_ofDigitChars (significand : Nat) (digits : Text) :
    significand * tenTo digits.length ≤ Nat.ofDigitChars 10 digits significand := by
  have scaled : Nat.ofDigitChars 10 digits significand =
      tenTo digits.length * significand + Nat.ofDigitChars 10 digits 0 :=
    Nat.ofDigitChars_eq_ofDigitChars_zero
  rw [scaled, Nat.mul_comm]
  exact Nat.le_add_right _ _

/-- The digits of an integer are a significand of 64 bits, or one that cannot take another digit and
some digits that are left over. -/
theorem absorb_cases (all_digits : ∀ c ∈ digits, c.isDigit = true) :
    absorb 0 digits = (Numeral.value digits, []) ∨
      ∃ significand left, absorb 0 digits = (significand, left) ∧ left ≠ [] ∧
        twoTo 60 ≤ significand ∧ significand * tenTo left.length ≤ Numeral.value digits := by
  have value := absorb_value 0 digits
  rcases cut : absorb 0 digits with ⟨significand, left⟩
  rw [cut] at value
  cases left with
  | nil => exact .inl (congrArg (·, []) value)
  | cons digit rest =>
      refine .inr ⟨significand, digit :: rest, rfl, List.cons_ne_nil _ _, ?_, ?_⟩
      · have full := lt_of_absorb all_digits (congrArg Prod.snd cut)
        rw [cut] at full
        have : largestSignificand = 18446744073709551615 := rfl
        have : twoTo 60 = 1152921504606846976 := rfl
        dsimp only at full
        omega
      · exact (mul_tenTo_le_ofDigitChars significand _).trans_eq value

/-- Whether a number stands among the integers of 63 bits where an integer does: it is the integer,
or a float that is zero, below zero or beyond them all as the integer is. -/
def StandsFor (integer : Int) : Number → Prop
  | .integer n => n = integer
  | .float x =>
      x.units = 0 ∧ integer = 0 ∨ x.units < 0 ∧ integer < 0 ∨
        (Range.signed64 * one : Nat) < x.units ∧ Range.signed64 ≤ integer

variable {negative : Bool} {number : Number} {written : WrittenNumber}

theorem standsFor_of_fits (fits : absorb 0 digits = (Numeral.value digits, []))
    (read : number? ⟨negative, digits, none, none⟩ = some number) :
    StandsFor (integer ⟨negative, digits, none, none⟩) number := by
  rw [number?, fits] at read
  dsimp only at read
  split at read
  · next positive =>
    cases read
    cases negative with
    | false => rfl
    | true => cases positive
  · next negated =>
    obtain rfl : negative = true := by simpa using negated
    split at read
    · cases read
      rfl
    · obtain ⟨magnitude, rounded, rfl⟩ := Option.map_eq_some_iff.mp read
      rcases Nat.eq_zero_or_pos (Numeral.value digits) with none | some_value
      · have units_eq : magnitude.units = 0 := by
          rw [Magnitude.units_of_ofUnits? rounded, none, Nat.zero_mul]
          rfl
        exact .inl ⟨by rw [units, units_eq]; rfl, by rw [integer, none]; rfl⟩
      · have units_pos := Magnitude.units_pos_of_ofNat? some_value rounded
        exact .inr (.inl ⟨Int.neg_neg_of_pos (Int.ofNat_lt.mpr units_pos),
          Int.neg_neg_of_pos (Int.ofNat_lt.mpr some_value)⟩)

theorem standsFor_of_left (cut : absorb 0 digits = (significand, left)) (some_left : left ≠ [])
    (large : twoTo 60 ≤ significand)
    (scaled_le : significand * tenTo left.length ≤ Numeral.value digits)
    (read : number? ⟨negative, digits, none, none⟩ = some number) :
    StandsFor (integer ⟨negative, digits, none, none⟩) number := by
  rw [number?_of_left cut some_left] at read
  obtain ⟨magnitude, scaled, rfl⟩ := Option.map_eq_some_iff.mp read
  have places_pos := List.length_pos_iff.mpr some_left
  have beyond := lt_units_of_scaled large places_pos scaled
  have value_large : Range.signed64 ≤ Numeral.value digits :=
    calc
      Range.signed64 ≤ twoTo 60 * tenTo 1 := by decide
      _ ≤ significand * tenTo left.length := Nat.mul_le_mul large (tenTo_le places_pos)
      _ ≤ Numeral.value digits := scaled_le
  cases negative with
  | false => exact .inr (.inr ⟨Int.ofNat_lt.mpr beyond, Int.ofNat_le.mpr value_large⟩)
  | true =>
      exact .inr (.inl ⟨Int.neg_neg_of_pos (Int.ofNat_lt.mpr (Nat.zero_lt_of_lt beyond)),
        Int.neg_neg_of_pos (Int.ofNat_lt.mpr (Nat.lt_of_lt_of_le (by decide) value_large))⟩)

theorem standsFor_of_isWhole (whole : written.IsWhole)
    (all_digits : ∀ c ∈ written.whole, c.isDigit = true) (read : written.number? = some number) :
    StandsFor written.integer number := by
  obtain ⟨negative, digits, fraction, exponent⟩ := written
  obtain ⟨rfl, rfl⟩ : fraction = none ∧ exponent = none := whole
  rcases absorb_cases all_digits with fits | ⟨significand, left, cut, some_left, large, scaled_le⟩
  · exact standsFor_of_fits fits read
  · exact standsFor_of_left cut some_left large scaled_le read

/-- Every integer that is far enough below the limit of finite numbers is read. -/
theorem exists_number?_of_isWhole (whole : written.IsWhole)
    (all_digits : ∀ c ∈ written.whole, c.isDigit = true)
    (le : Numeral.value written.whole ≤ twoTo 1024 - twoTo 973) :
    ∃ number, written.number? = some number := by
  obtain ⟨negative, digits, fraction, exponent⟩ := written
  obtain ⟨rfl, rfl⟩ : fraction = none ∧ exponent = none := whole
  rcases absorb_cases all_digits with fits | ⟨significand, left, cut, some_left, large, scaled_le⟩
  · have finite : Numeral.value digits * one ≤ Magnitude.greatest :=
      Nat.le_trans (Nat.mul_le_mul_right one le) (by decide +kernel)
    obtain ⟨magnitude, rounded⟩ := Magnitude.exists_ofNat? finite
    rw [number?, fits]
    dsimp only
    rw [rounded]
    split
    · exact ⟨_, rfl⟩
    · split <;> exact ⟨_, rfl⟩
  · have significand_pos := Nat.lt_of_lt_of_le (twoTo_pos 60) large
    obtain ⟨magnitude, scaled⟩ := exists_scaled significand_pos (scaled_le.trans le)
    rw [number?_of_left cut some_left, scaled]
    exact ⟨_, rfl⟩

theorem exists_float_of_not_isWhole (not_whole : ¬written.IsWhole)
    (read : written.number? = some number) : ∃ x, number = .float x := by
  unfold number? at read
  dsimp only at read
  split at read
  · next no_fraction no_exponent _ => exact absurd ⟨no_fraction, no_exponent⟩ not_whole
  · obtain ⟨magnitude, _, rfl⟩ := Option.map_eq_some_iff.mp read
    exact ⟨_, rfl⟩

end WrittenNumber

namespace Number

variable {text rest : Text} {written : WrittenNumber}

theorem isDigit_of_magnitude? {negative : Bool}
    (found : magnitude? negative text = some (written, rest)) :
    ∀ c ∈ written.whole, c.isDigit = true := by
  unfold magnitude? at found
  simp only [Option.bind_eq_bind, Option.bind_eq_some_iff, Prod.exists] at found
  obtain ⟨whole, _, whole_found, found⟩ := found
  split at found
  · cases found
  · simp only [Option.bind_eq_some_iff, Prod.exists, Option.some.injEq, Prod.mk.injEq] at found
    obtain ⟨_, _, _, _, _, _, rfl, rfl⟩ := found
    unfold digits? at whole_found
    dsimp only at whole_found
    split at whole_found
    · cases whole_found
    · cases whole_found
      exact fun c member => List.all_eq_true.mp List.all_takeWhile c member

theorem isDigit_of_written? (found : written? text = some (written, rest)) :
    ∀ c ∈ written.whole, c.isDigit = true := by
  unfold written? at found
  split at found <;> exact isDigit_of_magnitude? found

theorem number?_eq_some_iff (found : written? text = some (written, rest)) (number : Number) :
    number? text = some (number, rest) ↔ written.number? = some number := by
  rw [number?, found]
  simp

end Number

end Json

end Rulebook
