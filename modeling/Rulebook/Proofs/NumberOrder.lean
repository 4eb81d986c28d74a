import Mathlib.Algebra.Order.Field.Basic
import Mathlib.Algebra.Order.Field.Rat
import Mathlib.Data.Int.Cast.Lemmas
import Rulebook.Proofs.FieldOrder
import Rulebook.Proofs.NumberReading

/-!
# Conditions on numbers are exact

A number is compared with an integer exactly if it is written as an integer, and otherwise by the
binary64 number that it is held as.  A literal is rounded for that; so the one number that it is
rounded to is taken to be equal to it, and the order of all others is that of the exact values.
-/

namespace Rulebook

namespace Binary64

/-- The rational number that a binary64 number is. -/
def value (x : Binary64) : ℚ :=
  x.units / one

/-- Whether no finite binary64 number is nearer to a target, and the significand is even if another
one is just as near. -/
structure IsNearest (x : Binary64) (target : ℚ) : Prop where
  nearest : ∀ other : Binary64, |x.value - target| ≤ |other.value - target|
  even_of_tie : ∀ other : Binary64, other.value ≠ x.value →
    |other.value - target| = |x.value - target| → IsEven x.magnitude.units

variable {x : Binary64} {n : Nat}

theorem one_pos_rat : (0 : ℚ) < one :=
  Nat.cast_pos.mpr one_pos

theorem units_cases (x : Binary64) :
    x.units = x.magnitude.units ∨ x.units = -(x.magnitude.units : Int) := by
  unfold units
  split
  · exact .inr rfl
  · exact .inl rfl

theorem value_eq_iff {other : Binary64} : other.value = x.value ↔ other.units = x.units := by
  rw [value, value, div_left_inj' (ne_of_gt one_pos_rat), Int.cast_inj]

theorem abs_value_sub (x : Binary64) (n : Nat) :
    |x.value - n| = ((x.units - (n * one : Nat)).natAbs : ℚ) / one := by
  have sub_eq : x.value - n = ((x.units - (n * one : Nat) : Int) : ℚ) / one := by
    rw [value, Int.cast_sub, Int.cast_natCast, Nat.cast_mul, sub_div,
      mul_div_cancel_right₀ _ (ne_of_gt one_pos_rat)]
  rw [sub_eq, abs_div, abs_of_pos one_pos_rat, Nat.cast_natAbs, Int.cast_abs]

theorem abs_value_sub_le_iff {other : Binary64} :
    |x.value - n| ≤ |other.value - n| ↔
      (x.units - (n * one : Nat)).natAbs ≤ (other.units - (n * one : Nat)).natAbs := by
  rw [abs_value_sub, abs_value_sub, div_le_div_iff_of_pos_right one_pos_rat, Nat.cast_le]

theorem abs_value_sub_eq_iff {other : Binary64} :
    |other.value - n| = |x.value - n| ↔
      (other.units - (n * one : Nat)).natAbs = (x.units - (n * one : Nat)).natAbs := by
  rw [abs_value_sub, abs_value_sub, div_left_inj' (ne_of_gt one_pos_rat), Nat.cast_inj]

theorem relates_value_iff (comparator : Comparator) (x : Binary64) (n : Nat) :
    comparator.Relates x.value (n : ℚ) ↔ comparator.Relates x.units (n * one : Nat) := by
  have scaled : (n : ℚ) * one = ((n * one : Nat) : Int) := by
    rw [Int.cast_natCast, Nat.cast_mul]
  cases comparator with
  | greater =>
      show (n : ℚ) < x.units / one ↔ _
      rw [lt_div_iff₀ one_pos_rat, scaled, Int.cast_lt]
      rfl
  | less =>
      show (x.units / one : ℚ) < n ↔ _
      rw [div_lt_iff₀ one_pos_rat, scaled, Int.cast_lt]
      rfl
  | equal =>
      show (x.units / one : ℚ) = n ↔ _
      rw [div_eq_iff (ne_of_gt one_pos_rat), scaled, Int.cast_inj]
      rfl

theorem roundUnits_mul_one_pos_iff (n : Nat) : 0 < roundUnits (n * one) 1 ↔ 0 < n := by
  rcases Nat.eq_zero_or_pos n with rfl | n_pos
  · rw [Nat.zero_mul]
    exact Iff.rfl
  · refine iff_of_true (Nat.lt_of_lt_of_le Binary64.one_pos ?_) n_pos
    apply le_roundUnits Nat.one_pos (by decide +kernel)
    rw [Nat.mul_one]
    exact Nat.le_mul_of_pos_left one n_pos

theorem roundUnits_mul_one_le (small : n ≤ Range.signed64) :
    roundUnits (n * one) 1 ≤ Range.signed64 * one := by
  apply roundUnits_le Nat.one_pos (by decide +kernel)
  rw [Nat.mul_one]
  exact Nat.mul_le_mul_right one small

theorem exists_units_eq (small : n ≤ Range.signed64) :
    ∃ x : Binary64, x.units = roundUnits (n * one) 1 := by
  have finite : n * one ≤ Magnitude.greatest :=
    Nat.le_trans (Nat.mul_le_mul_right one small) (by decide +kernel)
  obtain ⟨magnitude, rounded⟩ := Magnitude.exists_ofNat? finite
  exact ⟨⟨false, magnitude⟩, congrArg Int.ofNat (Magnitude.units_of_ofUnits? rounded)⟩

/-- No number is nearer to a natural number than what that is rounded to. -/
theorem natAbs_roundUnits_le (x : Binary64) (n : Nat) :
    ((roundUnits n 1 : Int) - n).natAbs ≤ (x.units - n).natAbs := by
  have zero_dist := dist_roundUnits_le Nat.one_pos n (Nat.dvd_zero (spacing 0))
  have dist := dist_roundUnits_le Nat.one_pos n x.magnitude.onGrid.1
  unfold Nat.dist at zero_dist dist
  rcases x.units_cases with positive | negative <;> omega

theorem isEven_of_natAbs_eq (apart : x.units ≠ roundUnits n 1)
    (tie : (x.units - n).natAbs = ((roundUnits n 1 : Int) - n).natAbs) :
    IsEven (roundUnits n 1) ∧ ¬IsEven x.magnitude.units := by
  have zero_dist := dist_roundUnits_le Nat.one_pos n (Nat.dvd_zero (spacing 0))
  unfold Nat.dist at zero_dist
  have units_eq : x.units = x.magnitude.units := by
    rcases x.units_cases with positive | negative <;> omega
  apply isEven_of_tie Nat.one_pos x.magnitude.onGrid.1
  · omega
  · unfold Nat.dist
    omega

/-- The number nearest to an integer of 63 bits is what that is rounded to. -/
theorem isNearest_iff (small : n ≤ Range.signed64) :
    x.IsNearest n ↔ x.units = roundUnits (n * one) 1 := by
  constructor
  · intro isNearest
    obtain ⟨rounded, rounded_eq⟩ := exists_units_eq small
    have no_farther := abs_value_sub_le_iff.mp (isNearest.nearest rounded)
    rw [rounded_eq] at no_farther
    by_contra apart
    have tie := Nat.le_antisymm no_farther (natAbs_roundUnits_le x (n * one))
    apply (isEven_of_natAbs_eq apart tie).2
    apply isNearest.even_of_tie rounded
    · rw [ne_eq, value_eq_iff, rounded_eq]
      exact fun same => apart same.symm
    · rw [abs_value_sub_eq_iff, rounded_eq, tie]
  · intro units_eq
    refine ⟨fun other => ?_, fun other apart tie => ?_⟩
    · rw [abs_value_sub_le_iff, units_eq]
      exact natAbs_roundUnits_le other (n * one)
    · rw [ne_eq, value_eq_iff, units_eq] at apart
      rw [abs_value_sub_eq_iff, units_eq] at tie
      have magnitude_eq : x.magnitude.units = roundUnits (n * one) 1 := by
        rcases x.units_cases with positive | negative <;> omega
      rw [magnitude_eq]
      exact (isEven_of_natAbs_eq apart tie).1

/-- Rounding a natural number changes its relation to no number but the one that it is rounded to.
-/
theorem relates_roundUnits_iff (kept : x.units = roundUnits n 1 → x.units = n)
    (comparator : Comparator) :
    comparator.Relates x.units (roundUnits n 1 : Int) ↔ comparator.Relates x.units (n : Int) := by
  have lower : x.magnitude.units * 1 ≤ n → x.magnitude.units ≤ roundUnits n 1 :=
    le_roundUnits Nat.one_pos x.magnitude.onGrid.1
  have upper : n ≤ x.magnitude.units * 1 → roundUnits n 1 ≤ x.magnitude.units :=
    roundUnits_le Nat.one_pos x.magnitude.onGrid.1
  rcases x.units_cases with positive | negative <;> cases comparator <;>
    simp only [Comparator.Relates] <;> omega

end Binary64

namespace Comparison

open Binary64 Json

variable {field : Text} {comparator : Comparator} {literal : Fin Range.signed64}

/-- A number that stands among the integers of 63 bits where an integer does is related to each of
them as that is. -/
theorem holds_of_standsFor {integer : Int} {number : Number}
    (stands : WrittenNumber.StandsFor integer number) :
    holds ⟨field, comparator, .integer literal⟩ (some (.number number)) =
      .ok (decide (comparator.Relates integer literal.val)) := by
  rw [holds_number]
  congr 1
  apply decide_eq_decide.mpr
  cases number with
  | integer n =>
      rw [show n = integer from stands]
      rfl
  | float x =>
      have literal_lt := literal.isLt
      have rounded_le := roundUnits_mul_one_le (Nat.le_of_lt literal_lt)
      have rounded_pos := roundUnits_mul_one_pos_iff literal.val
      rcases stands with stands | stands | stands <;> cases comparator <;>
        simp only [Comparator.Relates, Literal.position, Literal.positionAmong] <;> omega

theorem holds_float (x : Binary64) :
    holds ⟨field, comparator, .integer literal⟩ (some (.number (.float x))) =
      .ok (decide (comparator.Relates x.units (roundUnits (literal.val * one) 1 : Int))) :=
  holds_number field comparator literal (.float x)

theorem holds_float_of_isNearest {x : Binary64} (nearest : x.IsNearest literal.val) :
    holds ⟨field, comparator, .integer literal⟩ (some (.number (.float x))) =
      .ok (decide (comparator = .equal)) := by
  rw [holds_float, ← (isNearest_iff (Nat.le_of_lt literal.isLt)).mp nearest]
  cases comparator <;> simp [Comparator.Relates]

theorem holds_float_of_not_isNearest {x : Binary64}
    (kept : x.IsNearest literal.val → x.value = literal.val) :
    holds ⟨field, comparator, .integer literal⟩ (some (.number (.float x))) =
      .ok (decide (comparator.Relates x.value (literal.val : ℚ))) := by
  rw [holds_float]
  congr 1
  apply decide_eq_decide.mpr
  rw [relates_value_iff, relates_roundUnits_iff]
  intro rounded
  have value_eq := kept ((isNearest_iff (Nat.le_of_lt literal.isLt)).mpr rounded)
  exact (relates_value_iff .equal x literal.val).mp value_eq

/-- A number is compared with an integer of 63 bits exactly, wherever it can be.

If it is written as an integer, its condition is that of the two integers, whatever form it is held
in; and the reader takes every integer but those that come close to the limit of finite numbers, at
`2 ^ 1024`, or pass it.  Any other number is held as a float, and the condition of a float is that
of its exact value, but for the float that is nearest to the literal: to that the literal is equal.
-/
theorem number_conditions_are_exact (field : Text) (comparator : Comparator)
    (literal : Fin Range.signed64) :
    let verdict (number : Number) : Except RuleError Bool :=
      holds ⟨field, comparator, .integer literal⟩ (some (.number number))
    (∀ text written rest, Number.written? text = some (written, rest) → written.IsWhole →
      (∀ number, Number.number? text = some (number, rest) →
        verdict number = .ok (decide (comparator.Relates written.integer literal.val))) ∧
      (written.integer.natAbs ≤ twoTo 1024 - twoTo 973 →
        ∃ number, Number.number? text = some (number, rest))) ∧
    (∀ text written rest, Number.written? text = some (written, rest) → ¬written.IsWhole →
      ∀ number, Number.number? text = some (number, rest) → ∃ x, number = .float x) ∧
    ∀ x : Binary64,
      (x.IsNearest literal.val ∧ x.value ≠ literal.val →
        verdict (.float x) = .ok (decide (comparator = .equal))) ∧
      (¬(x.IsNearest literal.val ∧ x.value ≠ literal.val) →
        verdict (.float x) = .ok (decide (comparator.Relates x.value (literal.val : ℚ)))) := by
  refine ⟨?_, ?_, fun x => ⟨fun apart => holds_float_of_isNearest apart.1, fun kept => ?_⟩⟩
  · intro text written rest found whole
    have all_digits := Number.isDigit_of_written? found
    simp only [Number.number?_eq_some_iff found]
    refine ⟨fun number read => ?_, fun small => ?_⟩
    · exact holds_of_standsFor (WrittenNumber.standsFor_of_isWhole whole all_digits read)
    · have value_le : Numeral.value written.whole ≤ twoTo 1024 - twoTo 973 := by
        rw [WrittenNumber.integer] at small
        split at small <;> omega
      exact WrittenNumber.exists_number?_of_isWhole whole all_digits value_le
  · intro text written rest found not_whole number read
    rw [Number.number?_eq_some_iff found] at read
    exact WrittenNumber.exists_float_of_not_isWhole not_whole read
  · exact holds_float_of_not_isNearest fun nearest => not_not.mp fun apart => kept ⟨nearest, apart⟩

/-- The integers `2 ^ 64` and `2 ^ 53 + 1`, and the floats beside them: a float cannot be told from
the literal that is rounded to it. -/
theorem number_conditions_are_exact_beyond_floats :
    let literal : Fin Range.signed64 := ⟨9007199254740993, by decide⟩
    let verdict (comparator : Comparator) (number : Number) : Except RuleError Bool :=
      holds ⟨['n'], comparator, .integer literal⟩ (some (.number number))
    let nearest : Binary64 := ⟨false, twoTo 1127, by decide +kernel, by decide +kernel⟩
    (∃ number, Number.number? "18446744073709551616".toList = some (number, []) ∧
      verdict .greater number = .ok true) ∧
    (∃ x, Number.number? "9007199254740993.5".toList = some (.float x, [])) ∧
    (nearest.value = 9007199254740992 ∧ verdict .equal (.float nearest) = .ok true) ∧
    verdict .less (.float ⟨true, .zero⟩) = .ok true := by
  intro literal verdict nearest
  have whole_found : Number.written? "18446744073709551616".toList =
      some (⟨false, "18446744073709551616".toList, none, none⟩, []) := by rfl
  have not_whole_found : Number.written? "9007199254740993.5".toList =
      some (⟨false, "9007199254740993".toList, some ['5'], none⟩, []) := by rfl
  have value_eq : nearest.value = 9007199254740992 :=
    (relates_value_iff .equal nearest 9007199254740992).mpr (by decide +kernel)
  have apart : nearest.value ≠ literal.val := by
    rw [value_eq]
    decide
  have isNearest : nearest.IsNearest literal.val :=
    (isNearest_iff (by decide)).mpr (by decide +kernel)
  have not_nearest : ¬(⟨true, .zero⟩ : Binary64).IsNearest literal.val :=
    mt (isNearest_iff (by decide)).mp (by decide +kernel)
  have below : Comparator.less.Relates (⟨true, .zero⟩ : Binary64).value (literal.val : ℚ) :=
    (relates_value_iff .less ⟨true, .zero⟩ literal.val).mpr (by decide +kernel)
  have exact_whole := (number_conditions_are_exact ['n'] .greater literal).1 _ _ _ whole_found
    ⟨rfl, rfl⟩
  have exact_less := ((number_conditions_are_exact ['n'] .less literal).2.2 ⟨true, .zero⟩).2
    fun held => not_nearest held.1
  refine ⟨?_, ?_, ⟨value_eq, ?_⟩, ?_⟩
  · obtain ⟨number, read⟩ := exact_whole.2 (by decide +kernel)
    exact ⟨number, read, (exact_whole.1 number read).trans (by decide)⟩
  · have all_read : (Number.number? "9007199254740993.5".toList).map Prod.snd = some [] := by
      decide +kernel
    obtain ⟨⟨number, _⟩, read, rfl⟩ := Option.map_eq_some_iff.mp all_read
    obtain ⟨x, rfl⟩ := (number_conditions_are_exact ['n'] .equal literal).2.1 _ _ _ not_whole_found
      (by rintro ⟨none, _⟩; cases none) number read
    exact ⟨x, read⟩
  · exact ((number_conditions_are_exact ['n'] .equal literal).2.2 nearest).1 ⟨isNearest, apart⟩
  · exact exact_less.trans (congrArg Except.ok (decide_eq_true below))

end Comparison

end Rulebook
