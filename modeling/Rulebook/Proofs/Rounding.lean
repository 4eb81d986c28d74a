import Mathlib.Data.Nat.Dist
import Mathlib.Data.Nat.Log
import Rulebook.Number.Binary64

/-!
# Rounding to the grid of binary64 numbers

A ratio lies between two neighbouring points of the grid, and rounding takes it to the nearer one,
or in the middle to the even one.  So rounding never passes a point of the grid, and it keeps the
order of ratios.
-/

namespace Rulebook.Binary64

variable {num num' den point step units : Nat}

theorem spacing_pos (units : Nat) : 0 < spacing units :=
  twoTo_pos _

theorem log2_le_log2 {smaller greater : Nat} (le : smaller ≤ greater) :
    smaller.log2 ≤ greater.log2 := by
  rw [Nat.log2_eq_log_two, Nat.log2_eq_log_two]
  exact Nat.log_mono_right le

theorem spacing_dvd_spacing {smaller greater : Nat} (le : smaller ≤ greater) :
    spacing smaller ∣ spacing greater :=
  twoTo_dvd (Nat.sub_le_sub_right (log2_le_log2 le) 52)

/-- The point of the grid at or below a count of units. -/
def floor (units : Nat) : Nat :=
  units / spacing units * spacing units

theorem floor_le (units : Nat) : floor units ≤ units :=
  Nat.div_mul_le_self units (spacing units)

theorem lt_floor_add (units : Nat) : units < floor units + spacing units := by
  rw [floor, ← Nat.succ_mul, Nat.mul_comm]
  exact Nat.lt_mul_div_succ units (spacing_pos units)

theorem le_floor (multiple : spacing units ∣ point) (le : point ≤ units) : point ≤ floor units := by
  obtain ⟨count, rfl⟩ := multiple
  rw [Nat.mul_comm] at le ⊢
  exact Nat.mul_le_mul_right _ ((Nat.le_div_iff_mul_le (spacing_pos units)).mpr le)

theorem twoTo_log2_le_floor (units_ne : units ≠ 0) : twoTo units.log2 ≤ floor units :=
  le_floor (twoTo_dvd (Nat.sub_le _ 52)) (Nat.log2_self_le units_ne)

/-- The grid has the same spacing at the point below a count of units as at the count. -/
theorem spacing_floor (units : Nat) : spacing (floor units) = spacing units := by
  rcases Nat.eq_zero_or_pos units with rfl | units_pos
  · rfl
  · have above := log2_le_log2 (twoTo_log2_le_floor (Nat.ne_of_gt units_pos))
    rw [log2_twoTo] at above
    rw [spacing, Nat.le_antisymm (log2_le_log2 (floor_le units)) above, ← spacing]

/-- No point of the grid lies between the point below a count of units and the one above. -/
theorem le_floor_or_floor_add_le (onGrid : spacing point ∣ point) (units : Nat) :
    point ≤ floor units ∨ floor units + spacing units ≤ point := by
  rcases Nat.lt_or_ge units point with beyond | within
  · right
    obtain ⟨count, rfl⟩ := (spacing_dvd_spacing (Nat.le_of_lt beyond)).trans onGrid
    rw [floor, ← Nat.succ_mul, Nat.mul_comm (spacing units) count]
    exact Nat.mul_le_mul_right _ (Nat.div_lt_of_lt_mul beyond)
  · left
    rcases Nat.eq_zero_or_pos point with rfl | point_pos
    · exact Nat.zero_le _
    rcases Nat.lt_or_ge point (twoTo units.log2) with below | above
    · exact Nat.le_of_lt (Nat.lt_of_lt_of_le below (twoTo_log2_le_floor (by omega)))
    · -- The point has as many bits as the count, and so the same spacing.
      have same_log : point.log2 = units.log2 := by
        have := log2_le_log2 above
        rw [log2_twoTo] at this
        exact Nat.le_antisymm (log2_le_log2 within) this
      rw [spacing, same_log, ← spacing] at onGrid
      exact le_floor onGrid within

/-- Whether the last bit of the significand of a point of the grid is zero. -/
def IsEven (units : Nat) : Prop :=
  2 * spacing units ∣ units

/-- An even significand of at most 53 bits makes an even point, also where a bit is carried. -/
theorem isEven_mul_twoTo {count shift : Nat} (count_le : count ≤ twoTo 53) (even : 2 ∣ count) :
    IsEven (count * twoTo shift) := by
  rcases Nat.eq_zero_or_pos count with rfl | count_pos
  · rw [Nat.zero_mul]
    exact Nat.dvd_zero _
  rcases Nat.lt_or_eq_of_le count_le with count_lt | rfl
  · have product_lt : count * twoTo shift < twoTo (53 + shift) := by
      rw [twoTo_add]
      exact Nat.mul_lt_mul_of_pos_right count_lt (twoTo_pos shift)
    have product_ne : count * twoTo shift ≠ 0 :=
      Nat.mul_ne_zero (Nat.ne_of_gt count_pos) (Nat.ne_of_gt (twoTo_pos shift))
    have log_lt : (count * twoTo shift).log2 < 53 + shift := (log2_lt_iff product_ne).2 product_lt
    exact Nat.mul_dvd_mul even (twoTo_dvd (by omega))
  · rw [IsEven, ← twoTo_add, spacing, log2_twoTo, Nat.mul_comm]
    exact twoTo_dvd (by omega : 53 + shift - 52 + 1 ≤ 53 + shift)

theorem not_isEven_floor_add (even : IsEven (floor units)) :
    ¬IsEven (floor units + spacing units) := by
  intro upper_even
  have upper_spacing : spacing units ∣ spacing (floor units + spacing units) :=
    spacing_dvd_spacing (Nat.le_of_lt (lt_floor_add units))
  rw [IsEven, spacing_floor] at even
  have both := (Nat.mul_dvd_mul_left 2 upper_spacing).trans upper_even
  have := Nat.le_of_dvd (spacing_pos units) ((Nat.dvd_add_right even).mp both)
  have := spacing_pos units
  omega

theorem nearest_cases (num den : Nat) :
    (nearest num den = num / den ∧ 2 * (num % den) ≤ den) ∨
      (nearest num den = num / den + 1 ∧ den ≤ 2 * (num % den)) := by
  unfold nearest
  dsimp only
  split
  · exact .inl ⟨rfl, by omega⟩
  · split
    · exact .inr ⟨rfl, by omega⟩
    · split
      · exact .inl ⟨rfl, by omega⟩
      · exact .inr ⟨rfl, by omega⟩

theorem two_dvd_nearest (middle : 2 * (num % den) = den) : 2 ∣ nearest num den := by
  unfold nearest
  dsimp only
  rw [if_neg (by omega), if_neg (by omega)]
  split <;> omega

theorem floor_mul_add (num den : Nat) :
    floor (num / den) * den + num % (den * spacing (num / den)) = num := by
  rw [floor, Nat.div_div_eq_div_mul, Nat.mul_assoc, Nat.mul_comm (spacing _) den, Nat.mul_comm]
  exact Nat.div_add_mod num _

theorem lt_floor_add_mul (den_pos : 0 < den) (num : Nat) :
    num < floor (num / den) * den + spacing (num / den) * den := by
  have := Nat.mod_lt num (Nat.mul_pos den_pos (spacing_pos (num / den)))
  have := floor_mul_add num den
  rw [Nat.mul_comm (spacing _) den]
  omega

/-- Rounding goes to the nearer one of the neighbouring points. -/
theorem roundUnits_cases (num den : Nat) :
    (roundUnits num den = floor (num / den) ∧
      2 * num ≤ 2 * (floor (num / den) * den) + spacing (num / den) * den) ∨
    (roundUnits num den = floor (num / den) + spacing (num / den) ∧
      2 * (floor (num / den) * den) + spacing (num / den) * den ≤ 2 * num) := by
  have above := floor_mul_add num den
  have floor_eq : floor (num / den) = num / (den * spacing (num / den)) * spacing (num / den) := by
    rw [floor, Nat.div_div_eq_div_mul]
  rw [Nat.mul_comm (spacing _) den]
  rcases nearest_cases num (den * spacing (num / den)) with ⟨down, near⟩ | ⟨up, near⟩
  · exact .inl ⟨by rw [roundUnits, down, floor_eq], by omega⟩
  · exact .inr ⟨by rw [roundUnits, up, floor_eq, Nat.succ_mul], by omega⟩

/-- A ratio in the middle of two neighbouring points is rounded to the even one. -/
theorem isEven_roundUnits
    (middle : 2 * num = 2 * (floor (num / den) * den) + spacing (num / den) * den) :
    IsEven (roundUnits num den) := by
  have above := floor_mul_add num den
  rw [Nat.mul_comm (spacing _) den] at middle
  exact isEven_mul_twoTo (nearest_spacing_le num den) (two_dvd_nearest (by omega))

/-- No point of the grid is nearer to a ratio than the one it is rounded to. -/
theorem dist_roundUnits_le (den_pos : 0 < den) (num : Nat) (onGrid : spacing point ∣ point) :
    Nat.dist num (roundUnits num den * den) ≤ Nat.dist num (point * den) := by
  have above := floor_mul_add num den
  have below := lt_floor_add_mul den_pos num
  have outside : point * den ≤ floor (num / den) * den ∨
      floor (num / den) * den + spacing (num / den) * den ≤ point * den := by
    rw [← Nat.add_mul]
    exact (le_floor_or_floor_add_le onGrid (num / den)).imp (Nat.mul_le_mul_right den)
      (Nat.mul_le_mul_right den)
  rcases roundUnits_cases num den with ⟨down, near⟩ | ⟨up, near⟩
  · rw [down]
    unfold Nat.dist
    omega
  · rw [up, Nat.add_mul]
    unfold Nat.dist
    omega

/-- Of two points that are equally near to a ratio the even one is taken. -/
theorem isEven_of_tie (den_pos : 0 < den) (onGrid : spacing point ∣ point)
    (apart : point ≠ roundUnits num den)
    (tie : Nat.dist num (point * den) = Nat.dist num (roundUnits num den * den)) :
    IsEven (roundUnits num den) ∧ ¬IsEven point := by
  have above := floor_mul_add num den
  have below := lt_floor_add_mul den_pos num
  have outside := le_floor_or_floor_add_le onGrid (num / den)
  have outside_mul := outside.imp (Nat.mul_le_mul_right den) (Nat.mul_le_mul_right den)
  rw [Nat.add_mul] at outside_mul
  have even : 2 * num = 2 * (floor (num / den) * den) + spacing (num / den) * den →
      IsEven (roundUnits num den) := isEven_roundUnits
  unfold Nat.dist at tie
  rcases roundUnits_cases num den with ⟨down, near⟩ | ⟨up, near⟩
  · rw [down] at apart tie even ⊢
    have apart_mul := mt (Nat.eq_of_mul_eq_mul_right den_pos) apart
    have point_eq : point = floor (num / den) + spacing (num / den) := by
      apply Nat.eq_of_mul_eq_mul_right den_pos
      rw [Nat.add_mul]
      omega
    refine ⟨even (by omega), ?_⟩
    rw [point_eq]
    exact not_isEven_floor_add (even (by omega))
  · rw [up] at apart even ⊢
    rw [up, Nat.add_mul] at tie
    have apart_mul := mt (Nat.eq_of_mul_eq_mul_right den_pos) apart
    rw [Nat.add_mul] at apart_mul
    have point_eq : point = floor (num / den) := by
      apply Nat.eq_of_mul_eq_mul_right den_pos
      omega
    have upper_even := even (by omega)
    refine ⟨upper_even, fun point_even => ?_⟩
    rw [point_eq] at point_even
    exact not_isEven_floor_add point_even upper_even

theorem le_roundUnits (den_pos : 0 < den) (onGrid : spacing point ∣ point)
    (le : point * den ≤ num) : point ≤ roundUnits num den := by
  by_contra passed
  have := Nat.mul_lt_mul_of_pos_right (Nat.lt_of_not_le passed) den_pos
  have := dist_roundUnits_le den_pos num onGrid
  unfold Nat.dist at this
  omega

theorem roundUnits_le (den_pos : 0 < den) (onGrid : spacing point ∣ point)
    (le : num ≤ point * den) : roundUnits num den ≤ point := by
  by_contra passed
  have := Nat.mul_lt_mul_of_pos_right (Nat.lt_of_not_le passed) den_pos
  have := dist_roundUnits_le den_pos num onGrid
  unfold Nat.dist at this
  omega

/-- Rounding keeps the order: each of two ratios is at most as far from its own rounding as from
that of the other. -/
theorem roundUnits_mono (den_pos : 0 < den) (le : num ≤ num') :
    roundUnits num den ≤ roundUnits num' den := by
  by_contra passed
  have swapped := Nat.mul_lt_mul_of_pos_right (Nat.lt_of_not_le passed) den_pos
  have near := dist_roundUnits_le den_pos num (spacing_roundUnits_dvd num' den)
  have near' := dist_roundUnits_le den_pos num' (spacing_roundUnits_dvd num den)
  unfold Nat.dist at near near'
  have same : num = num' := by omega
  rw [same] at passed
  exact passed (Nat.le_refl _)

end Rulebook.Binary64
