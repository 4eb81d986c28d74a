import Rulebook.Proofs.Rounding
import Rulebook.Proofs.TextOrder
import Rulebook.Rule.Evaluation

/-!
# The three conditions on one value

A value and a literal that can be compared stand in one of three relations, and of the three
conditions on them that one holds.  Equality and the two orders are decided apart from each other,
by their own matches on the kinds of values, but they agree on all of them.  The greater a literal
is, the fewer values are greater than it.
-/

namespace Rulebook

namespace Comparator

/-- The relation that a comparator stands for. -/
def Relates {α : Type} [LT α] : Comparator → α → α → Prop
  | .greater, left, right => right < left
  | .less, left, right => left < right
  | .equal, left, right => left = right

instance decidableRelates {α : Type} [LT α] [DecidableLT α] [DecidableEq α]
    (comparator : Comparator) (left right : α) : Decidable (comparator.Relates left right) :=
  match comparator with
  | .greater => inferInstanceAs (Decidable (right < left))
  | .less => inferInstanceAs (Decidable (left < right))
  | .equal => inferInstanceAs (Decidable (left = right))

/-- The comparator that holds of things in an order. -/
def ofOrdering : Ordering → Comparator
  | .gt => .greater
  | .lt => .less
  | .eq => .equal

theorem eq_ofOrdering_iff {α : Type} [LinearOrder α] {ordering : Ordering} {left right : α}
    (lt_iff : ordering = .lt ↔ left < right) (eq_iff : ordering = .eq ↔ left = right)
    (comparator : Comparator) :
    comparator = ofOrdering ordering ↔ comparator.Relates left right := by
  have gt_iff : ordering = .gt ↔ right < left := by
    rw [← not_le, le_iff_lt_or_eq, ← lt_iff, ← eq_iff]
    cases ordering <;> simp
  cases comparator with
  | greater => rw [Relates, ← gt_iff]; cases ordering <;> simp [ofOrdering]
  | less => rw [Relates, ← lt_iff]; cases ordering <;> simp [ofOrdering]
  | equal => rw [Relates, ← eq_iff]; cases ordering <;> simp [ofOrdering]

/-- Texts are related by their bytes as they are by their code points. -/
theorem relates_bytes_iff (comparator : Comparator) (left right : Text) :
    comparator.Relates left.bytes right.bytes ↔
      comparator.Relates left.codePoints right.codePoints := by
  cases comparator with
  | greater => exact Text.bytes_lt_iff
  | less => exact Text.bytes_lt_iff
  | equal => exact Text.bytes_injective.eq_iff.trans Text.codePoints_injective.eq_iff.symm

end Comparator

namespace Literal

/-- Where a number stands among numbers of its form: an integer by its value, a float by its units.
-/
def position : Json.Number → Int
  | .integer n => n
  | .float x => x.units

/-- Where an integer literal stands among numbers of the form of another one. -/
def positionAmong (literal : Fin Range.signed64) : Json.Number → Int
  | .integer _ => literal.val
  | .float _ => Binary64.roundUnits (literal.val * Binary64.one) 1

theorem compareNumber_eq (number : Json.Number) (literal : Fin Range.signed64) :
    compareNumber number literal = compare (position number) (positionAmong literal number) := by
  cases number <;> rfl

theorem positionAmong_mono {lower upper : Fin Range.signed64} (le : lower ≤ upper)
    (number : Json.Number) : positionAmong lower number ≤ positionAmong upper number := by
  cases number with
  | integer n => exact Int.ofNat_le.mpr le
  | float x =>
      exact Int.ofNat_le.mpr
        (Binary64.roundUnits_mono Nat.one_pos (Nat.mul_le_mul_right Binary64.one le))

/-- Equality is decided as the order decides it, on values of all kinds. -/
theorem equalsField_eq (literal : Literal) (value : Option Json.Value) :
    literal.equalsField value = (literal.compareField? value == some .eq) := by
  unfold equalsField compareField?
  split
  · rfl
  · next text other =>
    change (text == other) = (Text.order text other == .eq)
    rw [Bool.eq_iff_iff, beq_iff_eq, beq_iff_eq, Text.order_eq_eq_iff,
      Text.codePoints_injective.eq_iff]
  · rfl

/-- The values that a literal can be ordered with: numbers for an integer, texts for a string. -/
inductive Fits : Literal → Option Json.Value → Prop
  | number (n : Fin Range.signed64) (number : Json.Number) :
      Fits (.integer n) (some (.number number))
  | text (other text : Text) : Fits (.string other) (some (.text text))

/-- Two literals of the same type in order. -/
inductive AtMost : Literal → Literal → Prop
  | integer {lower upper : Fin Range.signed64} (le : lower ≤ upper) :
      AtMost (.integer lower) (.integer upper)
  | string {lower upper : Text} (le : lower.codePoints ≤ upper.codePoints) :
      AtMost (.string lower) (.string upper)

variable {literal lower upper : Literal} {value : Option Json.Value}

theorem fits_iff :
    literal.Fits value ↔ ∃ ordering, literal.compareField? value = some ordering := by
  constructor
  · rintro (⟨n, number⟩ | ⟨other, text⟩)
    · exact ⟨_, rfl⟩
    · exact ⟨_, rfl⟩
  · rintro ⟨ordering, ordered⟩
    unfold compareField? at ordered
    split at ordered
    · exact .number _ _
    · exact .text _ _
    · cases ordered

end Literal

namespace Comparison

open Literal (position positionAmong)

variable {literal lower upper : Literal} {value : Option Json.Value}

/-- Of a value that a literal fits the condition with the comparator of their order holds. -/
theorem holds_of_compareField? {ordering : Ordering}
    (ordered : literal.compareField? value = some ordering) (field : Text)
    (comparator : Comparator) :
    holds ⟨field, comparator, literal⟩ value =
      .ok (decide (comparator = .ofOrdering ordering)) := by
  cases comparator with
  | greater =>
      rw [holds, order, ordered]
      cases ordering <;> rfl
  | less =>
      rw [holds, order, ordered]
      cases ordering <;> rfl
  | equal =>
      rw [holds, Literal.equalsField_eq, ordered]
      cases ordering <;> rfl

/-- No value that a literal does not fit is equal to it, and to order them is an error. -/
theorem holds_of_not_fits (unfit : ¬literal.Fits value) (field : Text) (comparator : Comparator) :
    holds ⟨field, comparator, literal⟩ value =
      if comparator = .equal then .ok false
      else .error (.typeMismatch field literal.kind (Kind.ofValue? value)) := by
  have unordered : literal.compareField? value = none := by
    rw [Option.eq_none_iff_forall_ne_some]
    exact fun ordering ordered => unfit (Literal.fits_iff.mpr ⟨ordering, ordered⟩)
  cases comparator with
  | greater =>
      rw [holds, order, unordered]
      rfl
  | less =>
      rw [holds, order, unordered]
      rfl
  | equal =>
      rw [holds, Literal.equalsField_eq, unordered]
      rfl

theorem holds_number (field : Text) (comparator : Comparator) (n : Fin Range.signed64)
    (number : Json.Number) :
    holds ⟨field, comparator, .integer n⟩ (some (.number number)) =
      .ok (decide (comparator.Relates (position number) (positionAmong n number))) := by
  rw [holds_of_compareField? rfl, Literal.compareNumber_eq]
  congr 1
  exact decide_eq_decide.mpr
    (Comparator.eq_ofOrdering_iff Int.compare_eq_lt Int.compare_eq_eq comparator)

theorem holds_text (field : Text) (comparator : Comparator) (other text : Text) :
    holds ⟨field, comparator, .string other⟩ (some (.text text)) =
      .ok (decide (comparator.Relates text.codePoints other.codePoints)) := by
  rw [holds_of_compareField? rfl]
  congr 1
  exact decide_eq_decide.mpr
    (Comparator.eq_ofOrdering_iff Text.order_eq_lt_iff Text.order_eq_eq_iff comparator)

/-- What is greater than a literal is greater than every smaller one. -/
theorem holds_greater_mono (le : lower.AtMost upper) {field : Text}
    (greater : holds ⟨field, .greater, upper⟩ value = .ok true) :
    holds ⟨field, .greater, lower⟩ value = .ok true := by
  by_cases fits : upper.Fits value
  · cases le with
    | integer le =>
        obtain ⟨_, number⟩ := fits
        rw [holds_number, Except.ok.injEq, decide_eq_true_iff] at greater ⊢
        exact (Literal.positionAmong_mono le number).trans_lt greater
    | string le =>
        obtain ⟨⟩ | ⟨_, text⟩ := fits
        rw [holds_text, Except.ok.injEq, decide_eq_true_iff] at greater ⊢
        exact lt_of_le_of_lt le greater
  · rw [holds_of_not_fits fits] at greater
    cases greater

theorem holds_less_mono (le : lower.AtMost upper) {field : Text}
    (less : holds ⟨field, .less, lower⟩ value = .ok true) :
    holds ⟨field, .less, upper⟩ value = .ok true := by
  by_cases fits : lower.Fits value
  · cases le with
    | integer le =>
        obtain ⟨_, number⟩ := fits
        rw [holds_number, Except.ok.injEq, decide_eq_true_iff] at less ⊢
        exact lt_of_lt_of_le less (Literal.positionAmong_mono le number)
    | string le =>
        obtain ⟨⟩ | ⟨_, text⟩ := fits
        rw [holds_text, Except.ok.injEq, decide_eq_true_iff] at less ⊢
        exact lt_of_lt_of_le less le
  · rw [holds_of_not_fits fits] at less
    cases less

/-- The three conditions on a value and a literal agree.

If the literal fits the value, one of them holds and the others do not; texts are in the order of
their code points, which is that of their bytes.  If it does not, they are not equal, and both
orders are the same error, with the field and the types of both.  For a greater literal fewer values
are greater and more are less. -/
theorem conditions_agree (field : Text) (value : Option Json.Value) :
    let verdict (comparator : Comparator) (literal : Literal) : Except RuleError Bool :=
      holds ⟨field, comparator, literal⟩ value
    (∀ literal : Literal, literal.Fits value →
      ∃ comparator, verdict comparator literal = .ok true ∧
        ∀ other, other ≠ comparator → verdict other literal = .ok false) ∧
    (∀ text other : Text, value = some (.text text) → ∀ comparator : Comparator,
      verdict comparator (.string other) =
          .ok (decide (comparator.Relates text.codePoints other.codePoints)) ∧
        (comparator.Relates text.codePoints other.codePoints ↔
          comparator.Relates text.bytes other.bytes)) ∧
    (∀ literal : Literal, ¬literal.Fits value →
      verdict .equal literal = .ok false ∧
        ∀ comparator, comparator ≠ .equal → verdict comparator literal =
          .error (.typeMismatch field literal.kind (Kind.ofValue? value))) ∧
    ∀ lower upper : Literal, lower.AtMost upper →
      (verdict .greater upper = .ok true → verdict .greater lower = .ok true) ∧
        (verdict .less lower = .ok true → verdict .less upper = .ok true) := by
  intro verdict
  refine ⟨?_, ?_, ?_, fun _ _ le => ⟨holds_greater_mono le, holds_less_mono le⟩⟩
  · intro literal fits
    obtain ⟨ordering, ordered⟩ := Literal.fits_iff.mp fits
    refine ⟨.ofOrdering ordering, ?_, fun other apart => ?_⟩
    · rw [show verdict _ _ = _ from holds_of_compareField? ordered field _, decide_eq_true rfl]
    · rw [show verdict _ _ = _ from holds_of_compareField? ordered field _,
        decide_eq_false apart]
  · rintro text other rfl comparator
    exact ⟨holds_text field comparator other text, (comparator.relates_bytes_iff text other).symm⟩
  · intro literal unfit
    exact ⟨holds_of_not_fits unfit field .equal,
      fun comparator apart => (holds_of_not_fits unfit field comparator).trans (if_neg apart)⟩

/-- A text beside smaller ones, and an integer that it cannot be ordered with, no more than null or
a field that is missing. -/
theorem conditions_agree_on_text :
    let verdict (comparator : Comparator) (literal : Literal) : Except RuleError Bool :=
      holds ⟨"name".toList, comparator, literal⟩ (some (.text "éa".toList))
    (∃ comparator, verdict comparator (.string "zoo".toList) = .ok true ∧
      ∀ other, other ≠ comparator → verdict other (.string "zoo".toList) = .ok false) ∧
    (Text.bytes "zoo".toList < Text.bytes "éa".toList ∧
      verdict .greater (.string "zoo".toList) = .ok true) ∧
    verdict .greater (.string "a".toList) = .ok true ∧
    verdict .less (.integer ⟨5, by decide⟩) =
      .error (.typeMismatch "name".toList .integer .string) ∧
    holds ⟨"name".toList, .less, .integer ⟨5, by decide⟩⟩ (some .null) =
      .error (.typeMismatch "name".toList .integer .null) ∧
    holds ⟨"name".toList, .less, .integer ⟨5, by decide⟩⟩ none =
      .error (.typeMismatch "name".toList .integer .missing) := by
  intro verdict
  obtain ⟨one_holds, by_code_points, not_comparable, monotone⟩ :=
    conditions_agree "name".toList (some (.text "éa".toList))
  have greater : verdict .greater (.string "zoo".toList) = .ok true :=
    (by_code_points _ _ rfl .greater).1.trans (by decide)
  refine ⟨one_holds _ (.text _ _), ⟨(by_code_points _ _ rfl .greater).2.mp (by decide), greater⟩,
    (monotone _ _ (.string (by decide))).1 greater, ?_, ?_, ?_⟩
  · exact (not_comparable _ fun fits => by cases fits).2 .less (by decide)
  · exact ((conditions_agree _ (some .null)).2.2.1 _ fun fits => by cases fits).2 .less (by decide)
  · exact ((conditions_agree _ none).2.2.1 _ fun fits => by cases fits).2 .less (by decide)

end Comparison

end Rulebook
