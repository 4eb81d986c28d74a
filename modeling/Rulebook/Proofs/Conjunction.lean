import Rulebook.Proofs.Documents
import Rulebook.Proofs.Encoding
import Rulebook.Proofs.Evaluating
import Rulebook.Proofs.Invariants

/-!
# Combination is conjunction in order

The evaluation of combined rules goes through the rules in their order and ends with the first one
that does not match, with the verdict or the error of that rule.  The same holds of stored rules
and what they are combined into.
-/

namespace Rulebook

namespace Evaluation

/-- The verdict of an evaluation, or why there is none. -/
def outcome (result : Except RuleError Evaluation) : Except RuleError Bool :=
  result.map matched

/-- The conditions that matched in an evaluation; none are known if it failed. -/
def conditionsOf : Except RuleError Evaluation → List Text
  | .error _ => []
  | .ok evaluation => evaluation.conditions

/-- How the results of some evaluations in a row make the result of their conjunction. -/
structure IsOrderedConjunction (parts : List (Except RuleError Evaluation))
    (whole : Except RuleError Evaluation) : Prop where
  /-- The conjunction matches exactly if every part does. -/
  matched_iff : outcome whole = .ok true ↔ ∀ part ∈ parts, outcome part = .ok true
  /-- Otherwise it has the verdict or the error of the first part that does not match. -/
  outcome_eq : ∀ before part after, parts = before ++ part :: after →
    (∀ earlier ∈ before, outcome earlier = .ok true) → outcome part ≠ .ok true →
    outcome whole = outcome part
  /-- If it matches, the conditions are those of all parts in order. -/
  conditions_of_matched : ∀ evaluation, whole = .ok evaluation → evaluation.matched = true →
    evaluation.conditions = parts.flatMap conditionsOf
  /-- If a part does not match, the conditions are those up to the first such part. -/
  conditions_of_first : ∀ before part after evaluation, parts = before ++ part :: after →
    (∀ earlier ∈ before, outcome earlier = .ok true) → outcome part ≠ .ok true →
    whole = .ok evaluation → evaluation.conditions = (before ++ [part]).flatMap conditionsOf

/-- What is found by evaluations in a row, of which each is made only if those before it matched. -/
def inTurn : List (Except RuleError Evaluation) → Except RuleError (Bool × List Text)
  | [] => .ok (true, [])
  | .error error :: _ => .error error
  | .ok evaluation :: rest =>
      if evaluation.matched then
        (inTurn rest).map fun (matched, conditions) =>
          (matched, evaluation.conditions ++ conditions)
      else .ok evaluation.findings

theorem outcome_eq_ok_true_iff {result : Except RuleError Evaluation} :
    outcome result = .ok true ↔
      ∃ evaluation, result = .ok evaluation ∧ evaluation.matched = true := by
  cases result with
  | error error => simp [outcome, Except.map]
  | ok evaluation => simp [outcome, Except.map]

theorem inTurn_of_matched {parts : List (Except RuleError Evaluation)}
    (all_matched : ∀ part ∈ parts, outcome part = .ok true) :
    inTurn parts = .ok (true, parts.flatMap conditionsOf) := by
  induction parts with
  | nil => rfl
  | cons part rest induction =>
      rw [List.forall_mem_cons] at all_matched
      obtain ⟨evaluation, rfl, matched⟩ := outcome_eq_ok_true_iff.mp all_matched.1
      rw [inTurn, if_pos matched, induction all_matched.2]
      rfl

theorem inTurn_of_first {before after : List (Except RuleError Evaluation)}
    {part : Except RuleError Evaluation}
    (before_matched : ∀ earlier ∈ before, outcome earlier = .ok true)
    (unmatched : outcome part ≠ .ok true) :
    inTurn (before ++ part :: after) =
      (outcome part).map fun matched => (matched, (before ++ [part]).flatMap conditionsOf) := by
  induction before with
  | nil =>
      cases part with
      | error error => rfl
      | ok evaluation =>
          have not_matched : evaluation.matched = false := by
            simpa [outcome, Except.map] using unmatched
          rw [List.nil_append, inTurn, not_matched, if_neg Bool.false_ne_true]
          simp [outcome, Except.map, findings, conditionsOf]
  | cons earlier before induction =>
      rw [List.forall_mem_cons] at before_matched
      obtain ⟨evaluation, rfl, matched⟩ := outcome_eq_ok_true_iff.mp before_matched.1
      rw [List.cons_append, inTurn, if_pos matched, induction before_matched.2]
      cases outcome part <;> rfl

/-- Evaluations in a row have a first one that does not match, unless all of them do. -/
theorem matched_or_first (parts : List (Except RuleError Evaluation)) :
    (∀ part ∈ parts, outcome part = .ok true) ∨
      ∃ before part after, parts = before ++ part :: after ∧
        (∀ earlier ∈ before, outcome earlier = .ok true) ∧ outcome part ≠ .ok true := by
  induction parts with
  | nil => exact .inl fun part member => absurd member List.not_mem_nil
  | cons part rest induction =>
      by_cases matched : outcome part = .ok true
      · rcases induction with all_matched | ⟨before, first, after, rfl, before_matched, unmatched⟩
        · exact .inl (List.forall_mem_cons.mpr ⟨matched, all_matched⟩)
        · exact .inr ⟨part :: before, first, after, rfl,
            List.forall_mem_cons.mpr ⟨matched, before_matched⟩, unmatched⟩
      · exact .inr ⟨[], part, rest, rfl, fun _ member => absurd member List.not_mem_nil, matched⟩

variable {parts : List (Except RuleError Evaluation)} {whole : Except RuleError Evaluation}

theorem outcome_of_findings {found : Except RuleError (Bool × List Text)}
    (same : whole.map findings = found) : outcome whole = found.map Prod.fst := by
  subst same
  cases whole <;> rfl

theorem conditions_of_findings {evaluation : Evaluation} {matched : Bool} {conditions : List Text}
    (same : Except.map findings (.ok evaluation : Except RuleError Evaluation) =
      .ok (matched, conditions)) :
    evaluation.conditions = conditions := by
  cases same
  rfl

theorem outcome_eq_ok_true_iff_of_findings (same : whole.map findings = inTurn parts) :
    outcome whole = .ok true ↔ ∀ part ∈ parts, outcome part = .ok true := by
  rw [outcome_of_findings same]
  rcases matched_or_first parts with
    all_matched | ⟨before, part, after, rfl, before_matched, unmatched⟩
  · rw [inTurn_of_matched all_matched]
    exact ⟨fun _ => all_matched, fun _ => rfl⟩
  · rw [inTurn_of_first before_matched unmatched]
    have member : part ∈ before ++ part :: after :=
      List.mem_append_right before List.mem_cons_self
    constructor
    · intro matched
      refine absurd ?_ unmatched
      rw [← matched]
      cases outcome part <;> rfl
    · exact fun all_matched => absurd (all_matched part member) unmatched

/-- A result that is found by evaluations in a row is that of their conjunction. -/
theorem isOrderedConjunction_of_findings (same : whole.map findings = inTurn parts) :
    IsOrderedConjunction parts whole where
  matched_iff := outcome_eq_ok_true_iff_of_findings same
  outcome_eq := by
    rintro before part after rfl before_matched unmatched
    rw [outcome_of_findings same, inTurn_of_first before_matched unmatched]
    cases outcome part <;> rfl
  conditions_of_matched := by
    rintro evaluation rfl matched
    have all_matched := (outcome_eq_ok_true_iff_of_findings same).mp (congrArg Except.ok matched)
    rw [inTurn_of_matched all_matched] at same
    exact conditions_of_findings same
  conditions_of_first := by
    rintro before part after evaluation rfl before_matched unmatched rfl
    rw [inTurn_of_first before_matched unmatched] at same
    cases verdict : outcome part with
    | error error =>
        rw [verdict] at same
        cases same
    | ok matched =>
        rw [verdict] at same
        exact conditions_of_findings same

end Evaluation

namespace Tree

theorem findings_conjunction (traced : Bool) (record : Record) (first : Tree) (rest : List Tree) :
    (first.conjunction rest).findings record =
      Evaluation.inTurn ((first :: rest).map (·.execute traced record)) := by
  induction rest generalizing first with
  | nil =>
      rw [conjunction, ← execute_findings traced, List.map_singleton]
      cases first.execute traced record with
      | error error => rfl
      | ok evaluation =>
          rw [Evaluation.inTurn]
          split
          · next matched => simp [Evaluation.inTurn, Evaluation.findings, matched, Except.map]
          · rfl
  | cons next rest induction =>
      rw [conjunction, findings, ← execute_findings traced, List.map_cons, induction next]
      cases first.execute traced record with
      | error error => rfl
      | ok evaluation =>
          rw [Evaluation.inTurn]
          dsimp only [Except.map, Evaluation.findings]
          cases evaluation.matched with
          | false => rfl
          | true =>
              rw [if_neg (by decide), if_pos rfl]
              cases Evaluation.inTurn ((next :: rest).map (·.execute traced record)) <;> rfl

end Tree

namespace Rule

/-- The evaluation of combined rules is the conjunction of their evaluations in order. -/
theorem isOrderedConjunction_combine {rules : List Rule} {combined : Rule}
    (combination : combine rules = .ok combined) (traced : Bool) (record : Record) :
    Evaluation.IsOrderedConjunction (rules.map (·.tree.execute traced record))
      (combined.tree.execute traced record) := by
  apply Evaluation.isOrderedConjunction_of_findings
  rw [Tree.execute_findings]
  rcases combine_cases combination with rfl | ⟨first, second, rest, rfl, rfl, _⟩
  · have only := Tree.findings_conjunction traced record combined.tree []
    rwa [Tree.conjunction] at only
  · rw [Tree.findings_conjunction traced, ← List.map_cons, List.map_map]
    rfl

end Rule

end Rulebook
