import Rulebook.Proofs.Addresses
import Rulebook.Proofs.Conditions

/-!
# Matched conditions as explanations

The conditions that matched are those of leaves that hold on the record.  They suffice for the
verdict: where no leaf fails, a tree that matched one record matches every record on which they
hold, although other leaves may be visited there.
-/

namespace Rulebook

namespace Tree

variable {record : Record} {tree : Tree} {above : Path} {visits : List Visit}

theorem holds_of_matched {matched : Bool}
    (ran : tree.visit above record = .ok (matched, visits)) {text : Text}
    (member : text ∈ visits.filterMap Visit.matchedCondition?) :
    ∃ comparison, Comparison.ofText text = .ok comparison ∧
      comparison.holds (record.get? comparison.field) = .ok true := by
  obtain ⟨visit, visited, text_eq⟩ := List.mem_filterMap.mp member
  obtain ⟨below, _, tells⟩ := tells_of_mem_visits ran visited
  cases visit with
  | skip path connective => cases text_eq
  | condition path comparison value outcome =>
      cases outcome with
      | false => cases text_eq
      | true =>
          cases text_eq
          obtain ⟨condition, _, read, rfl, held⟩ := tells
          exact ⟨comparison, Comparison.ofText_render read, held⟩

/-- A tree that matched is true under every valuation of conditions under which those that matched
are true, if it does not depend on how a comparison is written. -/
theorem truth_of_matched {value : Text → Bool}
    (ran : tree.visit above record = .ok (true, visits))
    (respects : ∀ condition comparison, Comparison.ofText condition = .ok comparison →
      value comparison.render = value condition)
    (explained : ∀ text ∈ visits.filterMap Visit.matchedCondition?, value text = true) :
    tree.truth value = true := by
  induction tree generalizing above visits with
  | leaf condition =>
      obtain ⟨comparison, read, _, rfl⟩ := visit_leaf_eq_ok ran
      rw [truth, ← respects condition comparison read]
      exact explained _ List.mem_cons_self
  | node connective left right left_induction right_induction =>
      obtain ⟨leftMatched, leftVisits, left_ran, ⟨decided, rfl, rfl⟩ | ⟨undecided, rightVisits,
        right_ran, rfl⟩⟩ := visit_node_eq_ok ran
      · rw [List.filterMap_append, List.forall_mem_append] at explained
        have left_true := left_induction left_ran explained.1
        cases connective with
        | and => cases decided
        | or => rw [truth, left_true, Bool.true_or]
      · rw [List.filterMap_append, List.forall_mem_append] at explained
        have right_true := right_induction right_ran explained.2
        cases connective with
        | or => rw [truth, right_true, Bool.or_true]
        | and =>
            have left_matched : leftMatched = true := by
              simpa [Connective.decidedBy] using undecided
            subst left_matched
            rw [truth, right_true, left_induction left_ran explained.1, Bool.true_and]

/-- The conditions that matched explain an evaluation.

Each of them is read as a comparison that holds on the record.  If the tree matched, it matches
every other record on which no leaf fails and on which each of these comparisons holds. -/
theorem matched_conditions_explain (tree : Tree) (record : Record) (traced : Bool)
    (evaluation : Evaluation) (ran : tree.execute traced record = .ok evaluation) :
    (∀ text ∈ evaluation.conditions, ∃ comparison, Comparison.ofText text = .ok comparison ∧
      comparison.holds (record.get? comparison.field) = .ok true) ∧
    (evaluation.matched = true → ∀ other : Record,
      (∀ condition ∈ tree.leaves, ∃ outcome, outcomeOf other condition = .ok outcome) →
      (∀ text ∈ evaluation.conditions, ∃ comparison, Comparison.ofText text = .ok comparison ∧
        comparison.holds (other.get? comparison.field) = .ok true) →
      ∀ traced, ∃ explained, tree.execute traced other = .ok explained ∧
        explained.matched = true) := by
  obtain ⟨visits, visit_eq, conditions_eq, _⟩ := exists_visits_of_execute ran
  rw [conditions_eq]
  refine ⟨fun text => holds_of_matched visit_eq, fun matched other known explained traced => ?_⟩
  let value (condition : Text) : Bool := (outcomeOf other condition).toOption.getD false
  have valued : ∀ condition ∈ tree.leaves, outcomeOf other condition = .ok (value condition) := by
    intro condition member
    obtain ⟨outcome, outcome_eq⟩ := known condition member
    simp only [value, outcome_eq, Except.toOption, Option.getD_some]
  have tree_true : tree.truth value = true := by
    rw [matched] at visit_eq
    refine truth_of_matched visit_eq (fun condition comparison read => ?_) fun text member => ?_
    · simp only [value, outcomeOf_eq_holds read,
        outcomeOf_eq_holds (Comparison.ofText_render read)]
    · obtain ⟨comparison, read, held⟩ := explained text member
      simp only [value, outcomeOf_eq_holds read, held, Except.toOption, Option.getD_some]
  exact exists_execute_of_evaluate (tree_true ▸ evaluate_eq_truth valued)

/-- Of a disjunction whose left side failed after a condition that matched, that condition is among
those that explain the verdict.  On another record it is the left side that matches. -/
theorem matched_conditions_explain_along_other_leaves :
    let tree := node .or (node .and (leaf "a = 5".toList) (leaf "b > 7".toList))
      (leaf "c = x".toList)
    let record : Record := [("a".toList, .number (.integer 5)), ("b".toList, .number (.integer 1)),
      ("c".toList, .text ['x'])]
    let other : Record := [("a".toList, .number (.integer 5)), ("b".toList, .number (.integer 9)),
      ("c".toList, .text ['x'])]
    ∃ evaluation, tree.execute true record = .ok evaluation ∧ evaluation.matched = true ∧
      evaluation.conditions = ["a = 5".toList, "c = 'x'".toList] ∧
      (∀ condition ∈ tree.leaves, ∃ outcome, outcomeOf other condition = .ok outcome) ∧
      (∀ text ∈ evaluation.conditions, ∃ comparison, Comparison.ofText text = .ok comparison ∧
        comparison.holds (other.get? comparison.field) = .ok true) ∧
      ∃ explained, tree.execute false other = .ok explained ∧ explained.matched = true := by
  intro tree record other
  have known : ∀ condition ∈ tree.leaves, ∃ outcome, outcomeOf other condition = .ok outcome := by
    have each : ∀ condition ∈ ["a = 5".toList, "b > 7".toList, "c = x".toList],
        ∃ outcome, outcomeOf other condition = .ok outcome := by
      rw [List.forall_mem_cons, List.forall_mem_cons, List.forall_mem_singleton]
      exact ⟨⟨true, rfl⟩, ⟨true, rfl⟩, ⟨true, rfl⟩⟩
    exact each
  have explained : ∀ text ∈ ["a = 5".toList, "c = 'x'".toList], ∃ comparison,
      Comparison.ofText text = .ok comparison ∧
        comparison.holds (other.get? comparison.field) = .ok true := by
    rw [List.forall_mem_cons, List.forall_mem_singleton]
    exact ⟨⟨_, rfl, rfl⟩, ⟨_, rfl, rfl⟩⟩
  refine ⟨_, rfl, rfl, rfl, known, explained, ?_⟩
  exact (matched_conditions_explain tree record true _ rfl).2 rfl other known explained false

end Tree

end Rulebook
