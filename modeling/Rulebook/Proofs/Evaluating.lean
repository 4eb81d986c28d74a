import Rulebook.Proofs.Combining

/-!
# What evaluations find

Apart from its trace, an evaluation depends on the tree alone and not on where the tree stands.  A
tree of comparisons has a verdict or meets a value of the wrong type.  The evaluation of a
conjunction goes on to the next tree as long as every tree before it matched.
-/

namespace Rulebook

namespace Evaluation

/-- What an evaluation finds: whether the tree matched, and the conditions that did. -/
def findings (evaluation : Evaluation) : Bool × List Text :=
  (evaluation.matched, evaluation.conditions)

end Evaluation

namespace Tree

/-- What the evaluation of a tree finds, wherever the tree stands. -/
def findings (record : Record) : Tree → Except RuleError (Bool × List Text)
  | .leaf condition =>
      (evaluateLeaf condition record).map fun (matched, comparison, _) =>
        (matched, if matched then [comparison.render] else [])
  | .node connective left right =>
      match left.findings record with
      | .error error => .error error
      | .ok (leftMatched, leftConditions) =>
          if connective.decidedBy leftMatched then .ok (leftMatched, leftConditions)
          else
            match right.findings record with
            | .error error => .error error
            | .ok (rightMatched, rightConditions) =>
                .ok (rightMatched, leftConditions ++ rightConditions)

theorem visit_findings (tree : Tree) (path : Path) (record : Record) :
    (tree.visit path record).map
        (fun (matched, visits) => (matched, visits.filterMap Visit.matchedCondition?)) =
      tree.findings record := by
  induction tree generalizing path with
  | leaf condition =>
      rw [visit, findings]
      rcases evaluateLeaf condition record with error | ⟨matched, comparison, value⟩
      · rfl
      · cases matched <;> rfl
  | node connective left right left_induction right_induction =>
      rw [visit, findings, ← left_induction (path ++ [.left]), ← right_induction (path ++ [.right])]
      generalize left.visit (path ++ [.left]) record = left_visit
      generalize right.visit (path ++ [.right]) record = right_visit
      rcases left_visit with error | ⟨leftMatched, leftVisits⟩
      · rfl
      · dsimp only [Except.map]
        cases connective.decidedBy leftMatched with
        | true => simp [Visit.matchedCondition?]
        | false => rcases right_visit with error | ⟨rightMatched, rightVisits⟩ <;> simp

/-- What an evaluation finds does not depend on whether it is traced. -/
theorem execute_findings (traced : Bool) (tree : Tree) (record : Record) :
    (tree.execute traced record).map Evaluation.findings = tree.findings record := by
  rw [execute, ← tree.visit_findings []]
  rcases tree.visit [] record with error | ⟨matched, visits⟩ <;> rfl

end Tree

namespace RuleError

/-- Whether an error tells that a value is of the wrong type. -/
def IsTypeMismatch (error : RuleError) : Prop :=
  ∃ field expected actual, error = .typeMismatch field expected actual

end RuleError

namespace Comparison

theorem isTypeMismatch_of_holds {comparison : Comparison} {value : Option Json.Value}
    {error : RuleError} (failed : comparison.holds value = .error error) :
    error.IsTypeMismatch := by
  have of_order {decide : Ordering → Bool}
      (failed : (comparison.order value).map decide = .error error) : error.IsTypeMismatch := by
    unfold order at failed
    split at failed <;> cases failed
    exact ⟨_, _, _, rfl⟩
  unfold holds at failed
  split at failed
  · cases failed
  · exact of_order failed
  · exact of_order failed

end Comparison

namespace Tree

/-- Only a value of the wrong type ends the evaluation of comparisons. -/
theorem isTypeMismatch_of_findings {tree : Tree} {record : Record} {error : RuleError}
    (comparable : tree.IsComparable) (failed : tree.findings record = .error error) :
    error.IsTypeMismatch := by
  induction tree with
  | leaf condition =>
      obtain ⟨comparison, read⟩ := isComparable_leaf.mp comparable
      rw [findings, evaluateLeaf, read] at failed
      dsimp only at failed
      cases held : comparison.holds (record.get? comparison.field) with
      | error error' =>
          rw [held] at failed
          cases failed
          exact Comparison.isTypeMismatch_of_holds held
      | ok matched =>
          rw [held] at failed
          cases failed
  | node connective left right left_induction right_induction =>
      obtain ⟨left_comparable, right_comparable⟩ := isComparable_node.mp comparable
      rw [findings] at failed
      split at failed
      · next left_failed =>
        cases failed
        exact left_induction left_comparable left_failed
      · split at failed
        · cases failed
        · split at failed
          · next right_failed =>
            cases failed
            exact right_induction right_comparable right_failed
          · cases failed

theorem isTypeMismatch_of_execute {traced : Bool} {tree : Tree} {record : Record}
    {error : RuleError} (comparable : tree.IsComparable)
    (failed : tree.execute traced record = .error error) : error.IsTypeMismatch := by
  apply isTypeMismatch_of_findings comparable
  rw [← tree.execute_findings traced, failed]
  rfl

end Tree

end Rulebook
