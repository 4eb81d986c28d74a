import Rulebook.Proofs.Evaluating

/-!
# Evaluation as logic

A tree is a formula over the outcomes of its leaves.  If no leaf fails, its evaluation is the truth
value of the formula; in general it goes from left to right and skips the right side of a connective
that the left side decides.  Leaves that are skipped, and leaves after the first one that fails, do
not count.
-/

namespace Rulebook

namespace Path

/-- Whether a path leads to the left of another one: they part at a node, to its left and to its
right side. -/
def IsLeftOf (path other : Path) : Prop :=
  ∃ above below otherBelow, path = above ++ .left :: below ∧ other = above ++ .right :: otherBelow

theorem isLeftOf_cons {side : Side} {path other : Path} :
    IsLeftOf (side :: path) (side :: other) ↔ path.IsLeftOf other := by
  constructor
  · rintro ⟨above, below, otherBelow, path_eq, other_eq⟩
    cases above with
    | nil =>
        cases path_eq
        cases other_eq
    | cons first above =>
        rw [List.cons_append, List.cons.injEq] at path_eq other_eq
        exact ⟨above, below, otherBelow, path_eq.2, other_eq.2⟩
  · rintro ⟨above, below, otherBelow, rfl, rfl⟩
    exact ⟨side :: above, below, otherBelow, rfl, rfl⟩

theorem left_isLeftOf_right (path other : Path) : IsLeftOf (.left :: path) (.right :: other) :=
  ⟨[], path, other, rfl, rfl⟩

theorem not_right_isLeftOf_left (path other : Path) :
    ¬IsLeftOf (.right :: path) (.left :: other) := by
  rintro ⟨above, below, otherBelow, path_eq, other_eq⟩
  cases above with
  | nil => cases path_eq
  | cons first above =>
      cases path_eq
      cases other_eq

end Path

namespace Tree

variable {record : Record} {connective : Connective} {left right tree : Tree} {path : Path}

/-- The outcome of a condition on a record: the comparison that it is, of the field's value. -/
def outcomeOf (record : Record) (condition : Text) : Except RuleError Bool :=
  match Comparison.ofText condition with
  | .error fault => .error (.malformedCondition condition fault)
  | .ok comparison => comparison.holds (record.get? comparison.field)

/-- The truth value of a tree whose conditions have truth values. -/
def truth (value : Text → Bool) : Tree → Bool
  | .leaf condition => value condition
  | .node .and left right => left.truth value && right.truth value
  | .node .or left right => left.truth value || right.truth value

def at? : Tree → Path → Option Tree
  | tree, [] => some tree
  | .leaf _, _ :: _ => none
  | .node _ left _, .left :: path => left.at? path
  | .node _ _ right, .right :: path => right.at? path

/-- Whether a tree has a leaf with a condition at a path. -/
def HasLeaf (tree : Tree) (path : Path) (condition : Text) : Prop :=
  tree.at? path = some (.leaf condition)

/-- The tree of the same shape with given conditions at its leaves. -/
def relabel : Tree → (Path → Text) → Tree
  | .leaf _, conditionAt => .leaf (conditionAt [])
  | .node connective left right, conditionAt =>
      .node connective (left.relabel fun path => conditionAt (.left :: path))
        (right.relabel fun path => conditionAt (.right :: path))

/-- Whether what is at a path is skipped: it lies on the right of a connective that the left side
decides. -/
def IsSkipped (record : Record) (tree : Tree) (path : Path) : Prop :=
  ∃ above below connective left right matched, path = above ++ .right :: below ∧
    tree.at? above = some (.node connective left right) ∧
    left.evaluate record = .ok matched ∧ connective.decidedBy matched = true

/-! ## Leaves and sides -/

theorem hasLeaf_leaf {condition other : Text} :
    (leaf condition).HasLeaf path other ↔ path = [] ∧ other = condition := by
  cases path <;> simp [HasLeaf, at?, eq_comm]

theorem hasLeaf_left {condition : Text} :
    (node connective left right).HasLeaf (.left :: path) condition ↔ left.HasLeaf path condition :=
  Iff.rfl

theorem hasLeaf_right {condition : Text} :
    (node connective left right).HasLeaf (.right :: path) condition ↔
      right.HasLeaf path condition :=
  Iff.rfl

theorem HasLeaf.cases_node {condition : Text}
    (has : (node connective left right).HasLeaf path condition) :
    (∃ below, path = .left :: below ∧ left.HasLeaf below condition) ∨
      ∃ below, path = .right :: below ∧ right.HasLeaf below condition := by
  match path with
  | [] => cases has
  | .left :: below => exact .inl ⟨below, rfl, has⟩
  | .right :: below => exact .inr ⟨below, rfl, has⟩

theorem isSkipped_left :
    (node connective left right).IsSkipped record (.left :: path) ↔ left.IsSkipped record path := by
  constructor
  · rintro ⟨above, below, c, l, r, matched, path_eq, found, decision⟩
    cases above with
    | nil => cases path_eq
    | cons side above =>
        cases path_eq
        exact ⟨above, below, c, l, r, matched, rfl, found, decision⟩
  · rintro ⟨above, below, c, l, r, matched, rfl, found, decision⟩
    exact ⟨.left :: above, below, c, l, r, matched, rfl, found, decision⟩

theorem isSkipped_right :
    (node connective left right).IsSkipped record (.right :: path) ↔
      (∃ matched, left.evaluate record = .ok matched ∧ connective.decidedBy matched = true) ∨
        right.IsSkipped record path := by
  constructor
  · rintro ⟨above, below, c, l, r, matched, path_eq, found, decision⟩
    cases above with
    | nil =>
        cases found
        exact .inl ⟨matched, decision⟩
    | cons side above =>
        cases path_eq
        exact .inr ⟨above, below, c, l, r, matched, rfl, found, decision⟩
  · rintro (⟨matched, decision⟩ | ⟨above, below, c, l, r, matched, rfl, found, decision⟩)
    · exact ⟨[], path, connective, left, right, matched, rfl, rfl, decision⟩
    · exact ⟨.right :: above, below, c, l, r, matched, rfl, found, decision⟩

theorem isSkipped_right_of_decided {matched : Bool} (left_ran : left.evaluate record = .ok matched)
    (decided : connective.decidedBy matched = true) :
    (node connective left right).IsSkipped record (.right :: path) :=
  isSkipped_right.mpr (.inl ⟨matched, left_ran, decided⟩)

theorem isSkipped_right_of_undecided {matched : Bool}
    (left_ran : left.evaluate record = .ok matched)
    (undecided : connective.decidedBy matched = false) :
    (node connective left right).IsSkipped record (.right :: path) ↔
      right.IsSkipped record path := by
  rw [isSkipped_right, left_ran]
  simp [undecided]

theorem not_isSkipped_leaf {condition : Text} : ¬(leaf condition).IsSkipped record [] := by
  rintro ⟨above, below, _, _, _, _, path_eq, _⟩
  cases above <;> cases path_eq

/-! ## Verdicts -/

theorem map_evaluateLeaf (condition : Text) (record : Record) :
    (evaluateLeaf condition record).map Prod.fst = outcomeOf record condition := by
  rw [evaluateLeaf, outcomeOf]
  cases Comparison.ofText condition with
  | error fault => rfl
  | ok comparison =>
      dsimp only
      cases comparison.holds (record.get? comparison.field) <;> rfl

/-- The outcome of a condition depends on the comparison alone that it is read as. -/
theorem outcomeOf_eq_holds {condition : Text} {comparison : Comparison}
    (read : Comparison.ofText condition = .ok comparison) (record : Record) :
    outcomeOf record condition = comparison.holds (record.get? comparison.field) := by
  rw [outcomeOf, read]

/-- A condition with a verdict is a comparison that has this verdict on the value of its field. -/
theorem evaluateLeaf_eq_ok {condition : Text} {comparison : Comparison} {matched : Bool}
    {value : Option Json.Value}
    (ran : evaluateLeaf condition record = .ok (matched, comparison, value)) :
    Comparison.ofText condition = .ok comparison ∧ value = record.get? comparison.field ∧
      comparison.holds value = .ok matched := by
  rw [evaluateLeaf] at ran
  cases read : Comparison.ofText condition with
  | error fault =>
      rw [read] at ran
      cases ran
  | ok own =>
      rw [read] at ran
      dsimp only at ran
      cases held : own.holds (record.get? own.field) with
      | error error =>
          rw [held] at ran
          cases ran
      | ok outcome =>
          rw [held] at ran
          cases ran
          exact ⟨rfl, rfl, held⟩

theorem evaluate_eq_findings (tree : Tree) (record : Record) :
    tree.evaluate record = (tree.findings record).map Prod.fst := by
  rw [evaluate, ← tree.execute_findings false]
  cases tree.execute false record <;> rfl

theorem map_visit (tree : Tree) (above : Path) (record : Record) :
    (tree.visit above record).map Prod.fst = tree.evaluate record := by
  rw [evaluate_eq_findings, ← tree.visit_findings above]
  cases tree.visit above record <;> rfl

theorem evaluate_of_visit {above : Path} {matched : Bool} {visits : List Visit}
    (ran : tree.visit above record = .ok (matched, visits)) :
    tree.evaluate record = .ok matched := by
  rw [← tree.map_visit above, ran]
  rfl

theorem exists_visit_of_evaluate {matched : Bool} (ran : tree.evaluate record = .ok matched)
    (above : Path) : ∃ visits, tree.visit above record = .ok (matched, visits) := by
  rw [← tree.map_visit above] at ran
  rcases visit_eq : tree.visit above record with error | ⟨own, visits⟩
  · rw [visit_eq] at ran
    cases ran
  · rw [visit_eq] at ran
    cases ran
    exact ⟨visits, rfl⟩

theorem visit_of_evaluate_error {error : RuleError} (failed : tree.evaluate record = .error error)
    (above : Path) : tree.visit above record = .error error := by
  rw [← tree.map_visit above] at failed
  cases visit_eq : tree.visit above record with
  | error own =>
      rw [visit_eq] at failed
      cases failed
      rfl
  | ok result =>
      rw [visit_eq] at failed
      cases failed

theorem evaluate_leaf (condition : Text) (record : Record) :
    (leaf condition).evaluate record = outcomeOf record condition := by
  rw [evaluate_eq_findings, findings, ← map_evaluateLeaf]
  cases evaluateLeaf condition record <;> rfl

theorem evaluate_node (connective : Connective) (left right : Tree) (record : Record) :
    (node connective left right).evaluate record =
      match left.evaluate record with
      | .error error => .error error
      | .ok matched =>
          if connective.decidedBy matched then .ok matched else right.evaluate record := by
  simp only [evaluate_eq_findings, findings]
  rcases left.findings record with error | ⟨matched, conditions⟩
  · rfl
  · dsimp only [Except.map]
    cases connective.decidedBy matched with
    | true => rfl
    | false => rcases right.findings record with error | ⟨_, _⟩ <;> rfl

/-- If no leaf fails, the verdict is the truth value of the tree. -/
theorem evaluate_eq_truth {value : Text → Bool}
    (valued : ∀ condition ∈ tree.leaves, outcomeOf record condition = .ok (value condition)) :
    tree.evaluate record = .ok (tree.truth value) := by
  induction tree with
  | leaf condition =>
      rw [evaluate_leaf, truth]
      exact valued condition (List.mem_singleton_self condition)
  | node connective left right left_induction right_induction =>
      rw [leaves_node, List.forall_mem_append] at valued
      rw [evaluate_node, left_induction valued.1, right_induction valued.2]
      dsimp only
      cases connective <;> rw [truth] <;> cases left.truth value <;> rfl

/-- A node has a verdict if its left side decides it, or else its right side has one. -/
theorem evaluate_node_eq_ok_iff {matched : Bool} :
    (node connective left right).evaluate record = .ok matched ↔
      (left.evaluate record = .ok matched ∧ connective.decidedBy matched = true) ∨
        ∃ leftMatched, left.evaluate record = .ok leftMatched ∧
          connective.decidedBy leftMatched = false ∧ right.evaluate record = .ok matched := by
  rw [evaluate_node]
  cases left.evaluate record with
  | error error => simp
  | ok leftMatched => cases decides : connective.decidedBy leftMatched <;> grind

/-- A node fails if its left side does, or else its right side where the left one does not decide.
-/
theorem evaluate_node_eq_error_iff {error : RuleError} :
    (node connective left right).evaluate record = .error error ↔
      left.evaluate record = .error error ∨
        ∃ leftMatched, left.evaluate record = .ok leftMatched ∧
          connective.decidedBy leftMatched = false ∧ right.evaluate record = .error error := by
  rw [evaluate_node]
  cases left.evaluate record with
  | error error => simp
  | ok leftMatched => cases decides : connective.decidedBy leftMatched <;> grind

/-! ## Leaves that are visited -/

theorem exists_outcome_of_evaluate {matched : Bool} (ran : tree.evaluate record = .ok matched)
    {condition : Text} (has : tree.HasLeaf path condition) (visited : ¬tree.IsSkipped record path) :
    ∃ outcome, outcomeOf record condition = .ok outcome := by
  induction tree generalizing path matched with
  | leaf own =>
      obtain ⟨rfl, rfl⟩ := hasLeaf_leaf.mp has
      exact ⟨matched, by rw [← evaluate_leaf, ran]⟩
  | node connective left right left_induction right_induction =>
      rcases has.cases_node with ⟨below, rfl, has_left⟩ | ⟨below, rfl, has_right⟩
      · rw [isSkipped_left] at visited
        rcases evaluate_node_eq_ok_iff.mp ran with ⟨left_ran, _⟩ | ⟨_, left_ran, _, _⟩
        · exact left_induction left_ran has_left visited
        · exact left_induction left_ran has_left visited
      · rw [isSkipped_right, not_or] at visited
        rcases evaluate_node_eq_ok_iff.mp ran with decided | ⟨_, _, _, right_ran⟩
        · exact absurd ⟨matched, decided⟩ visited.1
        · exact right_induction right_ran has_right visited.2

theorem visit_leaf_eq_ok {condition : Text} {above : Path} {matched : Bool} {visits : List Visit}
    (ran : (leaf condition).visit above record = .ok (matched, visits)) :
    ∃ comparison, Comparison.ofText condition = .ok comparison ∧
      comparison.holds (record.get? comparison.field) = .ok matched ∧
      visits = [.condition above comparison (record.get? comparison.field) matched] := by
  rw [visit] at ran
  cases result : evaluateLeaf condition record with
  | error error =>
      rw [result] at ran
      cases ran
  | ok found =>
      obtain ⟨outcome, comparison, value⟩ := found
      obtain ⟨read, rfl, held⟩ := evaluateLeaf_eq_ok result
      rw [result] at ran
      cases ran
      exact ⟨comparison, read, held, rfl⟩

/-- Evaluating a node visits its left side and, where this does not decide it, its right side. -/
theorem visit_node_eq_ok {above : Path} {matched : Bool} {visits : List Visit}
    (ran : (node connective left right).visit above record = .ok (matched, visits)) :
    ∃ leftMatched leftVisits,
      left.visit (above ++ [.left]) record = .ok (leftMatched, leftVisits) ∧
        ((connective.decidedBy leftMatched = true ∧ matched = leftMatched ∧
            visits = leftVisits ++ [.skip above connective]) ∨
          (connective.decidedBy leftMatched = false ∧ ∃ rightVisits,
            right.visit (above ++ [.right]) record = .ok (matched, rightVisits) ∧
              visits = leftVisits ++ rightVisits)) := by
  rw [visit] at ran
  generalize left.visit (above ++ [.left]) record = left_visit at ran ⊢
  generalize right.visit (above ++ [.right]) record = right_visit at ran ⊢
  rcases left_visit with error | ⟨leftMatched, leftVisits⟩
  · cases ran
  · refine ⟨leftMatched, leftVisits, rfl, ?_⟩
    dsimp only at ran
    cases decides : connective.decidedBy leftMatched with
    | true =>
        rw [if_pos decides] at ran
        cases ran
        exact .inl ⟨rfl, rfl, rfl⟩
    | false =>
        rw [if_neg (by simp [decides])] at ran
        rcases right_visit with error | ⟨rightMatched, rightVisits⟩
        · cases ran
        · cases ran
          exact .inr ⟨rfl, rightVisits, rfl, rfl⟩

theorem mem_visits_iff {above : Path} {matched : Bool} {visits : List Visit}
    (ran : tree.visit above record = .ok (matched, visits)) :
    (∃ comparison value verdict, Visit.condition path comparison value verdict ∈ visits) ↔
      ∃ below condition, path = above ++ below ∧ tree.HasLeaf below condition ∧
        ¬tree.IsSkipped record below := by
  induction tree generalizing above matched visits with
  | leaf own =>
      obtain ⟨comparison, _, _, rfl⟩ := visit_leaf_eq_ok ran
      constructor
      · rintro ⟨_, _, _, member⟩
        cases List.mem_singleton.mp member
        exact ⟨[], own, (List.append_nil _).symm, rfl, not_isSkipped_leaf⟩
      · rintro ⟨below, condition, rfl, has, _⟩
        obtain ⟨rfl, rfl⟩ := hasLeaf_leaf.mp has
        rw [List.append_nil]
        exact ⟨comparison, _, matched, List.mem_singleton_self _⟩
  | node connective left right left_induction right_induction =>
      obtain ⟨leftMatched, leftVisits, left_ran, rest⟩ := visit_node_eq_ok ran
      have left_iff := left_induction left_ran
      rcases rest with ⟨decided, rfl, rfl⟩ | ⟨undecided, rightVisits, right_ran, rfl⟩
      · have only_left :
            (∃ comparison value verdict, Visit.condition path comparison value verdict ∈
              leftVisits ++ [.skip above connective]) ↔
            ∃ comparison value verdict, .condition path comparison value verdict ∈ leftVisits := by
          simp
        rw [only_left, left_iff]
        constructor
        · rintro ⟨below, condition, rfl, has, visited⟩
          exact ⟨.left :: below, condition, by simp, has, mt isSkipped_left.mp visited⟩
        · rintro ⟨below, condition, rfl, has, visited⟩
          rcases has.cases_node with ⟨below, rfl, has⟩ | ⟨below, rfl, has⟩
          · exact ⟨below, condition, by simp, has, mt isSkipped_left.mpr visited⟩
          · exact absurd (isSkipped_right_of_decided (evaluate_of_visit left_ran) decided) visited
      · simp only [List.mem_append, exists_or, left_iff, right_induction right_ran]
        constructor
        · rintro (⟨below, condition, rfl, has, visited⟩ | ⟨below, condition, rfl, has, visited⟩)
          · exact ⟨.left :: below, condition, by simp, has, mt isSkipped_left.mp visited⟩
          · exact ⟨.right :: below, condition, by simp, has,
              mt (isSkipped_right_of_undecided (evaluate_of_visit left_ran) undecided).mp visited⟩
        · rintro ⟨below, condition, rfl, has, visited⟩
          rcases has.cases_node with ⟨below, rfl, has⟩ | ⟨below, rfl, has⟩
          · exact .inl ⟨below, condition, by simp, has, mt isSkipped_left.mpr visited⟩
          · exact .inr ⟨below, condition, by simp, has,
              mt (isSkipped_right_of_undecided (evaluate_of_visit left_ran) undecided).mpr visited⟩

theorem visit_relabel {above : Path} {conditionAt : Path → Text} {matched : Bool}
    {visits : List Visit} (ran : tree.visit above record = .ok (matched, visits))
    (kept : ∀ path condition, tree.HasLeaf path condition → ¬tree.IsSkipped record path →
      conditionAt path = condition) :
    (tree.relabel conditionAt).visit above record = .ok (matched, visits) := by
  induction tree generalizing above conditionAt matched visits with
  | leaf own =>
      rw [relabel, kept [] own rfl not_isSkipped_leaf]
      exact ran
  | node connective left right left_induction right_induction =>
      obtain ⟨leftMatched, leftVisits, left_ran, rest⟩ := visit_node_eq_ok ran
      have left_kept := left_induction left_ran fun path condition has visited =>
        kept (.left :: path) condition (hasLeaf_left.mpr has) (mt isSkipped_left.mp visited)
      rw [relabel, visit, left_kept]
      dsimp only
      rcases rest with ⟨decided, rfl, rfl⟩ | ⟨undecided, rightVisits, right_ran, rfl⟩
      · rw [if_pos decided]
      · have right_kept := right_induction right_ran fun path condition has visited => by
          refine kept (.right :: path) condition (hasLeaf_right.mpr has) ?_
          rwa [isSkipped_right_of_undecided (evaluate_of_visit left_ran) undecided]
        rw [if_neg (by simp [undecided]), right_kept]

/-! ## The leaves that are reached -/

/-- Whether an evaluation reaches the leaf at a path: it is not skipped, and no leaf to its left
ends the evaluation. -/
structure IsReached (record : Record) (tree : Tree) (path : Path) : Prop where
  visited : ¬tree.IsSkipped record path
  earlier : ∀ other condition, tree.HasLeaf other condition → other.IsLeftOf path →
    tree.IsSkipped record other ∨ ∃ outcome, outcomeOf record condition = .ok outcome

theorem isReached_leaf {condition : Text} : (leaf condition).IsReached record [] where
  visited := not_isSkipped_leaf
  earlier := by
    rintro _ _ _ ⟨above, _, _, _, path_eq⟩
    cases above <;> cases path_eq

theorem isReached_left :
    (node connective left right).IsReached record (.left :: path) ↔ left.IsReached record path := by
  constructor
  · rintro ⟨visited, earlier⟩
    refine ⟨mt isSkipped_left.mpr visited, fun other condition has before => ?_⟩
    rw [← isSkipped_left]
    exact earlier (.left :: other) condition has (Path.isLeftOf_cons.mpr before)
  · rintro ⟨visited, earlier⟩
    refine ⟨mt isSkipped_left.mp visited, fun other condition has before => ?_⟩
    rcases has.cases_node with ⟨below, rfl, has_left⟩ | ⟨below, rfl, has_right⟩
    · rw [isSkipped_left]
      exact earlier below condition has_left (Path.isLeftOf_cons.mp before)
    · exact absurd before (Path.not_right_isLeftOf_left _ _)

/-- A leaf on the right side is reached if the left side has a verdict that does not decide. -/
theorem IsReached.of_right {matched : Bool} (reached : right.IsReached record path)
    (left_ran : left.evaluate record = .ok matched)
    (undecided : connective.decidedBy matched = false) :
    (node connective left right).IsReached record (.right :: path) where
  visited := mt (isSkipped_right_of_undecided left_ran undecided).mp reached.visited
  earlier other condition has before := by
    rcases has.cases_node with ⟨below, rfl, has_left⟩ | ⟨below, rfl, has_right⟩
    · rw [isSkipped_left]
      exact (Classical.em _).imp_right (exists_outcome_of_evaluate left_ran has_left)
    · rw [isSkipped_right_of_undecided left_ran undecided]
      exact reached.earlier below condition has_right (Path.isLeftOf_cons.mp before)

theorem isReached_iff_of_evaluate {matched : Bool} (ran : tree.evaluate record = .ok matched) :
    tree.IsReached record path ↔ ¬tree.IsSkipped record path :=
  ⟨IsReached.visited, fun visited => ⟨visited, fun _ _ has _ =>
    (Classical.em _).imp_right (exists_outcome_of_evaluate ran has)⟩⟩

/-! ## The first leaf that fails -/

/-- Whether the leaf at a path is the first one that fails: it is not skipped, and every leaf to its
left is skipped or has an outcome. -/
structure FailsFirst (record : Record) (tree : Tree) (path : Path) (error : RuleError) : Prop where
  fails : ∃ condition, tree.HasLeaf path condition ∧ outcomeOf record condition = .error error
  visited : ¬tree.IsSkipped record path
  earlier : ∀ other condition, tree.HasLeaf other condition → other.IsLeftOf path →
    tree.IsSkipped record other ∨ ∃ outcome, outcomeOf record condition = .ok outcome

variable {error : RuleError}

theorem failsFirst_iff :
    tree.FailsFirst record path error ↔
      (∃ condition, tree.HasLeaf path condition ∧ outcomeOf record condition = .error error) ∧
        tree.IsReached record path :=
  ⟨fun ⟨fails, visited, earlier⟩ => ⟨fails, visited, earlier⟩,
    fun ⟨fails, visited, earlier⟩ => ⟨fails, visited, earlier⟩⟩

theorem failsFirst_left :
    (node connective left right).FailsFirst record (.left :: path) error ↔
      left.FailsFirst record path error := by
  rw [failsFirst_iff, failsFirst_iff, isReached_left]
  rfl

/-- A leaf on the right side fails first if the left side has a verdict that does not decide. -/
theorem FailsFirst.of_right {matched : Bool} (first : right.FailsFirst record path error)
    (left_ran : left.evaluate record = .ok matched)
    (undecided : connective.decidedBy matched = false) :
    (node connective left right).FailsFirst record (.right :: path) error :=
  failsFirst_iff.mpr
    ⟨first.fails, (failsFirst_iff.mp first).2.of_right left_ran undecided⟩

/-- An evaluation that fails has the error of the first leaf that fails. -/
theorem exists_failsFirst (failed : tree.evaluate record = .error error) :
    ∃ path, tree.FailsFirst record path error := by
  induction tree with
  | leaf condition =>
      rw [evaluate_leaf] at failed
      exact ⟨[], failsFirst_iff.mpr ⟨⟨condition, rfl, failed⟩, isReached_leaf⟩⟩
  | node connective left right left_induction right_induction =>
      rcases evaluate_node_eq_error_iff.mp failed with
        left_failed | ⟨matched, left_ran, undecided, right_failed⟩
      · obtain ⟨path, first⟩ := left_induction left_failed
        exact ⟨.left :: path, failsFirst_left.mpr first⟩
      · obtain ⟨path, first⟩ := right_induction right_failed
        exact ⟨.right :: path, first.of_right left_ran undecided⟩

/-- If a leaf on the right side fails first, the left side has a verdict that does not decide. -/
theorem FailsFirst.cases_right
    (first : (node connective left right).FailsFirst record (.right :: path) error) :
    (∃ matched, left.evaluate record = .ok matched ∧ connective.decidedBy matched = false) ∧
      right.FailsFirst record path error := by
  obtain ⟨fails, visited, earlier⟩ := first
  cases left_ran : left.evaluate record with
  | error error =>
      obtain ⟨other, ⟨condition, has, refused⟩, other_visited, _⟩ := exists_failsFirst left_ran
      rcases earlier (.left :: other) condition has (Path.left_isLeftOf_right _ _) with
        skipped | ⟨outcome, outcome_eq⟩
      · exact absurd (isSkipped_left.mp skipped) other_visited
      · rw [refused] at outcome_eq
        cases outcome_eq
  | ok matched =>
      have undecided : connective.decidedBy matched = false := by
        rw [← Bool.not_eq_true]
        exact fun decided => visited (isSkipped_right_of_decided left_ran decided)
      refine ⟨⟨matched, rfl, undecided⟩, fails, ?_, fun other condition has before => ?_⟩
      · exact mt (isSkipped_right_of_undecided left_ran undecided).mpr visited
      · rw [← isSkipped_right_of_undecided left_ran undecided]
        exact earlier (.right :: other) condition has (Path.isLeftOf_cons.mpr before)

/-- Other conditions at the leaves after the first one that fails do not count. -/
theorem FailsFirst.visit_relabel {conditionAt : Path → Text}
    (first : tree.FailsFirst record path error)
    (kept : ∀ other condition, tree.HasLeaf other condition → ¬path.IsLeftOf other →
      conditionAt other = condition) (above : Path) :
    (tree.relabel conditionAt).visit above record = .error error := by
  obtain ⟨condition, has, refused⟩ := first.fails
  induction tree generalizing path conditionAt above with
  | leaf own =>
      obtain ⟨rfl, rfl⟩ := hasLeaf_leaf.mp has
      rw [relabel, kept [] condition has fun ⟨_, _, _, path_eq, _⟩ => by simp at path_eq]
      exact visit_of_evaluate_error (by rw [evaluate_leaf, refused]) above
  | node connective left right left_induction right_induction =>
      rw [relabel, visit]
      rcases has.cases_node with ⟨below, rfl, has_left⟩ | ⟨below, rfl, has_right⟩
      · rw [left_induction (failsFirst_left.mp first) (fun other condition has after =>
          kept (.left :: other) condition has (mt Path.isLeftOf_cons.mp after)) _ has_left]
      · obtain ⟨⟨matched, left_ran, undecided⟩, right_first⟩ := first.cases_right
        obtain ⟨visits, left_visit⟩ := exists_visit_of_evaluate left_ran (above ++ [.left])
        rw [Tree.visit_relabel left_visit fun other condition has _ =>
          kept (.left :: other) condition has (Path.not_right_isLeftOf_left _ _)]
        dsimp only
        rw [if_neg (by simp [undecided]),
          right_induction right_first (fun other condition has after =>
            kept (.right :: other) condition has (mt Path.isLeftOf_cons.mp after)) _ has_right]

/-! ## Whole evaluations -/

variable {traced : Bool}

theorem execute_congr {other : Tree} (same : other.visit [] record = tree.visit [] record) :
    other.execute traced record = tree.execute traced record := by
  rw [execute, execute, same]

/-- The conditions that matched and the trace are views of the same visits. -/
theorem exists_visits_of_execute {evaluation : Evaluation}
    (ran : tree.execute traced record = .ok evaluation) :
    ∃ visits, tree.visit [] record = .ok (evaluation.matched, visits) ∧
      evaluation.conditions = visits.filterMap Visit.matchedCondition? ∧
      evaluation.trace = if traced then visits.map Visit.line else [] := by
  rw [execute] at ran
  generalize tree.visit [] record = result at ran ⊢
  rcases result with error | ⟨matched, visits⟩ <;> cases ran
  exact ⟨visits, rfl, rfl, rfl⟩

theorem evaluate_of_execute_error (failed : tree.execute traced record = .error error) :
    tree.evaluate record = .error error := by
  rw [← tree.map_visit []]
  rw [execute] at failed
  generalize tree.visit [] record = result at failed ⊢
  rcases result with own | ⟨matched, visits⟩ <;> cases failed
  rfl

theorem exists_execute_of_evaluate {matched : Bool} (ran : tree.evaluate record = .ok matched) :
    ∃ evaluation, tree.execute traced record = .ok evaluation ∧ evaluation.matched = matched := by
  obtain ⟨visits, visit_eq⟩ := exists_visit_of_evaluate ran []
  rw [execute, visit_eq]
  exact ⟨_, rfl, rfl⟩

/-- Evaluation is logic, with the error of the first leaf that fails.

If every leaf has a truth value, a tree evaluates to the truth value of its formula.  If an
evaluation has a result, it visits the leaves that are not skipped, each of which has an outcome,
and other conditions at the skipped leaves give the same result.  If an evaluation fails, it does so
with the error of the first leaf that fails, and other conditions to the right of that leaf give the
same error. -/
theorem evaluation_is_logic (tree : Tree) (record : Record) (traced : Bool) :
    (∀ value, (∀ condition ∈ tree.leaves, outcomeOf record condition = .ok (value condition)) →
      ∃ evaluation, tree.execute traced record = .ok evaluation ∧
        evaluation.matched = tree.truth value) ∧
    (∀ evaluation, tree.execute traced record = .ok evaluation →
      (∃ visits, tree.visit [] record = .ok (evaluation.matched, visits) ∧
        ∀ path condition, tree.HasLeaf path condition →
          ((∃ comparison field verdict, .condition path comparison field verdict ∈ visits) ↔
            ¬tree.IsSkipped record path)) ∧
      (∀ path condition, tree.HasLeaf path condition → ¬tree.IsSkipped record path →
        ∃ outcome, outcomeOf record condition = .ok outcome) ∧
      ∀ conditionAt, (∀ path condition, tree.HasLeaf path condition →
          ¬tree.IsSkipped record path → conditionAt path = condition) →
        (tree.relabel conditionAt).execute traced record = .ok evaluation) ∧
    (∀ error, tree.execute traced record = .error error →
      ∃ path, tree.FailsFirst record path error ∧
        ∀ conditionAt, (∀ other condition, tree.HasLeaf other condition →
            ¬path.IsLeftOf other → conditionAt other = condition) →
          (tree.relabel conditionAt).execute traced record = .error error) := by
  refine ⟨fun value valued => exists_execute_of_evaluate (evaluate_eq_truth valued),
    fun evaluation ran => ?_, fun error failed => ?_⟩
  · obtain ⟨visits, visit_eq, _⟩ := exists_visits_of_execute ran
    refine ⟨⟨visits, visit_eq, fun path condition has => ?_⟩,
      fun path condition => exists_outcome_of_evaluate (evaluate_of_visit visit_eq),
      fun conditionAt kept => ?_⟩
    · rw [mem_visits_iff visit_eq]
      constructor
      · rintro ⟨_, _, rfl, _, visited⟩
        exact visited
      · exact fun visited => ⟨path, condition, rfl, has, visited⟩
    · rw [← ran]
      exact execute_congr ((visit_relabel visit_eq kept).trans visit_eq.symm)
  · have evaluate_failed := evaluate_of_execute_error failed
    obtain ⟨path, first⟩ := exists_failsFirst evaluate_failed
    refine ⟨path, first, fun conditionAt kept => ?_⟩
    rw [← failed]
    exact execute_congr
      ((first.visit_relabel kept []).trans (visit_of_evaluate_error evaluate_failed []).symm)

/-- A disjunction whose left side holds skips a condition that cannot be read.  If the left side of
a conjunction fails, its right side does not count. -/
theorem evaluation_is_logic_beside_malformed_condition :
    let record : Record := [("a".toList, .number (.integer 5))]
    let five := "a = 5".toList
    let disjunction := node .or (leaf five) (leaf "a".toList)
    let failing := node .and (leaf "a > x".toList) (leaf five)
    let error := RuleError.typeMismatch "a".toList .string .number
    (∃ evaluation, (node .and (leaf five) (leaf "a > 7".toList)).execute true record =
      .ok evaluation ∧ evaluation.matched = false) ∧
    (∃ evaluation, disjunction.execute true record = .ok evaluation ∧
      (node .or (leaf five) (leaf "b > 1".toList)).execute true record = .ok evaluation) ∧
    failing.execute true record = .error error ∧
    (node .and (leaf "a > x".toList) (leaf [])).execute true record = .error error := by
  intro record five disjunction failing error
  have five_holds : outcomeOf record five = .ok true := rfl
  have failed : failing.execute true record = .error error := rfl
  refine ⟨?_, ?_, failed, ?_⟩
  · refine (evaluation_is_logic _ record true).1 (fun condition => condition = five) ?_
    have both : ∀ condition ∈ [five, "a > 7".toList],
        outcomeOf record condition = .ok (decide (condition = five)) := by
      rw [List.forall_mem_cons, List.forall_mem_singleton, five_holds, decide_eq_true rfl]
      exact ⟨rfl, rfl⟩
    exact both
  · have matched : disjunction.evaluate record = .ok true := rfl
    have ⟨evaluation, ran, _⟩ :
        ∃ evaluation, disjunction.execute true record = .ok evaluation ∧ _ :=
      exists_execute_of_evaluate matched
    refine ⟨evaluation, ran, ((evaluation_is_logic disjunction record true).2.1 _ ran).2.2
      (fun path => if path = [.left] then five else "b > 1".toList) ?_⟩
    intro path condition has visited
    rcases has.cases_node with ⟨below, rfl, has_left⟩ | ⟨below, rfl, has_right⟩
    · obtain ⟨rfl, rfl⟩ := hasLeaf_leaf.mp has_left
      rfl
    · exact absurd (isSkipped_right_of_decided (by rw [evaluate_leaf, five_holds]) rfl) visited
  · obtain ⟨path, first, kept⟩ := (evaluation_is_logic failing record true).2.2 error failed
    refine kept (fun path => if path = [.left] then "a > x".toList else []) ?_
    obtain ⟨condition, has, refused⟩ := first.fails
    rcases has.cases_node with ⟨below, rfl, has_left⟩ | ⟨below, rfl, has_right⟩
    · intro other condition has after
      rcases has.cases_node with ⟨below, rfl, has_left⟩ | ⟨below, rfl, has_right⟩
      · obtain ⟨rfl, rfl⟩ := hasLeaf_leaf.mp has_left
        rfl
      · exact absurd (Path.left_isLeftOf_right _ _) after
    · obtain ⟨rfl, rfl⟩ := hasLeaf_leaf.mp has_right
      rw [five_holds] at refused
      cases refused

end Tree

end Rulebook
