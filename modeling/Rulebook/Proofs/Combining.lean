import Rulebook.Proofs.Parsing
import Rulebook.Proofs.Tokens

/-!
# Combined rules

What is combined is the conjunction of the rules, nested to the right.  Its depth is the one that
is reckoned before it is built, its leaves are those of the rules in order, and the grammar derives
it from the combined text.
-/

namespace Rulebook

namespace Tree

theorem leavesOnto_eq (tree : Tree) (rest : List Text) :
    tree.leavesOnto rest = tree.leaves ++ rest := by
  rw [leaves]
  induction tree generalizing rest with
  | leaf condition => rfl
  | node connective left right left_induction right_induction =>
      rw [leavesOnto, leavesOnto, left_induction (right.leavesOnto rest), right_induction rest,
        left_induction (right.leavesOnto []), List.append_assoc]

theorem leaves_node (connective : Connective) (left right : Tree) :
    (node connective left right).leaves = left.leaves ++ right.leaves := by
  rw [leaves, leavesOnto, leavesOnto_eq, leavesOnto_eq, List.append_nil]

/-- The conjunction of a tree with others after it, nested to the right. -/
def conjunction (first : Tree) : List Tree → Tree
  | [] => first
  | next :: rest => .node .and first (next.conjunction rest)

theorem depth_conjunction_cons (first next : Tree) (rest : List Tree) :
    (first.conjunction (next :: rest)).depth = 1 + max first.depth (next.conjunction rest).depth :=
  rfl

theorem leaves_conjunction (first : Tree) (rest : List Tree) :
    (first.conjunction rest).leaves = (first :: rest).flatMap leaves := by
  induction rest generalizing first with
  | nil => simp [conjunction]
  | cons next rest induction =>
      rw [conjunction, leaves_node, induction, ← List.flatMap_cons]

theorem isComparable_leaf {condition : Text} :
    (leaf condition).IsComparable ↔ ∃ comparison, Comparison.ofText condition = .ok comparison := by
  rw [IsComparable, leaves, leavesOnto, List.forall_mem_singleton]

theorem isComparable_node {connective : Connective} {left right : Tree} :
    (node connective left right).IsComparable ↔ left.IsComparable ∧ right.IsComparable := by
  simp only [IsComparable, leaves_node, List.mem_append, or_imp, forall_and]

theorem isComparable_conjunction {first : Tree} {rest : List Tree} :
    (first.conjunction rest).IsComparable ↔ ∀ tree ∈ first :: rest, tree.IsComparable := by
  simp only [IsComparable, leaves_conjunction, List.mem_flatMap]
  constructor
  · intro comparable tree member condition leaf
    exact comparable condition ⟨tree, member, leaf⟩
  · rintro comparable condition ⟨tree, member, leaf⟩
    exact comparable tree member condition leaf

end Tree

namespace Rule

theorem ofText_leaf {text : Text} {comparison : Comparison}
    (built : Tree.ofText text = .ok (.leaf text)) (read : Comparison.ofText text = .ok comparison) :
    ofText text = .ok ⟨text, .leaf text⟩ :=
  ofText_eq_ok_iff.mpr
    ⟨rfl, Tree.ofRule_eq_ok_iff.mpr ⟨built, Tree.isComparable_leaf.mpr ⟨comparison, read⟩⟩⟩

private theorem foldl_max (depths : List Nat) (least : Nat) :
    depths.foldl max least = max least (depths.foldl max 0) := by
  induction depths generalizing least with
  | nil => simp
  | cons depth depths induction =>
      rw [List.foldl_cons, List.foldl_cons, induction, induction (max 0 depth)]
      omega

/-- The reckoning of the depth, for trees of which the first one has some nodes above it. -/
private theorem foldl_zipIdx_depth (first second : Tree) (rest : List Tree) (above last : Nat)
    (last_eq : last = above + rest.length) :
    ((((first :: second :: rest).map Tree.depth).zipIdx above).map
        fun (depth, i) => min i last + 1 + depth).foldl max 0 =
      above + (first.conjunction (second :: rest)).depth := by
  induction rest generalizing first second above with
  | nil =>
      simp only [List.map_cons, List.map_nil, List.zipIdx_cons, List.zipIdx_nil, List.foldl_cons,
        List.foldl_nil, Tree.conjunction, Tree.depth, List.length_nil] at last_eq ⊢
      omega
  | cons third rest induction =>
      have deeper := induction second third (above + 1) (by rw [last_eq, List.length_cons]; omega)
      rw [List.map_cons, List.zipIdx_cons, List.map_cons, List.foldl_cons, foldl_max, deeper,
        Tree.depth_conjunction_cons first]
      rw [List.length_cons] at last_eq
      dsimp only
      omega

/-- The depth that is reckoned is the depth of the conjunction. -/
theorem combinedDepth_eq (first second : Tree) (rest : List Tree) :
    combinedDepth ((first :: second :: rest).map Tree.depth) =
      (first.conjunction (second :: rest)).depth := by
  have reckoned := foldl_zipIdx_depth first second rest 0 rest.length (Nat.zero_add _).symm
  rw [Nat.zero_add] at reckoned
  rw [combinedDepth, ← reckoned]
  simp

/-- The last two trees lie side by side. -/
example : combinedDepth [1, 1, 4] = 6 ∧ combinedDepth [1, 4, 1] = 6 := by decide

theorem combinedDepth_rules (first second : Rule) (rest : List Rule) :
    combinedDepth ((first :: second :: rest).map (·.tree.depth)) =
      (first.tree.conjunction ((second :: rest).map tree)).depth := by
  have depths : (first :: second :: rest).map (·.tree.depth) =
      (first.tree :: second.tree :: rest.map tree).map Tree.depth := by
    simp only [List.map_cons, List.map_map, Function.comp_def]
  rw [depths, combinedDepth_eq, List.map_cons]

theorem chain_append_singleton (last tree : Tree) (before : List Tree) :
    chain last (before ++ [tree]) = .node .and tree (chain last before) := by
  induction before generalizing last with
  | nil => rfl
  | cons next before induction => exact induction (.node .and next last)

theorem chain_eq_conjunction {first last : Tree} {rest before : List Tree}
    (reversed : (first :: rest).reverse = last :: before) :
    chain last before = first.conjunction rest := by
  induction rest generalizing first before with
  | nil =>
      cases reversed
      rfl
  | cons next rest induction =>
      rw [List.reverse_cons] at reversed
      cases inner : (next :: rest).reverse with
      | nil => simp at inner
      | cons head tail =>
          rw [inner, List.cons_append] at reversed
          cases reversed
          rw [chain_append_singleton, Tree.conjunction, induction inner]

/-- The parts of a combined text, with `AND` between them. -/
def conjunctionText (rules : List Rule) : Text :=
  Text.join " AND ".toList (rules.map part)

theorem conjunctionText_singleton (rule : Rule) : conjunctionText [rule] = rule.part := by
  simp [conjunctionText, Text.join]

theorem conjunctionText_cons_cons (first next : Rule) (rest : List Rule) :
    conjunctionText (first :: next :: rest) =
      first.part ++ " AND ".toList ++ conjunctionText (next :: rest) := by
  simp [conjunctionText, Text.join]

theorem combine_cons_cons (first second : Rule) (rest : List Rule) :
    combine (first :: second :: rest) =
      if Tree.maxDepth < (first.tree.conjunction ((second :: rest).map tree)).depth then
        .error (.treeTooDeep (first.tree.conjunction ((second :: rest).map tree)).depth)
      else
        .ok ⟨conjunctionText (first :: second :: rest),
          first.tree.conjunction ((second :: rest).map tree)⟩ := by
  obtain ⟨last, before, reversed⟩ : ∃ last before,
      ((first :: second :: rest).map tree).reverse = last :: before :=
    List.exists_cons_of_ne_nil (by simp)
  rw [combine, combinedDepth_rules, reversed]
  · rw [← chain_eq_conjunction reversed]
    rfl
  · simp
  · simp

/-- A rule can be combined with itself if there is room for one more node. -/
theorem combine_twice {rule : Rule} (fits : rule.tree.depth < Tree.maxDepth) :
    combine [rule, rule] =
      .ok ⟨conjunctionText [rule, rule], .node .and rule.tree rule.tree⟩ := by
  rw [combine_cons_cons, if_neg]
  · rfl
  · rw [List.map_singleton, Tree.conjunction, Tree.conjunction, Tree.depth]
    omega

theorem combine_cases {rules : List Rule} {combined : Rule}
    (combination : combine rules = .ok combined) :
    rules = [combined] ∨
      ∃ first second rest, rules = first :: second :: rest ∧
        combined = ⟨conjunctionText rules, first.tree.conjunction ((second :: rest).map tree)⟩ ∧
        combined.tree.depth ≤ Tree.maxDepth := by
  match rules with
  | [] => cases combination
  | [rule] =>
      cases combination
      exact .inl rfl
  | first :: second :: rest =>
      rw [combine_cons_cons] at combination
      split at combination
      · cases combination
      · next fits =>
        cases combination
        exact .inr ⟨first, second, rest, rfl, rfl, Nat.le_of_not_lt fits⟩

theorem derives_part {rule : Rule}
    (derivation : Derives .disjunction (Token.ofText rule.text) rule.tree) :
    Derives .primary (Token.ofText rule.part) rule.tree := by
  obtain ⟨text, tree⟩ := rule
  rw [ofText_part]
  dsimp only at derivation ⊢
  generalize Token.ofText text = tokens at derivation ⊢
  cases tree with
  | node connective left right => exact .group derivation
  | leaf condition =>
      cases derivation with
      | conjunction derivation =>
          cases derivation with
          | primary derivation => exact derivation

/-- A part nests one level deeper than the rule if it is put in parentheses. -/
theorem nesting_part {rule : Rule}
    (derivation : Derives .disjunction (Token.ofText rule.text) rule.tree) :
    Token.nesting (Token.ofText rule.part) =
      Token.nesting (Token.ofText rule.text) + if rule.tree.isNode then 1 else 0 := by
  rw [ofText_part]
  split
  · exact derivation.nesting_group
  · rfl

theorem derives_conjunctionText (first : Rule) (rest : List Rule)
    (derivations : ∀ rule ∈ first :: rest,
      Derives .disjunction (Token.ofText rule.text) rule.tree) :
    Derives .conjunction (Token.ofText (conjunctionText (first :: rest)))
      (first.tree.conjunction (rest.map tree)) := by
  induction rest generalizing first with
  | nil =>
      rw [conjunctionText_singleton]
      exact .primary (derives_part (derivations first (List.mem_singleton_self _)))
  | cons next rest induction =>
      rw [List.forall_mem_cons] at derivations
      rw [conjunctionText_cons_cons, Token.ofText_conjunction]
      exact .and (derives_part derivations.1) (induction next derivations.2)

/-- The parentheses of a combined text nest as deeply as those of its deepest part. -/
theorem nesting_conjunctionText_le_iff {rules : List Rule} (bound : Nat) (some_rule : rules ≠ [])
    (derivations : ∀ rule ∈ rules, Derives .disjunction (Token.ofText rule.text) rule.tree) :
    Token.nesting (Token.ofText (conjunctionText rules)) ≤ bound ↔
      ∀ rule ∈ rules, Token.nesting (Token.ofText rule.part) ≤ bound := by
  induction rules with
  | nil => exact absurd rfl some_rule
  | cons first rest induction =>
      rw [List.forall_mem_cons] at derivations ⊢
      cases rest with
      | nil => simp [conjunctionText_singleton]
      | cons next rest =>
          have part_nesting := (derives_part derivations.1).nestingFrom_append 0
            (.connective .and :: Token.ofText (conjunctionText (next :: rest)))
          rw [← induction (List.cons_ne_nil _ _) derivations.2, conjunctionText_cons_cons,
            Token.ofText_conjunction, Token.nesting, part_nesting]
          simp only [Token.nestingFrom, Token.nesting]
          omega

/-- If the grammar derives every rule from its text, so it does their combination. -/
theorem derives_combine {rules : List Rule} {combined : Rule}
    (combination : combine rules = .ok combined)
    (derivations : ∀ rule ∈ rules, Derives .disjunction (Token.ofText rule.text) rule.tree) :
    Derives .disjunction (Token.ofText combined.text) combined.tree := by
  rcases combine_cases combination with rfl | ⟨first, second, rest, rfl, rfl, _⟩
  · exact derivations combined (List.mem_singleton_self _)
  · exact .conjunction (derives_conjunctionText first (second :: rest) derivations)

theorem isComparable_combine {rules : List Rule} {combined : Rule}
    (combination : combine rules = .ok combined)
    (comparable : ∀ rule ∈ rules, rule.tree.IsComparable) : combined.tree.IsComparable := by
  rcases combine_cases combination with rfl | ⟨first, second, rest, rfl, rfl, _⟩
  · exact comparable combined (List.mem_singleton_self _)
  · rw [Tree.isComparable_conjunction, ← List.map_cons, List.forall_mem_map]
    exact comparable

theorem depth_combine {rules : List Rule} {combined : Rule}
    (combination : combine rules = .ok combined)
    (fits : ∀ rule ∈ rules, rule.tree.depth ≤ Tree.maxDepth) :
    combined.tree.depth ≤ Tree.maxDepth := by
  rcases combine_cases combination with rfl | ⟨_, _, _, _, _, depth_le⟩
  · exact fits combined (List.mem_singleton_self _)
  · exact depth_le

/-- Whether two rules or more can be combined is decided by the depth of their conjunction, which is
the one that is reckoned before it is built.  If it is beyond the limit, the fault tells it and the
limit; else what is built is that conjunction, and its conditions are those of the rules in order.
-/
theorem combination_has_reckoned_depth (first second : Rule) (rest : List Rule) :
    let rules := first :: second :: rest
    let conjunction := first.tree.conjunction ((second :: rest).map tree)
    combinedDepth (rules.map (·.tree.depth)) = conjunction.depth ∧
    (∀ error, combine rules = .error error ↔
      512 < conjunction.depth ∧ error = .treeTooDeep conjunction.depth) ∧
    (RuleError.treeTooDeep conjunction.depth).message =
      "规则树深度 ".toList ++ Numeral.ofNat conjunction.depth ++ " 超过上限 ".toList ++
        Numeral.ofNat 512 ∧
    (∀ combined, combine rules = .ok combined ↔
      conjunction.depth ≤ 512 ∧ combined = ⟨conjunctionText rules, conjunction⟩) ∧
    conjunction.leaves = rules.flatMap (·.tree.leaves) := by
  intro rules conjunction
  have leaves_eq : conjunction.leaves = rules.flatMap (·.tree.leaves) := by
    rw [Tree.leaves_conjunction, ← List.map_cons, List.flatMap_map]
  have reckoned : combinedDepth (rules.map (·.tree.depth)) = conjunction.depth :=
    combinedDepth_rules first second rest
  have combination : combine rules = if 512 < conjunction.depth then
      .error (.treeTooDeep conjunction.depth) else .ok ⟨conjunctionText rules, conjunction⟩ :=
    combine_cons_cons first second rest
  clear_value conjunction
  rw [combination]
  refine ⟨reckoned, fun error => ?_, rfl, fun combined => ?_, leaves_eq⟩
  · split
    · next deep => simp [deep, eq_comm]
    · next fits => simp [fits]
  · split
    · next deep => simp [Nat.not_le_of_lt deep]
    · next fits => simp [Nat.le_of_not_lt fits, eq_comm]

end Rule

end Rulebook
