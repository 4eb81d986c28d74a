import Rulebook.Proofs.Grammar
import Rulebook.Service

/-!
# Reading rules by their grammar

The trees of texts are those that the grammar derives, as long as neither the parentheses nor the
tree are too deep; the trees of rules are those of them whose leaves are comparisons.
-/

namespace Rulebook

namespace Item

theorem cut?_cases {c : Connective} {items left right : List Item}
    (found : cut? items = some (c, left, right)) :
    (c = .or ∧ items = left ++ .connective .or :: right ∧ .connective .or ∉ left) ∨
      (c = .and ∧ items = left ++ .connective .and :: right ∧ .connective .and ∉ left ∧
        .connective .or ∉ items) := by
  unfold cut? at found
  split at found
  · next cut =>
    cases found
    obtain ⟨split, absent⟩ := cutAt?_eq_some_iff.mp cut
    exact .inl ⟨rfl, split, absent⟩
  · next no_cut =>
    simp only [Option.map_eq_some_iff, Prod.mk.injEq, Prod.exists] at found
    obtain ⟨left', right', cut, rfl, rfl, rfl⟩ := found
    obtain ⟨split, absent⟩ := cutAt?_eq_some_iff.mp cut
    exact .inr ⟨rfl, split, absent, cutAt?_eq_none_iff.mp no_cut⟩

theorem cut?_or {left : List Item} (right : List Item) (absent : .connective .or ∉ left) :
    cut? (left ++ .connective .or :: right) = some (.or, left, right) := by
  rw [cut?, cutAt?_eq_some_iff.mpr ⟨rfl, absent⟩]

theorem cut?_and {left right : List Item} (absent : .connective .and ∉ left)
    (no_or : .connective .or ∉ left ++ .connective .and :: right) :
    cut? (left ++ .connective .and :: right) = some (.and, left, right) := by
  rw [cut?, cutAt?_eq_none_iff.mpr no_or, cutAt?_eq_some_iff.mpr ⟨rfl, absent⟩]
  rfl

theorem cut?_words (words : List Text) : cut? (words.map Item.word) = none := by
  rw [cut?, cutAt?_eq_none_iff.mpr (by simp), cutAt?_eq_none_iff.mpr (by simp)]
  rfl

theorem Reads.conjunction_of_notMem {items : List Item} {tree : Tree}
    (reading : Reads .disjunction items tree) (absent : .connective .or ∉ items) :
    Reads .conjunction items tree := by
  cases reading with
  | conjunction reading => exact reading
  | or _ _ => exact absurd (by simp) absent

theorem Reads.primary_of_notMem {items : List Item} {tree : Tree}
    (reading : Reads .conjunction items tree) (absent : .connective .and ∉ items) :
    Reads .primary items tree := by
  cases reading with
  | primary reading => exact reading
  | and _ _ => exact absurd (by simp) absent

end Item

namespace Tree

theorem depth_pos (tree : Tree) : 0 < tree.depth := by
  cases tree <;> simp only [depth] <;> omega

private theorem reads_node {c : Connective} {items left right : List Item}
    {leftTree rightTree : Tree} (found : Item.cut? items = some (c, left, right))
    (left_reads : Item.Reads .disjunction left leftTree)
    (right_reads : Item.Reads .disjunction right rightTree) :
    Item.Reads .disjunction items (.node c leftTree rightTree) := by
  rcases Item.cut?_cases found with ⟨rfl, rfl, absent⟩ | ⟨rfl, rfl, absent, no_or⟩
  · exact .or (left_reads.conjunction_of_notMem absent) right_reads
  · rw [List.mem_append, List.mem_cons, not_or, not_or] at no_or
    have left_primary := (left_reads.conjunction_of_notMem no_or.1).primary_of_notMem absent
    exact .conjunction (.and left_primary (right_reads.conjunction_of_notMem no_or.2.2))

theorem reads_of_ofItems {level : Nat} {items : List Item} {tree : Tree}
    (built : ofItems level items = .ok tree) :
    Item.Reads .disjunction items tree ∧ level + tree.depth ≤ maxDepth + 1 := by
  fun_induction ofItems level items generalizing tree with
  | case1 => cases built
  | case2 => cases built
  | case3 level _ inner induction =>
      obtain ⟨reading, depth_le⟩ := induction built
      exact ⟨.conjunction (.primary (.group reading)), depth_le⟩
  | case4 => cases built
  | case5 => cases built
  | case6 => cases built
  | case7 level fits items _ _ _ c left right found leftTree left_built rightTree right_built
      left_induction right_induction =>
      cases built
      obtain ⟨left_reads, left_depth⟩ := left_induction left_built
      obtain ⟨right_reads, right_depth⟩ := right_induction right_built
      refine ⟨reads_node found left_reads right_reads, ?_⟩
      rw [depth]
      omega
  | case8 level fits items _ _ _ _ words words_found =>
      cases built
      obtain rfl := Item.words?_eq_some_iff.mp words_found
      refine ⟨.conjunction (.primary (.words ?_)), ?_⟩
      · rintro rfl
        contradiction
      · rw [depth]
        omega
  | case9 => cases built

/-- The tree of items that are cut is the node over the trees of both sides. -/
private theorem ofItems_of_cut {level : Nat} {c : Connective} {items left right : List Item}
    {leftTree rightTree : Tree} (fits : level ≤ maxDepth)
    (found : Item.cut? items = some (c, left, right)) (some_left : left ≠ [])
    (left_built : ofItems (level + 1) left = .ok leftTree)
    (right_built : ofItems (level + 1) right = .ok rightTree) :
    ofItems level items = .ok (.node c leftTree rightTree) := by
  rw [ofItems, if_neg (Nat.not_lt.mpr fits)]
  · split
    · next found' =>
      rw [found] at found'
      cases found'
      rw [left_built]
      dsimp only
      rw [right_built]
    · next not_found =>
      rw [found] at not_found
      cases not_found
  · rintro rfl
    simp [Item.cut?, Item.cutAt?] at found
  · rintro inner rfl
    simp [Item.cut?, Item.cutAt?, Item.isConnective] at found
  · rintro connective rfl
    cases connective <;> simp [Item.cut?, Item.cutAt?, Item.isConnective] at found <;>
      exact some_left found.2.1

theorem ofItems_of_reads {phrase : Phrase} {items : List Item} {tree : Tree} {level : Nat}
    (reading : Item.Reads phrase items tree) (fits : level + tree.depth ≤ maxDepth + 1) :
    ofItems level items = .ok tree := by
  have level_fits : level ≤ maxDepth := by
    have := tree.depth_pos
    omega
  induction reading generalizing level with
  | conjunction _ induction => exact induction fits level_fits
  | primary _ induction => exact induction fits level_fits
  | @or left right leftTree rightTree left_reads right_reads left_induction right_induction =>
      rw [depth] at fits
      have := leftTree.depth_pos
      exact ofItems_of_cut level_fits (Item.cut?_or right left_reads.or_notMem) left_reads.ne_nil
        (left_induction (by omega) (by omega)) (right_induction (by omega) (by omega))
  | @and left right leftTree rightTree left_reads right_reads left_induction right_induction =>
      rw [depth] at fits
      have := leftTree.depth_pos
      have found := Item.cut?_and (left_reads.connective_notMem .and)
        (Item.Reads.and left_reads right_reads).or_notMem
      exact ofItems_of_cut level_fits found left_reads.ne_nil
        (left_induction (by omega) (by omega)) (right_induction (by omega) (by omega))
  | @words words some_word =>
      rw [ofItems, if_neg (Nat.not_lt.mpr level_fits)]
      · split
        · next found =>
          rw [Item.cut?_words] at found
          cases found
        · rw [Item.words?_eq_some_iff.mpr rfl]
      · exact fun empty => some_word (List.map_eq_nil_iff.mp empty)
      · rintro inner single
        cases words <;> cases single
      · rintro connective single
        cases words <;> cases single
  | @group inner tree _ induction =>
      rw [ofItems, if_neg (Nat.not_lt.mpr level_fits)]
      exact induction fits level_fits

/-- The tree of items is the one that they stand for, if it is not too deep. -/
theorem ofItems_eq_ok_iff {level : Nat} {items : List Item} {tree : Tree} :
    ofItems level items = .ok tree ↔
      Item.Reads .disjunction items tree ∧ level + tree.depth ≤ maxDepth + 1 :=
  ⟨reads_of_ofItems, fun ⟨reading, fits⟩ => ofItems_of_reads reading fits⟩

/-- The tree of a text is the one that the grammar derives, if nothing is too deep. -/
theorem ofText_eq_ok_iff {rule : Text} {tree : Tree} :
    ofText rule = .ok tree ↔
      Derives .disjunction (Token.ofText rule) tree ∧
        Token.nesting (Token.ofText rule) ≤ maxGroups ∧ tree.depth ≤ maxDepth := by
  constructor
  · intro built
    unfold ofText at built
    split at built
    · cases built
    · next items gathered =>
      obtain ⟨same, nesting_le⟩ := Item.ofRule_eq_ok_iff.mp gathered
      obtain ⟨reading, depth_le⟩ := ofItems_eq_ok_iff.mp built
      rw [← same] at nesting_le ⊢
      exact ⟨reading.derives, nesting_le, by omega⟩
  · rintro ⟨derivation, nesting_le, depth_le⟩
    obtain ⟨items, same, reading⟩ := Item.exists_reads_of_derives derivation
    rw [ofText, Item.ofRule_eq_ok_iff.mpr ⟨same, nesting_le⟩]
    exact ofItems_eq_ok_iff.mpr ⟨reading, by omega⟩

/-- A text that the grammar derives, but whose parentheses nest too deeply, is refused for that. -/
theorem ofText_of_nesting {rule : Text} {tree : Tree}
    (derivation : Derives .disjunction (Token.ofText rule) tree)
    (deep : maxGroups < Token.nesting (Token.ofText rule)) :
    ofText rule = .error .groupTooDeep := by
  obtain ⟨items, same, _⟩ := Item.exists_reads_of_derives derivation
  rw [← same, Item.nesting_tokensOf] at deep
  rw [ofText, ← same, Item.ofRule_tokensOf_of_tall deep]

/-- Every leaf of a tree is a comparison. -/
def IsComparable (tree : Tree) : Prop :=
  ∀ condition ∈ tree.leaves, ∃ comparison, Comparison.ofText condition = .ok comparison

theorem conditionFault?_eq_none_iff {conditions : List Text} :
    conditionFault? conditions = none ↔
      ∀ condition ∈ conditions, ∃ comparison, Comparison.ofText condition = .ok comparison := by
  induction conditions with
  | nil => simp [conditionFault?]
  | cons condition rest induction =>
      rw [conditionFault?, List.forall_mem_cons]
      cases read : Comparison.ofText condition with
      | error fault => simp
      | ok comparison => simp [induction]

/-- The tree of a rule is the tree of its text, if every leaf is a comparison. -/
theorem ofRule_eq_ok_iff {rule : Text} {tree : Tree} :
    ofRule rule = .ok tree ↔ ofText rule = .ok tree ∧ tree.IsComparable := by
  unfold ofRule
  cases built : ofText rule with
  | error fault => simp
  | ok built_tree =>
      dsimp only
      cases faulty : conditionFault? built_tree.leaves with
      | none =>
          rw [conditionFault?_eq_none_iff] at faulty
          simp only [Except.ok.injEq]
          exact ⟨fun same => ⟨same, same ▸ faulty⟩, fun both => both.1⟩
      | some fault =>
          simp only [reduceCtorEq, Except.ok.injEq, false_iff, not_and]
          rintro rfl comparable
          rw [conditionFault?_eq_none_iff.mpr comparable] at faulty
          cases faulty

/-- Rules are read exactly as the grammar says.  A text has the trees that the grammar derives from
its tokens with at most 64 nested parentheses and at most 512 levels, no tokens stand for two
trees, and a rule has the tree of its text if every leaf is a comparison.  Any other text is a
fault of parsing. -/
theorem reading_follows_grammar :
    (∀ rule tree, ofText rule = .ok tree ↔
      Derives .disjunction (Token.ofText rule) tree ∧
        Token.nesting (Token.ofText rule) ≤ 64 ∧ tree.depth ≤ 512) ∧
    (∀ tokens tree other, Derives .disjunction tokens tree → Derives .disjunction tokens other →
      tree = other) ∧
    (∀ rule tree, ofRule rule = .ok tree ↔
      ofText rule = .ok tree ∧
        ∀ condition ∈ tree.leaves, ∃ comparison, Comparison.ofText condition = .ok comparison) ∧
    (∀ rule, (¬∃ tree, Derives .disjunction (Token.ofText rule) tree ∧
        Token.nesting (Token.ofText rule) ≤ 64 ∧ tree.depth ≤ 512) →
      ∃ fault, ofText rule = .error fault ∧ Rule.ofText rule = .error (.parse fault)) ∧
    (∀ rule, (¬∃ tree, ofText rule = .ok tree ∧
        ∀ condition ∈ tree.leaves, ∃ comparison, Comparison.ofText condition = .ok comparison) →
      ∃ fault, ofRule rule = .error fault ∧ Rule.ofText rule = .error (.parse fault)) := by
  refine ⟨fun _ _ => ofText_eq_ok_iff, fun _ _ _ => Derives.tree_unique,
    fun _ _ => ofRule_eq_ok_iff, fun rule underivable => ?_, fun rule unreadable => ?_⟩
  · cases built : ofText rule with
    | ok tree => exact absurd ⟨tree, ofText_eq_ok_iff.mp built⟩ underivable
    | error fault =>
        refine ⟨fault, rfl, ?_⟩
        rw [Rule.ofText, ofRule, built]
  · cases read : ofRule rule with
    | ok tree => exact absurd ⟨tree, ofRule_eq_ok_iff.mp read⟩ unreadable
    | error fault =>
        refine ⟨fault, rfl, ?_⟩
        rw [Rule.ofText, read]

theorem reading_follows_grammar_at_rule :
    Derives .disjunction (Token.ofText "a > 1 OR (b > 2)".toList)
        (.node .or (.leaf "a > 1".toList) (.leaf "b > 2".toList)) ∧
      (∀ tree, ofText "a > 1 OR (b > 2)".toList = .ok tree →
        tree = .node .or (.leaf "a > 1".toList) (.leaf "b > 2".toList)) ∧
      (∃ fault, Rule.ofText ")".toList = .error (.parse fault)) := by
  obtain ⟨reads, unique, _, refused, _⟩ := reading_follows_grammar
  have read : ofText "a > 1 OR (b > 2)".toList =
      .ok (.node .or (.leaf "a > 1".toList) (.leaf "b > 2".toList)) := by
    cbv
  have derivation := ((reads _ _).mp read).1
  refine ⟨derivation, fun tree same => unique _ _ _ ((reads _ _).mp same).1 derivation, ?_⟩
  have unreadable : ¬∃ tree, Derives .disjunction (Token.ofText ")".toList) tree ∧
      Token.nesting (Token.ofText ")".toList) ≤ 64 ∧ tree.depth ≤ 512 := by
    rintro ⟨tree, derivable⟩
    have built := (reads _ _).mpr derivable
    have failed : ofText ")".toList = .error (.strayClosing 1) := by
      cbv
    rw [failed] at built
    cases built
  obtain ⟨fault, _, refusal⟩ := refused ")".toList unreadable
  exact ⟨fault, refusal⟩

end Tree

theorem Rule.ofText_eq_ok_iff {text : Text} {rule : Rule} :
    ofText text = .ok rule ↔ rule.text = text ∧ Tree.ofRule text = .ok rule.tree := by
  unfold ofText
  cases read : Tree.ofRule text with
  | error fault => simp
  | ok tree =>
      obtain ⟨rule_text, rule_tree⟩ := rule
      simp [eq_comm]

end Rulebook
