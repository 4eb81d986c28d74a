import Rulebook.Proofs.Combining

/-!
# Rendered trees are read again

A tree is written with a pair of parentheses for each connective.  If every condition consists of
plain words with single spaces between them, the grammar derives the tree from what is written, and
the parentheses nest one level less than the tree has.  All trees that are read from texts have such
conditions.  So a tree comes back exactly if it has such conditions and at most one level more than
parentheses may nest.
-/

namespace Rulebook

namespace Token

/-- Whether a condition consists of plain words with single spaces between them. -/
def IsPlainCondition (condition : Text) : Prop :=
  ∃ words, words ≠ [] ∧ (∀ word ∈ words, IsPlainWord word) ∧ condition = Text.join [' '] words

/-- Whether a condition consists of words among some tokens with single spaces between them. -/
def IsWrittenIn (tokens : List Token) (condition : Text) : Prop :=
  ∃ words, words ≠ [] ∧ (∀ word ∈ words, .word word ∈ tokens) ∧
    condition = Text.join [' '] words

theorem IsWrittenIn.mono {tokens longer : List Token} {condition : Text}
    (written : IsWrittenIn tokens condition) (subset : tokens ⊆ longer) :
    IsWrittenIn longer condition := by
  obtain ⟨words, some_word, among, condition_eq⟩ := written
  exact ⟨words, some_word, fun word member => subset (among word member), condition_eq⟩

theorem IsWrittenIn.isPlainCondition {rule condition : Text}
    (written : IsWrittenIn (ofText rule) condition) : IsPlainCondition condition := by
  obtain ⟨words, some_word, among, condition_eq⟩ := written
  exact ⟨words, some_word, fun word member => isPlainWord_of_mem (among word member), condition_eq⟩

theorem nestingFrom_words (height : Nat) (words : List Text) :
    nestingFrom height (words.map .word) = height := by
  induction words with
  | nil => rfl
  | cons word words induction => exact induction

end Token

namespace Derives

private theorem isWrittenIn_node {connective : Connective} {left right : List Token}
    {leftTree rightTree : Tree}
    (left_written : ∀ condition ∈ leftTree.leaves, Token.IsWrittenIn left condition)
    (right_written : ∀ condition ∈ rightTree.leaves, Token.IsWrittenIn right condition) :
    ∀ condition ∈ (Tree.node connective leftTree rightTree).leaves,
      Token.IsWrittenIn (left ++ .connective connective :: right) condition := by
  intro condition member
  rw [Tree.leaves_node, List.mem_append] at member
  rcases member with on_left | on_right
  · exact (left_written condition on_left).mono (List.subset_append_left _ _)
  · refine (right_written condition on_right).mono fun token among => ?_
    exact List.mem_append_right _ (List.mem_cons_of_mem _ among)

/-- The conditions of a tree are written in the tokens that it is derived from. -/
theorem isWrittenIn_of_mem_leaves {phrase : Phrase} {tokens : List Token} {tree : Tree}
    (derivation : Derives phrase tokens tree) :
    ∀ condition ∈ tree.leaves, Token.IsWrittenIn tokens condition := by
  induction derivation with
  | conjunction _ induction => exact induction
  | primary _ induction => exact induction
  | or _ _ left_induction right_induction =>
      exact isWrittenIn_node left_induction right_induction
  | and _ _ left_induction right_induction =>
      exact isWrittenIn_node left_induction right_induction
  | @words words some_word =>
      intro condition member
      rw [Tree.leaves, Tree.leavesOnto, List.mem_singleton] at member
      exact ⟨words, some_word, fun word among => List.mem_map_of_mem among, member⟩
  | group _ induction =>
      intro condition member
      refine (induction condition member).mono fun token inside => ?_
      exact List.mem_cons_of_mem _ (List.mem_append_left _ inside)

theorem joined {left right : List Token} {leftTree rightTree : Tree} (connective : Connective)
    (left_derivation : Derives .primary left leftTree)
    (right_derivation : Derives .primary right rightTree) :
    Derives .disjunction (left ++ .connective connective :: right)
      (.node connective leftTree rightTree) := by
  cases connective with
  | and => exact .conjunction (.and left_derivation (.primary right_derivation))
  | or => exact .or (.primary left_derivation) (.conjunction (.primary right_derivation))

end Derives

namespace Tree

theorem onto_eq (tree : Tree) (rest : Text) : tree.onto rest = tree.render ++ rest := by
  rw [render]
  induction tree generalizing rest with
  | leaf condition => rw [onto, onto, List.append_nil]
  | node connective left right left_induction right_induction =>
      rw [onto, onto, left_induction, right_induction, left_induction (_ :: _),
        right_induction [')']]
      simp only [List.append_assoc, List.cons_append, List.nil_append]

theorem render_leaf (condition : Text) : (leaf condition).render = condition :=
  List.append_nil condition

theorem render_node (connective : Connective) (left right : Tree) :
    (node connective left right).render =
      '(' :: (left.render ++ ' ' :: (connective.keyword ++ ' ' :: right.render) ++ [')']) := by
  rw [render, onto, onto_eq, onto_eq]
  simp only [List.append_assoc, List.cons_append]

theorem ofText_render_node (connective : Connective) (left right : Tree) :
    Token.ofText (node connective left right).render =
      .opening :: (Token.ofText left.render ++ .connective connective ::
        Token.ofText right.render ++ [.closing]) := by
  rw [render_node, Token.ofText_enclosed, Token.ofText_joined]

/-- Whether all conditions of a tree consist of plain words with single spaces between them. -/
def IsPlain (tree : Tree) : Prop :=
  ∀ condition ∈ tree.leaves, Token.IsPlainCondition condition

theorem isPlain_leaf {condition : Text} :
    (leaf condition).IsPlain ↔ Token.IsPlainCondition condition := by
  rw [IsPlain, leaves, leavesOnto, List.forall_mem_singleton]

theorem isPlain_node {connective : Connective} {left right : Tree} :
    (node connective left right).IsPlain ↔ left.IsPlain ∧ right.IsPlain := by
  simp only [IsPlain, leaves_node, List.mem_append, or_imp, forall_and]

theorem isPlain_of_ofText {rule : Text} {tree : Tree} (built : ofText rule = .ok tree) :
    tree.IsPlain := by
  intro condition member
  have derivation := (ofText_eq_ok_iff.mp built).1
  exact (derivation.isWrittenIn_of_mem_leaves condition member).isPlainCondition

/-- The grammar derives a plain tree from what is written for it. -/
theorem derives_render {tree : Tree} (plain : tree.IsPlain) :
    Derives .primary (Token.ofText tree.render) tree := by
  induction tree with
  | leaf condition =>
      obtain ⟨words, some_word, plain_words, rfl⟩ := isPlain_leaf.mp plain
      rw [render_leaf, Token.ofText_join plain_words]
      exact .words some_word
  | node connective left right left_induction right_induction =>
      obtain ⟨left_plain, right_plain⟩ := isPlain_node.mp plain
      rw [ofText_render_node]
      exact .group (.joined connective (left_induction left_plain) (right_induction right_plain))

/-- The parentheses of what is written nest one level less than the tree has. -/
theorem nesting_render {tree : Tree} (plain : tree.IsPlain) :
    Token.nesting (Token.ofText tree.render) + 1 = tree.depth := by
  induction tree with
  | leaf condition =>
      obtain ⟨words, _, plain_words, rfl⟩ := isPlain_leaf.mp plain
      rw [render_leaf, Token.ofText_join plain_words, Token.nesting, Token.nestingFrom_words, depth]
  | node connective left right left_induction right_induction =>
      obtain ⟨left_plain, right_plain⟩ := isPlain_node.mp plain
      have left_derivation := derives_render left_plain
      have inner := left_derivation.nestingFrom_append 0
        (.connective connective :: Token.ofText right.render)
      have left_nesting := left_induction left_plain
      have right_nesting := right_induction right_plain
      rw [ofText_render_node,
        (left_derivation.joined connective (derives_render right_plain)).nesting_group, depth,
        Token.nesting, inner, Token.nestingFrom, ← Token.nesting]
      omega

theorem ofText_render_eq_ok_iff {tree : Tree} :
    ofText tree.render = .ok tree ↔ tree.depth ≤ maxGroups + 1 ∧ tree.IsPlain := by
  constructor
  · intro built
    have plain := isPlain_of_ofText built
    have nesting_le := (ofText_eq_ok_iff.mp built).2.1
    have nesting_eq := nesting_render plain
    exact ⟨by omega, plain⟩
  · rintro ⟨fits, plain⟩
    have nesting_eq := nesting_render plain
    have room : maxGroups + 1 ≤ maxDepth := by decide
    exact ofText_eq_ok_iff.mpr
      ⟨.conjunction (.primary (derives_render plain)), by omega, Nat.le_trans fits room⟩

theorem ofText_render_of_deep {tree : Tree} (plain : tree.IsPlain)
    (deep : maxGroups + 1 < tree.depth) : ofText tree.render = .error .groupTooDeep := by
  have nesting_eq := nesting_render plain
  exact ofText_of_nesting (.conjunction (.primary (derives_render plain))) (by omega)

/-- A tree is read from what is written for it exactly if it has at most 65 levels and each of its
conditions consists of plain words with single spaces between them: of texts that are not empty,
hold neither blanks nor parentheses, and are not keywords.  A tree that was read from any text has
such conditions, so it is read again, or refused for the nesting of its parentheses if it has more
levels. -/
theorem rendered_tree_is_read_again :
    (∀ tree, ofText tree.render = .ok tree ↔
      tree.depth ≤ 65 ∧ ∀ condition ∈ tree.leaves, Token.IsPlainCondition condition) ∧
    ∀ rule tree, ofText rule = .ok tree →
      (∀ condition ∈ tree.leaves, Token.IsPlainCondition condition) ∧
        (tree.depth ≤ 65 → ofText tree.render = .ok tree) ∧
        (65 < tree.depth → ofText tree.render = .error .groupTooDeep) := by
  refine ⟨fun tree => ofText_render_eq_ok_iff, fun rule tree built => ?_⟩
  have plain := isPlain_of_ofText built
  exact ⟨plain, fun fits => ofText_render_eq_ok_iff.mpr ⟨fits, plain⟩, ofText_render_of_deep plain⟩

/-- The grammar derives trees with any number of levels from texts without parentheses. -/
private theorem exists_derives_of_levels (levels : Nat) :
    ∃ rule tree, Derives .conjunction (Token.ofText rule) tree ∧
      Token.nesting (Token.ofText rule) = 0 ∧ tree.depth = levels + 1 := by
  have built : ofText "a > 1".toList = .ok (.leaf "a > 1".toList) := by
    cbv
  have single := derives_render (isPlain_of_ofText built)
  rw [render_leaf] at single
  induction levels with
  | zero => exact ⟨"a > 1".toList, .leaf "a > 1".toList, .primary single, by decide, rfl⟩
  | succ levels induction =>
      obtain ⟨rule, tree, derivation, flat, depth_eq⟩ := induction
      refine ⟨"a > 1".toList ++ " AND ".toList ++ rule, .node .and (.leaf "a > 1".toList) tree,
        ?_, ?_, ?_⟩
      · rw [Token.ofText_conjunction]
        exact .and single derivation
      · have front := single.nestingFrom_append 0 (.connective .and :: Token.ofText rule)
        rw [Token.ofText_conjunction, Token.nesting, front, Token.nestingFrom, ← Token.nesting,
          flat]
        decide
      · rw [depth, depth, depth_eq]
        omega

/-- A chain of conditions with 65 levels is written so that it is read again, and one with a level
more is not. -/
theorem rendered_tree_is_read_again_up_to_nesting :
    (∃ rule tree, ofText rule = .ok tree ∧ tree.depth = 65 ∧ ofText tree.render = .ok tree) ∧
      ∃ rule tree, ofText rule = .ok tree ∧ tree.depth = 66 ∧
        ofText tree.render = .error .groupTooDeep := by
  have chain {levels : Nat} (fits : levels < 512) :
      ∃ rule tree, ofText rule = .ok tree ∧ tree.depth = levels + 1 := by
    obtain ⟨rule, tree, derivation, flat, depth_eq⟩ := exists_derives_of_levels levels
    refine ⟨rule, tree, ofText_eq_ok_iff.mpr ⟨.conjunction derivation, ?_, ?_⟩, depth_eq⟩
    · exact flat ▸ Nat.zero_le _
    · exact depth_eq ▸ fits
  obtain ⟨rule, tree, built, depth_eq⟩ := chain (show 64 < 512 by decide)
  obtain ⟨deepRule, deepTree, deepBuilt, deepDepth_eq⟩ := chain (show 65 < 512 by decide)
  obtain ⟨_, again, _⟩ := rendered_tree_is_read_again.2 rule tree built
  obtain ⟨_, _, refused⟩ := rendered_tree_is_read_again.2 deepRule deepTree deepBuilt
  exact ⟨⟨rule, tree, built, depth_eq, again (by omega)⟩,
    deepRule, deepTree, deepBuilt, deepDepth_eq, refused (by omega)⟩

end Tree

end Rulebook
