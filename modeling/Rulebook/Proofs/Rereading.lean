import Rulebook.Proofs.CombinedRules
import Rulebook.Proofs.Soundness

/-!
# Reading stored texts again

The tree of a stored rule is the one that the grammar derives from its text.  Reading the text again
gives that tree, unless more parentheses are open at a time than can be read.  The text of a rule
gets one more when the rule is combined with others, so that a combined text is read again unless a
rule with a connective at its root has as many parentheses as can be read.
-/

namespace Rulebook

/-- A text in some pairs of parentheses. -/
def Text.enclosed (text : Text) : Nat → Text
  | 0 => text
  | pairs + 1 => '(' :: (text.enclosed pairs ++ [')'])

namespace Derives

variable {text : Text} {tree : Tree}

theorem enclosed (derivation : Derives .disjunction (Token.ofText text) tree) (pairs : Nat) :
    Derives .disjunction (Token.ofText (text.enclosed pairs)) tree := by
  induction pairs with
  | zero => exact derivation
  | succ pairs induction =>
      rw [Text.enclosed, Token.ofText_enclosed]
      exact .conjunction (.primary (.group induction))

theorem nesting_enclosed (derivation : Derives .disjunction (Token.ofText text) tree)
    (pairs : Nat) :
    Token.nesting (Token.ofText (text.enclosed pairs)) =
      Token.nesting (Token.ofText text) + pairs := by
  induction pairs with
  | zero => rfl
  | succ pairs induction =>
      rw [Text.enclosed, Token.ofText_enclosed, (derivation.enclosed pairs).nesting_group,
        induction, Nat.add_assoc]

end Derives

namespace Rule

/-- A rule may be put in as many parentheses as its text leaves room for. -/
theorem ofText_enclosed {text : Text} {rule : Rule} (read : ofText text = .ok rule) {pairs : Nat}
    (fits : Token.nesting (Token.ofText text) + pairs ≤ maxGroups) :
    ofText (text.enclosed pairs) = .ok ⟨text.enclosed pairs, rule.tree⟩ := by
  have sound := isSound_of_ofText read
  obtain ⟨rfl, _⟩ := ofText_eq_ok_iff.mp read
  rw [← sound.derives.nesting_enclosed] at fits
  have built := Tree.ofText_eq_ok_iff.mpr ⟨sound.derives.enclosed pairs, fits, sound.depth_le⟩
  exact ofText_eq_ok_iff.mpr ⟨rfl, Tree.ofRule_eq_ok_iff.mpr ⟨built, sound.comparable⟩⟩

/-- The tree of a sound rule is read from its text exactly if no parentheses nest too deeply. -/
theorem IsSound.ofRule_eq_ok_iff {rule : Rule} (sound : rule.IsSound) :
    Tree.ofRule rule.text = .ok rule.tree ↔
      Token.nesting (Token.ofText rule.text) ≤ maxGroups := by
  rw [Tree.ofRule_eq_ok_iff, Tree.ofText_eq_ok_iff]
  constructor
  · exact fun read => read.1.2.1
  · exact fun nesting_le => ⟨⟨sound.derives, nesting_le, sound.depth_le⟩, sound.comparable⟩

theorem IsSound.ofRule_of_nesting {rule : Rule} (sound : rule.IsSound)
    (deep : maxGroups < Token.nesting (Token.ofText rule.text)) :
    Tree.ofRule rule.text = .error .groupTooDeep := by
  rw [Tree.ofRule, Tree.ofText_of_nesting sound.derives deep]

/-- The tree of a combination is read from its text exactly if no parentheses of the rules nest too
deeply once those with a connective at the root are put in parentheses. -/
theorem ofRule_combine_eq_ok_iff {first second combined : Rule} {rest : List Rule}
    (combination : combine (first :: second :: rest) = .ok combined)
    (sound : ∀ rule ∈ first :: second :: rest, rule.IsSound) :
    Tree.ofRule combined.text = .ok combined.tree ↔
      ∀ rule ∈ first :: second :: rest,
        (Token.nesting (Token.ofText rule.text) + if rule.tree.isNode then 1 else 0) ≤
          maxGroups := by
  rw [(isSound_combine combination sound).ofRule_eq_ok_iff]
  rcases combine_cases combination with single | ⟨_, _, _, _, rfl, _⟩
  · cases single
  · rw [nesting_conjunctionText_le_iff maxGroups (List.cons_ne_nil _ _)
      fun rule member => (sound rule member).derives]
    refine forall₂_congr fun rule member => ?_
    rw [nesting_part (sound rule member).derives]

end Rule

namespace Session

variable {surroundings : Http.Surroundings}

/-- A rule that is combined with itself gives a document with both parts. -/
private theorem documents_combine_twice {text : Text} {rule : Rule}
    (read : Rule.ofText text = .ok rule) (fits : rule.tree.depth < Tree.maxDepth) :
    ∃ document ∈ (run surroundings .empty
        [.create text, .combine ["$1".toList, "$1".toList]]).store.catalog.documents,
      document.ruleText = Rule.conjunctionText [rule, rule] := by
  have found : (Catalog.empty.insert rule.text rule.tree.encode).2.rule? "$1".toList =
      some (.ok rule) :=
    Catalog.IsNumbered.empty.rule?_insert (Nat.le_of_lt fits)
  have ran : (run surroundings .empty [.create text, .combine ["$1".toList, "$1".toList]]).store =
      (Service.combine ["$1".toList, "$1".toList]
        (run surroundings .empty [.create text]).store).store := by
    dsimp only [run, Step.perform]
    rw [Operation.store_map]
  rw [ran, store_run_create _ read, ← Outcome.silent_store,
    Service.silent_combine_twice rfl found fits]
  exact ⟨_, List.mem_append_right _ (List.mem_singleton_self _), rfl⟩

/-- Parentheses that nest as deeply as they may nest too deeply once the rule is combined. -/
theorem nesting_combine_twice {text : Text} {rule : Rule} (read : Rule.ofText text = .ok rule)
    (node : rule.tree.isNode = true) (fits : rule.tree.depth < Tree.maxDepth)
    (full : Token.nesting (Token.ofText rule.text) = maxGroups) :
    ∃ document ∈ (run surroundings .empty
        [.create text, .combine ["$1".toList, "$1".toList]]).store.catalog.documents,
      maxGroups < Token.nesting (Token.ofText document.ruleText) := by
  obtain ⟨document, member, text_eq⟩ := documents_combine_twice read fits
  have derives := (Rule.isSound_of_ofText read).derives
  refine ⟨document, member, Nat.lt_of_not_le ?_⟩
  rw [text_eq, Rule.nesting_conjunctionText_le_iff maxGroups (List.cons_ne_nil _ _) (by simpa)]
  intro nesting_le
  have part_le := nesting_le rule List.mem_cons_self
  rw [Rule.nesting_part derives, full, if_pos node] at part_le
  omega

/-- A rule with a connective at its root, in as many parentheses as may be open at a time or fewer.
-/
private theorem ofText_pairs {pairs : Nat} (fits : pairs ≤ maxGroups) :
    ∃ rule, Rule.ofText (Text.enclosed "a > 1 AND b > 2".toList pairs) = .ok rule ∧
      rule.tree.isNode = true ∧ rule.tree.depth < Tree.maxDepth ∧
      Token.nesting (Token.ofText rule.text) = pairs := by
  have built : Tree.ofText "a > 1 AND b > 2".toList =
      .ok (.node .and (.leaf "a > 1".toList) (.leaf "b > 2".toList)) := by
    cbv
  have comparable :
      (Tree.node .and (.leaf "a > 1".toList) (.leaf "b > 2".toList)).IsComparable :=
    Tree.isComparable_node.mpr
      ⟨Tree.isComparable_leaf.mpr ⟨_, rfl⟩, Tree.isComparable_leaf.mpr ⟨_, rfl⟩⟩
  have read : Rule.ofText "a > 1 AND b > 2".toList = .ok ⟨"a > 1 AND b > 2".toList,
      .node .and (.leaf "a > 1".toList) (.leaf "b > 2".toList)⟩ :=
    Rule.ofText_eq_ok_iff.mpr ⟨rfl, Tree.ofRule_eq_ok_iff.mpr ⟨built, comparable⟩⟩
  have no_parentheses : Token.nesting (Token.ofText "a > 1 AND b > 2".toList) = 0 := by
    decide
  have room : Token.nesting (Token.ofText "a > 1 AND b > 2".toList) + pairs ≤ maxGroups := by
    rw [no_parentheses]
    omega
  refine ⟨_, Rule.ofText_enclosed read room, rfl, by dsimp only; decide, ?_⟩
  rw [(Tree.ofText_eq_ok_iff.mp built).1.nesting_enclosed, no_parentheses, Nat.zero_add]

/-- Whatever the service does, the text and the tree of every document describe the same expression:
the tree that is read from the stored form is the one that the grammar derives from the text.  It is
also read from the text exactly if at most 64 parentheses are open at a time; a text with more, as
rules may get when they are combined, is refused. -/
theorem document_text_rereads_iff (surroundings : Http.Surroundings) (outage : Option Outage)
    (upcoming : List (Option Outage)) (steps : List Step)
    (served : ∀ step ∈ steps, step.isDirectWrite = false) :
    ∀ document ∈ (run surroundings ⟨.empty, outage, upcoming⟩ steps).store.catalog.documents,
      ∃ tree, Tree.decode document.encodedTree = .ok tree ∧
        Derives .disjunction (Token.ofText document.ruleText) tree ∧
        (Tree.ofRule document.ruleText = .ok tree ↔
          Token.nesting (Token.ofText document.ruleText) ≤ 64) ∧
        (64 < Token.nesting (Token.ofText document.ruleText) →
          Tree.ofRule document.ruleText = .error .groupTooDeep) := by
  intro document member
  obtain ⟨rule, held, rule_sound⟩ :=
    isSound_run served surroundings ⟨.empty, outage, upcoming⟩ Catalog.IsSound.empty document member
  refine ⟨rule.tree, held.decode rule_sound.depth_le, ?_⟩
  rw [held.1]
  exact ⟨rule_sound.derives, rule_sound.ofRule_eq_ok_iff, rule_sound.ofRule_of_nesting⟩

theorem document_text_rereads_iff_at_limit :
    ∃ document ∈ (run .counting .empty
        [.create (Text.enclosed "a > 1 AND b > 2".toList 64)]).store.catalog.documents,
      ∃ tree, Tree.decode document.encodedTree = .ok tree ∧
        Tree.ofRule document.ruleText = .ok tree := by
  obtain ⟨rule, read, _, _, full⟩ := ofText_pairs (show 64 ≤ maxGroups by decide)
  generalize Text.enclosed "a > 1 AND b > 2".toList 64 = text at read ⊢
  have served : ∀ step ∈ [Step.create text], step.isDirectWrite = false := by
    simp [Step.isDirectWrite]
  have member : (Catalog.empty.draft rule.text rule.tree.encode) ∈
      (run .counting .empty [.create text]).store.catalog.documents := by
    rw [store_run_create _ read]
    exact List.mem_singleton_self _
  obtain ⟨tree, decoded, _, reread, _⟩ :=
    document_text_rereads_iff .counting none [] _ served _ member
  exact ⟨_, member, tree, decoded, reread.mpr (Nat.le_of_eq full)⟩

theorem document_text_refused_after_combination :
    ∃ document ∈ (run .counting .empty [.create (Text.enclosed "a > 1 AND b > 2".toList 64),
        .combine ["$1".toList, "$1".toList]]).store.catalog.documents,
      ∃ tree, Tree.decode document.encodedTree = .ok tree ∧
        Tree.ofRule document.ruleText = .error .groupTooDeep := by
  obtain ⟨rule, read, node, fits, full⟩ := ofText_pairs (show 64 ≤ maxGroups by decide)
  generalize Text.enclosed "a > 1 AND b > 2".toList 64 = text at read ⊢
  obtain ⟨document, member, deep⟩ := nesting_combine_twice read node fits full
  have served : ∀ step ∈ [Step.create text, .combine ["$1".toList, "$1".toList]],
      step.isDirectWrite = false := by
    simp [Step.isDirectWrite]
  obtain ⟨stored, held, sound⟩ :=
    isSound_run served .counting .empty Catalog.IsSound.empty document member
  refine ⟨document, member, stored.tree, held.decode sound.depth_le, ?_⟩
  rw [held.1] at deep ⊢
  exact sound.ofRule_of_nesting deep

end Session

namespace Rule

/-- The text of combined rules stands for their combination.  One rule alone stays as it is.  If two
rules or more, each of which is read from its own text, are combined, the combination is read from
the combined text; only if a rule with a connective at its root already has 64 parentheses open at a
time, the combined text is refused for its nesting. -/
theorem combined_text_is_read :
    (∀ rule, combine [rule] = .ok rule) ∧
      ∀ rules combined, 2 ≤ rules.length → (∀ rule ∈ rules, ofText rule.text = .ok rule) →
        combine rules = .ok combined →
        ((∀ rule ∈ rules, rule.tree.isNode = true →
            Token.nesting (Token.ofText rule.text) ≠ 64) →
          ofText combined.text = .ok combined) ∧
        ((∃ rule ∈ rules, rule.tree.isNode = true ∧
            Token.nesting (Token.ofText rule.text) = 64) →
          ofText combined.text = .error (.parse .groupTooDeep)) := by
  refine ⟨fun rule => rfl, fun rules combined several read combination => ?_⟩
  have sound : ∀ rule ∈ rules, rule.IsSound := fun rule member =>
    isSound_of_ofText (read rule member)
  have nesting_le : ∀ rule ∈ rules, Token.nesting (Token.ofText rule.text) ≤ maxGroups := by
    intro rule member
    rw [← (sound rule member).ofRule_eq_ok_iff]
    exact (ofText_eq_ok_iff.mp (read rule member)).2
  obtain ⟨first, second, rest, rfl⟩ : ∃ first second rest, rules = first :: second :: rest := by
    match rules with
    | first :: second :: rest => exact ⟨first, second, rest, rfl⟩
  have rereads := ofRule_combine_eq_ok_iff combination sound
  constructor
  · intro shallow
    refine ofText_eq_ok_iff.mpr ⟨rfl, rereads.mpr fun rule member => ?_⟩
    have le := nesting_le rule member
    split
    · next node =>
      have ne := shallow rule member node
      rw [maxGroups] at le ⊢
      omega
    · exact le
  · rintro ⟨rule, member, node, full⟩
    have deep : maxGroups < Token.nesting (Token.ofText combined.text) := by
      rw [← Nat.not_le, ← (isSound_combine combination sound).ofRule_eq_ok_iff, rereads]
      intro fits
      have part_fits := fits rule member
      rw [if_pos node, full, maxGroups] at part_fits
      omega
    rw [ofText, (isSound_combine combination sound).ofRule_of_nesting deep]

theorem combined_text_is_read_unless_full :
    (∃ rule combined, ofText (Text.enclosed "a > 1 AND b > 2".toList 63) = .ok rule ∧
      combine [rule, rule] = .ok combined ∧ ofText combined.text = .ok combined) ∧
    ∃ rule combined, ofText (Text.enclosed "a > 1 AND b > 2".toList 64) = .ok rule ∧
      combine [rule, rule] = .ok combined ∧
      ofText combined.text = .error (.parse .groupTooDeep) := by
  obtain ⟨_, several⟩ := combined_text_is_read
  have rereads {text : Text} {rule : Rule} (read : ofText text = .ok rule) :
      ∀ other ∈ [rule, rule], ofText other.text = .ok other := by
    simpa [(ofText_eq_ok_iff.mp read).1] using read
  constructor
  · obtain ⟨rule, read, node, fits, room⟩ := Session.ofText_pairs (show 63 ≤ maxGroups by decide)
    have combination := combine_twice fits
    generalize Text.enclosed "a > 1 AND b > 2".toList 63 = text at read ⊢
    refine ⟨rule, _, read, combination, (several _ _ (by simp) (rereads read) combination).1 ?_⟩
    simp [room]
  · obtain ⟨rule, read, node, fits, full⟩ := Session.ofText_pairs (show 64 ≤ maxGroups by decide)
    have combination := combine_twice fits
    generalize Text.enclosed "a > 1 AND b > 2".toList 64 = text at read ⊢
    refine ⟨rule, _, read, combination, (several _ _ (by simp) (rereads read) combination).2 ?_⟩
    exact ⟨rule, List.mem_cons_self, node, full⟩

end Rule

end Rulebook
