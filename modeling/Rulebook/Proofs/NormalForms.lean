import Rulebook.Proofs.Conditions
import Rulebook.Proofs.Logic
import Rulebook.Proofs.Rendering

/-!
# Normal forms of conditions

A condition that is read as a comparison has a normal form, which is what is written for the
comparison: single spaces, an integer without leading zeros, any other literal between apostrophes.
It is read as the same comparison.  The words of a condition in a rule are plain, and so are those
of its normal form, which is therefore a rule of its own with one condition.
-/

namespace Rulebook

theorem Comparator.exists_ofSymbol?_iff {symbol : Text} :
    (∃ comparator, ofSymbol? symbol = some comparator) ↔ symbol ∈ [['>'], ['<'], ['=']] := by
  simp only [ofSymbol?_eq_some_iff, List.mem_cons, List.not_mem_nil, or_false]
  constructor
  · rintro ⟨comparator, rfl⟩
    cases comparator <;> simp [Comparator.symbol]
  · rintro (rfl | rfl | rfl)
    · exact ⟨.greater, rfl⟩
    · exact ⟨.less, rfl⟩
    · exact ⟨.equal, rfl⟩

/-- The texts that stand for no literal are the numerals of integers that are too great. -/
theorem Literal.exists_ofText_iff {raw : Text} :
    (∃ literal, ofText raw = .ok literal) ↔
      ¬((∀ c ∈ raw, c.isDigit = true) ∧ Range.signed64 ≤ Numeral.value raw) := by
  have too_great : Numeral.isNumeral raw = true ∧ Range.signed64 ≤ Numeral.value raw ↔
      (∀ c ∈ raw, c.isDigit = true) ∧ Range.signed64 ≤ Numeral.value raw := by
    cases raw with
    | nil => simp [Numeral.isNumeral, Numeral.value]
    | cons c raw => simp [Numeral.isNumeral]
  rw [← too_great, ofText]
  split
  · next numeral =>
    split
    · next small => simp [small]
    · next great => simp [numeral, Nat.le_of_not_lt great]
  · next no_numeral => simp [no_numeral]

namespace Token

theorem IsPlainWord.isWord {word : Text} (plain : IsPlainWord word) : word.IsWord :=
  ⟨plain.ne_nil, fun c member => Bool.eq_false_iff.mpr fun blank =>
    plain.inner c member (.inl blank)⟩

theorem not_isBreak_of_isDigit {c : Char} (digit : c.isDigit = true) : ¬IsBreak c := by
  rintro (blank | rfl | rfl)
  · rw [Text.not_isBlank_of_isDigit digit] at blank
    cases blank
  · cases digit
  · cases digit

end Token

namespace Literal

/-- What is written for a literal is no keyword, even if a keyword stands between apostrophes. -/
theorem render_ne_keyword (literal : Literal) (connective : Connective) :
    literal.render ≠ connective.keyword := by
  intro keyword
  cases literal with
  | integer n =>
      obtain ⟨letter, member, no_digit⟩ : ∃ c ∈ connective.keyword, c.isDigit = false := by
        cases connective with
        | and => exact ⟨'A', List.mem_cons_self, rfl⟩
        | or => exact ⟨'O', List.mem_cons_self, rfl⟩
      rw [← keyword] at member
      rw [Numeral.isDigit_of_mem_ofNat member] at no_digit
      cases no_digit
  | string text => cases connective <;> cases keyword

/-- What is written for a literal that was read from a plain word is a plain word. -/
theorem isPlainWord_render {raw : Text} {literal : Literal} (plain : Token.IsPlainWord raw)
    (read : ofText raw = .ok literal) : Token.IsPlainWord literal.render where
  ne_nil := literal.render_ne_nil
  inner c member := by
    rcases of_mem_render read member with digit | rfl | in_raw
    · exact Token.not_isBreak_of_isDigit digit
    · decide
    · exact plain.inner c in_raw
  ne_keyword := literal.render_ne_keyword

end Literal

namespace Comparison

variable {condition : Text} {comparison : Comparison}

theorem ofText_of_words {raw : Text}
    (cut : Text.words condition = [comparison.field, comparison.comparator.symbol, raw])
    (read : Literal.ofText raw = .ok comparison.literal) : ofText condition = .ok comparison := by
  rw [ofText, cut]
  simp only [Comparator.ofSymbol?_eq_some_iff.mpr rfl, read]

theorem exists_ofText_iff :
    (∃ comparison, ofText condition = .ok comparison) ↔
      ∃ field symbol raw, Text.words condition = [field, symbol, raw] ∧
        (∃ comparator, Comparator.ofSymbol? symbol = some comparator) ∧
        ∃ literal, Literal.ofText raw = .ok literal := by
  constructor
  · rintro ⟨comparison, read⟩
    obtain ⟨raw, cut, literal_read⟩ := words_of_ofText read
    exact ⟨_, _, raw, cut, ⟨_, Comparator.ofSymbol?_eq_some_iff.mpr rfl⟩, _, literal_read⟩
  · rintro ⟨field, symbol, raw, cut, ⟨comparator, known⟩, literal, literal_read⟩
    rw [Comparator.ofSymbol?_eq_some_iff.mp known] at cut
    exact ⟨⟨field, comparator, literal⟩, ofText_of_words cut literal_read⟩

theorem render_eq_join (comparison : Comparison) :
    comparison.render = Text.join [' ']
      [comparison.field, comparison.comparator.symbol, comparison.literal.render] := by
  simp [render, Text.join, List.intercalate]

/-- The normal form of a condition of plain words consists of plain words. -/
theorem isPlainCondition_render (plain : Token.IsPlainCondition condition)
    (read : ofText condition = .ok comparison) : Token.IsPlainCondition comparison.render := by
  obtain ⟨words, _, plain_words, rfl⟩ := plain
  obtain ⟨raw, cut, literal_read⟩ := words_of_ofText read
  rw [Text.words_join fun word member => (plain_words word member).isWord] at cut
  subst cut
  refine ⟨_, List.cons_ne_nil _ _, ?_, render_eq_join comparison⟩
  simp only [List.forall_mem_cons] at plain_words ⊢
  obtain ⟨field_plain, symbol_plain, raw_plain, nothing⟩ := plain_words
  exact ⟨field_plain, symbol_plain, Literal.isPlainWord_render raw_plain literal_read, nothing⟩

theorem ofRule_render (plain : Token.IsPlainCondition condition)
    (read : ofText condition = .ok comparison) :
    Tree.ofRule comparison.render = .ok (.leaf comparison.render) := by
  have leaf_plain : (Tree.leaf comparison.render).IsPlain :=
    Tree.isPlain_leaf.mpr (isPlainCondition_render plain read)
  have fits : (Tree.leaf comparison.render).depth ≤ maxGroups + 1 := Nat.le_add_left 1 maxGroups
  have built := Tree.ofText_render_eq_ok_iff.mpr ⟨fits, leaf_plain⟩
  rw [Tree.render_leaf] at built
  exact Tree.ofRule_eq_ok_iff.mpr
    ⟨built, Tree.isComparable_leaf.mpr ⟨comparison, ofText_render read⟩⟩

/-- Conditions that are read as the same comparison are evaluated alike. -/
theorem execute_leaf_congr {other : Text} (read : ofText condition = .ok comparison)
    (other_read : ofText other = .ok comparison) (traced : Bool) (record : Record) :
    (Tree.leaf other).execute traced record = (Tree.leaf condition).execute traced record := by
  refine Tree.execute_congr ?_
  have same : Tree.evaluateLeaf other record = Tree.evaluateLeaf condition record := by
    rw [Tree.evaluateLeaf, Tree.evaluateLeaf, read, other_read]
  rw [Tree.visit, Tree.visit, same]

/-- A condition is a comparison exactly if it has three words, of which the second is the symbol of
a comparator and the third is no numeral above the greatest integer.  What is written for the
comparison is read as the same comparison, so it is a normal form.  The normal form of a condition
in a rule is a rule with just this condition, which has on every record the same outcome. -/
theorem conditions_have_normal_form (condition : Text) :
    ((∃ comparison, ofText condition = .ok comparison) ↔
      ∃ field symbol raw, Text.words condition = [field, symbol, raw] ∧
        symbol ∈ [['>'], ['<'], ['=']] ∧
        ¬((∀ c ∈ raw, c.isDigit = true) ∧ 9223372036854775807 < Numeral.value raw)) ∧
    (∀ comparison, ofText condition = .ok comparison →
      ofText comparison.render = .ok comparison) ∧
    ∀ rule tree, Tree.ofRule rule = .ok tree → condition ∈ tree.leaves →
      ∃ comparison, ofText condition = .ok comparison ∧
        Tree.ofRule comparison.render = .ok (.leaf comparison.render) ∧
        ∀ traced record, (Tree.leaf comparison.render).execute traced record =
          (Tree.leaf condition).execute traced record := by
  refine ⟨?_, fun comparison => ofText_render, fun rule tree built member => ?_⟩
  · simp only [exists_ofText_iff, Comparator.exists_ofSymbol?_iff, Literal.exists_ofText_iff]
    rfl
  · obtain ⟨text_built, comparable⟩ := Tree.ofRule_eq_ok_iff.mp built
    obtain ⟨comparison, read⟩ := comparable condition member
    have plain := Tree.isPlain_of_ofText text_built condition member
    exact ⟨comparison, read, ofRule_render plain read, execute_leaf_congr read (ofText_render read)⟩

/-- A lone apostrophe and leading zeros in a rule.  The numeral of the first integer that is too
great makes no comparison, whatever zeros are before it. -/
theorem conditions_have_normal_form_at_rule :
    let rule : Text := "a = 007 AND b > '".toList
    let tree : Tree := .node .and (.leaf "a = 007".toList) (.leaf "b > '".toList)
    Tree.ofRule rule = .ok tree ∧
      (∃ comparison, ofText "a = 007".toList = .ok comparison ∧
        comparison.render = "a = 7".toList ∧
        ofText comparison.render = .ok comparison ∧
        ∀ traced record, (Tree.leaf comparison.render).execute traced record =
          (Tree.leaf "a = 007".toList).execute traced record) ∧
      (∃ comparison, ofText "b > '".toList = .ok comparison ∧
        comparison.render = "b > '''".toList ∧
        Tree.ofRule comparison.render = .ok (.leaf comparison.render)) ∧
      ¬∃ comparison, ofText "a = 009223372036854775808".toList = .ok comparison := by
  intro rule tree
  have zeros_eq : ofText "a = 007".toList = .ok ⟨['a'], .equal, .integer 7⟩ := rfl
  have lone_eq : ofText "b > '".toList = .ok ⟨['b'], .greater, .string [Literal.apostrophe]⟩ := rfl
  have text_built : Tree.ofText "a = 007 AND b > '".toList =
      .ok (.node .and (.leaf "a = 007".toList) (.leaf "b > '".toList)) := by
    cbv
  have comparable : tree.IsComparable := Tree.isComparable_node.mpr
    ⟨Tree.isComparable_leaf.mpr ⟨_, zeros_eq⟩, Tree.isComparable_leaf.mpr ⟨_, lone_eq⟩⟩
  have built : Tree.ofRule rule = .ok tree := Tree.ofRule_eq_ok_iff.mpr ⟨text_built, comparable⟩
  obtain ⟨_, again, in_rule⟩ := conditions_have_normal_form "a = 007".toList
  obtain ⟨zeros, zeros_read, _, zeros_outcome⟩ := in_rule rule tree built (by decide)
  obtain ⟨lone, lone_read, lone_rule, _⟩ :=
    (conditions_have_normal_form "b > '".toList).2.2 rule tree built (by decide)
  refine ⟨built, ⟨zeros, zeros_read, ?_, again zeros zeros_read, zeros_outcome⟩,
    ⟨lone, lone_read, ?_, lone_rule⟩, ?_⟩
  · cases zeros_eq.symm.trans zeros_read
    decide
  · cases lone_eq.symm.trans lone_read
    decide
  · intro readable
    obtain ⟨field, symbol, raw, cut, _, fits⟩ :=
      (conditions_have_normal_form "a = 009223372036854775808".toList).1.mp readable
    have cut_eq : Text.words "a = 009223372036854775808".toList =
        ["a".toList, "=".toList, "009223372036854775808".toList] := rfl
    rw [cut_eq] at cut
    cases cut
    have digits : "009223372036854775808".toList.all Char.isDigit = true := by decide
    exact fits ⟨List.all_eq_true.mp digits, by decide⟩

end Comparison

end Rulebook
