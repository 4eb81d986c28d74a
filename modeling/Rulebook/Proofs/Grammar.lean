import Rulebook.Proofs.Grouping
import Rulebook.Rule.Parse

/-!
# The grammar of rules

A disjunction is a conjunction or a conjunction, `OR` and a disjunction; a conjunction is a primary
or a primary, `AND` and a conjunction; a primary is a run of words or a disjunction in parentheses.
The grammar knows no limit of depth and nothing of groups or cuts.  Read over items instead of
tokens, every phrase is cut at its first connective, so no tokens stand for two trees.
-/

namespace Rulebook

/-- The phrases of the grammar. -/
inductive Phrase where
  | disjunction
  | conjunction
  | primary

/-- The tokens of a phrase and the tree that they stand for. -/
inductive Derives : Phrase → List Token → Tree → Prop
  | conjunction {tokens : List Token} {tree : Tree} :
      Derives .conjunction tokens tree → Derives .disjunction tokens tree
  | or {left right : List Token} {leftTree rightTree : Tree} :
      Derives .conjunction left leftTree → Derives .disjunction right rightTree →
      Derives .disjunction (left ++ .connective .or :: right) (.node .or leftTree rightTree)
  | primary {tokens : List Token} {tree : Tree} :
      Derives .primary tokens tree → Derives .conjunction tokens tree
  | and {left right : List Token} {leftTree rightTree : Tree} :
      Derives .primary left leftTree → Derives .conjunction right rightTree →
      Derives .conjunction (left ++ .connective .and :: right) (.node .and leftTree rightTree)
  | words {words : List Text} (some_word : words ≠ []) :
      Derives .primary (words.map .word) (.leaf (Text.join [' '] words))
  | group {tokens : List Token} {tree : Tree} :
      Derives .disjunction tokens tree →
      Derives .primary (.opening :: (tokens ++ [.closing])) tree

namespace Item

/-- The items of a phrase and the tree that they stand for. -/
inductive Reads : Phrase → List Item → Tree → Prop
  | conjunction {items : List Item} {tree : Tree} :
      Reads .conjunction items tree → Reads .disjunction items tree
  | or {left right : List Item} {leftTree rightTree : Tree} :
      Reads .conjunction left leftTree → Reads .disjunction right rightTree →
      Reads .disjunction (left ++ .connective .or :: right) (.node .or leftTree rightTree)
  | primary {items : List Item} {tree : Tree} :
      Reads .primary items tree → Reads .conjunction items tree
  | and {left right : List Item} {leftTree rightTree : Tree} :
      Reads .primary left leftTree → Reads .conjunction right rightTree →
      Reads .conjunction (left ++ .connective .and :: right) (.node .and leftTree rightTree)
  | words {words : List Text} (some_word : words ≠ []) :
      Reads .primary (words.map .word) (.leaf (Text.join [' '] words))
  | group {items : List Item} {tree : Tree} :
      Reads .disjunction items tree → Reads .primary [.group items] tree

theorem Reads.derives {phrase : Phrase} {items : List Item} {tree : Tree}
    (reading : Reads phrase items tree) : Derives phrase (tokensOf items) tree := by
  induction reading with
  | conjunction _ induction => exact .conjunction induction
  | primary _ induction => exact .primary induction
  | or _ _ left_induction right_induction =>
      rw [tokensOf_append, tokensOf, tokens]
      exact .or left_induction right_induction
  | and _ _ left_induction right_induction =>
      rw [tokensOf_append, tokensOf, tokens]
      exact .and left_induction right_induction
  | words some_word =>
      rw [tokensOf_words]
      exact .words some_word
  | group _ induction =>
      rw [tokensOf_singleton, tokens]
      exact .group induction

theorem exists_reads_of_derives {phrase : Phrase} {tokens : List Token} {tree : Tree}
    (derivation : Derives phrase tokens tree) :
    ∃ items, tokensOf items = tokens ∧ Reads phrase items tree := by
  induction derivation with
  | conjunction _ induction =>
      obtain ⟨items, rfl, reading⟩ := induction
      exact ⟨items, rfl, .conjunction reading⟩
  | primary _ induction =>
      obtain ⟨items, rfl, reading⟩ := induction
      exact ⟨items, rfl, .primary reading⟩
  | or _ _ left_induction right_induction =>
      obtain ⟨left, rfl, left_reading⟩ := left_induction
      obtain ⟨right, rfl, right_reading⟩ := right_induction
      exact ⟨left ++ .connective .or :: right, by rw [tokensOf_append, tokensOf, Item.tokens]; rfl,
        .or left_reading right_reading⟩
  | and _ _ left_induction right_induction =>
      obtain ⟨left, rfl, left_reading⟩ := left_induction
      obtain ⟨right, rfl, right_reading⟩ := right_induction
      exact ⟨left ++ .connective .and :: right, by rw [tokensOf_append, tokensOf, Item.tokens]; rfl,
        .and left_reading right_reading⟩
  | @words words some_word =>
      exact ⟨words.map .word, tokensOf_words words, .words some_word⟩
  | group _ induction =>
      obtain ⟨items, rfl, reading⟩ := induction
      exact ⟨[.group items], by rw [tokensOf_singleton, Item.tokens], .group reading⟩

theorem derives_tokensOf_iff {phrase : Phrase} {items : List Item} {tree : Tree} :
    Derives phrase (tokensOf items) tree ↔ Reads phrase items tree := by
  constructor
  · intro derivation
    obtain ⟨others, same, reading⟩ := exists_reads_of_derives derivation
    rwa [tokensOf_injective same] at reading
  · exact Reads.derives

/-! ## Cuts at the first connective -/

theorem isConnective_iff {c : Connective} {item : Item} :
    item.isConnective c = true ↔ item = .connective c := by
  cases item <;> simp [isConnective]

theorem cutAt?_eq_some_iff {c : Connective} {items left right : List Item} :
    cutAt? c items = some (left, right) ↔
      items = left ++ .connective c :: right ∧ .connective c ∉ left := by
  induction items generalizing left with
  | nil => simp [cutAt?]
  | cons item rest induction =>
      rw [cutAt?]
      by_cases first : item.isConnective c = true
      · rw [if_pos first]
        rw [isConnective_iff] at first
        subst first
        cases left with
        | nil => simp [eq_comm]
        | cons other left =>
            simp only [Option.some.injEq, Prod.mk.injEq, List.cons_append, List.cons.injEq]
            constructor
            · rintro ⟨bad, _⟩
              cases bad
            · rintro ⟨⟨rfl, _⟩, absent⟩
              exact absurd (List.mem_cons_self ..) absent
      · rw [if_neg first]
        rw [isConnective_iff] at first
        simp only [Option.map_eq_some_iff, Prod.exists, Prod.map_apply, id_eq, Prod.mk.injEq]
        constructor
        · rintro ⟨before, after, cut, rfl, rfl⟩
          obtain ⟨rfl, absent⟩ := induction.mp cut
          refine ⟨rfl, ?_⟩
          rw [List.mem_cons, not_or]
          exact ⟨fun same => first same.symm, absent⟩
        · rintro ⟨split, absent⟩
          cases left with
          | nil =>
              cases split
              exact absurd rfl first
          | cons other left =>
              rw [List.cons_append] at split
              cases split
              exact ⟨left, right, induction.mpr ⟨rfl, fun member =>
                absent (List.mem_cons_of_mem _ member)⟩, rfl, rfl⟩

theorem cutAt?_eq_none_iff {c : Connective} {items : List Item} :
    cutAt? c items = none ↔ .connective c ∉ items := by
  induction items with
  | nil => simp [cutAt?]
  | cons item rest induction =>
      rw [cutAt?, List.mem_cons, not_or]
      by_cases first : item.isConnective c = true
      · rw [if_pos first]
        rw [isConnective_iff] at first
        simp [first]
      · rw [if_neg first, Option.map_eq_none_iff, induction]
        rw [isConnective_iff] at first
        exact ⟨fun absent => ⟨fun same => first same.symm, absent⟩, fun absent => absent.2⟩

theorem words?_eq_some_iff {items : List Item} {words : List Text} :
    words? items = some words ↔ items = words.map .word := by
  induction items generalizing words with
  | nil =>
      cases words <;> simp [words?]
  | cons item rest induction =>
      cases item with
      | word text =>
          cases words with
          | nil => simp [words?]
          | cons word words =>
              simp only [words?, Option.map_eq_some_iff, List.cons.injEq, List.map_cons,
                Item.word.injEq, induction]
              constructor
              · rintro ⟨others, rfl, rfl, rfl⟩
                exact ⟨rfl, rfl⟩
              · rintro ⟨rfl, rfl⟩
                exact ⟨words, rfl, rfl, rfl⟩
      | connective c => cases words <;> simp [words?]
      | group inner => cases words <;> simp [words?]

theorem Reads.ne_nil {phrase : Phrase} {items : List Item} {tree : Tree}
    (reading : Reads phrase items tree) : items ≠ [] := by
  induction reading with
  | conjunction _ induction => exact induction
  | primary _ induction => exact induction
  | or _ _ _ _ => exact List.append_ne_nil_of_right_ne_nil _ (List.cons_ne_nil _ _)
  | and _ _ _ _ => exact List.append_ne_nil_of_right_ne_nil _ (List.cons_ne_nil _ _)
  | words some_word => simpa using some_word
  | group _ _ => exact List.cons_ne_nil _ _

theorem Reads.connective_notMem {items : List Item} {tree : Tree}
    (reading : Reads .primary items tree) (c : Connective) : .connective c ∉ items := by
  cases reading with
  | words some_word => simp
  | group _ => simp

theorem Reads.or_notMem {items : List Item} {tree : Tree}
    (reading : Reads .conjunction items tree) : .connective .or ∉ items := by
  generalize phrase_eq : Phrase.conjunction = phrase at reading
  induction reading with
  | conjunction _ _ => cases phrase_eq
  | or _ _ _ _ => cases phrase_eq
  | primary primary _ => exact primary.connective_notMem .or
  | and left _ _ right_induction =>
      rw [List.mem_append, List.mem_cons, not_or, not_or]
      exact ⟨left.connective_notMem .or, by simp, right_induction rfl⟩
  | words some_word => cases phrase_eq
  | group _ _ => cases phrase_eq

/-- Two cuts of the same items at a connective that stands before neither are the same. -/
private theorem cut_unique {c : Connective} {left right left' right' : List Item}
    (same : left ++ .connective c :: right = left' ++ .connective c :: right')
    (absent : .connective c ∉ left) (absent' : .connective c ∉ left') :
    left = left' ∧ right = right' := by
  have cut : cutAt? c (left ++ .connective c :: right) = some (left, right) :=
    cutAt?_eq_some_iff.mpr ⟨rfl, absent⟩
  rw [same, cutAt?_eq_some_iff.mpr ⟨rfl, absent'⟩] at cut
  cases cut
  exact ⟨rfl, rfl⟩

theorem Reads.unique {phrase : Phrase} {items : List Item} {tree other : Tree}
    (reading : Reads phrase items tree) (second : Reads phrase items other) : tree = other := by
  induction reading generalizing other with
  | conjunction first induction =>
      cases second with
      | conjunction second => exact induction second
      | or _ _ => exact absurd (by simp) first.or_notMem
  | primary first induction =>
      cases second with
      | primary second => exact induction second
      | and _ _ => exact absurd (by simp) (first.connective_notMem .and)
  | @or left right leftTree rightTree first_left _ left_induction right_induction =>
      generalize items_eq : left ++ connective .or :: right = items at second
      cases second with
      | conjunction second =>
          subst items_eq
          exact absurd (by simp) second.or_notMem
      | or second_left second_right =>
          obtain ⟨rfl, rfl⟩ := cut_unique items_eq first_left.or_notMem second_left.or_notMem
          rw [left_induction second_left, right_induction second_right]
  | @and left right leftTree rightTree first_left _ left_induction right_induction =>
      generalize items_eq : left ++ connective .and :: right = items at second
      cases second with
      | primary second =>
          subst items_eq
          exact absurd (by simp) (second.connective_notMem .and)
      | and second_left second_right =>
          obtain ⟨rfl, rfl⟩ := cut_unique items_eq (first_left.connective_notMem .and)
            (second_left.connective_notMem .and)
          rw [left_induction second_left, right_induction second_right]
  | @words words some_word =>
      generalize items_eq : words.map Item.word = items at second
      cases second with
      | @words others _ =>
          have found := words?_eq_some_iff.mpr items_eq
          rw [words?_eq_some_iff.mpr rfl] at found
          cases found
          rfl
      | group _ =>
          cases words with
          | nil => cases items_eq
          | cons word words => cases items_eq
  | group _ induction =>
      generalize items_eq : [Item.group _] = items at second
      cases second with
      | @words words _ =>
          cases words with
          | nil => cases items_eq
          | cons word words => cases items_eq
      | group second =>
          cases items_eq
          exact induction second

end Item

theorem Derives.tree_unique {phrase : Phrase} {tokens : List Token} {tree other : Tree}
    (first : Derives phrase tokens tree) (second : Derives phrase tokens other) : tree = other := by
  obtain ⟨items, rfl, reading⟩ := Item.exists_reads_of_derives first
  exact reading.unique (Item.derives_tokensOf_iff.mp second)

/-- The tokens of a phrase close the parentheses that they open, and no others. -/
theorem Derives.nestingFrom_append {phrase : Phrase} {tokens : List Token} {tree : Tree}
    (derivation : Derives phrase tokens tree) (height : Nat) (rest : List Token) :
    Token.nestingFrom height (tokens ++ rest) =
      max (height + Token.nesting tokens) (Token.nestingFrom height rest) := by
  obtain ⟨items, rfl, _⟩ := Item.exists_reads_of_derives derivation
  rw [Item.nestingFrom_tokensOf, Item.nesting_tokensOf]

theorem Derives.nesting_group {phrase : Phrase} {tokens : List Token} {tree : Tree}
    (derivation : Derives phrase tokens tree) :
    Token.nesting (.opening :: (tokens ++ [.closing])) = Token.nesting tokens + 1 := by
  have inner := derivation.nestingFrom_append 1 [.closing]
  simp only [Token.nesting, Token.nestingFrom, Nat.reduceAdd, Nat.sub_self] at inner ⊢
  omega

end Rulebook
