import Rulebook.Rule.Group

/-!
# Grouping and flattening

Gathering tokens into items is the inverse of writing items as tokens, as long as the parentheses
do not nest too deeply.  The stack of open groups is read as the tokens that it has taken, and the
depth of the groups as the nesting of the parentheses.
-/

namespace Rulebook

namespace Token

/-- The greatest number of parentheses that are open at a time among tokens before which `height`
parentheses are open. -/
def nestingFrom (height : Nat) : List Token → Nat
  | [] => height
  | .opening :: rest => max height (nestingFrom (height + 1) rest)
  | .closing :: rest => max height (nestingFrom (height - 1) rest)
  | .connective _ :: rest => nestingFrom height rest
  | .word _ :: rest => nestingFrom height rest

/-- The greatest number of parentheses that are open at a time. -/
def nesting (tokens : List Token) : Nat :=
  nestingFrom 0 tokens

theorem le_nestingFrom (height : Nat) (tokens : List Token) :
    height ≤ nestingFrom height tokens := by
  induction tokens with
  | nil => exact Nat.le_refl height
  | cons token rest induction =>
      cases token with
      | opening => exact Nat.le_max_left _ _
      | closing => exact Nat.le_max_left _ _
      | connective c => exact induction
      | word text => exact induction

end Token

namespace Item

mutual

/-- The depth of the groups of an item. -/
def height : Item → Nat
  | .word _ => 0
  | .connective _ => 0
  | .group items => 1 + heightOf items

/-- The depth of the groups of some items. -/
def heightOf : List Item → Nat
  | [] => 0
  | item :: rest => max item.height (heightOf rest)

end

/-- Induction on items, through their groups. -/
@[elab_as_elim]
theorem listInduction {motive : List Item → Prop} (nil : motive [])
    (word : ∀ text rest, motive rest → motive (.word text :: rest))
    (connective : ∀ c rest, motive rest → motive (.connective c :: rest))
    (group : ∀ inner rest, motive inner → motive rest → motive (.group inner :: rest)) :
    ∀ items, motive items
  | [] => nil
  | .word text :: rest => word text rest (listInduction nil word connective group rest)
  | .connective c :: rest => connective c rest (listInduction nil word connective group rest)
  | .group inner :: rest =>
      group inner rest (listInduction nil word connective group inner)
        (listInduction nil word connective group rest)

theorem tokensOf_append (left right : List Item) :
    tokensOf (left ++ right) = tokensOf left ++ tokensOf right := by
  induction left with
  | nil => rfl
  | cons item left induction =>
      rw [List.cons_append, tokensOf, tokensOf, induction, List.append_assoc]

theorem tokensOf_singleton (item : Item) : tokensOf [item] = item.tokens := by
  rw [tokensOf, tokensOf, List.append_nil]

theorem tokensOf_words (words : List Text) :
    tokensOf (words.map Item.word) = words.map Token.word := by
  induction words with
  | nil => rfl
  | cons word words induction =>
      rw [List.map_cons, List.map_cons, tokensOf, tokens, induction]
      rfl

theorem nestingFrom_tokensOf (items : List Item) (height : Nat) (rest : List Token) :
    Token.nestingFrom height (tokensOf items ++ rest) =
      max (height + heightOf items) (Token.nestingFrom height rest) := by
  induction items using listInduction generalizing height rest with
  | nil =>
      have := Token.le_nestingFrom height rest
      simp only [tokensOf, heightOf, List.nil_append]
      omega
  | word text items induction =>
      simp only [tokensOf, tokens, heightOf, Item.height, List.cons_append, List.nil_append,
        Token.nestingFrom, induction]
      omega
  | connective c items induction =>
      simp only [tokensOf, tokens, heightOf, Item.height, List.cons_append, List.nil_append,
        Token.nestingFrom, induction]
      omega
  | group inner items inner_induction induction =>
      simp only [tokensOf, tokens, heightOf, Item.height, List.cons_append, List.append_assoc,
        List.nil_append, Token.nestingFrom, inner_induction, induction, Nat.add_sub_cancel]
      omega

theorem nesting_tokensOf (items : List Item) : Token.nesting (tokensOf items) = heightOf items := by
  have nesting := nestingFrom_tokensOf items 0 []
  rw [List.append_nil, Token.nestingFrom] at nesting
  rw [Token.nesting, nesting]
  omega

/-- Gathering the tokens of items gives the items back, unless their groups are too deep. -/
theorem gather_tokensOf (room : Nat) (items : List Item) (outer : List (List Item))
    (current : List Item) (rest : List Token) (fits : outer.length ≤ room) :
    gather room outer current (tokensOf items ++ rest) =
      if outer.length + heightOf items ≤ room then
        gather room outer (items.reverse ++ current) rest
      else .error .groupTooDeep := by
  induction items using listInduction generalizing outer current rest with
  | nil => simp [tokensOf, heightOf, fits]
  | word text items induction =>
      simp [tokensOf, tokens, heightOf, height, gather, induction _ _ _ fits]
  | connective c items induction =>
      simp [tokensOf, tokens, heightOf, height, gather, induction _ _ _ fits]
  | group inner items inner_induction induction =>
      have height_eq : heightOf (.group inner :: items) =
          max (1 + heightOf inner) (heightOf items) := by rw [heightOf, height]
      simp only [tokensOf, tokens, List.cons_append, List.append_assoc, List.nil_append, gather]
      by_cases room_left : outer.length < room
      · rw [if_pos room_left, inner_induction (current :: outer) [] _ room_left]
        by_cases inner_fits : outer.length + 1 + heightOf inner ≤ room
        · rw [List.length_cons, if_pos inner_fits, gather, induction _ _ _ fits]
          have same : outer.length + heightOf (.group inner :: items) ≤ room ↔
              outer.length + heightOf items ≤ room := by omega
          simp [same]
        · rw [List.length_cons, if_neg inner_fits, if_neg (by omega)]
      · rw [if_neg room_left, if_neg (by omega)]

/-- The tokens that the open groups and the items after the last parenthesis have taken. -/
def taken : List (List Item) → List Item → List Token
  | [], current => tokensOf current.reverse
  | before :: outer, current => taken outer before ++ .opening :: tokensOf current.reverse

theorem taken_cons (outer : List (List Item)) (item : Item) (current : List Item) :
    taken outer (item :: current) = taken outer current ++ item.tokens := by
  cases outer with
  | nil => rw [taken, taken, List.reverse_cons, tokensOf_append, tokensOf_singleton]
  | cons before outer =>
      rw [taken, taken, List.reverse_cons, tokensOf_append, tokensOf_singleton]
      simp only [List.append_assoc, List.cons_append]

/-- Gathering keeps every token, and stops at the end or before a closing parenthesis. -/
theorem gather_sound {room : Nat} {outer : List (List Item)} {current : List Item}
    {tokens left : List Token} {items : List Item}
    (gathered : gather room outer current tokens = .ok (items, left)) :
    tokensOf items ++ left = taken outer current ++ tokens ∧
      (left = [] ∨ left.head? = some .closing) := by
  fun_induction gather room outer current tokens with
  | case1 current =>
      cases gathered
      exact ⟨rfl, .inl rfl⟩
  | case2 => cases gathered
  | case3 current rest =>
      cases gathered
      exact ⟨rfl, .inr rfl⟩
  | case4 current rest before outer induction =>
      obtain ⟨same, stops⟩ := induction gathered
      refine ⟨?_, stops⟩
      rw [same, taken_cons, taken, Item.tokens]
      simp only [List.append_assoc, List.cons_append, List.nil_append]
  | case5 outer current rest _ induction =>
      obtain ⟨same, stops⟩ := induction gathered
      refine ⟨?_, stops⟩
      rw [same, taken]
      simp only [List.reverse_nil, tokensOf, List.append_assoc, List.cons_append, List.nil_append]
  | case6 => cases gathered
  | case7 outer current c rest induction =>
      obtain ⟨same, stops⟩ := induction gathered
      refine ⟨?_, stops⟩
      rw [same, taken_cons, Item.tokens]
      simp only [List.append_assoc, List.cons_append, List.nil_append]
  | case8 outer current text rest induction =>
      obtain ⟨same, stops⟩ := induction gathered
      refine ⟨?_, stops⟩
      rw [same, taken_cons, Item.tokens]
      simp only [List.append_assoc, List.cons_append, List.nil_append]

private theorem gather_whole {room : Nat} {items : List Item} (fits : heightOf items ≤ room) :
    gather room [] [] (tokensOf items) = .ok (items, []) := by
  have gathered := gather_tokensOf room items [] [] [] (Nat.zero_le room)
  rw [List.append_nil, List.length_nil, if_pos (by omega), gather] at gathered
  rw [gathered, List.append_nil, List.reverse_reverse]

theorem tokensOf_injective {items others : List Item} (same : tokensOf items = tokensOf others) :
    items = others := by
  have first := gather_whole (Nat.le_max_left (heightOf items) (heightOf others))
  have second := gather_whole (Nat.le_max_right (heightOf items) (heightOf others))
  rw [same, second] at first
  cases first
  rfl

/-- The items of a rule are those with its tokens, if the parentheses are not nested too deeply. -/
theorem ofRule_eq_ok_iff {tokens : List Token} {items : List Item} :
    ofRule tokens = .ok items ↔ tokensOf items = tokens ∧ Token.nesting tokens ≤ maxGroups := by
  constructor
  · intro gathered
    unfold ofRule at gathered
    split at gathered
    · cases gathered
    · next all_gathered =>
      cases gathered
      rw [ofTokens, Nat.sub_zero] at all_gathered
      obtain ⟨same, _⟩ := gather_sound all_gathered
      simp only [List.append_nil, taken, List.reverse_nil, tokensOf, List.nil_append] at same
      subst same
      refine ⟨rfl, ?_⟩
      have whole := gather_tokensOf maxGroups items [] [] [] (Nat.zero_le _)
      rw [List.append_nil, all_gathered, List.length_nil] at whole
      rw [nesting_tokensOf]
      split at whole
      · next fits => omega
      · cases whole
    · cases gathered
  · rintro ⟨rfl, fits⟩
    rw [nesting_tokensOf] at fits
    rw [ofRule, ofTokens, Nat.sub_zero, gather_whole fits]

/-- Balanced tokens whose parentheses nest too deeply are refused for that. -/
theorem ofRule_tokensOf_of_tall {items : List Item} (tall : maxGroups < heightOf items) :
    ofRule (tokensOf items) = .error .groupTooDeep := by
  have gathered := gather_tokensOf maxGroups items [] [] [] (Nat.zero_le _)
  rw [List.append_nil, List.length_nil, if_neg (by omega)] at gathered
  rw [ofRule, ofTokens, Nat.sub_zero, gathered]

end Item

end Rulebook
