import Rulebook.Proofs.Grouping

/-!
# Grouping by positions

Tokens may be grouped without a stack, by looking at them at their positions: an opening parenthesis
groups what follows it on its own, and then looks for the closing one behind the tokens that this
took.  No position outside of the tokens is looked at on the way, and the outcome is that of the
stack.
-/

namespace Rulebook

namespace Item

/-- Gather tokens into items from a position on, up to a closing parenthesis without an opening one,
or up to the end.  Gives the items, after those that are there already, and the position that is
reached; none if a token or a rest of the tokens is asked for that is not there. -/
def gatherFrom? (depth : Nat) (tokens : List Token) (items : List Item) (position : Nat) :
    Option (Except ParseFault (List Item × Nat)) :=
  if position < tokens.length then
    match tokens[position]? with
    | none => none
    | some .opening =>
        if depth + 1 > maxGroups then some (.error .groupTooDeep)
        else if position + 1 ≤ tokens.length then
          match gatherFrom? (depth + 1) (tokens.drop (position + 1)) [] 0 with
          | none => none
          | some (.error fault) => some (.error fault)
          | some (.ok (inner, used)) =>
              let close := position + 1 + used
              if tokens[close]? = some .closing then
                gatherFrom? depth tokens (items ++ [.group inner]) (close + 1)
              else some (.error .groupUnclosed)
        else none
    | some .closing => some (.ok (items, position))
    | some (.connective c) => gatherFrom? depth tokens (items ++ [.connective c]) (position + 1)
    | some (.word text) => gatherFrom? depth tokens (items ++ [.word text]) (position + 1)
  else some (.ok (items, position))
termination_by tokens.length - position
decreasing_by
  · rw [List.length_drop]
    omega
  all_goals omega

/-- The outcome of gathering on a level that is closed by the stack below it. -/
def closeGroup (room : Nat) (outer : List (List Item)) (before : List Item) :
    Except ParseFault (List Item × List Token) → Except ParseFault (List Item × List Token)
  | .error fault => .error fault
  | .ok (_, []) => .error .groupUnclosed
  | .ok (items, _ :: rest) => gather room outer (.group items :: before) rest

/-- Gathering on a stack does first what the upper part of the stack asks for. -/
theorem gather_append (room : Nat) (upper outer : List (List Item)) (before current : List Item)
    (tokens : List Token) :
    gather room (upper ++ before :: outer) current tokens =
      closeGroup room outer before (gather (room - outer.length - 1) upper current tokens) := by
  induction tokens generalizing upper current with
  | nil => cases upper <;> rfl
  | cons token rest induction =>
      cases token with
      | opening =>
          have same_room : (upper ++ before :: outer).length < room ↔
              upper.length < room - outer.length - 1 := by
            rw [List.length_append, List.length_cons]
            omega
          simp only [gather, same_room]
          split
          · exact induction (current :: upper) []
          · rfl
      | closing =>
          cases upper with
          | nil => rfl
          | cons first upper => exact induction upper _
      | connective c => exact induction upper _
      | word text => exact induction upper _

theorem gather_opening (room : Nat) (current : List Item) (rest : List Token) :
    gather room [] current (.opening :: rest) =
      if 0 < room then closeGroup room [] current (gather (room - 1) [] [] rest)
      else .error .groupTooDeep := by
  rw [gather, List.length_nil]
  split
  · exact gather_append room [] [] current [] rest
  · rfl

/-- What is gathered, with the position that is reached in place of the tokens that are left. -/
def reached (tokens : List Token) : List Item × List Token → List Item × Nat
  | (items, left) => (items, tokens.length - left.length)

theorem drop_of_getElem? {tokens : List Token} {position : Nat} {token : Token}
    (found : tokens[position]? = some token) :
    tokens.drop position = token :: tokens.drop (position + 1) := by
  obtain ⟨in_range, rfl⟩ := List.getElem?_eq_some_iff.mp found
  exact List.drop_eq_getElem_cons in_range

/-- The tokens that are left are those behind the position that is reached. -/
theorem gather_of_reached {room used : Nat} {tokens : List Token} {items : List Item}
    (gathered : (gather room [] [] tokens).map (reached tokens) = .ok (items, used)) :
    gather room [] [] tokens = .ok (items, tokens.drop used) := by
  rcases outcome : gather room [] [] tokens with reason | ⟨items, left⟩ <;>
    rw [outcome] at gathered <;> cases gathered
  obtain ⟨whole, _⟩ := gather_sound outcome
  rw [taken, List.reverse_nil, tokensOf, List.nil_append] at whole
  rw [← whole, List.length_append, Nat.add_sub_cancel, List.drop_left]

/-- Gathering by positions is gathering on a stack: no position outside of the tokens is looked at,
and the outcome is the same. -/
theorem gatherFrom?_eq (depth : Nat) (tokens : List Token) (items : List Item) (position : Nat)
    (inside : position ≤ tokens.length) :
    gatherFrom? depth tokens items position =
      some ((gather (maxGroups - depth) [] items.reverse (tokens.drop position)).map
        (reached tokens)) := by
  fun_induction gatherFrom? depth tokens items position with
  | case1 depth tokens items position in_range missing =>
      exact absurd (List.getElem?_eq_none_iff.mp missing) (Nat.not_le.mpr in_range)
  | case2 depth tokens items position in_range found too_deep =>
      rw [drop_of_getElem? found, gather_opening, if_neg (by omega)]
      rfl
  | case3 depth tokens items position in_range found fits rest_inside missing induction =>
      cases missing.symm.trans (induction (Nat.zero_le _))
  | case4 depth tokens items position in_range found fits rest_inside fault refused induction =>
      have level := refused.symm.trans (induction (Nat.zero_le _))
      rw [List.reverse_nil, List.drop_zero, Nat.sub_add_eq] at level
      rw [drop_of_getElem? found, gather_opening, if_pos (by omega)]
      rcases gathered : gather (maxGroups - depth - 1) [] [] (tokens.drop (position + 1)) with
        reason | outcome <;>
        rw [gathered] at level <;> cases level
      rfl
  | case5 depth tokens items position in_range found fits rest_inside inner used grouped close
      closes induction later =>
      have level := grouped.symm.trans (induction (Nat.zero_le _))
      rw [List.reverse_nil, List.drop_zero, Nat.sub_add_eq] at level
      have gathered := gather_of_reached (Option.some.inj level).symm
      have close_inside : close < tokens.length := (List.getElem?_eq_some_iff.mp closes).1
      rw [List.drop_drop, drop_of_getElem? closes] at gathered
      rw [later close_inside, drop_of_getElem? found, gather_opening, if_pos (by omega), gathered,
        List.reverse_append]
      rfl
  | case6 depth tokens items position in_range found fits rest_inside inner used grouped close
      open_still induction =>
      have level := grouped.symm.trans (induction (Nat.zero_le _))
      rw [List.reverse_nil, List.drop_zero, Nat.sub_add_eq] at level
      have gathered := gather_of_reached (Option.some.inj level).symm
      rw [List.drop_drop] at gathered
      rw [← List.head?_drop] at open_still
      have nothing_left : tokens.drop close = [] :=
        (gather_sound gathered).2.resolve_right open_still
      rw [nothing_left] at gathered
      rw [drop_of_getElem? found, gather_opening, if_pos (by omega), gathered]
      rfl
  | case7 depth tokens items position in_range found fits rest_outside =>
      exact absurd in_range rest_outside
  | case8 depth tokens items position in_range found =>
      have length_eq : tokens.length - (tokens.drop position).length = position := by
        rw [List.length_drop]
        omega
      have stops : gather (maxGroups - depth) [] items.reverse (tokens.drop position) =
          .ok (items, tokens.drop position) := by
        rw [drop_of_getElem? found, gather, List.reverse_reverse]
      rw [stops, Except.map, reached, length_eq]
  | case9 depth tokens items position in_range c found induction =>
      rw [induction in_range, drop_of_getElem? found, gather, List.reverse_append]
      rfl
  | case10 depth tokens items position in_range text found induction =>
      rw [induction in_range, drop_of_getElem? found, gather, List.reverse_append]
      rfl
  | case11 depth tokens items position out_of_range =>
      have at_end : tokens.length = position := by omega
      rw [List.drop_eq_nil_of_le (Nat.le_of_eq at_end), gather, List.reverse_reverse, Except.map,
        reached, at_end]
      rfl

/-- The groups of items that were gathered are not deeper than there was room for. -/
theorem heightOf_le_of_gather {room : Nat} {tokens left : List Token} {items : List Item}
    (gathered : gather room [] [] tokens = .ok (items, left)) : heightOf items ≤ room := by
  obtain ⟨whole, _⟩ := gather_sound gathered
  rw [taken, List.reverse_nil, tokensOf, List.nil_append] at whole
  have again := gather_tokensOf room items [] [] left (Nat.zero_le room)
  rw [whole, gathered, List.length_nil, Nat.zero_add] at again
  split at again
  · assumption
  · cases again

/-- Grouping keeps every token.

Grouping tokens by positions, within `depth` open parentheses, never looks at a position outside of
the tokens, and its outcome is that of the stack, with a position in place of the tokens that are
left.  If it gives items, then they have just the tokens before that position, which is the end or
holds a closing parenthesis, and their groups are not deeper than the parentheses that may still be
opened. -/
theorem grouping_keeps_tokens (depth : Nat) (tokens : List Token) :
    gatherFrom? depth tokens [] 0 = some ((ofTokens depth tokens).map (reached tokens)) ∧
      ∀ items used, gatherFrom? depth tokens [] 0 = some (.ok (items, used)) →
        used ≤ tokens.length ∧ tokensOf items = tokens.take used ∧
          (used = tokens.length ∨ tokens[used]? = some .closing) ∧
          heightOf items ≤ 64 - depth := by
  have same : gatherFrom? depth tokens [] 0 =
      some ((ofTokens depth tokens).map (reached tokens)) :=
    gatherFrom?_eq depth tokens [] 0 (Nat.zero_le _)
  refine ⟨same, fun items used grouped => ?_⟩
  rw [same, Option.some.injEq] at grouped
  have used_le : used ≤ tokens.length := by
    rcases outcome : ofTokens depth tokens with reason | ⟨items, left⟩ <;>
      rw [outcome] at grouped <;> cases grouped
    exact Nat.sub_le _ _
  have gathered : gather (maxGroups - depth) [] [] tokens = .ok (items, tokens.drop used) :=
    gather_of_reached grouped
  obtain ⟨whole, stops⟩ := gather_sound gathered
  rw [taken, List.reverse_nil, tokensOf, List.nil_append] at whole
  refine ⟨used_le, ?_, ?_, heightOf_le_of_gather gathered⟩
  · exact List.append_cancel_right (whole.trans (List.take_append_drop used tokens).symm)
  · rw [List.head?_drop, List.drop_eq_nil_iff] at stops
    exact stops.imp_left (Nat.le_antisymm used_le)

/-- Two parentheses are the last that may be opened, and the third closing one is not theirs. -/
theorem grouping_keeps_tokens_up_to_stray_closing :
    let tokens := Token.ofText "(a (b))) c".toList
    let items : List Item := [.group [.word ['a'], .group [.word ['b']]]]
    gatherFrom? 62 tokens [] 0 = some (.ok (items, 6)) ∧ tokensOf items = tokens.take 6 ∧
      tokens[6]? = some .closing ∧ heightOf items ≤ 2 := by
  intro tokens items
  have grouped : gatherFrom? 62 tokens [] 0 = some (.ok (items, 6)) :=
    (grouping_keeps_tokens 62 tokens).1
  obtain ⟨_, same, stops, low⟩ := (grouping_keeps_tokens 62 tokens).2 items 6 grouped
  exact ⟨grouped, same, stops.resolve_left (by decide), low⟩

end Item

end Rulebook
