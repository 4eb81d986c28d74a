import Rulebook.Proofs.Parsing

/-!
# Faults of parentheses

The parentheses of a rule are faulty exactly if a counter of the open ones finds a fault: it would
pass its limit, it would fall below zero, or it does not end at zero.  Reading a rule tells the
first fault that the counter finds, whatever else is wrong with the rule.
-/

namespace Rulebook

/-- What is wrong with the parentheses of a rule. -/
inductive ParenthesisFault where
  | nesting
  /-- A closing parenthesis without an opening one, by its place among the tokens, from one. -/
  | stray (position : Nat)
  | unclosed
deriving DecidableEq

namespace ParenthesisFault

/-- The first fault that a counter of open parentheses finds among tokens, if it has already counted
`height` open ones before the token at `position`. -/
def first? (height position : Nat) : List Token → Option ParenthesisFault
  | [] => if height = 0 then none else some .unclosed
  | .opening :: rest =>
      if height = 64 then some .nesting else first? (height + 1) (position + 1) rest
  | .closing :: rest =>
      if height = 0 then some (.stray position) else first? (height - 1) (position + 1) rest
  | .connective _ :: rest => first? height (position + 1) rest
  | .word _ :: rest => first? height (position + 1) rest

/-- The fault of parsing that a fault of parentheses is. -/
def cause : ParenthesisFault → ParseFault
  | .nesting => .groupTooDeep
  | .stray position => .strayClosing position
  | .unclosed => .groupUnclosed

theorem cause_injective {fault other : ParenthesisFault} (same : fault.cause = other.cause) :
    fault = other := by
  cases fault <;> cases other <;> cases same <;> rfl

/-- The fault of parentheses that gathering tokens ends with, if `behind` is the position behind the
last one. -/
def ofGathered? (behind : Nat) : Except ParseFault (List Item × List Token) → Option ParseFault
  | .error fault => some fault
  | .ok (_, []) => none
  | .ok (_, _ :: left) => some (.strayClosing (behind - left.length - 1))

/-- Gathering tokens ends with the fault that the counter finds: the height of the stack of open
groups is what is counted. -/
theorem ofGathered?_gather (tokens : List Token) {outer : List (List Item)}
    (fits : outer.length ≤ maxGroups) (current : List Item) (position : Nat) :
    ofGathered? (position + tokens.length) (Item.gather maxGroups outer current tokens) =
      (first? outer.length position tokens).map cause := by
  induction tokens generalizing outer current position with
  | nil => cases outer <;> rfl
  | cons token rest induction =>
      have behind : position + (token :: rest).length = position + 1 + rest.length := by
        rw [List.length_cons]
        omega
      rw [behind]
      cases token with
      | opening =>
          rw [Item.gather, first?]
          split
          · next room =>
            have not_full : outer.length ≠ 64 := Nat.ne_of_lt room
            rw [if_neg not_full]
            exact @induction (current :: outer) room [] (position + 1)
          · next no_room =>
            have full : outer.length = 64 := Nat.le_antisymm fits (Nat.le_of_not_lt no_room)
            rw [if_pos full]
            rfl
      | closing =>
          rw [first?]
          cases outer with
          | nil =>
              simp only [Item.gather, ofGathered?, List.length_nil, if_true, Option.map_some, cause]
              congr 2
              omega
          | cons before outer =>
              rw [Item.gather, List.length_cons, if_neg (Nat.succ_ne_zero _), Nat.add_sub_cancel]
              exact induction (Nat.le_of_succ_le fits) _ (position + 1)
      | connective c => exact induction fits _ (position + 1)
      | word text => exact induction fits _ (position + 1)

/-- Grouping the tokens of a rule fails exactly with the fault that the counter finds. -/
theorem items_ofRule_eq_error_iff {tokens : List Token} {reason : ParseFault} :
    Item.ofRule tokens = .error reason ↔ (first? 0 1 tokens).map cause = some reason := by
  have counted := @ofGathered?_gather tokens [] (Nat.zero_le _) [] 1
  rw [List.length_nil] at counted
  rw [← counted, Item.ofRule, Item.ofTokens, Nat.sub_zero]
  rcases Item.gather maxGroups [] [] tokens with fault | ⟨items, left⟩
  · simp [ofGathered?]
  · cases left with
    | nil => simp [ofGathered?]
    | cons token left =>
        have position_eq : tokens.length - left.length = 1 + tokens.length - left.length - 1 := by
          omega
        simp [ofGathered?, position_eq]

theorem onSide_eq_cause_iff {fault : ParenthesisFault} {reason : ParseFault}
    {connective : Connective} {side : Side} :
    reason.onSide connective side = fault.cause ↔ reason = fault.cause := by
  cases reason <;> cases fault <;> simp [ParseFault.onSide, cause]

theorem ofItems_ne_cause (fault : ParenthesisFault) (level : Nat) (items : List Item) :
    Tree.ofItems level items ≠ .error fault.cause := by
  fun_induction Tree.ofItems level items with
  | case1 | case2 | case4 | case9 =>
      intro told
      cases fault <;> cases told
  | case3 level _ inner induction => exact induction
  | case5 level _ items _ _ _ connective left right _ reason failed induction =>
      intro told
      rw [failed] at induction
      exact induction (congrArg _ (onSide_eq_cause_iff.mp (Except.error.inj told)))
  | case6 level _ items _ _ _ connective left right _ _ _ reason failed _ induction =>
      intro told
      rw [failed] at induction
      exact induction (congrArg _ (onSide_eq_cause_iff.mp (Except.error.inj told)))
  | case7 | case8 =>
      intro told
      cases told

theorem conditionFault?_ne_cause (fault : ParenthesisFault) (conditions : List Text) :
    Tree.conditionFault? conditions ≠ some fault.cause := by
  induction conditions with
  | nil =>
      intro told
      cases told
  | cons condition rest induction =>
      rw [Tree.conditionFault?]
      split
      · intro told
        cases fault <;> cases told
      · exact induction

theorem ofText_eq_error_iff {rule : Text} {fault : ParenthesisFault} :
    Tree.ofText rule = .error fault.cause ↔ first? 0 1 (Token.ofText rule) = some fault := by
  have counted : Item.ofRule (Token.ofText rule) = .error fault.cause ↔
      first? 0 1 (Token.ofText rule) = some fault := by
    rw [items_ofRule_eq_error_iff, Option.map_eq_some_iff]
    constructor
    · rintro ⟨found, is_first, same⟩
      rwa [cause_injective same] at is_first
    · exact fun is_first => ⟨fault, is_first, rfl⟩
  rw [← counted, Tree.ofText]
  cases Item.ofRule (Token.ofText rule) with
  | error reason => simp
  | ok items => simp [ofItems_ne_cause]

theorem ofRule_eq_error_iff {rule : Text} {fault : ParenthesisFault} :
    Tree.ofRule rule = .error fault.cause ↔ Tree.ofText rule = .error fault.cause := by
  rw [Tree.ofRule]
  cases Tree.ofText rule with
  | error reason => exact Iff.rfl
  | ok tree =>
      dsimp only
      cases faulty : Tree.conditionFault? tree.leaves with
      | none => simp
      | some reason =>
          have other_reason : reason ≠ fault.cause := by
            rintro rfl
            exact conditionFault?_ne_cause fault _ faulty
          simp [other_reason]

private theorem head?_message : (reason : ParseFault) → reason.message.head? =
    match reason with
    | .groupTooDeep | .groupUnclosed | .groupBesideCondition => some '括'
    | .strayClosing _ => some '第'
    | .treeTooDeep => some '语'
    | .emptyExpression => some '空'
    | .loneConnective _ | .emptySide _ _ => some '操'
    | .condition _ _ => some '无'
  | .groupTooDeep | .groupUnclosed | .groupBesideCondition | .strayClosing _ | .treeTooDeep
  | .emptyExpression | .loneConnective _ | .emptySide _ _ | .condition _ _ => rfl

theorem message_eq_iff {fault : ParenthesisFault} {reason : ParseFault} :
    reason.message = fault.cause.message ↔ reason = fault.cause := by
  refine ⟨fun same => ?_, fun same => same ▸ rfl⟩
  have head_same := congrArg List.head? same
  have third_same := congrArg (fun text : Text => text[2]?) same
  rw [head?_message, head?_message] at head_same
  cases fault with
  | nesting =>
      cases reason with
      | groupTooDeep => rfl
      | groupUnclosed | groupBesideCondition => exact absurd third_same (by decide)
      | _ => simp [cause] at head_same
  | stray position =>
      cases reason with
      | strayClosing other =>
          have texts_same : "第 ".toList ++ Numeral.ofNat other ++ " 个记号处出现多余的右括号".toList =
              "第 ".toList ++ Numeral.ofNat position ++ " 个记号处出现多余的右括号".toList := same
          rw [List.append_cancel_right_eq, List.append_cancel_left_eq] at texts_same
          rw [cause, ← Numeral.value_ofNat position, ← texts_same, Numeral.value_ofNat]
      | _ => simp [cause] at head_same
  | unclosed =>
      cases reason with
      | groupUnclosed => rfl
      | groupTooDeep | groupBesideCondition => exact absurd third_same (by decide)
      | _ => simp [cause] at head_same

/-- Reading a text, as a tree or as a rule, tells a fault of its parentheses exactly if that is the
first fault that a counter of open parentheses finds, from left to right and whatever else is wrong:
an opening one while 64 are open, a closing one, at its place among the tokens, while none is open,
or some that are still open at the end.  The text of such a fault is that of no other fault. -/
theorem parenthesis_faults_are_counted (rule : Text) (fault : ParenthesisFault) :
    (Tree.ofText rule = .error fault.cause ↔ first? 0 1 (Token.ofText rule) = some fault) ∧
      (Tree.ofRule rule = .error fault.cause ↔ first? 0 1 (Token.ofText rule) = some fault) ∧
      ∀ reason : ParseFault, reason.message = fault.cause.message ↔ reason = fault.cause :=
  ⟨ofText_eq_error_iff, ofRule_eq_error_iff.trans ofText_eq_error_iff, fun _ => message_eq_iff⟩

/-- The sixth token closes nothing, before anything is left open. -/
example : first? 0 1 (Token.ofText "(a > 1)) AND (b > 2".toList) = some (.stray 6) := by decide

end ParenthesisFault

end Rulebook
