import Rulebook.Rule.Group

/-!
# Trees of rule texts

Within one pair of parentheses `OR` binds looser than `AND`, and both associate to the right: items
are cut at the first `OR`, or else at the first `AND`, and both sides are made into trees. Words
without a keyword between them make one condition.
-/

namespace Rulebook

namespace Item

mutual

/-- The number of tokens of an item, without closing parentheses. -/
def weight : Item → Nat
  | .word _ => 1
  | .connective _ => 1
  | .group items => 1 + weightOf items

/-- The number of tokens of some items, without closing parentheses. -/
def weightOf : List Item → Nat
  | [] => 0
  | item :: rest => item.weight + weightOf rest

end

/-- Whether an item is a connective. -/
def isConnective (c : Connective) : Item → Bool
  | .connective other => other = c
  | _ => false

/-- The items before and after the first occurrence of a connective. -/
def cutAt? (c : Connective) : List Item → Option (List Item × List Item)
  | [] => none
  | item :: rest =>
      if item.isConnective c then some ([], rest)
      else (cutAt? c rest).map (Prod.map (item :: ·) id)

/-- The connective that binds most loosely, with the items before and after it. -/
def cut? (items : List Item) : Option (Connective × List Item × List Item) :=
  match cutAt? .or items with
  | some (left, right) => some (.or, left, right)
  | none => (cutAt? .and items).map fun sides => (.and, sides)

theorem weight_pos (item : Item) : 0 < item.weight := by
  cases item <;> simp only [weight] <;> omega

theorem weightOf_cutAt? {c : Connective} {items left right : List Item}
    (found : cutAt? c items = some (left, right)) :
    weightOf left + weightOf right < weightOf items := by
  induction items generalizing left right with
  | nil => cases found
  | cons item rest induction =>
      have item_pos := weight_pos item
      unfold cutAt? at found
      split at found
      · simp only [Option.some.injEq, Prod.mk.injEq] at found
        obtain ⟨rfl, rfl⟩ := found
        simp only [weightOf]
        omega
      · simp only [Option.map_eq_some_iff, Prod.map_apply, id_eq, Prod.mk.injEq, Prod.exists]
          at found
        obtain ⟨before, after, cut, rfl, rfl⟩ := found
        have := induction cut
        simp only [weightOf]
        omega

theorem weightOf_cut? {c : Connective} {items left right : List Item}
    (found : cut? items = some (c, left, right)) :
    weightOf left + weightOf right < weightOf items := by
  unfold cut? at found
  split at found
  · next cut =>
    simp only [Option.some.injEq, Prod.mk.injEq] at found
    obtain ⟨_, rfl, rfl⟩ := found
    exact weightOf_cutAt? cut
  · simp only [Option.map_eq_some_iff, Prod.mk.injEq] at found
    obtain ⟨sides, cut, _, rfl⟩ := found
    exact weightOf_cutAt? cut

/-- The words of items, if all of them are words. -/
def words? : List Item → Option (List Text)
  | [] => some []
  | .word text :: rest => (words? rest).map (text :: ·)
  | _ :: _ => none

end Item

namespace ParseFault

/-- Name the side of a connective that holds nothing. -/
def onSide (connective : Connective) (side : Side) : ParseFault → ParseFault
  | .emptyExpression => .emptySide connective side
  | fault => fault

end ParseFault

namespace Tree

/-- The tree of items, whose root is at a level of the whole tree. -/
def ofItems (level : Nat) (items : List Item) : Except ParseFault Tree :=
  if maxDepth < level then .error .treeTooDeep
  else
    match items with
    | [] => .error .emptyExpression
    | [.group inner] => ofItems level inner
    | [.connective connective] => .error (.loneConnective connective)
    | items =>
        match _found : Item.cut? items with
        | some (connective, left, right) =>
            match ofItems (level + 1) left with
            | .error fault => .error (fault.onSide connective .left)
            | .ok leftTree =>
                match ofItems (level + 1) right with
                | .error fault => .error (fault.onSide connective .right)
                | .ok rightTree => .ok (.node connective leftTree rightTree)
        | none =>
            match Item.words? items with
            | some words => .ok (.leaf (Text.join [' '] words))
            | none => .error .groupBesideCondition
termination_by Item.weightOf items
decreasing_by
  · simp only [Item.weightOf, Item.weight]
    omega
  · have := Item.weightOf_cut? _found
    omega
  · have := Item.weightOf_cut? _found
    omega

/-- The tree of a text. Its conditions need not be comparisons. -/
def ofText (rule : Text) : Except ParseFault Tree :=
  match Item.ofRule (Token.ofText rule) with
  | .error fault => .error fault
  | .ok items => ofItems 1 items

/-- The first fault among some conditions. -/
def conditionFault? : List Text → Option ParseFault
  | [] => none
  | condition :: rest =>
      match Comparison.ofText condition with
      | .error fault => some (.condition condition fault)
      | .ok _ => conditionFault? rest

/-- The tree of a rule, all conditions of which are comparisons. -/
def ofRule (rule : Text) : Except ParseFault Tree :=
  match ofText rule with
  | .error fault => .error fault
  | .ok tree =>
      match conditionFault? tree.leaves with
      | some fault => .error fault
      | none => .ok tree

end Tree

end Rulebook
