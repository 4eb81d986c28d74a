import Rulebook.Rule.Fault

/-!
# Combination of rules

Rules are combined into one that holds when all of them hold. Their trees make a chain of `AND`
nodes nested to the right, which is the tree that the combined text stands for; the text of a rule
whose root is a connective is put in parentheses.
-/

namespace Rulebook

/-- A rule: its text and its tree. -/
structure Rule where
  text : Text
  tree : Tree
deriving DecidableEq

namespace Rule

/-- The depth of the chain of trees with the given depths: each lies below as many nodes as precede
it, itself included, except that the last two lie side by side. -/
def combinedDepth (depths : List Nat) : Nat :=
  let last := depths.length - 2
  (depths.zipIdx.map fun (depth, i) => min i last + 1 + depth).foldl max 0

/-- The chain of trees, the last of which is given first. -/
def chain (last : Tree) : List Tree → Tree
  | [] => last
  | before :: rest => chain (.node .and before last) rest

/-- The text of a rule as a part of a combined text. -/
def part (rule : Rule) : Text :=
  let text := Text.trim rule.text
  if rule.tree.isNode then '(' :: (text ++ [')']) else text

/-- Combine rules in their order. One rule alone stays as it is. -/
def combine (rules : List Rule) : Except RuleError Rule :=
  match rules with
  | [] => .error .emptyCombination
  | [rule] => .ok rule
  | rules =>
      let depth := combinedDepth (rules.map (·.tree.depth))
      if Tree.maxDepth < depth then .error (.treeTooDeep depth)
      else
        match (rules.map Rule.tree).reverse with
        | [] => .error .emptyCombination
        | last :: before =>
            .ok ⟨Text.join " AND ".toList (rules.map part), chain last before⟩

end Rule

end Rulebook
