import Rulebook.Rule.Operator

/-!
# Trees of rules

A rule is a binary tree: conditions at the leaves, connectives above them. A leaf has depth one.
-/

namespace Rulebook

/-- The tree of a rule. -/
inductive Tree where
  /-- A condition, as it is written. -/
  | leaf (condition : Text)
  /-- Two rules and what joins them. -/
  | node (connective : Connective) (left right : Tree)
deriving DecidableEq

namespace Tree

/-- The greatest depth of a tree that can be read, combined or stored. -/
def maxDepth : Nat :=
  512

/-- The number of levels of a tree. -/
def depth : Tree → Nat
  | .leaf _ => 1
  | .node _ left right => 1 + max left.depth right.depth

/-- The conditions at the leaves before other conditions, from left to right. -/
def leavesOnto : Tree → List Text → List Text
  | .leaf condition, rest => condition :: rest
  | .node _ left right, rest => left.leavesOnto (right.leavesOnto rest)

/-- The conditions at the leaves, from left to right. -/
def leaves (tree : Tree) : List Text :=
  tree.leavesOnto []

/-- Whether the root is a connective. -/
def isNode : Tree → Bool
  | .leaf _ => false
  | .node .. => true

/-- Write a tree, each connective in parentheses with its sides, before a text. -/
def onto : Tree → Text → Text
  | .leaf condition, rest => condition ++ rest
  | .node connective left right, rest =>
      '(' :: left.onto (' ' :: (connective.keyword ++ ' ' :: right.onto (')' :: rest)))

/-- Write a tree, each connective in parentheses with its sides. -/
def render (tree : Tree) : Text :=
  tree.onto []

end Tree

end Rulebook
