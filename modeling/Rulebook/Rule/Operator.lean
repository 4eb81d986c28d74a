import Rulebook.Text.Basic

/-!
# Operators of rules

Comparators stand between a field and a literal, connectives between conditions.
-/

namespace Rulebook

/-- How a field is compared with a literal. -/
inductive Comparator where
  | greater
  | less
  | equal
deriving DecidableEq

namespace Comparator

/-- The symbol of a comparator in a rule. -/
def symbol : Comparator → Text
  | .greater => ['>']
  | .less => ['<']
  | .equal => ['=']

def ofSymbol? (symbol : Text) : Option Comparator :=
  if symbol = ['>'] then some .greater
  else if symbol = ['<'] then some .less
  else if symbol = ['='] then some .equal
  else none

theorem ofSymbol?_eq_some_iff {symbol : Text} {comparator : Comparator} :
    ofSymbol? symbol = some comparator ↔ symbol = comparator.symbol := by
  unfold ofSymbol?
  cases comparator <;> simp only [Comparator.symbol] <;> grind

end Comparator

/-- How two conditions are joined. -/
inductive Connective where
  | and
  | or
deriving DecidableEq

namespace Connective

/-- The keyword of a connective. Its case matters. -/
def keyword : Connective → Text
  | .and => ['A', 'N', 'D']
  | .or => ['O', 'R']

def ofKeyword? (word : Text) : Option Connective :=
  if word = ['A', 'N', 'D'] then some .and
  else if word = ['O', 'R'] then some .or
  else none

theorem ofKeyword?_eq_some_iff {word : Text} {connective : Connective} :
    ofKeyword? word = some connective ↔ word = connective.keyword := by
  unfold ofKeyword?
  cases connective <;> simp only [Connective.keyword] <;> grind

end Connective

/-- The two sides of a connective. -/
inductive Side where
  | left
  | right
deriving DecidableEq

namespace Side

def name : Side → Text
  | .left => ['l', 'e', 'f', 't']
  | .right => ['r', 'i', 'g', 'h', 't']

end Side

/-- The way from the root of a tree to a node. -/
abbrev Path := List Side

namespace Path

/-- Write a path, such as `root.left.right`. -/
def text (path : Path) : Text :=
  ['r', 'o', 'o', 't'] ++ path.flatMap fun side => '.' :: side.name

end Path

end Rulebook
