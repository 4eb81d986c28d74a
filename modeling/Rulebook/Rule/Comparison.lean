import Rulebook.Number.Power
import Rulebook.Rule.Operator
import Rulebook.Text.Numeral

/-!
# Comparisons

A condition is written as a field, a comparator and a literal, with blanks between them. A literal
of digits alone is an integer, any other literal a string, which may stand between apostrophes.
-/

namespace Rulebook

/-- The right side of a comparison. -/
inductive Literal where
  | integer (n : Fin Range.signed64)
  | string (text : Text)
deriving DecidableEq

/-- Why a condition is no comparison. -/
inductive ConditionFault where
  /-- There are not three parts. -/
  | partCount (parts : Nat)
  | unknownComparator (symbol : Text)
  | integerTooLarge (digits : Text)
deriving DecidableEq

namespace ConditionFault

def message : ConditionFault → Text
  | .partCount parts =>
      "需要 3 个片段（字段 操作符 值），实际 ".toList ++ Numeral.ofNat parts ++ " 个".toList
  | .unknownComparator symbol => "不支持的比较操作符 '".toList ++ symbol ++ "'".toList
  | .integerTooLarge digits => "整数字面量超出范围: ".toList ++ digits

end ConditionFault

namespace Literal

/-- The apostrophe, which may enclose a string. -/
def apostrophe : Char :=
  '\x27'

/-- Take one pair of enclosing apostrophes off a text. -/
def unquote (raw : Text) : Text :=
  match raw with
  | [] => raw
  | first :: rest =>
      if first = apostrophe ∧ rest.getLast? = some apostrophe then rest.dropLast else raw

/-- The literal that a text stands for. -/
def ofText (raw : Text) : Except ConditionFault Literal :=
  if Numeral.isNumeral raw then
    if small : Numeral.value raw < Range.signed64 then .ok (.integer ⟨Numeral.value raw, small⟩)
    else .error (.integerTooLarge raw)
  else .ok (.string (unquote raw))

/-- Write a literal: a string always stands between apostrophes. -/
def render : Literal → Text
  | .integer n => Numeral.ofNat n.val
  | .string text => apostrophe :: (text ++ [apostrophe])

end Literal

/-- A comparison of a field with a literal. -/
structure Comparison where
  field : Text
  comparator : Comparator
  literal : Literal
deriving DecidableEq

namespace Comparison

/-- The comparison that a condition stands for. -/
def ofText (condition : Text) : Except ConditionFault Comparison :=
  match Text.words condition with
  | [field, symbol, raw] =>
      match Comparator.ofSymbol? symbol with
      | none => .error (.unknownComparator symbol)
      | some comparator =>
          match Literal.ofText raw with
          | .error fault => .error fault
          | .ok literal => .ok ⟨field, comparator, literal⟩
  | parts => .error (.partCount parts.length)

/-- Write a comparison with single spaces between its parts. -/
def render (comparison : Comparison) : Text :=
  comparison.field ++ ' ' :: (comparison.comparator.symbol ++ ' ' :: comparison.literal.render)

end Comparison

end Rulebook
