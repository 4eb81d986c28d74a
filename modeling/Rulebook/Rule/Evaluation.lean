import Rulebook.Json.Printer
import Rulebook.Rule.Fault

/-!
# Evaluation of rules

A rule is evaluated on a record from left to right. A connective whose left side already decides it
skips its right side; a condition that cannot be compared ends the evaluation with an error. The
evaluation keeps what it visited; the matched conditions and the trace are views of that.
-/

namespace Rulebook

/-- The record that a rule is evaluated on: a JSON object. Its fields are looked up by exact name.
-/
abbrev Record := Json.Members

namespace Record

/-- The record that a JSON value is. Only objects are. -/
def ofJson : Json.Value → Except RuleError Record
  | .object members => .ok members
  | value => .error (.typeMismatch "<record>".toList .object (Kind.ofValue? (some value)))

end Record

namespace Literal

/-- The order of a number and an integer literal. Integers are compared exactly; a float is compared
with the binary64 number nearest to the literal. -/
def compareNumber (number : Json.Number) (literal : Fin Range.signed64) : Ordering :=
  match number with
  | .integer n => compare n literal.val
  | .float x => compare x.units (Binary64.roundUnits (literal.val * Binary64.one) 1)

/-- The order of a field's value and a literal, if they can be ordered: numbers with integers, texts
with strings by code points. -/
def compareField? (literal : Literal) (value : Option Json.Value) : Option Ordering :=
  match value, literal with
  | some (.number number), .integer n => some (compareNumber number n)
  | some (.text text), .string other => some (Text.order text other)
  | _, _ => none

/-- Whether a field's value equals a literal. Values of another kind are different from it. -/
def equalsField (literal : Literal) (value : Option Json.Value) : Bool :=
  match value, literal with
  | some (.number number), .integer n => compareNumber number n == .eq
  | some (.text text), .string other => text == other
  | _, _ => false

end Literal

namespace Comparison

/-- The order of the field's value and the literal. It is an error if there is none. -/
def order (comparison : Comparison) (value : Option Json.Value) : Except RuleError Ordering :=
  match comparison.literal.compareField? value with
  | some ordering => .ok ordering
  | none =>
      .error (.typeMismatch comparison.field comparison.literal.kind (Kind.ofValue? value))

/-- Whether a comparison holds of the field's value. -/
def holds (comparison : Comparison) (value : Option Json.Value) : Except RuleError Bool :=
  match comparison.comparator with
  | .equal => .ok (comparison.literal.equalsField value)
  | .greater => (comparison.order value).map (· == .gt)
  | .less => (comparison.order value).map (· == .lt)

end Comparison

/-- What an evaluation visits. -/
inductive Visit where
  /-- A condition at a leaf, with the value of its field. -/
  | condition (path : Path) (comparison : Comparison) (value : Option Json.Value) (matched : Bool)
  /-- A connective that skips its right side. -/
  | skip (path : Path) (connective : Connective)

namespace Visit

/-- The line of a visit in the trace. -/
def line : Visit → Text
  | .condition path comparison value matched =>
      let actual := match value with
        | some value => value.render
        | none => "missing".toList
      let verdict := if matched then "MATCHED".toList else "NOT_MATCHED".toList
      path.text ++ ": ".toList ++ comparison.render ++ " (actual: ".toList ++ actual ++
        ") => ".toList ++ verdict
  | .skip path connective =>
      path.text ++ ": ".toList ++ connective.keyword ++ " 短路 - 跳过右子节点".toList

/-- The comparison of a condition that matched. -/
def matchedCondition? : Visit → Option Text
  | .condition _ comparison _ true => some comparison.render
  | _ => none

end Visit

namespace Connective

/-- Whether the left side decides a connective. -/
def decidedBy : Connective → Bool → Bool
  | .and, left => !left
  | .or, left => left

end Connective

namespace Tree

/-- Evaluate a condition, with the comparison that it is and the value of its field. -/
def evaluateLeaf (condition : Text) (record : Record) :
    Except RuleError (Bool × Comparison × Option Json.Value) :=
  match Comparison.ofText condition with
  | .error fault => .error (.malformedCondition condition fault)
  | .ok comparison =>
      let value := record.get? comparison.field
      (comparison.holds value).map fun matched => (matched, comparison, value)

/-- Evaluate the subtree at a path. Gives the verdict and the visits in their order. -/
def visit (path : Path) (record : Record) : Tree → Except RuleError (Bool × List Visit)
  | .leaf condition =>
      match evaluateLeaf condition record with
      | .error error => .error error
      | .ok (matched, comparison, value) =>
          .ok (matched, [.condition path comparison value matched])
  | .node connective left right =>
      match left.visit (path ++ [.left]) record with
      | .error error => .error error
      | .ok (leftMatched, leftVisits) =>
          if connective.decidedBy leftMatched then
            .ok (leftMatched, leftVisits ++ [.skip path connective])
          else
            match right.visit (path ++ [.right]) record with
            | .error error => .error error
            | .ok (rightMatched, rightVisits) => .ok (rightMatched, leftVisits ++ rightVisits)

end Tree

/-- The result of an evaluation. -/
structure Evaluation where
  matched : Bool
  /-- The conditions that matched, in the order of their visits. -/
  conditions : List Text
  /-- A line for each visit, if the evaluation is traced. -/
  trace : List Text
deriving DecidableEq

namespace Evaluation

/-- The result before anything is evaluated. -/
def initial : Evaluation :=
  ⟨false, [], []⟩

end Evaluation

namespace Tree

/-- Evaluate a tree on a record. -/
def execute (traced : Bool) (tree : Tree) (record : Record) : Except RuleError Evaluation :=
  match tree.visit [] record with
  | .error error => .error error
  | .ok (matched, visits) =>
      .ok {
        matched
        conditions := visits.filterMap Visit.matchedCondition?
        trace := if traced then visits.map Visit.line else [] }

/-- Whether a tree matches a record. -/
def evaluate (tree : Tree) (record : Record) : Except RuleError Bool :=
  (tree.execute false record).map Evaluation.matched

end Tree

end Rulebook
