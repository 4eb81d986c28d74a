import Rulebook.Http.Body
import Rulebook.Http.Route

/-!
# What requests submit

The body of a request with `POST` says what to do. A body of the right shape is still refused where
a text or a list is too long or an id is blank.
-/

namespace Rulebook.Http

open Json

/-- What the body of a request asks for. -/
inductive Submission where
  | create (ruleText : Text)
  | combine (ids : List Text)
  | evaluate (id : Text) (record : Members) (traced : Bool)
  | modify (id ruleText : Text)

/-- A field that a submission is refused for, with the reasons. -/
structure Objection where
  field : Text
  reasons : List Text
deriving DecidableEq

namespace Objection

def line (objection : Objection) : Text :=
  objection.field ++ ": ".toList ++ Text.join ", ".toList objection.reasons

def message (objections : List Objection) : Text :=
  "参数验证失败: ".toList ++ Text.join ['\n'] (objections.map line)

end Objection

namespace Submission

/-- The greatest number of bytes of a body. -/
def maxBodyBytes : Nat :=
  0x200000

/-- The greatest number of characters of a rule. -/
def maxRuleLength : Nat :=
  4096

/-- The greatest number of rules that are combined at once. -/
def maxSources : Nat :=
  256

/-- The name of the field with the text of a new rule. -/
def ruleField : Text := "rule_string".toList

/-- The name of the field with the ids of the rules to combine. -/
def idsField : Text := "rule_ids".toList

/-- The name of the field with the id of a rule. -/
def idField : Text := "rule_id".toList

/-- The name of the field with the record. -/
def dataField : Text := "data".toList

/-- The name of the field that asks for a trace. -/
def traceField : Text := "trace".toList

/-- The name of the field with the text that replaces a rule. -/
def newRuleField : Text := "new_rule_string".toList

/-- The fields of the body for a route. -/
def fields : Route → List BodyField
  | .createRule => [⟨ruleField, .text, none⟩]
  | .combineRules => [⟨idsField, .texts, none⟩]
  | .evaluateRule =>
      [⟨idField, .text, none⟩, ⟨dataField, .record, none⟩,
        ⟨traceField, .flag, some (.boolean false)⟩]
  | .modifyRule => [⟨idField, .text, none⟩, ⟨newRuleField, .text, none⟩]
  | .getRule | .health => []

/-- The text of a member that is a string. -/
def text? (members : Members) (key : Text) : Option Text :=
  match members.get? key with
  | some (.text text) => some text
  | _ => none

/-- The texts of a member that is an array of strings. -/
def texts? (members : Members) (key : Text) : Option (List Text) :=
  match members.get? key with
  | some (.array elements) =>
      elements.mapM fun element =>
        match element with
        | .text text => some text
        | _ => none
  | _ => none

/-- The submission with the given members of its body. -/
def ofMembers? (members : Members) : Route → Option Submission
  | .createRule => (text? members ruleField).map .create
  | .combineRules => (texts? members idsField).map .combine
  | .evaluateRule =>
      match text? members idField, members.get? dataField, members.get? traceField with
      | some id, some (.object record), some (.boolean traced) => some (.evaluate id record traced)
      | _, _, _ => none
  | .modifyRule => do
      let id ← text? members idField
      let ruleText ← text? members newRuleField
      some (.modify id ruleText)
  | .getRule | .health => none

def ofBody (route : Route) (body : Text) : Except BodyFault Submission :=
  match readBody (fields route) body with
  | .error fault => .error fault
  | .ok members =>
      match ofMembers? members route with
      | some submission => .ok submission
      | none => .error .wrongShape

def reasonIf (applies : Bool) (reason : String) : List Text :=
  if applies then [reason.toList] else []

/-- The reasons against the text of a rule. -/
def ruleReasons (ruleText : Text) : List Text :=
  reasonIf (maxRuleLength < ruleText.length) "规则文本过长"

/-- The reasons against the id of a rule. -/
def idReasons (id : Text) : List Text :=
  reasonIf id.isEmpty "rule_id 不能为空"

/-- The reasons against the ids of rules to combine. -/
def idsReasons (ids : List Text) : List Text :=
  reasonIf (maxSources < ids.length) "一次最多合并 256 条规则" ++
    reasonIf (ids.any fun id => (Text.trim id).isEmpty) "rule_ids 中不能包含空 ID"

/-- The reasons against each field of a submission, in the order of the fields' names. -/
def reasons : Submission → List Objection
  | .create ruleText => [⟨ruleField, ruleReasons ruleText⟩]
  | .combine ids => [⟨idsField, idsReasons ids⟩]
  | .evaluate id _ _ => [⟨idField, idReasons id⟩]
  | .modify id ruleText => [⟨newRuleField, ruleReasons ruleText⟩, ⟨idField, idReasons id⟩]

/-- What a submission is refused for. -/
def objections (submission : Submission) : List Objection :=
  submission.reasons.filter fun objection => !objection.reasons.isEmpty

end Submission

end Rulebook.Http
