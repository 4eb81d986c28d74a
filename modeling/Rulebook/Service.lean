import Rulebook.Operation
import Rulebook.Rule.Combination
import Rulebook.Rule.Encoding
import Rulebook.Rule.Evaluation
import Rulebook.Rule.Parse

/-!
# The rule service

Rules are created, combined, evaluated, replaced and looked up. Each of these reads the store at
most once and writes it at most once, a text that is no rule is never stored, and the text and the
tree of a document are always written together.
-/

namespace Rulebook

namespace Rule

def ofText (text : Text) : Except RuleError Rule :=
  match Tree.ofRule text with
  | .error fault => .error (.parse fault)
  | .ok tree => .ok ⟨text, tree⟩

/-- The rule that a document holds. -/
def ofDocument (document : Document) : Except RuleError Rule :=
  match Tree.decode document.encodedTree with
  | .error fault => .error (.malformedTree fault)
  | .ok tree => .ok ⟨document.ruleText, tree⟩

/-- The ids that none of some documents has, each once, in the order of first mention. -/
def missingIds (ids : List Text) (documents : List Document) : List Text :=
  Catalog.firstMentions (ids.filter fun id => documents.all (·.id ≠ id))

/-- What documents hold, by their ids: rules, or the reasons why they hold none. -/
def holdings (documents : List Document) : List (Text × Except RuleError Rule) :=
  documents.map fun document => (document.id, ofDocument document)

/-- The rules with some ids among the holdings, in the order of the ids and as often as they stand
there. -/
def sources (held : List (Text × Except RuleError Rule)) : List Text → Except RuleError (List Rule)
  | [] => .ok []
  | id :: ids =>
      match held.find? (·.1 == id) with
      | none => .error (.notFound [id])
      | some (_, .error error) => .error error
      | some (_, .ok rule) => (sources held ids).map (rule :: ·)

/-- Combine the rules with some ids, all of which are among the documents. -/
def combineDocuments (ids : List Text) (documents : List Document) : Except RuleError Rule :=
  match sources (holdings documents) ids with
  | .error error => .error error
  | .ok rules => combine rules

end Rule

namespace Evaluation

/-- The verdict on an evaluation or its failure. -/
def verdict : Except RuleError Evaluation → Verdict
  | .error _ => .error
  | .ok evaluation => if evaluation.matched then .matched else .notMatched

end Evaluation

namespace Service

/-- The target of what the service reports. -/
def target : Text :=
  "rule_engine::service".toList

def span (name : String) (fields : List (String × Log.FieldValue)) : Log.Span :=
  ⟨name.toList, target, fields.map fun (field, value) => ⟨field.toList, value⟩⟩

/-- Report an event of the service. -/
def report (level : Log.Level) (message : String) (fields : List (String × Log.FieldValue)) :
    Operation Unit :=
  .report ⟨level, target, message.toList, fields.map fun (field, value) => ⟨field.toList, value⟩⟩

/-- The rule of a text; a text that is none is reported. -/
def readRule (text : Text) : Operation Rule :=
  match Rule.ofText text with
  | .ok rule => pure rule
  | .error error => do
      report .warn "Rejected rule string" [("error", .plain error.message)]
      .fail error

/-- Store a rule. -/
def store (rule : Rule) : Operation Document :=
  .insert rule.text rule.tree.encode

/-- Create a rule. -/
def create (ruleText : Text) : Operation Document :=
  .within (span "create_rule" [("rule_string", .quoted ruleText)]) do
    let rule ← readRule ruleText
    let document ← store rule
    .record .rulesCreated
    report .info "Rule created"
      [("rule_id", .plain document.id), ("depth", .natural rule.tree.depth)]
    return document

/-- Combine stored rules in the order of their ids into a new one. -/
def combine (ids : List Text) : Operation Document :=
  .within (span "combine_rules" [("ids", .texts ids)]) do
    if ids.isEmpty then .fail .emptyCombination
    else
      let documents ← Operation.findMany ids
      let missing := Rule.missingIds ids documents
      if missing.isEmpty then
        let rule ← Operation.ofExcept (Rule.combineDocuments ids documents)
        let document ← store rule
        .record .rulesCombined
        report .info "Rules combined"
          [("rule_id", .plain document.id), ("sources", .natural ids.length)]
        return document
      else
        report .warn "Combine referenced unknown rules" [("missing", .texts missing)]
        .fail (.notFound missing)

/-- The document with an id, which must be there. -/
def get (id : Text) : Operation Document := do
  match ← Operation.find? id with
  | some document => return document
  | none => .fail (.notFound [id])

/-- Evaluate a stored rule on a record. -/
def evaluate (traced : Bool) (id : Text) (record : Record) : Operation Evaluation :=
  .within (span "evaluate_with" [("id", .quoted id)]) do
    let document ← get id
    let rule ← Operation.ofExcept (Rule.ofDocument document)
    let result := rule.tree.execute traced record
    .record .evaluationTimes
    .record (.evaluations (Evaluation.verdict result))
    match result with
    | .ok evaluation => return evaluation
    | .error error =>
        report .warn "Rule evaluation failed"
          [("rule_id", .plain id), ("error", .plain error.message)]
        .fail error

/-- Replace a stored rule. -/
def modify (id ruleText : Text) : Operation Unit :=
  .within (span "modify_rule" [("id", .quoted id), ("new_rule_string", .quoted ruleText)]) do
    let rule ← readRule ruleText
    let count ← Operation.update id rule.text rule.tree.encode
    if count = 0 then
      report .warn "Modify targeted unknown rule" [("rule_id", .plain id)]
      .fail (.notFound [id])
    else
      .record .rulesModified
      report .info "Rule modified" [("rule_id", .plain id)]

end Service

end Rulebook
