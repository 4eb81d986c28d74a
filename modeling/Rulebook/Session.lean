import Rulebook.Http.Server

/-!
# Sessions

A session works on one store, step by step: calls of the service, operations on the store itself,
outages, and HTTP requests. A step that fails does not end the session.
-/

namespace Rulebook

/-- A step of a session. -/
inductive Step where
  | create (ruleText : Text)
  | combine (ids : List Text)
  /-- Evaluate a rule on what should be a record. -/
  | evaluate (traced : Bool) (id : Text) (data : Json.Value)
  | modify (id ruleText : Text)
  | get (id : Text)
  | insert (ruleText encodedTree : Text)
  | update (id ruleText encodedTree : Text)
  | find (id : Text)
  | findMany (ids : List Text)
  /-- From now on the store has an outage or, without one, answers again. -/
  | setOutage (outage : Option Outage)
  | request (request : Http.Request)

/-- What a step answers. -/
inductive Answer where
  | created (document : Document)
  | evaluated (evaluation : Evaluation)
  | done
  | document (document : Document)
  | inserted (document : Document)
  | count (n : Nat)
  | found (document : Option Document)
  | documents (documents : List Document)
  | response (requestId : Text) (response : Http.Response)

namespace Step

/-- Do a step. -/
def perform (surroundings : Http.Surroundings) : Step → Operation Answer
  | .create ruleText => return .created (← Service.create ruleText)
  | .combine ids => return .created (← Service.combine ids)
  | .evaluate traced id data => do
      let record ← Operation.ofExcept (Record.ofJson data)
      return .evaluated (← Service.evaluate traced id record)
  | .modify id ruleText => do
      Service.modify id ruleText
      return .done
  | .get id => return .document (← Service.get id)
  | .insert ruleText encodedTree => return .inserted (← Operation.insert ruleText encodedTree)
  | .update id ruleText encodedTree => return .count (← Operation.update id ruleText encodedTree)
  | .find id => return .found (← Operation.find? id)
  | .findMany ids => return .documents (← Operation.findMany ids)
  | .setOutage outage => fun store => ⟨.ok .done, { store with outage }, [], []⟩
  | .request asked => do
      let response ← asked.serve surroundings.timeText
      return .response (Http.requestIdOr (surroundings.requestIds 0) asked.requestId) response

/-- The surroundings after a step: a request id is generated for a request without one to keep. -/
def surroundingsAfter (surroundings : Http.Surroundings) : Step → Http.Surroundings
  | .request asked =>
      if (Http.keptRequestId? asked.requestId).isNone then surroundings.advance else surroundings
  | _ => surroundings

end Step

/-- What is seen of a step. -/
structure StepReport where
  result : Except RuleError Answer
  /-- The number of stored rules after the step. -/
  rules : Nat

/-- What a session leaves. -/
structure Session where
  /-- What was seen of each step, in order. -/
  reports : List StepReport
  store : Store
  /-- The observations of all steps. -/
  recorded : List Series
  /-- The records of all steps. -/
  log : List Log.Record

namespace Session

/-- Do steps on a store. -/
def run (surroundings : Http.Surroundings) (store : Store) : List Step → Session
  | [] => ⟨[], store, [], []⟩
  | step :: steps =>
      let outcome := step.perform surroundings store
      let rest := run (step.surroundingsAfter surroundings) outcome.store steps
      ⟨⟨outcome.result, outcome.store.catalog.size⟩ :: rest.reports, rest.store,
        outcome.recorded ++ rest.recorded, outcome.log ++ rest.log⟩

end Session

end Rulebook
