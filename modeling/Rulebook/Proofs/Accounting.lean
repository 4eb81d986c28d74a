import Rulebook.Proofs.Frames
import Rulebook.Proofs.StoredRules

/-!
# What the metrics of rules count

What is observed of a call is a function of its result: a rule that was created, combined or
modified, or the verdict of an evaluation together with its time.  A call that fails before it comes
to a verdict is not observed.  So after any run the counters are the numbers of calls with such
results, and the number of documents is the sum of what was created, combined and inserted.
-/

namespace Rulebook

namespace RuleError

/-- Whether an error arises from a condition that is evaluated. -/
def isOfCondition : RuleError → Bool
  | .malformedCondition _ _ | .typeMismatch _ _ _ => true
  | _ => false

end RuleError

namespace Tree

variable {record : Record} {error : RuleError}

theorem isOfCondition_of_evaluateLeaf {condition : Text}
    (failed : evaluateLeaf condition record = .error error) : error.isOfCondition = true := by
  unfold evaluateLeaf at failed
  split at failed
  · cases failed
    rfl
  · next comparison _ =>
    dsimp only at failed
    cases held : comparison.holds (record.get? comparison.field) with
    | ok matched =>
        rw [held] at failed
        cases failed
    | error mismatch =>
        rw [held] at failed
        cases failed
        obtain ⟨field, expected, actual, rfl⟩ := Comparison.isTypeMismatch_of_holds held
        rfl

theorem isOfCondition_of_visit {tree : Tree} {path : Path}
    (failed : tree.visit path record = .error error) : error.isOfCondition = true := by
  induction tree generalizing path with
  | leaf condition =>
      rw [visit] at failed
      split at failed
      · next leaf_failed =>
        cases failed
        exact isOfCondition_of_evaluateLeaf leaf_failed
      · cases failed
  | node connective left right left_induction right_induction =>
      rw [visit] at failed
      split at failed
      · next left_failed =>
        cases failed
        exact left_induction left_failed
      · split at failed
        · cases failed
        · split at failed
          · next right_failed =>
            cases failed
            exact right_induction right_failed
          · cases failed

theorem isOfCondition_of_execute {tree : Tree} {traced : Bool}
    (failed : tree.execute traced record = .error error) : error.isOfCondition = true := by
  unfold execute at failed
  split at failed
  · next visit_failed =>
    cases failed
    exact isOfCondition_of_visit visit_failed
  · cases failed

end Tree

theorem Rule.isOfCondition_of_ofDocument {document : Document} {error : RuleError}
    (failed : Rule.ofDocument document = .error error) : error.isOfCondition = false := by
  unfold Rule.ofDocument at failed
  split at failed
  · cases failed
    rfl
  · cases failed

/-- Where each of some things is observed at most once in a series, the series counts those that
are. -/
theorem Series.count_flatMap {α : Type} {series : Series} {observe : α → List Series}
    {isObserved : α → Bool}
    (pointwise : ∀ item, (observe item).count series = (isObserved item).toNat) (items : List α) :
    (items.flatMap observe).count series = items.countP isObserved := by
  induction items with
  | nil => rfl
  | cons item items induction =>
      rw [List.flatMap_cons, List.count_append, List.countP_cons, induction, pointwise]
      cases isObserved item <;> simp [Nat.add_comm]

/-- What a call is made for. -/
inductive Purpose where
  | creation
  | combination
  | evaluation
  | modification
  | lookup
deriving DecidableEq

namespace Purpose

/-- What counts the calls that are made for a purpose and succeed. -/
def counter? : Purpose → Option Series
  | .creation => some .rulesCreated
  | .combination => some .rulesCombined
  | .modification => some .rulesModified
  | .evaluation | .lookup => none

end Purpose

namespace Call

def purpose : Call → Purpose
  | .create _ => .creation
  | .combine _ => .combination
  | .evaluate _ _ _ => .evaluation
  | .modify _ _ => .modification
  | .get _ => .lookup

end Call

/-- A call with its result. -/
structure AnsweredCall where
  call : Call
  result : Except RuleError Answer

namespace AnsweredCall

/-- Whether a call was made for a purpose and succeeded. -/
def achieves (purpose : Purpose) (answered : AnsweredCall) : Bool :=
  answered.call.purpose = purpose && answered.result.isOk

/-- How an evaluation ended: with a verdict, or at a condition that cannot be evaluated. There is
none for other calls and for evaluations that end before any condition is evaluated. -/
def verdict? : AnsweredCall → Option Verdict
  | ⟨.evaluate _ _ _, .ok (.evaluated evaluation)⟩ =>
      some (if evaluation.matched then .matched else .notMatched)
  | ⟨.evaluate _ _ _, .error error⟩ => if error.isOfCondition then some .error else none
  | _ => none

def observations (answered : AnsweredCall) : List Series :=
  match answered.verdict? with
  | some verdict => [.evaluationTimes, .evaluations verdict]
  | none => if answered.result.isOk then answered.call.purpose.counter?.toList else []

theorem observations_eq_nil {answered : AnsweredCall} (unjudged : answered.verdict? = none)
    (uncounted : answered.call.purpose.counter? = none) : answered.observations = [] := by
  rw [observations, unjudged, uncounted]
  exact ite_self _

theorem verdict?_eq_none {answered : AnsweredCall}
    (other : answered.call.purpose ≠ .evaluation) : answered.verdict? = none := by
  obtain ⟨call, result⟩ := answered
  cases call with
  | evaluate traced id record => exact absurd rfl other
  | _ => rfl

theorem count_counter (purpose : Purpose) {counter : Series}
    (counts : purpose.counter? = some counter) (answered : AnsweredCall) :
    answered.observations.count counter = (answered.achieves purpose).toNat := by
  rw [observations, achieves]
  cases verdict : answered.verdict? with
  | none =>
      dsimp only
      cases answered.result.isOk with
      | false => cases purpose <;> simp
      | true => cases purpose <;> cases counts <;> cases answered.call.purpose <;> rfl
  | some ending =>
      have evaluates : answered.call.purpose = .evaluation := by
        by_contra other
        rw [verdict?_eq_none other] at verdict
        cases verdict
      rw [evaluates]
      cases purpose <;> cases counts <;> rfl

theorem count_evaluations (verdict : Verdict) (answered : AnsweredCall) :
    answered.observations.count (.evaluations verdict) =
      (answered.verdict? == some verdict).toNat := by
  rw [observations]
  cases answered.verdict? with
  | none => cases answered.result.isOk <;> cases answered.call.purpose <;> rfl
  | some ending => cases ending <;> cases verdict <;> rfl

theorem count_evaluationTimes (calls : List AnsweredCall) :
    (calls.flatMap observations).count .evaluationTimes =
      (calls.flatMap observations).count (.evaluations .matched) +
        (calls.flatMap observations).count (.evaluations .notMatched) +
        (calls.flatMap observations).count (.evaluations .error) := by
  induction calls with
  | nil => rfl
  | cons answered calls induction =>
      have one : answered.observations.count .evaluationTimes =
          answered.observations.count (.evaluations .matched) +
            answered.observations.count (.evaluations .notMatched) +
            answered.observations.count (.evaluations .error) := by
        simp only [count_evaluations]
        rw [observations]
        cases answered.verdict? with
        | none => cases answered.result.isOk <;> cases answered.call.purpose <;> rfl
        | some ending => cases ending <;> rfl
      simp only [List.flatMap_cons, List.count_append]
      omega

end AnsweredCall

namespace Call

open Operation

private theorem recorded_stored (series : Series) (rule : Rule) (store : Store) :
    (Service.stored series rule store).recorded =
      if (Service.stored series rule store).result.isOk then [series] else [] := by
  unfold Service.stored
  cases store.nextOutage <;> rfl

private theorem isOk_map {α β : Type} (result : Except RuleError α) (wrap : α → β) :
    (result.map wrap).isOk = result.isOk := by
  cases result <;> rfl

theorem recorded_evaluate (traced : Bool) (id : Text) (record : Record) (store : Store) :
    ((evaluate traced id record).perform store).recorded =
      (⟨evaluate traced id record, ((evaluate traced id record).perform store).result⟩ :
        AnsweredCall).observations := by
  rw [perform, recorded_map, result_map, ← Outcome.silent_recorded, ← Outcome.silent_result,
    Service.silent_evaluate, Service.silent_get]
  cases store.nextOutage with
  | some cause => rfl
  | none =>
      cases store.catalog.find? id with
      | none => rfl
      | some document =>
          dsimp only
          rw [Outcome.followedBy_ok]
          cases read : Rule.ofDocument document with
          | error error =>
              symm
              apply AnsweredCall.observations_eq_nil _ rfl
              simp [AnsweredCall.verdict?, Except.map, Rule.isOfCondition_of_ofDocument read]
          | ok rule =>
              dsimp only
              cases executed : rule.tree.execute traced record with
              | ok evaluation => rfl
              | error error =>
                  simp [AnsweredCall.observations, AnsweredCall.verdict?, Except.map,
                    Evaluation.verdict, Tree.isOfCondition_of_execute executed]

theorem recorded_perform (call : Call) (store : Store) :
    (call.perform store).recorded =
      (⟨call, (call.perform store).result⟩ : AnsweredCall).observations := by
  cases call with
  | create ruleText =>
      rw [perform, recorded_map, result_map, AnsweredCall.observations, purpose]
      dsimp only
      rw [isOk_map, ← Outcome.silent_recorded, ← Outcome.silent_result, Service.silent_create]
      cases Rule.ofText ruleText with
      | error error => rfl
      | ok rule => exact recorded_stored _ _ _
  | combine ids =>
      rw [perform, recorded_map, result_map, AnsweredCall.observations, purpose]
      dsimp only
      rw [isOk_map, ← Outcome.silent_recorded, ← Outcome.silent_result, Service.silent_combine]
      split
      · rfl
      · cases store.nextOutage with
        | some cause => rfl
        | none =>
            dsimp only
            split
            · cases Rule.combineDocuments ids (store.catalog.findMany ids) with
              | error error => rfl
              | ok rule => exact recorded_stored _ _ _
            · rfl
  | evaluate traced id record => exact recorded_evaluate traced id record store
  | modify id ruleText =>
      rw [perform, recorded_map, result_map, AnsweredCall.observations, purpose]
      dsimp only
      rw [isOk_map, ← Outcome.silent_recorded, ← Outcome.silent_result, Service.silent_modify]
      cases Rule.ofText ruleText with
      | error error => rfl
      | ok rule =>
          cases store.nextOutage with
          | some cause => rfl
          | none =>
              dsimp only
              split <;> rfl
  | get id =>
      rw [perform, recorded_map, ← Outcome.silent_recorded, Service.silent_get,
        AnsweredCall.observations_eq_nil rfl rfl]
      cases store.nextOutage with
      | some cause => rfl
      | none => cases store.catalog.find? id <;> rfl

/-- An evaluation that fails before it comes to a condition is not observed. -/
theorem recorded_evaluate_of_error {traced : Bool} {id : Text} {record : Record} {store : Store}
    {error : RuleError} (failed : (Service.evaluate traced id record store).result = .error error)
    (early : error.isOfCondition = false) :
    (Service.evaluate traced id record store).recorded = [] := by
  have recorded := (Call.evaluate traced id record).recorded_perform store
  rw [perform, recorded_map, result_map, failed] at recorded
  rw [recorded]
  apply AnsweredCall.observations_eq_nil _ rfl
  simp [AnsweredCall.verdict?, Except.map, early]

/-- A call adds a document exactly if it is observed as a new or a combined rule. -/
theorem size_perform (call : Call) (store : Store) :
    (call.perform store).store.catalog.size =
      store.catalog.size + (call.perform store).recorded.count .rulesCreated +
        (call.perform store).recorded.count .rulesCombined := by
  rw [recorded_perform, AnsweredCall.count_counter .creation rfl,
    AnsweredCall.count_counter .combination rfl, perform.eq_def]
  cases call with
  | create ruleText =>
      dsimp only
      rw [store_map, result_map, ← Catalog.length_ids, Service.ids_create, List.length_append,
        Catalog.length_ids]
      cases (Service.create ruleText store).result <;> rfl
  | combine ids =>
      dsimp only
      rw [store_map, result_map, ← Catalog.length_ids, Service.ids_combine, List.length_append,
        Catalog.length_ids]
      cases (Service.combine ids store).result <;> rfl
  | evaluate traced id record =>
      dsimp only
      rw [store_map, Service.store_evaluate]
      rfl
  | modify id ruleText =>
      dsimp only
      rw [store_map, ← Catalog.length_ids, Service.ids_modify, Catalog.length_ids]
      rfl
  | get id =>
      have kept : (Service.get id).Keeps (·.size = store.catalog.size) := Service.get_keeps id
      dsimp only
      rw [store_map, kept store rfl]
      rfl

end Call

namespace StepReport

/-- Whether a document was inserted past the service. -/
def isInsertion (report : StepReport) : Bool :=
  match report.result with
  | .ok (.inserted _) => true
  | _ => false

end StepReport

namespace Step

open Operation

/-- Whether a step makes a request. -/
def isRequest : Step → Bool
  | .request _ => true
  | _ => false

/-- The call that a step makes, with what is seen of the step. -/
def answeredCall? (step : Step) (report : StepReport) : Option AnsweredCall :=
  step.call?.map fun call => ⟨call, report.result⟩

def report (surroundings : Http.Surroundings) (step : Step) (store : Store) : StepReport :=
  ⟨(step.perform surroundings store).result,
    (step.perform surroundings store).store.catalog.size⟩

variable {surroundings : Http.Surroundings} {step : Step}

theorem perform_of_call? (direct : step.isRequest = false) {call : Call}
    (calls : step.call? = some call) : step.perform surroundings = call.perform := by
  cases step with
  | evaluate traced id data => cases data <;> cases calls; rfl
  | request asked => cases direct
  | _ => cases calls <;> rfl

/-- A step that makes no call is not observed, and adds a document only if it inserts one. -/
theorem perform_of_no_call (direct : step.isRequest = false) (calls : step.call? = none)
    (store : Store) :
    (step.perform surroundings store).recorded = [] ∧
      (step.perform surroundings store).store.catalog.size =
        store.catalog.size + (step.report surroundings store).isInsertion.toNat := by
  rw [report]
  cases step with
  | evaluate traced id data =>
      cases data with
      | object members => cases calls
      | _ => exact ⟨rfl, rfl⟩
  | insert ruleText encodedTree =>
      rw [perform, recorded_map, store_map, result_map, ← Outcome.silent_recorded,
        ← Outcome.silent_store, ← Outcome.silent_result, silent_insert]
      cases store.nextOutage with
      | some cause => exact ⟨rfl, rfl⟩
      | none => exact ⟨rfl, List.length_append⟩
  | update id ruleText encodedTree =>
      rw [perform, recorded_map, store_map, result_map, ← Outcome.silent_recorded,
        ← Outcome.silent_store, ← Outcome.silent_result, silent_update]
      cases store.nextOutage with
      | some cause => exact ⟨rfl, rfl⟩
      | none =>
          refine ⟨rfl, ?_⟩
          dsimp only
          rw [← Catalog.length_ids, Catalog.ids_update, Catalog.length_ids]
          rfl
  | find id =>
      rw [perform, recorded_map, store_map, result_map, ← Outcome.silent_recorded,
        ← Outcome.silent_store, ← Outcome.silent_result, silent_find?]
      cases store.nextOutage <;> exact ⟨rfl, rfl⟩
  | findMany ids =>
      rw [perform, recorded_map, store_map, result_map, ← Outcome.silent_recorded,
        ← Outcome.silent_store, ← Outcome.silent_result, silent_findMany]
      cases store.nextOutage <;> exact ⟨rfl, rfl⟩
  | setOutage outage => exact ⟨rfl, rfl⟩
  | request asked => cases direct
  | _ => cases calls

theorem not_isInsertion_of_call (call : Call) (store : Store) (rules : Nat) :
    StepReport.isInsertion ⟨(call.perform store).result, rules⟩ = false := by
  cases call <;> rw [Call.perform, result_map, StepReport.isInsertion]
  case create ruleText => cases (Service.create ruleText store).result <;> rfl
  case combine ids => cases (Service.combine ids store).result <;> rfl
  case evaluate traced id record => cases (Service.evaluate traced id record store).result <;> rfl
  case modify id ruleText => cases (Service.modify id ruleText store).result <;> rfl
  case get id => cases (Service.get id store).result <;> rfl

/-- What a step records is what is to be observed of the call that it makes, if it makes one. -/
theorem recorded_perform (direct : step.isRequest = false) (store : Store) :
    (step.perform surroundings store).recorded =
      (step.answeredCall? (step.report surroundings store)).toList.flatMap
        AnsweredCall.observations := by
  rw [answeredCall?, report]
  cases calls : step.call? with
  | none =>
      rw [(perform_of_no_call direct calls store).1]
      rfl
  | some call =>
      rw [perform_of_call? direct calls, call.recorded_perform store, Option.map_some,
        Option.toList_some, List.flatMap_singleton]

/-- A step adds a document exactly if it is observed as a new or a combined rule or inserts one past
the service. -/
theorem size_perform (direct : step.isRequest = false) (store : Store) :
    (step.perform surroundings store).store.catalog.size =
      store.catalog.size + (step.perform surroundings store).recorded.count .rulesCreated +
        (step.perform surroundings store).recorded.count .rulesCombined +
        (step.report surroundings store).isInsertion.toNat := by
  cases calls : step.call? with
  | none =>
      obtain ⟨unobserved, size_eq⟩ := perform_of_no_call direct calls store
      rw [unobserved, size_eq]
      rfl
  | some call =>
      rw [report, perform_of_call? direct calls, not_isInsertion_of_call, call.size_perform store]
      rfl

end Step

namespace Session

/-- What is taken from steps and what was seen of them. -/
def gather {α : Type} (take? : Step → StepReport → Option α) (steps : List Step)
    (reports : List StepReport) : List α :=
  (steps.zip reports).filterMap fun (step, report) => take? step report

/-- The calls that steps made, each with what was seen of its step. -/
def answeredCalls (steps : List Step) (reports : List StepReport) : List AnsweredCall :=
  gather Step.answeredCall? steps reports

variable {steps : List Step}

theorem gather_run_cons {α : Type} (take? : Step → StepReport → Option α) (step : Step)
    (steps : List Step) (surroundings : Http.Surroundings) (store : Store) :
    gather take? (step :: steps) (run surroundings store (step :: steps)).reports =
      (take? step (step.report surroundings store)).toList ++
        gather take? steps (run (step.surroundingsAfter surroundings)
          (step.perform surroundings store).store steps).reports := by
  change List.filterMap _ ((step, step.report surroundings store) :: _) = _
  rw [List.filterMap_cons]
  dsimp only
  cases take? step (step.report surroundings store) <;> rfl

/-- If each step records of some series what is to be observed of what is taken from it, a run
records of these series what is to be observed of all that is taken from its steps. -/
theorem filter_recorded_run {α : Type} (selects : Series → Bool)
    {take? : Step → StepReport → Option α} {observe : α → List Series}
    (stepwise : ∀ step ∈ steps, ∀ surroundings store,
      (step.perform surroundings store).recorded.filter selects =
        (take? step (step.report surroundings store)).toList.flatMap observe)
    (surroundings : Http.Surroundings) (store : Store) :
    (run surroundings store steps).recorded.filter selects =
      (gather take? steps (run surroundings store steps).reports).flatMap observe := by
  induction steps generalizing surroundings store with
  | nil => rfl
  | cons step steps induction =>
      rw [List.forall_mem_cons] at stepwise
      rw [gather_run_cons, List.flatMap_append, ← induction stepwise.2, ← stepwise.1,
        ← List.filter_append]
      rfl

theorem recorded_run (direct : ∀ step ∈ steps, step.isRequest = false)
    (surroundings : Http.Surroundings) (store : Store) :
    (run surroundings store steps).recorded =
      (answeredCalls steps (run surroundings store steps).reports).flatMap
        AnsweredCall.observations := by
  have all (recorded : List Series) : recorded.filter (fun _ => true) = recorded :=
    List.filter_eq_self.mpr fun _ _ => rfl
  rw [answeredCalls, ← filter_recorded_run fun _ => true, all]
  intro step member surroundings store
  rw [all, Step.recorded_perform (direct step member)]

/-- The documents are those that were there, and what was created, combined and inserted. -/
theorem size_run (direct : ∀ step ∈ steps, step.isRequest = false)
    (surroundings : Http.Surroundings) (store : Store) :
    let session := run surroundings store steps
    session.store.catalog.size =
      store.catalog.size + session.recorded.count .rulesCreated +
        session.recorded.count .rulesCombined +
        session.reports.countP StepReport.isInsertion := by
  induction steps generalizing surroundings store with
  | nil => rfl
  | cons step steps induction =>
      rw [List.forall_mem_cons] at direct
      have first : (step.perform surroundings store).store.catalog.size = _ :=
        Step.size_perform direct.1 store
      have rest := induction direct.2 (step.surroundingsAfter surroundings)
        (step.perform surroundings store).store
      dsimp only [run]
      rw [← Step.report, List.count_append, List.count_append, List.countP_cons]
      cases inserted : (step.report surroundings store).isInsertion <;>
        simp [inserted] at first ⊢ <;> omega

/-- The metrics of rules account for every call, whatever was called in whatever order, whichever
operations on the store failed and whatever was written past the service.  The counters of rules are
the numbers of calls that succeeded, and with the insertions past the service they make up the
documents.  The counters of evaluations are the numbers of those that ended with each verdict, and
each of these is timed once.  An evaluation that fails otherwise than at a condition, which is one
that found no document or no tree or met an outage, is not observed at all. -/
theorem metrics_account_for_calls (surroundings : Http.Surroundings) (outage : Option Outage)
    (upcoming : List (Option Outage)) (steps : List Step)
    (direct : ∀ step ∈ steps, step.isRequest = false) (session : Session)
    (ran : run surroundings ⟨.empty, outage, upcoming⟩ steps = session) (calls : List AnsweredCall)
    (made : answeredCalls steps session.reports = calls) :
    session.recorded.count .rulesCreated = calls.countP (·.achieves .creation) ∧
      session.recorded.count .rulesCombined = calls.countP (·.achieves .combination) ∧
      session.recorded.count .rulesModified = calls.countP (·.achieves .modification) ∧
      session.store.catalog.size =
        session.recorded.count .rulesCreated + session.recorded.count .rulesCombined +
          session.reports.countP StepReport.isInsertion ∧
      (∀ verdict, session.recorded.count (.evaluations verdict) =
        calls.countP (·.verdict? == some verdict)) ∧
      session.recorded.count .evaluationTimes =
        session.recorded.count (.evaluations .matched) +
          session.recorded.count (.evaluations .notMatched) +
          session.recorded.count (.evaluations .error) ∧
      ∀ traced id record store error,
        (Service.evaluate traced id record store).result = .error error →
          error.isOfCondition = false →
          (Service.evaluate traced id record store).recorded = [] := by
  subst ran made
  rw [recorded_run direct]
  refine ⟨?_, ?_, ?_, ?_, ?_, ?_, fun _ _ _ _ _ => Call.recorded_evaluate_of_error⟩
  · exact Series.count_flatMap (AnsweredCall.count_counter .creation rfl) _
  · exact Series.count_flatMap (AnsweredCall.count_counter .combination rfl) _
  · exact Series.count_flatMap (AnsweredCall.count_counter .modification rfl) _
  · rw [← recorded_run direct, size_run direct]
    simp [Catalog.size, Catalog.empty]
  · intro verdict
    exact Series.count_flatMap (AnsweredCall.count_evaluations verdict) _
  · exact AnsweredCall.count_evaluationTimes _

private theorem perform_create {surroundings : Http.Surroundings} {text : Text} {rule : Rule}
    (read : Rule.ofText text = .ok rule) (store : Store) :
    ((Step.create text).perform surroundings store).result =
        (Service.stored .rulesCreated rule store).result.map .created ∧
      ((Step.create text).perform surroundings store).store =
        (Service.stored .rulesCreated rule store).store := by
  rw [Step.perform, Operation.result_map, Operation.store_map, ← Outcome.silent_result,
    ← Outcome.silent_store, Service.silent_create, read]
  exact ⟨rfl, rfl⟩

private theorem perform_evaluate {surroundings : Http.Surroundings} (traced : Bool) (id : Text)
    (record : Record) (store : Store) :
    ((Step.evaluate traced id (.object record)).perform surroundings store).result =
        (Service.evaluate traced id record store).result.map .evaluated ∧
      ((Step.evaluate traced id (.object record)).perform surroundings store).store =
        store.advance := by
  rw [Step.perform_of_call? rfl rfl, Call.perform, Operation.result_map, Operation.store_map,
    Service.store_evaluate]
  exact ⟨rfl, rfl⟩

private theorem rule?_insert_empty {catalog : Catalog} (numbered : catalog.IsNumbered)
    (ruleText : Text) :
    (catalog.insert ruleText []).2.rule? (catalog.insert ruleText []).1.id =
      some (.error (.malformedTree .notJson)) := by
  have unreadable : Tree.decode [] = .error .notJson := by
    decide +kernel
  rw [Catalog.rule?, numbered.find?_insert, Option.map_some]
  change some (Rule.ofDocument ⟨_, _, [], _, _⟩) = _
  rw [Rule.ofDocument, unreadable]

/-- A creation that is lost, one that is not, an evaluation of the new rule, and one of a tree that
was written past the service and cannot be read. -/
theorem metrics_account_for_calls_past_lost_creation :
    ∃ steps session calls,
      steps = [.create "a > 1".toList, .create "a > 1".toList,
        .evaluate false "$1".toList (.object [("a".toList, .ofNat 2)]),
        .insert "b > 2".toList [], .evaluate false "$2".toList (.object [])] ∧
      (∀ step ∈ steps, step.isRequest = false) ∧
      run .counting ⟨.empty, none, [some .database]⟩ steps = session ∧
      answeredCalls steps session.reports = calls ∧
      session.recorded.count .rulesCreated = 1 ∧ session.store.catalog.size = 2 ∧
      session.recorded.count (.evaluations .matched) = 1 ∧
      session.recorded.count .evaluationTimes = 1 := by
  generalize record_eq : [("a".toList, Json.Value.ofNat 2)] = record
  generalize steps_eq : [Step.create "a > 1".toList, .create "a > 1".toList,
    .evaluate false "$1".toList (.object record), .insert "b > 2".toList [],
    .evaluate false "$2".toList (.object [])] = steps
  have direct : ∀ step ∈ steps, step.isRequest = false := by
    simp [← steps_eq, Step.isRequest]
  obtain ⟨created, combined, -, size_eq, evaluated, timed, -⟩ :=
    metrics_account_for_calls .counting none [some .database] steps direct _ rfl _ rfl
  refine ⟨steps, _, _, rfl, direct, rfl, rfl, ?_⟩
  rw [timed, size_eq, created, combined, evaluated, evaluated, evaluated]
  obtain ⟨rule, rule_eq⟩ : ∃ rule : Rule, rule = ⟨"a > 1".toList, .leaf "a > 1".toList⟩ :=
    ⟨_, rfl⟩
  have read : Rule.ofText "a > 1".toList = .ok rule := by
    have built : Tree.ofText "a > 1".toList = .ok (.leaf "a > 1".toList) := by
      cbv
    rw [rule_eq]
    exact Rule.ofText_leaf built rfl
  have executed : rule.tree.execute false record = .ok ⟨true, ["a > 1".toList], []⟩ := by
    rw [rule_eq, ← record_eq]
    decide
  obtain ⟨catalog, catalog_eq⟩ : ∃ catalog : Catalog,
      catalog = (Catalog.empty.insert rule.text rule.tree.encode).2 := ⟨_, rfl⟩
  have held : catalog.rule? "$1".toList = some (.ok rule) := by
    rw [catalog_eq]
    apply Catalog.IsNumbered.empty.rule?_insert
    rw [rule_eq]
    decide
  have corrupt : (catalog.insert "b > 2".toList []).2.rule? "$2".toList =
      some (.error (.malformedTree .notJson)) := by
    have numbered : catalog.IsNumbered := by
      rw [catalog_eq]
      exact Catalog.IsNumbered.empty.insert _ _
    have drawn : (catalog.insert "b > 2".toList []).1.id = "$2".toList := by
      have second : Catalog.idOf 2 = "$2".toList := by
        decide
      rw [catalog_eq]
      exact second
    rw [← drawn]
    exact rule?_insert_empty numbered _
  have reports : (run .counting ⟨.empty, none, [some .database]⟩ steps).reports =
      [⟨.error (.outage .database), 0⟩,
        ⟨.ok (.created (Catalog.empty.insert rule.text rule.tree.encode).1), 1⟩,
        ⟨.ok (.evaluated ⟨true, ["a > 1".toList], []⟩), 1⟩,
        ⟨.ok (.inserted (catalog.insert "b > 2".toList []).1), 2⟩,
        ⟨.error (.malformedTree .notJson), 2⟩] := by
    have stored : (Service.stored .rulesCreated rule
        (Service.stored .rulesCreated rule ⟨.empty, none, [some .database]⟩).store).store =
          ⟨catalog, none, []⟩ := by
      rw [catalog_eq]
      rfl
    have answering (catalog : Catalog) : (⟨catalog, none, []⟩ : Store).advance =
        ⟨catalog, none, []⟩ := rfl
    have inserted : ((Step.insert "b > 2".toList []).perform .counting ⟨catalog, none, []⟩).store =
        ⟨(catalog.insert "b > 2".toList []).2, none, []⟩ := rfl
    rw [← steps_eq]
    dsimp only [run, Step.surroundingsAfter]
    simp only [(perform_create read _).1, (perform_create read _).2, stored,
      (perform_evaluate _ _ _ _).1, (perform_evaluate _ _ _ _).2, answering, inserted]
    rw [Service.result_evaluate rfl, held, Service.result_evaluate rfl, corrupt]
    dsimp only
    rw [executed, catalog_eq]
    rfl
  rw [reports, ← steps_eq]
  refine ⟨rfl, rfl, rfl, rfl⟩

end Session

end Rulebook
