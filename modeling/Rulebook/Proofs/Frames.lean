import Mathlib.Data.List.Forall2
import Rulebook.Proofs.Calls

/-!
# What a step leaves as it was

Every call of the service comes to its single write last, after everything that can fail.  So a step
that fails, called directly or by way of a request, leaves all documents and the counters of rules
as they were, and a step that succeeds changes no more than it is meant to.
-/

namespace Rulebook

namespace Series

/-- Whether a series counts the rules that were created, combined or modified. -/
def countsRules : Series → Bool
  | .rulesCreated | .rulesCombined | .rulesModified => true
  | _ => false

end Series

namespace Outcome

/-- Whether an operation left the documents and the counters of rules as they were. -/
def LeavesRules {α : Type} (outcome : Outcome α) (before : Catalog) : Prop :=
  outcome.store.catalog = before ∧ ∀ series ∈ outcome.recorded, series.countsRules = false

/-- Whether an operation did what it is meant to do with the catalogue, or left it alone if it
failed. -/
structure IsAllOrNothing {α : Type} (change : Catalog → Catalog → Prop) (before : Catalog)
    (outcome : Outcome α) : Prop where
  of_error : ∀ error, outcome.result = .error error → outcome.LeavesRules before
  of_ok : ∀ value, outcome.result = .ok value → change before outcome.store.catalog

variable {α : Type} {change : Catalog → Catalog → Prop} {before : Catalog}

theorem isAllOrNothing_error {outcome : Outcome α} {error : RuleError}
    (failed : outcome.result = .error error) (left : outcome.LeavesRules before) :
    outcome.IsAllOrNothing change before where
  of_error _ _ := left
  of_ok value succeeded := by
    rw [failed] at succeeded
    cases succeeded

theorem isAllOrNothing_ok {outcome : Outcome α} {value : α} (succeeded : outcome.result = .ok value)
    (changed : change before outcome.store.catalog) :
    outcome.IsAllOrNothing change before where
  of_error error failed := by
    rw [succeeded] at failed
    cases failed
  of_ok _ _ := changed

theorem IsAllOrNothing.map {β : Type} {operation : Operation α} {store : Store}
    (orderly : (operation store).silent.IsAllOrNothing change before) (wrap : α → β) :
    ((do return wrap (← operation)) store : Outcome β).IsAllOrNothing change before := by
  cases result : (operation store).result with
  | error error =>
      have failed : ((do return wrap (← operation)) store : Outcome β).result = .error error := by
        rw [Operation.result_map, result]
        rfl
      refine isAllOrNothing_error failed ?_
      rw [LeavesRules, Operation.store_map, Operation.recorded_map]
      exact orderly.of_error error result
  | ok value =>
      have succeeded :
          ((do return wrap (← operation)) store : Outcome β).result = .ok (wrap value) := by
        rw [Operation.result_map, result]
        rfl
      refine isAllOrNothing_ok succeeded ?_
      rw [Operation.store_map]
      exact orderly.of_ok value result

theorem isAllOrNothing_failure {error : RuleError} {store : Store} {log : List Log.Record}
    (same : store.catalog = before) :
    (⟨.error error, store, [], log⟩ : Outcome α).IsAllOrNothing change before :=
  isAllOrNothing_error rfl ⟨same, fun _ member => absurd member List.not_mem_nil⟩

end Outcome

namespace Catalog

/-- Whether a catalogue has one more document than before, under a fresh id, and the same others. -/
def Gains (before after : Catalog) : Prop :=
  ∃ document, document.id ∉ before.ids ∧ after.documents = before.documents ++ [document]

/-- Whether the document with an id is there and got another text, with its tree and the time of the
change, and nothing else is different. -/
def Revises (id ruleText : Text) (before after : Catalog) : Prop :=
  id ∈ before.ids ∧
    List.Forall₂
      (fun old new : Document =>
        if old.id = id then
          new = { old with ruleText, encodedTree := new.encodedTree, updatedAt := new.updatedAt }
        else new = old)
      before.documents after.documents

theorem IsNumbered.gains_insert {catalog : Catalog} (numbered : catalog.IsNumbered)
    (ruleText encodedTree : Text) : catalog.Gains (catalog.insert ruleText encodedTree).2 :=
  ⟨catalog.draft ruleText encodedTree, numbered.draft_notMem ruleText encodedTree, rfl⟩

/-- An update either hits no document and changes nothing, or it revises the document it names. -/
theorem update_cases (catalog : Catalog) (id ruleText encodedTree : Text) :
    catalog.update id ruleText encodedTree = (0, catalog) ∨
      ((catalog.update id ruleText encodedTree).1 = 1 ∧
        catalog.Revises id ruleText (catalog.update id ruleText encodedTree).2) := by
  unfold update updateAt
  cases found : catalog.find? id with
  | none => exact .inl rfl
  | some document =>
      refine .inr ⟨rfl, mem_ids_of_find? found, ?_⟩
      rw [List.forall₂_map_right_iff, List.forall₂_same]
      intro old _
      split <;> rfl

end Catalog

namespace Service

open Outcome

theorem isAllOrNothing_stored {series : Series} {rule : Rule} {store : Store} {before : Catalog}
    (same : store.catalog = before) (numbered : before.IsNumbered) :
    (stored series rule store).IsAllOrNothing Catalog.Gains before := by
  subst same
  unfold stored
  cases store.nextOutage with
  | some cause => exact isAllOrNothing_failure rfl
  | none => exact isAllOrNothing_ok rfl (numbered.gains_insert _ _)

theorem isAllOrNothing_create (ruleText : Text) {store : Store}
    (numbered : store.catalog.IsNumbered) :
    (create ruleText store).silent.IsAllOrNothing Catalog.Gains store.catalog := by
  rw [silent_create]
  cases Rule.ofText ruleText with
  | error error => exact isAllOrNothing_failure rfl
  | ok rule => exact isAllOrNothing_stored rfl numbered

theorem isAllOrNothing_combine (ids : List Text) {store : Store}
    (numbered : store.catalog.IsNumbered) :
    (combine ids store).silent.IsAllOrNothing Catalog.Gains store.catalog := by
  rw [silent_combine]
  split
  · exact isAllOrNothing_failure rfl
  · cases store.nextOutage with
    | some cause => exact isAllOrNothing_failure rfl
    | none =>
        dsimp only
        split
        · cases Rule.combineDocuments ids (store.catalog.findMany ids) with
          | error error => exact isAllOrNothing_failure rfl
          | ok rule => exact isAllOrNothing_stored rfl numbered
        · exact isAllOrNothing_failure rfl

theorem isAllOrNothing_get (id : Text) (store : Store) :
    (get id store).silent.IsAllOrNothing (fun before after => after = before) store.catalog := by
  rw [silent_get]
  cases store.nextOutage with
  | some cause => exact isAllOrNothing_failure rfl
  | none =>
      cases store.catalog.find? id with
      | some document => exact isAllOrNothing_ok rfl rfl
      | none => exact isAllOrNothing_failure rfl

theorem isAllOrNothing_evaluate (traced : Bool) (id : Text) (record : Record) (store : Store) :
    (evaluate traced id record store).silent.IsAllOrNothing
      (fun before after => after = before) store.catalog := by
  rw [silent_evaluate, silent_get]
  cases store.nextOutage with
  | some cause => exact isAllOrNothing_failure rfl
  | none =>
      cases store.catalog.find? id with
      | none => exact isAllOrNothing_failure rfl
      | some document =>
          dsimp only
          rw [followedBy_ok]
          cases Rule.ofDocument document with
          | error error => exact isAllOrNothing_failure rfl
          | ok rule =>
              dsimp only
              generalize rule.tree.execute traced record = executed
              cases executed with
              | ok evaluation => exact isAllOrNothing_ok rfl rfl
              | error error =>
                  refine isAllOrNothing_error rfl ⟨rfl, ?_⟩
                  intro series member
                  simp only [List.nil_append, List.mem_cons, List.not_mem_nil, or_false] at member
                  rcases member with rfl | rfl <;> rfl

theorem isAllOrNothing_modify (id ruleText : Text) (store : Store) :
    (modify id ruleText store).silent.IsAllOrNothing (Catalog.Revises id ruleText)
      store.catalog := by
  rw [silent_modify]
  cases read : Rule.ofText ruleText with
  | error error => exact isAllOrNothing_failure rfl
  | ok rule =>
      obtain ⟨text_eq, _⟩ := Rule.ofText_eq_ok_iff.mp read
      cases store.nextOutage with
      | some cause => exact isAllOrNothing_failure rfl
      | none =>
          dsimp only
          rcases store.catalog.update_cases id rule.text rule.tree.encode with
            missed | ⟨hit, revised⟩
          · rw [missed, if_pos rfl]
            exact isAllOrNothing_failure rfl
          · rw [hit, if_neg Nat.one_ne_zero]
            rw [text_eq] at revised ⊢
            exact isAllOrNothing_ok rfl revised

end Service

namespace Call

/-- What a call changes in the catalogue if it succeeds. -/
def Changes : Call → Catalog → Catalog → Prop
  | .create _ | .combine _ => Catalog.Gains
  | .modify id ruleText => Catalog.Revises id ruleText
  | .evaluate _ _ _ | .get _ => fun before after => after = before

theorem isAllOrNothing_perform (call : Call) {store : Store} (numbered : store.catalog.IsNumbered) :
    (call.perform store).IsAllOrNothing call.Changes store.catalog := by
  cases call with
  | create ruleText => exact (Service.isAllOrNothing_create ruleText numbered).map Answer.created
  | combine ids => exact (Service.isAllOrNothing_combine ids numbered).map Answer.created
  | evaluate traced id record =>
      exact (Service.isAllOrNothing_evaluate traced id record store).map Answer.evaluated
  | modify id ruleText =>
      exact (Service.isAllOrNothing_modify id ruleText store).map fun _ => Answer.done
  | get id => exact (Service.isAllOrNothing_get id store).map Answer.document

end Call

namespace Step

/-- The call that a step makes, directly or by way of a request. -/
def call? : Step → Option Call
  | .create ruleText => some (.create ruleText)
  | .combine ids => some (.combine ids)
  | .evaluate traced id data =>
      match Record.ofJson data with
      | .ok record => some (.evaluate traced id record)
      | .error _ => none
  | .modify id ruleText => some (.modify id ruleText)
  | .get id => some (.get id)
  | .request asked => asked.call?
  | _ => none

/-- What a step changes in the catalogue if it succeeds. -/
def Changes (step : Step) : Catalog → Catalog → Prop :=
  match step.call? with
  | some call => call.Changes
  | none => fun before after => after = before

/-- Whether a step failed: with an error, or with a response that has another status than 200. -/
def Failed : Except RuleError Answer → Prop
  | .error _ => True
  | .ok (.response _ response) => response.status ≠ 200
  | .ok _ => False

/-- Whether a step that failed left the rules as they were, and a step that succeeded changed what
it is meant to.  Writes past the service are not meant to keep anything. -/
def IsOrderly (surroundings : Http.Surroundings) (step : Step) (store : Store) : Prop :=
  let outcome := step.perform surroundings store
  (Failed outcome.result → outcome.LeavesRules store.catalog) ∧
    (¬Failed outcome.result → step.isDirectWrite = false →
      step.Changes store.catalog outcome.store.catalog)

variable {surroundings : Http.Surroundings} {step : Step} {store : Store}

theorem failed_perform_iff {call : Call} :
    Failed (call.perform store).result ↔ ∃ error, (call.perform store).result = .error error := by
  cases call <;> rw [Call.perform, Operation.result_map]
  case create ruleText => cases (Service.create ruleText store).result <;> simp [Failed, Except.map]
  case combine ids => cases (Service.combine ids store).result <;> simp [Failed, Except.map]
  case evaluate traced id record =>
    cases (Service.evaluate traced id record store).result <;> simp [Failed, Except.map]
  case modify id ruleText =>
    cases (Service.modify id ruleText store).result <;> simp [Failed, Except.map]
  case get id => cases (Service.get id store).result <;> simp [Failed, Except.map]

theorem isOrderly_of_call (call : Call) (numbered : store.catalog.IsNumbered)
    (calls : step.call? = some call)
    (same : step.perform surroundings store = call.perform store) :
    step.IsOrderly surroundings store := by
  have performed := call.isAllOrNothing_perform numbered
  rw [IsOrderly, Changes, calls, same, failed_perform_iff]
  constructor
  · rintro ⟨error, failed⟩
    exact performed.of_error error failed
  · intro not_failed _
    cases result : (call.perform store).result with
    | error error => exact absurd ⟨error, result⟩ not_failed
    | ok answer => exact performed.of_ok answer result

theorem isOrderly_of_leavesRules (calls : step.call? = none)
    (left : (step.perform surroundings store).LeavesRules store.catalog) :
    step.IsOrderly surroundings store := by
  rw [IsOrderly, Changes, calls]
  exact ⟨fun _ => left, fun _ _ => left.1⟩

theorem isOrderly_request (request : Http.Request) (numbered : store.catalog.IsNumbered) :
    (Step.request request).IsOrderly surroundings store := by
  let answered := request.answer surroundings.timeText store
  let outcome := (Step.request request).perform surroundings store
  obtain ⟨response, responded, left⟩ := request.answersFor_answer surroundings.timeText store
  have served := silent_request responded
  have result_eq : outcome.result = .ok (.response _ response) := congrArg Outcome.result served
  have store_eq : outcome.store = answered.store := congrArg Outcome.store served
  have recorded_eq : outcome.recorded =
      answered.recorded ++ request.observations response.status :=
    congrArg Outcome.recorded served
  have observed : ∀ series ∈ request.observations response.status,
      series.countsRules = false := by
    simp [Http.Request.observations, Series.countsRules]
  have leaves (kept : answered.LeavesRules store.catalog) :
      outcome.LeavesRules store.catalog := by
    rw [Outcome.LeavesRules, store_eq, recorded_eq]
    refine ⟨kept.1, fun series member => ?_⟩
    rcases List.mem_append.mp member with inner | outer
    · exact kept.2 series inner
    · exact observed series outer
  cases calls : request.call? with
  | none =>
      rw [calls] at left
      have step_calls : (Step.request request).call? = none := calls
      apply isOrderly_of_leavesRules step_calls
      apply leaves
      rw [Outcome.LeavesRules, left.1, left.2]
      exact ⟨rfl, fun _ member => absurd member List.not_mem_nil⟩
  | some call =>
      rw [calls] at left
      obtain ⟨left_store, left_recorded, succeeds_iff⟩ := left
      have performed := call.isAllOrNothing_perform numbered
      have changes_eq : (Step.request request).Changes = call.Changes := by
        rw [Changes, call?, calls]
      rw [IsOrderly, result_eq, changes_eq, Failed, ne_eq, succeeds_iff]
      constructor
      · intro not_succeeded
        apply leaves
        rw [Outcome.LeavesRules, left_store, left_recorded]
        cases result : (call.perform store).result with
        | error error => exact performed.of_error error result
        | ok answer => exact absurd ⟨answer, result⟩ not_succeeded
      · intro succeeded _
        obtain ⟨answer, result⟩ := not_not.mp succeeded
        rw [store_eq, left_store]
        exact performed.of_ok answer result

/-- Every step is orderly wherever the documents are numbered. -/
theorem isOrderly (surroundings : Http.Surroundings) (step : Step)
    (numbered : store.catalog.IsNumbered) : step.IsOrderly surroundings store := by
  cases step with
  | create ruleText => exact isOrderly_of_call (.create ruleText) numbered rfl rfl
  | combine ids => exact isOrderly_of_call (.combine ids) numbered rfl rfl
  | evaluate traced id data =>
      cases data with
      | object record =>
          exact isOrderly_of_call (.evaluate traced id record) numbered rfl rfl
      | _ =>
          apply isOrderly_of_leavesRules rfl
          exact ⟨rfl, fun _ member => absurd member List.not_mem_nil⟩
  | modify id ruleText => exact isOrderly_of_call (.modify id ruleText) numbered rfl rfl
  | get id => exact isOrderly_of_call (.get id) numbered rfl rfl
  | insert ruleText encodedTree =>
      rw [IsOrderly, perform, Operation.result_map, Outcome.LeavesRules, Operation.store_map,
        Operation.recorded_map, ← Outcome.silent_result, ← Outcome.silent_store,
        ← Outcome.silent_recorded, Operation.silent_insert]
      cases store.nextOutage with
      | some cause => simp [isDirectWrite]
      | none => simp [isDirectWrite, Failed, Except.map]
  | update id ruleText encodedTree =>
      rw [IsOrderly, perform, Operation.result_map, Outcome.LeavesRules, Operation.store_map,
        Operation.recorded_map, ← Outcome.silent_result, ← Outcome.silent_store,
        ← Outcome.silent_recorded, Operation.silent_update]
      cases store.nextOutage with
      | some cause => simp [isDirectWrite]
      | none => simp [isDirectWrite, Failed, Except.map]
  | find id =>
      apply isOrderly_of_leavesRules rfl
      rw [Outcome.LeavesRules, perform, Operation.store_map, Operation.recorded_map,
        ← Outcome.silent_store, ← Outcome.silent_recorded, Operation.silent_find?]
      cases store.nextOutage <;> simp
  | findMany ids =>
      apply isOrderly_of_leavesRules rfl
      rw [Outcome.LeavesRules, perform, Operation.store_map, Operation.recorded_map,
        ← Outcome.silent_store, ← Outcome.silent_recorded, Operation.silent_findMany]
      cases store.nextOutage <;> simp
  | setOutage outage =>
      apply isOrderly_of_leavesRules rfl
      exact ⟨rfl, fun _ member => absurd member List.not_mem_nil⟩
  | request asked => exact isOrderly_request asked numbered

end Step

namespace Session

/-- Whatever was done before, and whichever operations on the store fail: a step that fails leaves
all documents as they were and moves no counter of rules, whether it is a call of the service or a
request.  A step that succeeds changes in the catalogue what its call is meant to change: a new or a
combined rule is one more document under a fresh id, a modified rule is the same document with
another text, tree and time of change, and all else leaves the catalogue as it was. -/
theorem failed_step_changes_nothing (surroundings later : Http.Surroundings)
    (outage : Option Outage) (upcoming : List (Option Outage)) (steps : List Step) (step : Step)
    (before : Session) (ran : run surroundings ⟨.empty, outage, upcoming⟩ steps = before)
    (outcome : Outcome Answer) (done : step.perform later before.store = outcome) :
    (Step.Failed outcome.result →
      outcome.store.catalog = before.store.catalog ∧
        ∀ series ∈ [Series.rulesCreated, .rulesCombined, .rulesModified],
          (before.recorded ++ outcome.recorded).count series = before.recorded.count series) ∧
    (¬Step.Failed outcome.result → step.isDirectWrite = false →
      step.Changes before.store.catalog outcome.store.catalog) := by
  subst ran done
  obtain ⟨of_failed, of_succeeded⟩ :=
    step.isOrderly later (isNumbered_run surroundings outage upcoming steps)
  refine ⟨fun failed => ?_, of_succeeded⟩
  obtain ⟨same, uncounted⟩ := of_failed failed
  refine ⟨same, fun series member => ?_⟩
  have counts : series.countsRules = true := by
    simp only [List.mem_cons, List.not_mem_nil, or_false] at member
    rcases member with rfl | rfl | rfl <;> rfl
  rw [List.count_append, Nat.add_eq_left, List.count_eq_zero]
  intro recorded
  rw [uncounted series recorded] at counts
  cases counts

/-- A combination whose insertion is lost leaves the rules as they were; a modification then changes
one of them. -/
theorem failed_step_changes_nothing_on_lost_insertion :
    ∃ before, run .counting ⟨.empty, none, [none, none, some .database]⟩
        [.create "a > 1".toList] = before ∧
      (∃ outcome, (Step.combine ["$1".toList]).perform .counting before.store = outcome ∧
        Step.Failed outcome.result ∧ outcome.store.catalog = before.store.catalog) ∧
      ∃ outcome, (Step.modify "$1".toList "a > 1".toList).perform .counting before.store = outcome ∧
        ¬Step.Failed outcome.result ∧
        before.store.catalog.Revises "$1".toList "a > 1".toList outcome.store.catalog := by
  have built : Tree.ofText "a > 1".toList = .ok (.leaf "a > 1".toList) := by
    cbv
  have read : Rule.ofText "a > 1".toList = .ok ⟨"a > 1".toList, .leaf "a > 1".toList⟩ :=
    Rule.ofText_leaf built rfl
  obtain ⟨rule, rule_eq⟩ : ∃ rule : Rule, rule = ⟨"a > 1".toList, .leaf "a > 1".toList⟩ :=
    ⟨_, rfl⟩
  rw [← rule_eq] at read
  have left : (run .counting ⟨.empty, none, [none, none, some .database]⟩
        [.create "a > 1".toList]).store =
      ⟨(Catalog.empty.insert rule.text rule.tree.encode).2, none, [none, some .database]⟩ := by
    dsimp only [run, Step.perform]
    rw [Operation.store_map, ← Outcome.silent_store, Service.silent_create, read]
    rfl
  have found : (Catalog.empty.insert rule.text rule.tree.encode).2.rule? "$1".toList =
      some (.ok rule) := by
    apply Catalog.IsNumbered.empty.rule?_insert
    rw [rule_eq]
    decide
  have held : ["$1".toList].map (Catalog.empty.insert rule.text rule.tree.encode).2.rule? =
      [rule].map fun rule => some (.ok rule) := by
    rw [List.map_singleton, List.map_singleton, found]
  generalize before_eq :
    run .counting ⟨.empty, none, [none, none, some .database]⟩ [.create "a > 1".toList] =
      before at left
  have failed :
      Step.Failed ((Step.combine ["$1".toList]).perform .counting before.store).result := by
    rw [left, Step.perform, Operation.result_map, ← Outcome.silent_result,
      Service.silent_combine_of_rule? (List.cons_ne_nil _ _) rfl held]
    exact trivial
  have succeeded : ¬Step.Failed
      ((Step.modify "$1".toList "a > 1".toList).perform .counting before.store).result := by
    rw [left, Step.perform, Operation.result_map, ← Outcome.silent_result, Service.silent_modify,
      read]
    exact not_false
  have lost := (failed_step_changes_nothing .counting .counting none [none, none, some .database]
    [.create "a > 1".toList] (.combine ["$1".toList]) before before_eq _ rfl).1 failed
  have revised := (failed_step_changes_nothing .counting .counting none [none, none, some .database]
    [.create "a > 1".toList] (.modify "$1".toList "a > 1".toList) before before_eq _ rfl).2
      succeeded rfl
  exact ⟨before, rfl, ⟨_, rfl, failed, lost.1⟩, _, rfl, succeeded, revised⟩

end Session

end Rulebook
