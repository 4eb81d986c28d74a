import Rulebook.Proofs.Operations

/-!
# Properties that runs keep

The service writes the catalogue in three ways: it inserts the rule of a text, inserts a combined
rule, or replaces a document by the rule of a text.  A property of the catalogue that these writes
keep is kept by every call of the service and every request, hence by every run of them.
-/

namespace Rulebook

/-- A property of the catalogue that the writes of the service keep. -/
structure Catalog.Stable (property : Catalog → Prop) : Prop where
  create : ∀ {catalog ruleText rule}, property catalog → Rule.ofText ruleText = .ok rule →
    property (catalog.insert rule.text rule.tree.encode).2
  combine : ∀ {catalog ids rule}, property catalog →
    Rule.combineDocuments ids (catalog.findMany ids) = .ok rule →
    property (catalog.insert rule.text rule.tree.encode).2
  modify : ∀ {catalog ruleText rule} id, property catalog → Rule.ofText ruleText = .ok rule →
    property (catalog.update id rule.text rule.tree.encode).2

namespace Operation

/-- An operation leaves a catalogue with a property if it finds one. -/
def Keeps {α : Type} (property : Catalog → Prop) (operation : Operation α) : Prop :=
  ∀ store, property store.catalog → property (operation store).store.catalog

variable {α β : Type} {property : Catalog → Prop} {operation : Operation α}

theorem Keeps.pure (value : α) : (pure value : Operation α).Keeps property :=
  fun _ holds => holds

theorem Keeps.bind {next : α → Operation β} (first : operation.Keeps property)
    (second : ∀ value, (next value).Keeps property) : (operation >>= next).Keeps property := by
  intro store holds
  change property (operation.andThen next store).store.catalog
  rw [andThen]
  cases result : (operation store).result with
  | error error => exact first store holds
  | ok value => exact second value _ (first store holds)

theorem Keeps.attempt (keeps : operation.Keeps property) : operation.attempt.Keeps property :=
  keeps

theorem Keeps.withinNoting (span : Log.Span) (late : α → List Log.Field)
    (keeps : operation.Keeps property) : (withinNoting span late operation).Keeps property :=
  keeps

theorem Keeps.ofExcept (result : Except RuleError α) : (ofExcept result).Keeps property :=
  fun _ holds => holds

theorem Keeps.record (series : Series) : (record series).Keeps property :=
  fun _ holds => holds

/-- An operation that leaves the store as it is but for what befalls the next ones. -/
theorem Keeps.of_silent
    (kept : ∀ store, property store.catalog → property (operation store).silent.store.catalog) :
    operation.Keeps property :=
  kept

end Operation

namespace Service

open Operation

variable {property : Catalog → Prop}

private theorem stored_keeps {series : Series} {rule : Rule} {store : Store}
    (holds : property store.catalog)
    (inserted : property (store.catalog.insert rule.text rule.tree.encode).2) :
    property (stored series rule store).store.catalog := by
  unfold stored
  cases store.nextOutage with
  | some cause => exact holds
  | none => exact inserted

theorem create_keeps (stable : Catalog.Stable property) (ruleText : Text) :
    (create ruleText).Keeps property := by
  refine Keeps.of_silent fun store holds => ?_
  rw [silent_create]
  cases read : Rule.ofText ruleText with
  | error error => exact holds
  | ok rule => exact stored_keeps holds (stable.create holds read)

theorem combine_keeps (stable : Catalog.Stable property) (ids : List Text) :
    (combine ids).Keeps property := by
  refine Keeps.of_silent fun store holds => ?_
  rw [silent_combine]
  split
  · exact holds
  · cases store.nextOutage with
    | some cause => exact holds
    | none =>
        dsimp only
        split
        · cases combined : Rule.combineDocuments ids (store.catalog.findMany ids) with
          | error error => exact holds
          | ok rule => exact stored_keeps holds (stable.combine holds combined)
        · exact holds

theorem get_keeps (id : Text) : (get id).Keeps property := by
  refine Keeps.of_silent fun store holds => ?_
  rw [silent_get]
  cases store.nextOutage with
  | some cause => exact holds
  | none => cases store.catalog.find? id <;> exact holds

theorem evaluate_keeps (traced : Bool) (id : Text) (record : Record) :
    (evaluate traced id record).Keeps property := by
  unfold evaluate
  refine Keeps.withinNoting _ _ (Keeps.bind (get_keeps id) fun document => ?_)
  refine Keeps.bind (Keeps.ofExcept _) fun rule => ?_
  refine Keeps.bind (Keeps.record _) fun _ => Keeps.bind (Keeps.record _) fun _ => ?_
  cases rule.tree.execute traced record with
  | error error => exact fun _ holds => holds
  | ok evaluation => exact Keeps.pure evaluation

theorem modify_keeps (stable : Catalog.Stable property) (id ruleText : Text) :
    (modify id ruleText).Keeps property := by
  refine Keeps.of_silent fun store holds => ?_
  rw [silent_modify]
  cases read : Rule.ofText ruleText with
  | error error => exact holds
  | ok rule =>
      cases store.nextOutage with
      | some cause => exact holds
      | none =>
          dsimp only
          split <;> exact stable.modify id holds read

end Service

namespace Http

open Operation

variable {property : Catalog → Prop}

theorem respond_keeps {α : Type} {operation : Operation α} (keeps : operation.Keeps property)
    (data : α → Option Json.Value) : (respond operation data).Keeps property := by
  refine Keeps.bind keeps.attempt fun result => ?_
  cases result with
  | ok value => exact Keeps.pure _
  | error error =>
      refine Keeps.bind ?_ fun _ => Keeps.pure _
      cases error <;> exact fun _ holds => holds

theorem submission_keeps (stable : Catalog.Stable property) (submission : Submission) :
    submission.answer.Keeps property := by
  unfold Submission.answer
  cases submission.objections with
  | cons objection objections => exact Keeps.pure _
  | nil =>
      cases submission with
      | create ruleText => exact respond_keeps (Service.create_keeps stable ruleText) _
      | combine ids => exact respond_keeps (Service.combine_keeps stable _) _
      | evaluate id record traced => exact respond_keeps (Service.evaluate_keeps traced id record) _
      | modify id ruleText => exact respond_keeps (Service.modify_keeps stable id ruleText) _

theorem submit_keeps (stable : Catalog.Stable property) (request : Request) (route : Route) :
    (request.submit route).Keeps property := by
  unfold Request.submit
  cases request.submission route with
  | error response => exact Keeps.pure _
  | ok submission => exact submission_keeps stable submission

theorem dispatch_keeps (stable : Catalog.Stable property) (timeText : Nat → Text)
    (request : Request) (route : Route) (segment : Text) :
    (request.dispatch timeText route segment).Keeps property := by
  unfold Request.dispatch
  split
  · exact Keeps.pure _
  · split
    · exact respond_keeps (Service.get_keeps _) _
    · exact Keeps.pure _
  · exact submit_keeps stable request _

theorem serve_keeps (stable : Catalog.Stable property) (timeText : Nat → Text)
    (request : Request) : (request.serve timeText).Keeps property := by
  unfold Request.serve
  refine Keeps.bind (Keeps.withinNoting _ _ ?_) fun response => ?_
  · unfold Request.answer
    split
    · exact Keeps.pure _
    · split
      · refine Keeps.bind (dispatch_keeps stable timeText request _ _) fun response => ?_
        exact Keeps.pure _
      · exact Keeps.pure _
  · refine Keeps.bind (Keeps.record _) fun _ => Keeps.bind (Keeps.record _) fun _ => Keeps.pure _

/-- Surroundings in which times and request ids are numbers. -/
def Surroundings.counting : Surroundings :=
  ⟨Numeral.ofNat, Numeral.ofNat⟩

end Http

namespace Step

open Operation

variable {surroundings : Http.Surroundings}

/-- Whether a step writes to the store past the service. -/
def isDirectWrite : Step → Bool
  | .insert _ _ => true
  | .update _ _ _ => true
  | _ => false

theorem perform_keeps {property : Catalog → Prop} (stable : Catalog.Stable property) {step : Step}
    (served : step.isDirectWrite = false) : (step.perform surroundings).Keeps property := by
  cases step with
  | create ruleText =>
      exact Keeps.bind (Service.create_keeps stable ruleText) fun _ => Keeps.pure _
  | combine ids => exact Keeps.bind (Service.combine_keeps stable ids) fun _ => Keeps.pure _
  | evaluate traced id data =>
      refine Keeps.bind (Keeps.ofExcept _) fun record => ?_
      exact Keeps.bind (Service.evaluate_keeps traced id record) fun _ => Keeps.pure _
  | modify id ruleText =>
      exact Keeps.bind (Service.modify_keeps stable id ruleText) fun _ => Keeps.pure _
  | get id => exact Keeps.bind (Service.get_keeps id) fun _ => Keeps.pure _
  | insert ruleText encodedTree => cases served
  | update id ruleText encodedTree => cases served
  | find id =>
      refine Keeps.bind (Keeps.of_silent fun store holds => ?_) fun _ => Keeps.pure _
      rw [silent_find?]
      cases store.nextOutage <;> exact holds
  | findMany ids =>
      refine Keeps.bind (Keeps.of_silent fun store holds => ?_) fun _ => Keeps.pure _
      rw [silent_findMany]
      cases store.nextOutage <;> exact holds
  | setOutage outage => exact fun _ holds => holds
  | request asked => exact Keeps.bind (Http.serve_keeps stable _ asked) fun _ => Keeps.pure _

/-- A property that all insertions and updates keep is kept by every step, also past the service. -/
theorem perform_keeps_of_writes {property : Catalog → Prop}
    (inserts : ∀ {catalog : Catalog} ruleText encodedTree, property catalog →
      property (catalog.insert ruleText encodedTree).2)
    (updates : ∀ {catalog : Catalog} id ruleText encodedTree, property catalog →
      property (catalog.update id ruleText encodedTree).2)
    (step : Step) : (step.perform surroundings).Keeps property := by
  cases written : step.isDirectWrite with
  | false =>
      exact perform_keeps ⟨fun holds _ => inserts _ _ holds, fun holds _ => inserts _ _ holds,
        fun id holds _ => updates id _ _ holds⟩ written
  | true =>
      cases step with
      | insert ruleText encodedTree =>
          refine Keeps.bind (Keeps.of_silent fun store holds => ?_) fun _ => Keeps.pure _
          rw [silent_insert]
          cases store.nextOutage with
          | some cause => exact holds
          | none => exact inserts _ _ holds
      | update id ruleText encodedTree =>
          refine Keeps.bind (Keeps.of_silent fun store holds => ?_) fun _ => Keeps.pure _
          rw [silent_update]
          cases store.nextOutage with
          | some cause => exact holds
          | none => exact updates _ _ _ holds
      | _ => cases written

end Step

namespace Session

theorem run_keeps {property : Catalog → Prop} {steps : List Step}
    (keeps : ∀ step ∈ steps, ∀ surroundings, (step.perform surroundings).Keeps property)
    (surroundings : Http.Surroundings) (store : Store) (holds : property store.catalog) :
    property (run surroundings store steps).store.catalog := by
  induction steps generalizing surroundings store with
  | nil => exact holds
  | cons step steps induction =>
      rw [List.forall_mem_cons] at keeps
      exact induction keeps.2 _ _ (keeps.1 surroundings store holds)

end Session

end Rulebook
