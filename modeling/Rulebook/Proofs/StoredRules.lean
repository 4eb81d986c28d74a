import Rulebook.Proofs.Soundness

/-!
# Running stored rules

The ids of the stored documents are those that the calls of the service gave out.  Every stored rule
can be loaded and run, so that an evaluation fails only for an id that was never given out or on a
value of the wrong type.
-/

namespace Rulebook

namespace Service

/-- The id of a document, if an operation gave one. -/
def givenIds (result : Except RuleError Document) : List Text :=
  match result with
  | .ok document => [document.id]
  | .error _ => []

theorem ids_stored (series : Series) (rule : Rule) (store : Store) :
    (stored series rule store).store.catalog.ids =
      store.catalog.ids ++ givenIds (stored series rule store).result := by
  unfold stored
  cases store.nextOutage with
  | some cause => simp [givenIds]
  | none => exact Catalog.ids_insert _ _ _

theorem ids_create (ruleText : Text) (store : Store) :
    (create ruleText store).store.catalog.ids =
      store.catalog.ids ++ givenIds (create ruleText store).result := by
  rw [← Outcome.silent_store, ← Outcome.silent_result, silent_create]
  cases Rule.ofText ruleText with
  | error error => simp [givenIds]
  | ok rule => exact ids_stored _ rule store

theorem ids_combine (ids : List Text) (store : Store) :
    (combine ids store).store.catalog.ids =
      store.catalog.ids ++ givenIds (combine ids store).result := by
  rw [← Outcome.silent_store, ← Outcome.silent_result, silent_combine]
  split
  · simp [givenIds]
  · cases store.nextOutage with
    | some cause => simp [givenIds]
    | none =>
        dsimp only
        split
        · cases Rule.combineDocuments ids (store.catalog.findMany ids) with
          | error error => simp [givenIds]
          | ok rule => exact ids_stored _ rule store.advance
        · simp [givenIds]

theorem ids_modify (id ruleText : Text) (store : Store) :
    (modify id ruleText store).store.catalog.ids = store.catalog.ids := by
  rw [← Outcome.silent_store, silent_modify]
  cases Rule.ofText ruleText with
  | error error => rfl
  | ok rule =>
      cases store.nextOutage with
      | some cause => rfl
      | none =>
          dsimp only
          split <;> exact Catalog.ids_update _ _ _ _

end Service

namespace Step

/-- Whether a step calls the service or changes when the store answers. -/
def isCall : Step → Bool
  | .create _ => true
  | .combine _ => true
  | .evaluate _ _ _ => true
  | .modify _ _ => true
  | .get _ => true
  | .setOutage _ => true
  | _ => false

theorem isDirectWrite_of_isCall {step : Step} (call : step.isCall = true) :
    step.isDirectWrite = false := by
  cases step <;> first | rfl | cases call

/-- The id that a step gave out, if it created a document. -/
def createdIds (result : Except RuleError Answer) : List Text :=
  match result with
  | .ok (.created document) => [document.id]
  | _ => []

theorem mem_createdIds {result : Except RuleError Answer} {id : Text} :
    id ∈ createdIds result ↔ ∃ document, result = .ok (.created document) ∧ document.id = id := by
  unfold createdIds
  split
  · next document => simp [eq_comm]
  · next other =>
    simp only [List.not_mem_nil, false_iff, not_exists, not_and]
    exact fun document created => absurd created (other document)

theorem createdIds_created (result : Except RuleError Document) :
    createdIds (result.map .created) = Service.givenIds result := by
  cases result <;> rfl

theorem createdIds_bind {α : Type} (operation : Operation α) {next : α → Operation Answer}
    (none_created : ∀ value store, createdIds (next value store).result = []) (store : Store) :
    createdIds ((operation >>= next) store).result = [] := by
  change createdIds (operation.andThen next store).result = []
  rw [Operation.andThen]
  cases (operation store).result with
  | error error => rfl
  | ok value => exact none_created value _

/-- A call adds the id that it gives out, if any, to the ids of the documents. -/
theorem ids_perform {surroundings : Http.Surroundings} {step : Step} (call : step.isCall = true)
    (store : Store) :
    (step.perform surroundings store).store.catalog.ids =
      store.catalog.ids ++ createdIds (step.perform surroundings store).result := by
  cases step with
  | create ruleText =>
      rw [perform, Operation.store_map, Operation.result_map, createdIds_created]
      exact Service.ids_create ruleText store
  | combine ids =>
      rw [perform, Operation.store_map, Operation.result_map, createdIds_created]
      exact Service.ids_combine ids store
  | evaluate traced id data =>
      let evaluation := perform surroundings (.evaluate traced id data)
      have kept : evaluation.Keeps (·.ids = store.catalog.ids) :=
        .bind (.ofExcept _) fun _ => .bind (Service.evaluate_keeps _ _ _) fun _ => .pure _
      have none_created : createdIds (evaluation store).result = [] :=
        createdIds_bind _ (fun _ => createdIds_bind _ fun _ _ => rfl) store
      rw [kept store rfl, none_created, List.append_nil]
  | modify id ruleText =>
      rw [perform, Operation.store_map, Service.ids_modify,
        createdIds_bind _ (fun _ _ => rfl) store, List.append_nil]
  | get id =>
      have kept : (Service.get id).Keeps (·.ids = store.catalog.ids) := Service.get_keeps id
      rw [perform, Operation.store_map, kept store rfl, createdIds_bind _ (fun _ _ => rfl) store,
        List.append_nil]
  | setOutage outage => exact (List.append_nil _).symm
  | insert ruleText encodedTree => cases call
  | update id ruleText encodedTree => cases call
  | find id => cases call
  | findMany ids => cases call
  | request asked => cases call

end Step

namespace Session

/-- The ids of the documents after a run are those that its calls gave out. -/
theorem ids_run {steps : List Step} (calls : ∀ step ∈ steps, step.isCall = true)
    (surroundings : Http.Surroundings) (store : Store) :
    (run surroundings store steps).store.catalog.ids =
      store.catalog.ids ++
        (run surroundings store steps).reports.flatMap (Step.createdIds ·.result) := by
  induction steps generalizing surroundings store with
  | nil => exact (List.append_nil _).symm
  | cons step steps induction =>
      rw [List.forall_mem_cons] at calls
      dsimp only [run]
      rw [induction calls.2, Step.ids_perform calls.1, List.flatMap_cons, List.append_assoc]

theorem mem_ids_run {steps : List Step} (calls : ∀ step ∈ steps, step.isCall = true)
    (surroundings : Http.Surroundings) (outage : Option Outage) (upcoming : List (Option Outage))
    {id : Text} :
    id ∈ (run surroundings ⟨.empty, outage, upcoming⟩ steps).store.catalog.ids ↔
      ∃ report ∈ (run surroundings ⟨.empty, outage, upcoming⟩ steps).reports,
        ∃ document, report.result = .ok (.created document) ∧ document.id = id := by
  rw [ids_run calls]
  simp only [Catalog.ids, Catalog.empty, List.map_nil, List.nil_append, List.mem_flatMap,
    Step.mem_createdIds]

/-- Whatever is called in whatever order, and whichever operations on the store fail, every document
can be loaded: the tree is read from its stored form, has at most 512 levels, and its leaves are
comparisons.  While the store answers, the evaluation of a rule has a verdict, meets a value of the
wrong type, or finds no document, and the last one exactly if no call gave out the id. -/
theorem stored_rules_can_be_run (surroundings : Http.Surroundings) (outage : Option Outage)
    (upcoming : List (Option Outage)) (steps : List Step)
    (calls : ∀ step ∈ steps, step.isCall = true) (session : Session)
    (ran : run surroundings ⟨.empty, outage, upcoming⟩ steps = session) :
    (∀ document ∈ session.store.catalog.documents, ∃ tree,
      Tree.decode document.encodedTree = .ok tree ∧ tree.depth ≤ 512 ∧
        ∀ condition ∈ tree.leaves, ∃ comparison, Comparison.ofText condition = .ok comparison) ∧
    (session.store.nextOutage = none → ∀ traced id record,
      ((∃ evaluation, (Service.evaluate traced id record session.store).result = .ok evaluation) ∨
        (Service.evaluate traced id record session.store).result = .error (.notFound [id]) ∨
        ∃ error, (Service.evaluate traced id record session.store).result = .error error ∧
          error.IsTypeMismatch) ∧
      ((∃ missing,
          (Service.evaluate traced id record session.store).result = .error (.notFound missing)) ↔
        ¬∃ report ∈ session.reports, ∃ document,
          report.result = .ok (.created document) ∧ document.id = id)) := by
  subst ran
  have sound := isSound_run (fun step member => Step.isDirectWrite_of_isCall (calls step member))
    surroundings ⟨.empty, outage, upcoming⟩ Catalog.IsSound.empty
  constructor
  · intro document member
    obtain ⟨rule, held, rule_sound⟩ := sound document member
    exact ⟨rule.tree, held.decode rule_sound.depth_le, rule_sound.depth_le, rule_sound.comparable⟩
  · intro answers traced id record
    rw [← mem_ids_run calls]
    rcases Service.evaluate_of_isSound sound answers traced id record with
      ⟨unknown, missed⟩ | ⟨known, evaluation, evaluated⟩ | ⟨known, error, failed, mismatch⟩
    · exact ⟨.inr (.inl missed), fun _ => unknown, fun _ => ⟨[id], missed⟩⟩
    · refine ⟨.inl ⟨evaluation, evaluated⟩, ?_, fun unknown => absurd known unknown⟩
      rintro ⟨missing, missed⟩
      rw [evaluated] at missed
      cases missed
    · refine ⟨.inr (.inr ⟨error, failed, mismatch⟩), ?_, fun unknown => absurd known unknown⟩
      rintro ⟨missing, missed⟩
      rw [failed] at missed
      obtain ⟨field, expected, actual, rfl⟩ := mismatch
      cases missed

private theorem store_create_of_outage (text : Text) (catalog : Catalog) (cause : Outage) :
    (Service.create text ⟨catalog, some cause, []⟩).store = ⟨catalog, some cause, []⟩ := by
  rw [← Outcome.silent_store, Service.silent_create]
  cases Rule.ofText text <;> rfl

theorem stored_rules_can_be_run_past_outage :
    ∃ session, run .counting .empty [.create "a > 1".toList, .setOutage (some .database),
        .create "b > 2".toList, .setOutage none] = session ∧
      session.store.nextOutage = none ∧
      (∀ document ∈ session.store.catalog.documents,
        ∃ tree, Tree.decode document.encodedTree = .ok tree ∧ tree.depth ≤ 512 ∧
          ∀ condition ∈ tree.leaves,
            ∃ comparison, Comparison.ofText condition = .ok comparison) ∧
      ∃ missing, (Service.evaluate false "$2".toList [] session.store).result =
        .error (.notFound missing) := by
  generalize steps_eq : [Step.create "a > 1".toList, .setOutage (some .database),
    .create "b > 2".toList, .setOutage none] = steps
  have calls : ∀ step ∈ steps, step.isCall = true := by
    simp [← steps_eq, Step.isCall]
  obtain ⟨loaded, evaluated⟩ := stored_rules_can_be_run .counting none [] steps calls _ rfl
  have built : Tree.ofText "a > 1".toList = .ok (.leaf "a > 1".toList) := by
    cbv
  have read : Rule.ofText "a > 1".toList = .ok ⟨"a > 1".toList, .leaf "a > 1".toList⟩ :=
    Rule.ofText_eq_ok_iff.mpr
      ⟨rfl, Tree.ofRule_eq_ok_iff.mpr ⟨built, Tree.isComparable_leaf.mpr ⟨_, rfl⟩⟩⟩
  have left : (run .counting .empty steps).store =
      ⟨(Catalog.empty.insert "a > 1".toList (Tree.leaf "a > 1".toList).encode).2, none, []⟩ := by
    have created := store_run_create .counting read
    dsimp only [run] at created
    rw [← steps_eq]
    dsimp only [run]
    rw [created]
    dsimp only [Step.perform]
    rw [Operation.store_map, store_create_of_outage]
  have answers : (run .counting .empty steps).store.nextOutage = none := by
    rw [left]
    rfl
  refine ⟨run .counting .empty steps, rfl, answers, loaded,
    (evaluated answers false "$2".toList []).2.mpr ?_⟩
  rw [← mem_ids_run calls]
  change "$2".toList ∉ (run .counting .empty steps).store.catalog.ids
  rw [left, Catalog.ids_insert]
  decide

end Session

end Rulebook
