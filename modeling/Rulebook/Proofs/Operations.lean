import Rulebook.Session

/-!
# What operations leave

Apart from what it reports, the outcome of each operation of the service is a function of the store
that is written down here once.  A property of the catalogue that the insertions and the updates of
an operation keep is kept by the operation, whatever fails.
-/

namespace Rulebook

namespace Outcome

/-- An outcome without what was reported. -/
def silent {α : Type} (outcome : Outcome α) : Outcome α :=
  { outcome with log := [] }

theorem silent_result {α : Type} (outcome : Outcome α) : outcome.silent.result = outcome.result :=
  rfl

theorem silent_store {α : Type} (outcome : Outcome α) : outcome.silent.store = outcome.store :=
  rfl

/-- The outcome of going on after an operation, unless it failed. -/
def followedBy {α β : Type} (first : Outcome α) (next : α → Store → Outcome β) : Outcome β :=
  match first.result with
  | .error error => ⟨.error error, first.store, first.recorded, []⟩
  | .ok value =>
      { next value first.store with
        recorded := first.recorded ++ (next value first.store).recorded }

@[simp]
theorem followedBy_error {α β : Type} (error : RuleError) (store : Store) (recorded : List Series)
    (log : List Log.Record) (next : α → Store → Outcome β) :
    (⟨.error error, store, recorded, log⟩ : Outcome α).followedBy next =
      ⟨.error error, store, recorded, []⟩ :=
  rfl

@[simp]
theorem followedBy_ok {α β : Type} (value : α) (store : Store) (recorded : List Series)
    (log : List Log.Record) (next : α → Store → Outcome β) :
    (⟨.ok value, store, recorded, log⟩ : Outcome α).followedBy next =
      { next value store with recorded := recorded ++ (next value store).recorded } :=
  rfl

end Outcome

namespace Store

@[simp]
theorem advance_catalog (store : Store) : store.advance.catalog = store.catalog := rfl

end Store

namespace Operation

@[simp]
theorem silent_bind {α β : Type} (operation : Operation α) (next : α → Operation β)
    (store : Store) :
    ((operation >>= next) store).silent =
      (operation store).silent.followedBy fun value store => (next value store).silent := by
  change (operation.andThen next store).silent = _
  rw [andThen, Outcome.followedBy, Outcome.silent_result]
  cases (operation store).result <;> rfl

@[simp]
theorem silent_pure {α : Type} (value : α) (store : Store) :
    ((pure value : Operation α) store).silent = ⟨.ok value, store, [], []⟩ :=
  rfl

@[simp]
theorem silent_fail {α : Type} (error : RuleError) (store : Store) :
    ((fail error : Operation α) store).silent = ⟨.error error, store, [], []⟩ :=
  rfl

@[simp]
theorem silent_ofExcept {α : Type} (result : Except RuleError α) (store : Store) :
    (ofExcept result store).silent = ⟨result, store, [], []⟩ :=
  rfl

@[simp]
theorem silent_record (series : Series) (store : Store) :
    (record series store).silent = ⟨.ok (), store, [series], []⟩ :=
  rfl

@[simp]
theorem silent_serviceReport (level : Log.Level) (message : String)
    (fields : List (String × Log.FieldValue)) (store : Store) :
    (Service.report level message fields store).silent = ⟨.ok (), store, [], []⟩ :=
  rfl

@[simp]
theorem silent_within {α : Type} (span : Log.Span) (operation : Operation α) (store : Store) :
    (within span operation store).silent = (operation store).silent :=
  rfl

theorem result_map {α β : Type} (operation : Operation α) (wrap : α → β) (store : Store) :
    ((do return wrap (← operation)) store : Outcome β).result =
      (operation store).result.map wrap := by
  change (operation.andThen _ store).result = _
  rw [andThen]
  cases (operation store).result <;> rfl

theorem store_map {α β : Type} (operation : Operation α) (wrap : α → β) (store : Store) :
    ((do return wrap (← operation)) store : Outcome β).store = (operation store).store := by
  change (operation.andThen _ store).store = _
  rw [andThen]
  cases (operation store).result <;> rfl

theorem silent_onCatalog {α : Type} (operation : Operation α) (store : Store) :
    (onCatalog operation store).silent =
      match store.nextOutage with
      | some cause => ⟨.error (.outage cause), store.advance, [], []⟩
      | none => (operation store.advance).silent := by
  unfold onCatalog
  cases store.nextOutage <;> rfl

@[simp]
theorem silent_find? (id : Text) (store : Store) :
    (find? id store).silent =
      match store.nextOutage with
      | some cause => ⟨.error (.outage cause), store.advance, [], []⟩
      | none => ⟨.ok (store.catalog.find? id), store.advance, [], []⟩ :=
  silent_onCatalog _ store

@[simp]
theorem silent_findMany (ids : List Text) (store : Store) :
    (findMany ids store).silent =
      match store.nextOutage with
      | some cause => ⟨.error (.outage cause), store.advance, [], []⟩
      | none => ⟨.ok (store.catalog.findMany ids), store.advance, [], []⟩ :=
  silent_onCatalog _ store

@[simp]
theorem silent_insert (ruleText encodedTree : Text) (store : Store) :
    (insert ruleText encodedTree store).silent =
      match store.nextOutage with
      | some cause => ⟨.error (.outage cause), store.advance, [], []⟩
      | none =>
          ⟨.ok (store.catalog.insert ruleText encodedTree).1,
            { store.advance with catalog := (store.catalog.insert ruleText encodedTree).2 },
            [], []⟩ :=
  silent_onCatalog _ store

@[simp]
theorem silent_update (id ruleText encodedTree : Text) (store : Store) :
    (update id ruleText encodedTree store).silent =
      match store.nextOutage with
      | some cause => ⟨.error (.outage cause), store.advance, [], []⟩
      | none =>
          ⟨.ok (store.catalog.update id ruleText encodedTree).1,
            { store.advance with catalog := (store.catalog.update id ruleText encodedTree).2 },
            [], []⟩ :=
  silent_onCatalog _ store

end Operation

namespace Service

/-- The outcome of storing a rule and counting it. -/
def stored (series : Series) (rule : Rule) (store : Store) : Outcome Document :=
  match store.nextOutage with
  | some cause => ⟨.error (.outage cause), store.advance, [], []⟩
  | none =>
      ⟨.ok (store.catalog.insert rule.text rule.tree.encode).1,
        { store.advance with catalog := (store.catalog.insert rule.text rule.tree.encode).2 },
        [series], []⟩

theorem silent_create (ruleText : Text) (store : Store) :
    (create ruleText store).silent =
      match Rule.ofText ruleText with
      | .error error => ⟨.error error, store, [], []⟩
      | .ok rule => stored .rulesCreated rule store := by
  unfold create readRule stored
  cases Rule.ofText ruleText with
  | error error => simp
  | ok rule => cases answered : store.nextOutage <;> simp [Service.store, answered]

theorem silent_combine (ids : List Text) (store : Store) :
    (combine ids store).silent =
      if ids.isEmpty then ⟨.error .emptyCombination, store, [], []⟩
      else
        match store.nextOutage with
        | some cause => ⟨.error (.outage cause), store.advance, [], []⟩
        | none =>
            let documents := store.catalog.findMany ids
            let missing := Rule.missingIds ids documents
            if missing.isEmpty then
              match Rule.combineDocuments ids documents with
              | .error error => ⟨.error error, store.advance, [], []⟩
              | .ok rule => stored .rulesCombined rule store.advance
            else ⟨.error (.notFound missing), store.advance, [], []⟩ := by
  unfold combine stored
  rw [Operation.silent_within]
  split
  · rfl
  · rw [Operation.silent_bind, Operation.silent_findMany]
    cases answered : store.nextOutage with
    | some cause => rfl
    | none =>
        dsimp only
        rw [Outcome.followedBy_ok]
        split
        · cases Rule.combineDocuments ids (store.catalog.findMany ids) with
          | error error => simp
          | ok rule => cases inserted : store.advance.nextOutage <;> simp [Service.store, inserted]
        · simp

theorem silent_get (id : Text) (store : Store) :
    (get id store).silent =
      match store.nextOutage with
      | some cause => ⟨.error (.outage cause), store.advance, [], []⟩
      | none =>
          match store.catalog.find? id with
          | some document => ⟨.ok document, store.advance, [], []⟩
          | none => ⟨.error (.notFound [id]), store.advance, [], []⟩ := by
  unfold get
  rw [Operation.silent_bind, Operation.silent_find?]
  cases store.nextOutage with
  | some cause => rfl
  | none => cases found : store.catalog.find? id <;> simp

theorem silent_evaluate (traced : Bool) (id : Text) (record : Record) (store : Store) :
    (evaluate traced id record store).silent =
      (get id store).silent.followedBy fun document store =>
        match Rule.ofDocument document with
        | .error error => ⟨.error error, store, [], []⟩
        | .ok rule =>
            ⟨rule.tree.execute traced record, store,
              [.evaluationTimes,
                .evaluations (Evaluation.verdict (rule.tree.execute traced record))], []⟩ := by
  unfold evaluate
  rw [Operation.silent_within, Operation.silent_bind]
  congr 1
  funext document store
  cases Rule.ofDocument document with
  | error error => simp
  | ok rule => cases result : rule.tree.execute traced record <;> simp [result]

theorem silent_modify (id ruleText : Text) (store : Store) :
    (modify id ruleText store).silent =
      match Rule.ofText ruleText with
      | .error error => ⟨.error error, store, [], []⟩
      | .ok rule =>
          match store.nextOutage with
          | some cause => ⟨.error (.outage cause), store.advance, [], []⟩
          | none =>
              let updated := store.catalog.update id rule.text rule.tree.encode
              let store := { store.advance with catalog := updated.2 }
              if updated.1 = 0 then ⟨.error (.notFound [id]), store, [], []⟩
              else ⟨.ok (), store, [.rulesModified], []⟩ := by
  unfold modify readRule
  cases Rule.ofText ruleText with
  | error error => simp
  | ok rule =>
      cases answered : store.nextOutage with
      | some cause => simp [answered]
      | none =>
          by_cases missed : (store.catalog.update id rule.text rule.tree.encode).1 = 0 <;>
            simp [answered, missed]

end Service

end Rulebook
