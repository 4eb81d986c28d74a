import Rulebook.Proofs.Documents
import Rulebook.Proofs.Encoding
import Rulebook.Proofs.Evaluating
import Rulebook.Proofs.Invariants

/-!
# Soundness of the stored rules

Whatever the service does, in whatever order and whichever operations on the store fail, each
document holds a rule: the text and the stored form of one tree, which the grammar derives from the
text, which is made of comparisons, and which is not too deep.  So a stored rule can always be
loaded and run.
-/

namespace Rulebook

namespace Rule

/-- A rule whose tree is the one that the grammar derives from its text, and can be stored and run.
-/
structure IsSound (rule : Rule) : Prop where
  derives : Derives .disjunction (Token.ofText rule.text) rule.tree
  depth_le : rule.tree.depth ≤ Tree.maxDepth
  comparable : rule.tree.IsComparable

theorem isSound_of_ofText {text : Text} {rule : Rule} (read : ofText text = .ok rule) :
    rule.IsSound := by
  obtain ⟨rfl, tree_read⟩ := ofText_eq_ok_iff.mp read
  obtain ⟨built, comparable⟩ := Tree.ofRule_eq_ok_iff.mp tree_read
  obtain ⟨derivation, _, depth_le⟩ := Tree.ofText_eq_ok_iff.mp built
  exact ⟨derivation, depth_le, comparable⟩

theorem isSound_combine {rules : List Rule} {combined : Rule}
    (combination : combine rules = .ok combined) (sound : ∀ rule ∈ rules, rule.IsSound) :
    combined.IsSound where
  derives := derives_combine combination fun rule member => (sound rule member).derives
  depth_le := depth_combine combination fun rule member => (sound rule member).depth_le
  comparable := isComparable_combine combination fun rule member => (sound rule member).comparable

end Rule

/-- Whether a document holds a sound rule. -/
def Document.IsSound (document : Document) : Prop :=
  ∃ rule : Rule, document.Holds rule ∧ rule.IsSound

theorem Rule.isSound_combineDocuments {ids : List Text} {documents : List Document}
    {combined : Rule} (sound : ∀ document ∈ documents, document.IsSound)
    (combination : combineDocuments ids documents = .ok combined) : combined.IsSound := by
  unfold combineDocuments at combination
  split at combination
  · cases combination
  · next rules found =>
    refine isSound_combine combination fun rule member => ?_
    have held : some (.ok rule) ∈
        ids.map fun id => (documents.find? (·.id == id)).map ofDocument := by
      rw [sources_eq_ok_iff.mp found]
      exact List.mem_map_of_mem member
    obtain ⟨id, _, read⟩ := List.mem_map.mp held
    obtain ⟨document, document_found, read⟩ := Option.map_eq_some_iff.mp read
    obtain ⟨rule', held, rule_sound⟩ := sound document (List.mem_of_find?_eq_some document_found)
    rw [held.ofDocument rule_sound.depth_le] at read
    cases read
    exact rule_sound

namespace Catalog

/-- Whether every document holds a sound rule. -/
def IsSound (catalog : Catalog) : Prop :=
  ∀ document ∈ catalog.documents, ∃ rule : Rule, document.Holds rule ∧ rule.IsSound

theorem IsSound.empty : empty.IsSound :=
  fun _ member => absurd member List.not_mem_nil

theorem IsSound.rule? {catalog : Catalog} (sound : catalog.IsSound) {id : Text}
    {holding : Except RuleError Rule} (found : catalog.rule? id = some holding) :
    ∃ rule : Rule, holding = .ok rule ∧ rule.IsSound := by
  obtain ⟨document, document_found, rfl⟩ := Option.map_eq_some_iff.mp found
  obtain ⟨rule, held, rule_sound⟩ := sound document (find?_eq_some document_found).1
  exact ⟨rule, held.ofDocument rule_sound.depth_le, rule_sound⟩

theorem IsSound.insert {catalog : Catalog} (sound : catalog.IsSound) {rule : Rule}
    (rule_sound : rule.IsSound) : (catalog.insert rule.text rule.tree.encode).2.IsSound := by
  intro document member
  rcases mem_insert.mp member with old | rfl
  · exact sound document old
  · exact ⟨rule, ⟨rfl, rfl⟩, rule_sound⟩

theorem IsSound.update {catalog : Catalog} (sound : catalog.IsSound) (id : Text) {rule : Rule}
    (rule_sound : rule.IsSound) : (catalog.update id rule.text rule.tree.encode).2.IsSound := by
  intro document member
  rcases mem_update member with old | renewed
  · exact sound document old
  · exact ⟨rule, renewed, rule_sound⟩

theorem IsSound.combineDocuments {catalog : Catalog} (sound : catalog.IsSound) {ids : List Text}
    {combined : Rule}
    (combination : Rule.combineDocuments ids (catalog.findMany ids) = .ok combined) :
    combined.IsSound := by
  refine Rule.isSound_combineDocuments (fun document member => ?_) combination
  obtain ⟨id, _, found⟩ := List.mem_filterMap.mp member
  exact sound document (find?_eq_some found).1

/-- The writes of the service keep the documents sound. -/
theorem stable_isSound : Stable IsSound where
  create sound read := sound.insert (Rule.isSound_of_ofText read)
  combine sound combination := sound.insert (sound.combineDocuments combination)
  modify id sound read := sound.update id (Rule.isSound_of_ofText read)

end Catalog

namespace Service

/-- The evaluation of a sound rule has a verdict or meets a value of the wrong type. -/
theorem evaluate_of_isSound {store : Store} (sound : store.catalog.IsSound)
    (answers : store.nextOutage = none) (traced : Bool) (id : Text) (record : Record) :
    (id ∉ store.catalog.ids ∧
        (evaluate traced id record store).result = .error (.notFound [id])) ∨
      (id ∈ store.catalog.ids ∧
        ∃ evaluation, (evaluate traced id record store).result = .ok evaluation) ∨
      (id ∈ store.catalog.ids ∧
        ∃ error, (evaluate traced id record store).result = .error error ∧
          error.IsTypeMismatch) := by
  have ran := result_evaluate answers traced id record
  cases found : store.catalog.rule? id with
  | none =>
      rw [found] at ran
      exact .inl ⟨Catalog.rule?_eq_none_iff.mp found, ran⟩
  | some holding =>
      have known := Catalog.mem_ids_of_rule? found
      obtain ⟨rule, rfl, rule_sound⟩ := sound.rule? found
      rw [found] at ran
      dsimp only at ran
      cases executed : rule.tree.execute traced record with
      | ok evaluation => exact .inr (.inl ⟨known, evaluation, ran.trans executed⟩)
      | error error =>
          have mismatch := Tree.isTypeMismatch_of_execute rule_sound.comparable executed
          exact .inr (.inr ⟨known, error, ran.trans executed, mismatch⟩)

end Service

namespace Session

theorem isSound_run {steps : List Step} (served : ∀ step ∈ steps, step.isDirectWrite = false)
    (surroundings : Http.Surroundings) (store : Store) (sound : store.catalog.IsSound) :
    (run surroundings store steps).store.catalog.IsSound :=
  run_keeps (fun step member _ => Step.perform_keeps Catalog.stable_isSound (served step member))
    surroundings store sound

end Session

end Rulebook
