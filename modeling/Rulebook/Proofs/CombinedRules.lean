import Rulebook.Proofs.Conjunction
import Rulebook.Proofs.Documents
import Rulebook.Proofs.Encoding
import Rulebook.Proofs.Invariants

/-!
# Stored rules and their combination

Documents are numbered as they are inserted, whoever writes them, so that a combined rule gets an id
of its own and leaves the rules that it was made of as they are.  Its evaluation is the conjunction
of theirs.
-/

namespace Rulebook

namespace Session

/-- The documents are numbered after every run, also of writes past the service. -/
theorem isNumbered_run (surroundings : Http.Surroundings) (outage : Option Outage)
    (upcoming : List (Option Outage)) (steps : List Step) :
    (run surroundings ⟨.empty, outage, upcoming⟩ steps).store.catalog.IsNumbered := by
  refine run_keeps (fun step _ _ => Step.perform_keeps_of_writes ?_ ?_ step) _ _
    Catalog.IsNumbered.empty
  · exact fun ruleText encodedTree numbered => numbered.insert ruleText encodedTree
  · exact fun id ruleText encodedTree numbered => numbered.update id ruleText encodedTree

end Session

namespace Service

theorem stored_eq_ok {series : Series} {rule : Rule} {store : Store} {document : Document}
    (given : (stored series rule store).result = .ok document) :
    document = (store.catalog.insert rule.text rule.tree.encode).1 ∧
      (stored series rule store).store.catalog =
        (store.catalog.insert rule.text rule.tree.encode).2 := by
  unfold stored at given ⊢
  cases answers : store.nextOutage with
  | some cause =>
      rw [answers] at given
      cases given
  | none =>
      rw [answers] at given
      cases given
      exact ⟨rfl, rfl⟩

theorem combine_eq_ok {ids : List Text} {store : Store} {document : Document}
    (given : (combine ids store).result = .ok document) :
    ids ≠ [] ∧ ∃ rule, Rule.combineDocuments ids (store.catalog.findMany ids) = .ok rule ∧
      document = (store.catalog.insert rule.text rule.tree.encode).1 ∧
      (combine ids store).store.catalog =
        (store.catalog.insert rule.text rule.tree.encode).2 := by
  rw [← Outcome.silent_result, silent_combine] at given
  rw [← Outcome.silent_store, silent_combine]
  split at given
  · cases given
  · next some_id =>
    rw [if_neg some_id]
    refine ⟨fun none_id => some_id (List.isEmpty_iff.mpr none_id), ?_⟩
    cases answers : store.nextOutage with
    | some cause =>
        rw [answers] at given
        cases given
    | none =>
        rw [answers] at given
        dsimp only at given ⊢
        split at given
        · next none_missing =>
          rw [if_pos none_missing]
          cases combination : Rule.combineDocuments ids (store.catalog.findMany ids) with
          | error error =>
              rw [combination] at given
              cases given
          | ok rule =>
              rw [combination] at given
              exact ⟨rule, rfl, stored_eq_ok given⟩
        · cases given

/-- Rules that are found under some ids are evaluated under these ids, in the same order. -/
private theorem map_result_evaluate {catalog : Catalog} {after : Store}
    (answers : after.nextOutage = none)
    (kept : ∀ id rule, catalog.rule? id = some (.ok rule) →
      after.catalog.rule? id = some (.ok rule))
    (traced : Bool) (record : Record) {ids : List Text} {rules : List Rule}
    (held : ids.map catalog.rule? = rules.map fun rule => some (.ok rule)) :
    (ids.map fun id => (evaluate traced id record after).result) =
      rules.map (·.tree.execute traced record) := by
  induction ids generalizing rules with
  | nil =>
      obtain rfl := List.map_eq_nil_iff.mp held.symm
      rfl
  | cons id ids induction =>
      cases rules with
      | nil => cases held
      | cons rule rules =>
          obtain ⟨found, rest_held⟩ := List.cons.inj held
          rw [List.map_cons, List.map_cons, induction rest_held, result_evaluate answers,
            kept id rule found]

/-- The evaluation of a combined rule is the conjunction of the evaluations of its parts. -/
theorem isOrderedConjunction_evaluate {ids : List Text} {store : Store} {document : Document}
    (numbered : store.catalog.IsNumbered) (given : (combine ids store).result = .ok document)
    (traced : Bool) (record : Record) :
    Evaluation.IsOrderedConjunction
      (ids.map fun id => (evaluate traced id record (combine ids store).store).result)
      (evaluate traced document.id record (combine ids store).store).result := by
  obtain ⟨some_id, combined, combination, rfl, catalog_eq⟩ := combine_eq_ok given
  obtain ⟨rules, held, combined_rules⟩ := Rule.combineDocuments_eq_ok_iff.mp combination
  generalize (combine ids store).store = after at catalog_eq ⊢
  cases answers : after.nextOutage with
  | some cause =>
      simp only [result_evaluate_of_outage answers]
      obtain ⟨id, rest, rfl⟩ := List.exists_cons_of_ne_nil some_id
      exact Evaluation.isOrderedConjunction_of_findings rfl
  | none =>
      have fits : combined.tree.depth ≤ Tree.maxDepth :=
        Rule.depth_combine combined_rules fun rule member => by
          obtain ⟨id, found⟩ := Catalog.exists_rule?_of_mem held member
          exact Catalog.depth_le_of_rule? found
      have kept : ∀ id rule, store.catalog.rule? id = some (.ok rule) →
          after.catalog.rule? id = some (.ok rule) := by
        intro id rule found
        rw [catalog_eq, Catalog.rule?_insert_of_rule? _ _ found]
      rw [map_result_evaluate answers kept traced record held, result_evaluate answers, catalog_eq,
        numbered.rule?_insert fits]
      exact Rule.isOrderedConjunction_combine combined_rules traced record

theorem silent_combine_twice {id : Text} {rule : Rule} {store : Store}
    (answers : store.nextOutage = none) (found : store.catalog.rule? id = some (.ok rule))
    (fits : rule.tree.depth < Tree.maxDepth) :
    (combine [id, id] store).silent =
      stored .rulesCombined
        ⟨Rule.conjunctionText [rule, rule], .node .and rule.tree rule.tree⟩ store.advance := by
  have held : [id, id].map store.catalog.rule? =
      [rule, rule].map fun rule => some (.ok rule) := by
    simp only [List.map_cons, List.map_nil, found]
  rw [silent_combine_of_rule? (List.cons_ne_nil _ _) answers held, Rule.combine_twice fits]

/-- Combination is conjunction in order.  Whatever rules are combined, on every record the combined
rule matches if all of them do, and otherwise has the verdict or the error of the first one that
does not, and it finds the conditions of the rules up to there.  In every state of the store in
which rules are combined, the evaluations of the new rule and of the listed rules afterwards are
related alike, and each of them leaves the store as it is but for what befalls the next operations.
-/
theorem combination_is_ordered_conjunction :
    (∀ rules combined, Rule.combine rules = .ok combined → ∀ traced record,
      Evaluation.IsOrderedConjunction (rules.map (·.tree.execute traced record))
        (combined.tree.execute traced record)) ∧
    (∀ surroundings outage upcoming steps ids document after,
      combine ids (Session.run surroundings ⟨.empty, outage, upcoming⟩ steps).store = after →
      after.result = .ok document → ∀ traced record,
      Evaluation.IsOrderedConjunction
          (ids.map fun id => (evaluate traced id record after.store).result)
          (evaluate traced document.id record after.store).result ∧
        ∀ id, (evaluate traced id record after.store).store = after.store.advance) := by
  refine ⟨fun _ _ combination => Rule.isOrderedConjunction_combine combination, ?_⟩
  rintro surroundings outage upcoming steps ids document _ rfl given traced record
  have numbered := Session.isNumbered_run surroundings outage upcoming steps
  exact ⟨isOrderedConjunction_evaluate numbered given traced record,
    fun id => store_evaluate traced id record _⟩

theorem combination_is_ordered_conjunction_of_two :
    (∃ combined,
      Rule.combine
          [⟨"a = x".toList, .leaf "a = x".toList⟩, ⟨"b > 2".toList, .leaf "b > 2".toList⟩] =
        .ok combined ∧
      Evaluation.outcome (combined.tree.execute false [("a".toList, .text "y".toList)]) =
        .ok false) ∧
    ∃ document after, combine ["$1".toList, "$1".toList]
        (Session.run .counting ⟨.empty, none, []⟩ [.create "b > 2".toList]).store = after ∧
      after.result = .ok document ∧
      Evaluation.IsOrderedConjunction
        (["$1".toList, "$1".toList].map fun id => (evaluate false id [] after.store).result)
        (evaluate false document.id [] after.store).result := by
  obtain ⟨combined_in_order, stored_in_order⟩ := combination_is_ordered_conjunction
  constructor
  · have combination : Rule.combine
        [⟨"a = x".toList, .leaf "a = x".toList⟩, ⟨"b > 2".toList, .leaf "b > 2".toList⟩] =
          .ok ⟨"a = x AND b > 2".toList,
            .node .and (.leaf "a = x".toList) (.leaf "b > 2".toList)⟩ := by
      rfl
    have ordered := combined_in_order _ _ combination false [("a".toList, .text "y".toList)]
    have first : Evaluation.outcome
        (Tree.execute false (.leaf "a = x".toList) [("a".toList, .text "y".toList)]) =
          .ok false := by
      rfl
    refine ⟨_, combination, ?_⟩
    rw [ordered.outcome_eq [] _ _ rfl (fun _ member => absurd member List.not_mem_nil), first]
    rw [first]
    simp
  · have built : Tree.ofText "b > 2".toList = .ok (.leaf "b > 2".toList) := by
      cbv
    have read : Rule.ofText "b > 2".toList = .ok ⟨"b > 2".toList, .leaf "b > 2".toList⟩ :=
      Rule.ofText_eq_ok_iff.mpr
        ⟨rfl, Tree.ofRule_eq_ok_iff.mpr ⟨built, Tree.isComparable_leaf.mpr ⟨_, rfl⟩⟩⟩
    generalize rule_eq : (⟨"b > 2".toList, .leaf "b > 2".toList⟩ : Rule) = rule at read
    have fits : rule.tree.depth < Tree.maxDepth := by
      rw [← rule_eq]
      decide
    have found : (Catalog.empty.insert rule.text rule.tree.encode).2.rule? "$1".toList =
        some (.ok rule) :=
      Catalog.IsNumbered.empty.rule?_insert (Nat.le_of_lt fits)
    obtain ⟨document, given⟩ : ∃ document, (combine ["$1".toList, "$1".toList]
        (Session.run .counting ⟨.empty, none, []⟩ [.create "b > 2".toList]).store).result =
          .ok document := by
      have ran := Session.store_run_create .counting read
      rw [Store.empty] at ran
      rw [ran, ← Outcome.silent_result, silent_combine_twice rfl found fits]
      exact ⟨_, rfl⟩
    exact ⟨document, _, rfl, given, (stored_in_order _ _ _ _ _ document _ rfl given false []).1⟩

end Service

end Rulebook
