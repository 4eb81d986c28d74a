import Rulebook.Proofs.LastWrites

/-!
# Combining the rules that are listed

What is combined is settled by the list of ids and the documents that have them: first whether the
list is empty, then which ids no document has, then which document holds no tree, and at last the
rules in the order of the ids.  The order in which the store gives the documents does not count.
-/

namespace Rulebook

namespace Catalog

variable {catalog : Catalog} {id : Text}

/-- Whether the document with an id holds a rule: its text and a tree that can be loaded. -/
def Loads (catalog : Catalog) (id : Text) (rule : Rule) : Prop :=
  ∃ document, catalog.find? id = some document ∧ document.ruleText = rule.text ∧
    Tree.decode document.encodedTree = .ok rule.tree

/-- Whether there is a document with an id whose tree cannot be loaded, and why. -/
def FailsToLoad (catalog : Catalog) (id : Text) (fault : EncodingFault) : Prop :=
  ∃ document, catalog.find? id = some document ∧
    Tree.decode document.encodedTree = .error fault

theorem loads_iff {rule : Rule} : catalog.Loads id rule ↔ catalog.rule? id = some (.ok rule) := by
  rw [Loads, rule?, Option.map_eq_some_iff]
  refine exists_congr fun document => and_congr_right fun _ => ?_
  obtain ⟨text, tree⟩ := rule
  rw [Rule.ofDocument]
  cases Tree.decode document.encodedTree <;> simp

theorem map_rule?_of_loads {ids : List Text} {rules : List Rule}
    (loaded : List.Forall₂ catalog.Loads ids rules) :
    ids.map catalog.rule? = rules.map fun rule => some (.ok rule) := by
  induction loaded with
  | nil => rfl
  | cons first _ induction => rw [List.map_cons, List.map_cons, loads_iff.mp first, induction]

theorem FailsToLoad.rule?_eq {fault : EncodingFault} (fails : catalog.FailsToLoad id fault) :
    catalog.rule? id = some (.error (.malformedTree fault)) := by
  obtain ⟨document, found, refused⟩ := fails
  rw [rule?, found, Option.map_some, Rule.ofDocument, refused]

theorem firstMentions_filter (isOfKind : Text → Bool) (ids : List Text) :
    firstMentions (ids.filter isOfKind) = (firstMentions ids).filter isOfKind := by
  induction ids using List.reverseRecOn with
  | nil => rfl
  | append_singleton ids id induction =>
      rw [List.filter_append, firstMentions_concat]
      cases kind : isOfKind id with
      | false =>
          rw [List.filter_singleton, kind]
          split <;> simp [induction, kind]
      | true =>
          rw [List.filter_singleton, kind, cond_true, firstMentions_concat, induction]
          simp only [List.mem_filter, kind, and_true]
          split <;> simp [kind]

theorem find?_eq_some_iff {documents : List Document}
    (distinct : (documents.map Document.id).Nodup) {document : Document} :
    documents.find? (·.id == id) = some document ↔ document ∈ documents ∧ document.id = id := by
  constructor
  · intro found
    exact find?_eq_some (show find? ⟨documents, 0⟩ id = some document from found)
  · rintro ⟨member, rfl⟩
    exact (mem_documents_iff (show (ids ⟨documents, 0⟩).Nodup from distinct)).mp member

theorem find?_perm {documents others : List Document} (perm : others.Perm documents)
    (distinct : (documents.map Document.id).Nodup) (id : Text) :
    others.find? (·.id == id) = documents.find? (·.id == id) := by
  have distinct_others : (others.map Document.id).Nodup :=
    (perm.map Document.id).nodup_iff.mpr distinct
  refine Option.ext fun document => ?_
  rw [find?_eq_some_iff distinct_others, find?_eq_some_iff distinct, perm.mem_iff]

theorem nodup_findMany (catalog : Catalog) (ids : List Text) :
    ((catalog.findMany ids).map Document.id).Nodup := by
  rw [List.Nodup, List.pairwise_map]
  refine (catalog.pairwise_findMany ids).imp fun before same => ?_
  rw [same] at before
  exact Nat.lt_irrefl _ before

end Catalog

namespace Rule

variable {catalog : Catalog} {ids : List Text}

theorem isMissing_iff {id : Text} (asked : id ∈ ids) :
    ((catalog.findMany ids).all fun document => document.id ≠ id) = true ↔ id ∉ catalog.ids := by
  rw [← Catalog.find?_eq_none_iff, ← Catalog.find?_findMany asked, List.find?_eq_none,
    List.all_eq_true]
  simp

theorem mem_missingIds {id : Text} :
    id ∈ missingIds ids (catalog.findMany ids) ↔ id ∈ ids ∧ id ∉ catalog.ids := by
  rw [missingIds, Catalog.mem_firstMentions, List.mem_filter]
  exact and_congr_right isMissing_iff

/-- The missing ids are given in the order of their first mention, each once. -/
theorem pairwise_missingIds (ids : List Text) (documents : List Document) :
    (missingIds ids documents).Pairwise fun first second =>
      ids.idxOf first < ids.idxOf second := by
  rw [missingIds, Catalog.firstMentions_filter]
  exact (Catalog.pairwise_firstMentions ids).filter _

theorem missingIds_perm {documents others : List Document} (perm : others.Perm documents)
    (ids : List Text) : missingIds ids others = missingIds ids documents := by
  rw [missingIds, missingIds]
  refine congrArg Catalog.firstMentions (List.filter_congr fun id _ => ?_)
  exact perm.all_eq

/-- The documents that are found under some ids are combined alike in any order. -/
theorem combineDocuments_perm {documents others : List Document} (perm : others.Perm documents)
    (distinct : (documents.map Document.id).Nodup) (ids : List Text) :
    combineDocuments ids others = combineDocuments ids documents := by
  have same_sources : sources (holdings others) ids = sources (holdings documents) ids := by
    induction ids with
    | nil => rfl
    | cons id ids induction =>
        rw [sources_cons, sources_cons, Catalog.find?_perm perm distinct, induction]
  rw [combineDocuments, combineDocuments, same_sources]

theorem sources_eq_error {asked before after : List Text} {id : Text} {error : RuleError}
    (among : before ++ id :: after ⊆ asked)
    (loaded : ∀ earlier ∈ before, ∃ rule, catalog.rule? earlier = some (.ok rule))
    (refused : catalog.rule? id = some (.error error)) :
    sources (holdings (catalog.findMany asked)) (before ++ id :: after) = .error error := by
  induction before with
  | nil =>
      rw [List.nil_append] at among ⊢
      rw [sources_cons, Catalog.find?_findMany (among List.mem_cons_self), ← Catalog.rule?, refused]
  | cons first before induction =>
      rw [List.forall_mem_cons] at loaded
      obtain ⟨⟨rule, first_loaded⟩, rest_loaded⟩ := loaded
      rw [List.cons_append, List.cons_subset] at among
      rw [List.cons_append, sources_cons, Catalog.find?_findMany among.1, ← Catalog.rule?,
        first_loaded, induction among.2 rest_loaded]
      rfl

theorem combineDocuments_eq_error {before after : List Text} {id : Text} {error : RuleError}
    (listed : ids = before ++ id :: after)
    (loaded : ∀ earlier ∈ before, ∃ rule, catalog.rule? earlier = some (.ok rule))
    (refused : catalog.rule? id = some (.error error)) :
    combineDocuments ids (catalog.findMany ids) = .error error := by
  subst listed
  rw [combineDocuments, sources_eq_error (List.Subset.refl _) loaded refused]

end Rule

namespace Service

/-- Combine the rules with some ids, for which the store gave these documents. -/
def combineFound (ids : List Text) (documents : List Document) : Operation Document :=
  let missing := Rule.missingIds ids documents
  if missing.isEmpty then do
    let rule ← Operation.ofExcept (Rule.combineDocuments ids documents)
    let document ← store rule
    .record .rulesCombined
    report .info "Rules combined"
      [("rule_id", .plain document.id), ("sources", .natural ids.length)]
    return document
  else do
    report .warn "Combine referenced unknown rules" [("missing", .texts missing)]
    .fail (.notFound missing)

/-- Combine the rules with some ids, if the store finds documents in a way of its own. -/
def combineBy (findMany : List Text → Operation (List Document)) (ids : List Text) :
    Operation Document :=
  .within (span "combine_rules" [("ids", .texts ids)]) do
    if ids.isEmpty then .fail .emptyCombination
    else
      let documents ← findMany ids
      combineFound ids documents

theorem combine_eq_combineBy (ids : List Text) : combine ids = combineBy Operation.findMany ids :=
  rfl

theorem combineFound_perm {documents others : List Document} (perm : others.Perm documents)
    (distinct : (documents.map Document.id).Nodup) (ids : List Text) :
    combineFound ids others = combineFound ids documents := by
  rw [combineFound, combineFound, Rule.missingIds_perm perm,
    Rule.combineDocuments_perm perm distinct]

theorem combineBy_reordered {reorder : List Document → List Document}
    (perm : ∀ documents, (reorder documents).Perm documents) (ids : List Text) (store : Store) :
    combineBy (fun ids => do return reorder (← Operation.findMany ids)) ids store =
      combine ids store := by
  have continued : combineFound ids (reorder (store.catalog.findMany ids)) =
      combineFound ids (store.catalog.findMany ids) :=
    combineFound_perm (perm _) (store.catalog.nodup_findMany ids) ids
  have found : ((do return reorder (← Operation.findMany ids)) >>= combineFound ids) store =
      (Operation.findMany ids >>= combineFound ids) store := by
    change ((Operation.findMany ids).andThen fun documents => .give (reorder documents)).andThen
      (combineFound ids) store = (Operation.findMany ids).andThen (combineFound ids) store
    unfold Operation.andThen Operation.findMany Operation.onCatalog
    cases answers : store.nextOutage with
    | some cause => simp [Operation.fail]
    | none => simp [Operation.give, continued]
  rw [combine_eq_combineBy, combineBy, combineBy]
  split
  · rfl
  · unfold Operation.within Operation.withinNoting
    rw [found]

theorem result_combine_nil (store : Store) :
    (combine [] store).result = .error .emptyCombination := by
  rw [← Outcome.silent_result, silent_combine, if_pos List.isEmpty_nil]

theorem result_combine_of_missing {ids : List Text} {store : Store}
    (finds : store.nextOutage = none)
    (missing : Rule.missingIds ids (store.catalog.findMany ids) ≠ []) :
    (combine ids store).result =
      .error (.notFound (Rule.missingIds ids (store.catalog.findMany ids))) := by
  have some_id : ¬ids.isEmpty = true := by
    intro empty
    rw [List.isEmpty_iff.mp empty] at missing
    exact missing rfl
  have some_missing : ¬(Rule.missingIds ids (store.catalog.findMany ids)).isEmpty = true :=
    fun empty => missing (List.isEmpty_iff.mp empty)
  rw [← Outcome.silent_result, silent_combine, if_neg some_id, finds]
  dsimp only
  rw [if_neg some_missing]

/-- Combination follows the listed ids.  In every state of a store that answers, an empty list is
refused; otherwise unknown ids are reported, each once and in the order of their first mention;
otherwise the first document whose tree cannot be loaded is; and otherwise the rules are combined in
the order of the ids and as often as these are listed, and the combination is stored: its text, and
its tree in stored form.  All of this is the same in whatever order the store gives the documents.
-/
theorem combination_follows_listed_ids (ids : List Text) (store : Store) (catalog : Catalog)
    (current : store.catalog = catalog) (finds : store.nextOutage = none)
    (inserts : store.advance.nextOutage = none) :
    (ids = [] → (combine ids store).result = .error .emptyCombination) ∧
      ((∃ id ∈ ids, id ∉ catalog.ids) →
        ∃ missing, (combine ids store).result = .error (.notFound missing) ∧
          (RuleError.notFound missing).message =
            "规则未找到: ".toList ++ Text.join ", ".toList missing ∧
          (∀ id, id ∈ missing ↔ id ∈ ids ∧ id ∉ catalog.ids) ∧ missing.Nodup ∧
          missing.Pairwise fun first second => ids.idxOf first < ids.idxOf second) ∧
      (∀ before id after fault, ids = before ++ id :: after → (∀ id ∈ ids, id ∈ catalog.ids) →
        (∀ earlier ∈ before, ∃ rule, catalog.Loads earlier rule) →
        catalog.FailsToLoad id fault →
        (combine ids store).result = .error (.malformedTree fault)) ∧
      (∀ rules, List.Forall₂ catalog.Loads ids rules →
        match Rule.combine rules with
        | .error error => (combine ids store).result = .error error
        | .ok combined =>
            ∃ document, (combine ids store).result = .ok document ∧
              document.ruleText = combined.text ∧
              document.encodedTree = combined.tree.encode ∧
              (combine ids store).store.catalog.documents = catalog.documents ++ [document]) ∧
      ∀ reorder : List Document → List Document, (∀ documents, (reorder documents).Perm documents) →
        combineBy (fun ids => do return reorder (← Operation.findMany ids)) ids store =
          combine ids store := by
  subst current
  refine ⟨?_, ?_, ?_, ?_, fun reorder perm => combineBy_reordered perm ids store⟩
  · rintro rfl
    exact result_combine_nil store
  · rintro ⟨id, asked, unknown⟩
    have missing_mem := Rule.mem_missingIds.mpr ⟨asked, unknown⟩
    exact ⟨_, result_combine_of_missing finds (List.ne_nil_of_mem missing_mem), rfl,
      fun _ => Rule.mem_missingIds, Catalog.nodup_firstMentions _, Rule.pairwise_missingIds ids _⟩
  · intro before id after fault listed known loaded fails
    have some_id : ids ≠ [] := by
      rw [listed]
      exact List.append_ne_nil_of_right_ne_nil _ (List.cons_ne_nil _ _)
    have refused := Rule.combineDocuments_eq_error listed
      (fun earlier member => (loaded earlier member).imp fun _ => Catalog.loads_iff.mp)
      fails.rule?_eq
    rw [← Outcome.silent_result, silent_combine_of_known some_id finds known, refused]
  · intro rules loaded
    have held := Catalog.map_rule?_of_loads loaded
    by_cases some_id : ids = []
    · subst some_id
      cases loaded
      exact result_combine_nil store
    · have silent := silent_combine_of_rule? some_id finds held
      cases combination : Rule.combine rules with
      | error error =>
          rw [combination] at silent
          rw [← Outcome.silent_result, silent]
      | ok combined =>
          rw [combination] at silent
          dsimp only at silent
          refine ⟨(store.catalog.insert combined.text combined.tree.encode).1, ?_, rfl, rfl, ?_⟩
          · rw [← Outcome.silent_result, silent, stored, inserts]
            rfl
          · rw [← Outcome.silent_store, silent, stored, inserts]
            rfl

theorem combination_follows_listed_ids_past_corrupt_document :
    ∃ store : Store,
      store.catalog = ⟨[⟨"$1".toList, "a > 1".toList, (Tree.leaf "a > 1".toList).encode, 1, 1⟩,
        ⟨"$2".toList, "b > 2".toList, "b".toList, 2, 2⟩], 2⟩ ∧
      (∃ missing, (combine ["$9".toList, "$1".toList, "$9".toList] store).result =
        .error (.notFound missing) ∧ "$9".toList ∈ missing ∧ "$1".toList ∉ missing) ∧
      (combine ["$1".toList, "$2".toList] store).result = .error (.malformedTree .notJson) ∧
      (∃ document, (combine ["$1".toList, "$1".toList] store).result = .ok document ∧
        document.ruleText = "a > 1 AND a > 1".toList) ∧
      combineBy (fun ids => do return (← Operation.findMany ids).reverse)
          ["$1".toList, "$2".toList] store =
        combine ["$1".toList, "$2".toList] store := by
  generalize catalog_eq : (⟨[⟨"$1".toList, "a > 1".toList, (Tree.leaf "a > 1".toList).encode, 1, 1⟩,
    ⟨"$2".toList, "b > 2".toList, "b".toList, 2, 2⟩], 2⟩ : Catalog) = catalog
  have first : catalog.Loads "$1".toList ⟨"a > 1".toList, .leaf "a > 1".toList⟩ := by
    rw [← catalog_eq]
    exact ⟨_, rfl, rfl, Tree.decode_encode (by decide)⟩
  have second : catalog.FailsToLoad "$2".toList .notJson := by
    have broken : Tree.decode "b".toList = .error .notJson := by
      cbv
    rw [← catalog_eq]
    exact ⟨_, rfl, broken⟩
  have ids_eq : catalog.ids = ["$1".toList, "$2".toList] := by
    rw [← catalog_eq]
    rfl
  have listed (ids : List Text) := combination_follows_listed_ids ids ⟨catalog, none, []⟩ catalog
    rfl rfl rfl
  refine ⟨⟨catalog, none, []⟩, rfl, ?_, ?_, ?_, ?_⟩
  · obtain ⟨missing, result_eq, _, mem_iff, _⟩ :=
      (listed ["$9".toList, "$1".toList, "$9".toList]).2.1
        ⟨"$9".toList, by decide, by rw [ids_eq]; decide⟩
    refine ⟨missing, result_eq, ?_, ?_⟩
    · rw [mem_iff, ids_eq]
      decide
    · rw [mem_iff, ids_eq]
      decide
  · refine (listed ["$1".toList, "$2".toList]).2.2.1 ["$1".toList] _ [] _ rfl ?_ ?_ second
    · rw [ids_eq]
      exact fun _ member => member
    · simpa using ⟨_, first⟩
  · obtain ⟨document, result_eq, text_eq, _⟩ :=
      (listed ["$1".toList, "$1".toList]).2.2.2.1 _ (.cons first (.cons first .nil))
    exact ⟨document, result_eq, text_eq⟩
  · exact (listed ["$1".toList, "$2".toList]).2.2.2.2 _ fun documents =>
      List.reverse_perm documents

end Service

end Rulebook
