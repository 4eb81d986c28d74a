import Rulebook.Proofs.Encoding
import Rulebook.Proofs.Operations

/-!
# Documents and their ids

The ids of documents are drawn in order and never change, so that a new document has an id of its
own and the others are found as before.  What is combined are the rules that the documents with the
given ids hold, in the order of the ids.
-/

namespace Rulebook

namespace Document

/-- Whether a document holds a rule: its text and the stored form of its tree. -/
def Holds (document : Document) (rule : Rule) : Prop :=
  document.ruleText = rule.text ∧ document.encodedTree = rule.tree.encode

variable {document : Document} {rule : Rule}

theorem Holds.decode (held : document.Holds rule) (fits : rule.tree.depth ≤ Tree.maxDepth) :
    Tree.decode document.encodedTree = .ok rule.tree := by
  rw [held.2, Tree.decode_encode fits]

theorem Holds.ofDocument (held : document.Holds rule) (fits : rule.tree.depth ≤ Tree.maxDepth) :
    Rule.ofDocument document = .ok rule := by
  rw [Rule.ofDocument, held.decode fits]
  dsimp only
  rw [held.1]

theorem depth_le_of_ofDocument (read : Rule.ofDocument document = .ok rule) :
    rule.tree.depth ≤ Tree.maxDepth := by
  unfold Rule.ofDocument at read
  split at read
  · cases read
  · next decoded =>
    cases read
    exact Tree.depth_le_of_decode decoded

end Document

namespace Catalog

/-- The ids of the documents, in the order of their insertion. -/
def ids (catalog : Catalog) : List Text :=
  catalog.documents.map Document.id

theorem idOf_inj {place other : Nat} (same : idOf place = idOf other) : place = other := by
  rw [idOf, idOf, List.cons.injEq] at same
  rw [← Numeral.value_ofNat place, ← Numeral.value_ofNat other, same.2]

theorem length_ids (catalog : Catalog) : catalog.ids.length = catalog.size :=
  List.length_map _

theorem ids_insert (catalog : Catalog) (ruleText encodedTree : Text) :
    (catalog.insert ruleText encodedTree).2.ids =
      catalog.ids ++ [(catalog.insert ruleText encodedTree).1.id] := by
  simp [ids, insert]

theorem ids_updateAt (catalog : Catalog) (now : Nat) (id ruleText encodedTree : Text) :
    (catalog.updateAt now id ruleText encodedTree).2.ids = catalog.ids := by
  unfold updateAt
  split
  · rfl
  · simp only [ids, List.map_map, List.map_inj_left, Function.comp_apply]
    intro document _
    split <;> rfl

theorem ids_update (catalog : Catalog) (id ruleText encodedTree : Text) :
    (catalog.update id ruleText encodedTree).2.ids = catalog.ids :=
  catalog.ids_updateAt (catalog.clock + 1) id ruleText encodedTree

theorem mem_insert {catalog : Catalog} {ruleText encodedTree : Text} {document : Document} :
    document ∈ (catalog.insert ruleText encodedTree).2.documents ↔
      document ∈ catalog.documents ∨ document = (catalog.insert ruleText encodedTree).1 := by
  simp [insert]

theorem find?_eq_some {catalog : Catalog} {id : Text} {document : Document}
    (found : catalog.find? id = some document) :
    document ∈ catalog.documents ∧ document.id = id :=
  ⟨List.mem_of_find?_eq_some found, by simpa using List.find?_some found⟩

theorem find?_eq_none_iff {catalog : Catalog} {id : Text} :
    catalog.find? id = none ↔ id ∉ catalog.ids := by
  simp [find?, ids]

theorem mem_ids_of_find? {catalog : Catalog} {id : Text} {document : Document}
    (found : catalog.find? id = some document) : id ∈ catalog.ids := by
  obtain ⟨member, rfl⟩ := find?_eq_some found
  exact List.mem_map_of_mem member

/-- A document after an update is another one than the one that was updated, or it holds what was
written. -/
theorem mem_update_cases {catalog : Catalog} {id ruleText encodedTree : Text}
    {document : Document}
    (member : document ∈ (catalog.update id ruleText encodedTree).2.documents) :
    (document.id ≠ id ∧ document ∈ catalog.documents) ∨
      (document.id = id ∧ document.ruleText = ruleText ∧ document.encodedTree = encodedTree) := by
  unfold update updateAt at member
  split at member
  · next unfound =>
    refine .inl ⟨?_, member⟩
    rintro rfl
    exact find?_eq_none_iff.mp unfound (List.mem_map_of_mem member)
  · obtain ⟨before, before_member, rfl⟩ := List.mem_map.mp member
    split
    · next same => exact .inr ⟨same, rfl, rfl⟩
    · next other => exact .inl ⟨other, before_member⟩

theorem mem_update {catalog : Catalog} {id ruleText encodedTree : Text} {document : Document}
    (member : document ∈ (catalog.update id ruleText encodedTree).2.documents) :
    document ∈ catalog.documents ∨
      (document.ruleText = ruleText ∧ document.encodedTree = encodedTree) :=
  (mem_update_cases member).imp And.right And.right

theorem find?_insert_of_find? {catalog : Catalog} {id : Text} {document : Document}
    (ruleText encodedTree : Text) (found : catalog.find? id = some document) :
    (catalog.insert ruleText encodedTree).2.find? id = some document := by
  rw [find?] at found
  simp [insert, find?, List.find?_append, found]

/-- The ids are those that were drawn by counting. -/
def IsNumbered (catalog : Catalog) : Prop :=
  catalog.ids = (List.range catalog.size).map fun place => idOf (place + 1)

theorem IsNumbered.empty : empty.IsNumbered := rfl

theorem IsNumbered.insert {catalog : Catalog} (numbered : catalog.IsNumbered)
    (ruleText encodedTree : Text) : (catalog.insert ruleText encodedTree).2.IsNumbered := by
  rw [IsNumbered] at numbered ⊢
  rw [← length_ids, ids_insert, List.length_append, length_ids, List.length_singleton,
    List.range_succ, List.map_append, ← numbered]
  rfl

theorem IsNumbered.update {catalog : Catalog} (numbered : catalog.IsNumbered)
    (id ruleText encodedTree : Text) : (catalog.update id ruleText encodedTree).2.IsNumbered := by
  rw [IsNumbered, ← length_ids, ids_update, length_ids]
  exact numbered

theorem IsNumbered.nodup {catalog : Catalog} (numbered : catalog.IsNumbered) :
    catalog.ids.Nodup := by
  rw [numbered, List.Nodup, List.pairwise_map]
  refine List.pairwise_lt_range.imp fun below same => ?_
  have place_eq := idOf_inj same
  omega

theorem IsNumbered.draft_notMem {catalog : Catalog} (numbered : catalog.IsNumbered)
    (ruleText encodedTree : Text) : (catalog.draft ruleText encodedTree).id ∉ catalog.ids := by
  rw [numbered, List.mem_map]
  rintro ⟨place, below, same⟩
  have place_eq := idOf_inj same
  rw [List.mem_range] at below
  omega

theorem IsNumbered.find?_insert {catalog : Catalog} (numbered : catalog.IsNumbered)
    (ruleText encodedTree : Text) :
    (catalog.insert ruleText encodedTree).2.find? (catalog.insert ruleText encodedTree).1.id =
      some (catalog.insert ruleText encodedTree).1 := by
  have unused := find?_eq_none_iff.mpr (numbered.draft_notMem ruleText encodedTree)
  rw [find?] at unused
  simp only [Catalog.insert, find?, documents_add, List.find?_append, unused, Option.none_or,
    List.find?_singleton, beq_self_eq_true, if_true]

theorem mem_firstMentions {ids : List Text} {id : Text} : id ∈ firstMentions ids ↔ id ∈ ids := by
  suffices mentions : ∀ seen : List Text,
      id ∈ ids.foldl (fun seen id => if id ∈ seen then seen else seen ++ [id]) seen ↔
        id ∈ seen ∨ id ∈ ids by
    rw [firstMentions, mentions, List.mem_nil_iff, false_or]
  induction ids with
  | nil => simp
  | cons first ids induction =>
      intro seen
      rw [List.foldl_cons, induction]
      split
      · next known =>
        rw [List.mem_cons]
        constructor
        · rintro (old | later)
          · exact .inl old
          · exact .inr (.inr later)
        · rintro (old | rfl | later)
          · exact .inl old
          · exact .inl known
          · exact .inr later
      · rw [List.mem_append, List.mem_singleton, List.mem_cons, or_assoc]

theorem nodup_firstMentions (ids : List Text) : (firstMentions ids).Nodup := by
  suffices distinct : ∀ seen : List Text, seen.Nodup →
      (ids.foldl (fun seen id => if id ∈ seen then seen else seen ++ [id]) seen).Nodup from
    distinct [] List.nodup_nil
  induction ids with
  | nil => exact fun _ distinct => distinct
  | cons first ids induction =>
      intro seen distinct
      rw [List.foldl_cons]
      apply induction
      split
      · exact distinct
      · next unseen =>
        rw [List.nodup_append]
        refine ⟨distinct, List.pairwise_singleton _ first, ?_⟩
        rintro id member _ new rfl
        rw [List.mem_singleton.mp new] at member
        exact unseen member

/-- Among documents each of which is found in a catalogue of its own, each is found as there. -/
theorem find?_filterMap_find? (seen : Text → Catalog) {mentioned : List Text} {id : Text}
    (asked : id ∈ mentioned) :
    (mentioned.filterMap fun id => (seen id).find? id).find? (·.id == id) = (seen id).find? id := by
  induction mentioned with
  | nil => cases asked
  | cons first mentioned induction =>
      by_cases same : first = id
      · subst same
        cases found : (seen first).find? first with
        | some document => simp [found, (find?_eq_some found).2]
        | none =>
            simp only [List.filterMap_cons, found, List.find?_eq_none]
            intro document member
            obtain ⟨other, _, other_found⟩ := List.mem_filterMap.mp member
            rw [beq_iff_eq, (find?_eq_some other_found).2]
            rintro rfl
            rw [found] at other_found
            cases other_found
      · have later := induction ((List.mem_cons.mp asked).resolve_left (Ne.symm same))
        cases found : (seen first).find? first with
        | none => simp only [List.filterMap_cons, found, later]
        | some document =>
            simp only [List.filterMap_cons, found]
            rw [List.find?_cons_of_neg, later]
            rw [(find?_eq_some found).2, beq_iff_eq]
            exact same

/-- Among the documents that are found together, each is found as in the catalogue. -/
theorem find?_findMany {catalog : Catalog} {ids : List Text} {id : Text} (asked : id ∈ ids) :
    (catalog.findMany ids).find? (·.id == id) = catalog.find? id :=
  find?_filterMap_find? (fun _ => catalog) (mem_firstMentions.mpr asked)

/-- What the document with an id holds. -/
def rule? (catalog : Catalog) (id : Text) : Option (Except RuleError Rule) :=
  (catalog.find? id).map Rule.ofDocument

theorem rule?_eq_none_iff {catalog : Catalog} {id : Text} :
    catalog.rule? id = none ↔ id ∉ catalog.ids := by
  rw [rule?, Option.map_eq_none_iff, find?_eq_none_iff]

theorem mem_ids_of_rule? {catalog : Catalog} {id : Text} {holding : Except RuleError Rule}
    (found : catalog.rule? id = some holding) : id ∈ catalog.ids := by
  obtain ⟨document, document_found, rfl⟩ := Option.map_eq_some_iff.mp found
  exact mem_ids_of_find? document_found

theorem rule?_insert_of_rule? {catalog : Catalog} {id : Text} {holding : Except RuleError Rule}
    (ruleText encodedTree : Text) (found : catalog.rule? id = some holding) :
    (catalog.insert ruleText encodedTree).2.rule? id = some holding := by
  obtain ⟨document, document_found, rfl⟩ := Option.map_eq_some_iff.mp found
  rw [rule?, find?_insert_of_find? ruleText encodedTree document_found]
  rfl

theorem IsNumbered.rule?_insert {catalog : Catalog} (numbered : catalog.IsNumbered) {rule : Rule}
    (fits : rule.tree.depth ≤ Tree.maxDepth) :
    (catalog.insert rule.text rule.tree.encode).2.rule?
        (catalog.insert rule.text rule.tree.encode).1.id = some (.ok rule) := by
  rw [rule?, numbered.find?_insert, Option.map_some, Document.Holds.ofDocument ⟨rfl, rfl⟩ fits]

theorem depth_le_of_rule? {catalog : Catalog} {id : Text} {rule : Rule}
    (found : catalog.rule? id = some (.ok rule)) : rule.tree.depth ≤ Tree.maxDepth := by
  obtain ⟨document, _, read⟩ := Option.map_eq_some_iff.mp found
  exact Document.depth_le_of_ofDocument read

theorem exists_rule?_of_mem {catalog : Catalog} {ids : List Text} {rules : List Rule} {rule : Rule}
    (held : ids.map catalog.rule? = rules.map fun rule => some (.ok rule))
    (member : rule ∈ rules) : ∃ id, catalog.rule? id = some (.ok rule) := by
  have holding : some (.ok rule) ∈ ids.map catalog.rule? := by
    rw [held]
    exact List.mem_map_of_mem member
  obtain ⟨id, _, found⟩ := List.mem_map.mp holding
  exact ⟨id, found⟩

end Catalog

namespace Rule

theorem sources_cons (documents : List Document) (id : Text) (ids : List Text) :
    sources (holdings documents) (id :: ids) =
      match (documents.find? (·.id == id)).map ofDocument with
      | none => .error (.notFound [id])
      | some (.error error) => .error error
      | some (.ok rule) => (sources (holdings documents) ids).map (rule :: ·) := by
  have held : (holdings documents).find? (·.1 == id) =
      (documents.find? (·.id == id)).map fun document => (document.id, ofDocument document) := by
    rw [holdings, List.find?_map]
    rfl
  rw [sources, held]
  cases documents.find? (·.id == id) with
  | none => rfl
  | some document =>
      dsimp only [Option.map_some]
      cases ofDocument document <;> rfl

theorem sources_eq_ok_iff {documents : List Document} {ids : List Text} {rules : List Rule} :
    sources (holdings documents) ids = .ok rules ↔
      ids.map (fun id => (documents.find? (·.id == id)).map ofDocument) =
        rules.map fun rule => some (.ok rule) := by
  induction ids generalizing rules with
  | nil => cases rules <;> simp [sources]
  | cons id ids induction =>
      rw [sources_cons, List.map_cons]
      generalize (documents.find? (·.id == id)).map ofDocument = holding
      rcases holding with _ | error | rule
      · cases rules <;> simp
      · cases rules <;> simp
      · dsimp only
        cases rules with
        | nil => cases sources (holdings documents) ids <;> simp [Except.map]
        | cons first rest =>
            rw [List.map_cons, List.cons.injEq, ← induction]
            cases sources (holdings documents) ids <;> simp [Except.map]

/-- What is combined are the rules with the given ids, in their order, each as it is held by the
catalogue in which its document was found. -/
theorem combineDocuments_filterMap_eq_ok_iff (seen : Text → Catalog) {ids : List Text}
    {combined : Rule} :
    combineDocuments ids
        ((Catalog.firstMentions ids).filterMap fun id => (seen id).find? id) = .ok combined ↔
      ∃ rules, ids.map (fun id => (seen id).rule? id) = (rules.map fun rule => some (.ok rule)) ∧
        combine rules = .ok combined := by
  generalize documents_eq : ((Catalog.firstMentions ids).filterMap fun id => (seen id).find? id) =
    documents
  have found : ids.map (fun id => (documents.find? (·.id == id)).map ofDocument) =
      ids.map fun id => (seen id).rule? id := by
    rw [List.map_inj_left]
    intro id asked
    rw [Catalog.rule?, ← documents_eq,
      Catalog.find?_filterMap_find? seen (Catalog.mem_firstMentions.mpr asked)]
  simp only [← found, ← sources_eq_ok_iff]
  rw [combineDocuments]
  cases sources (holdings documents) ids <;> simp

/-- What is combined are the rules with the given ids, in their order. -/
theorem combineDocuments_eq_ok_iff {catalog : Catalog} {ids : List Text} {combined : Rule} :
    combineDocuments ids (catalog.findMany ids) = .ok combined ↔
      ∃ rules, ids.map catalog.rule? = (rules.map fun rule => some (.ok rule)) ∧
        combine rules = .ok combined :=
  combineDocuments_filterMap_eq_ok_iff fun _ => catalog

theorem combineDocuments_eq_combine {catalog : Catalog} {ids : List Text} {rules : List Rule}
    (held : ids.map catalog.rule? = rules.map fun rule => some (.ok rule)) :
    combineDocuments ids (catalog.findMany ids) = combine rules := by
  have found : ids.map (fun id => ((catalog.findMany ids).find? (·.id == id)).map ofDocument) =
      rules.map fun rule => some (.ok rule) := by
    rw [← held, List.map_inj_left]
    intro id asked
    rw [Catalog.find?_findMany asked, Catalog.rule?]
  rw [combineDocuments, sources_eq_ok_iff.mpr found]

theorem missingIds_eq_nil {catalog : Catalog} {ids : List Text}
    (known : ∀ id ∈ ids, id ∈ catalog.ids) : missingIds ids (catalog.findMany ids) = [] := by
  have none_missing : (ids.filter fun id =>
      (catalog.findMany ids).all (·.id ≠ id)) = [] := by
    rw [List.filter_eq_nil_iff]
    intro id asked absent
    have unfound : catalog.find? id = none := by
      rw [← Catalog.find?_findMany asked, List.find?_eq_none]
      simpa using absent
    exact Catalog.find?_eq_none_iff.mp unfound (known id asked)
  rw [missingIds, none_missing]
  rfl

end Rule

namespace Service

/-- Unless an outage befalls it, a combination of known rules stores what their documents make. -/
theorem silent_combine_of_known {ids : List Text} {store : Store} (some_id : ids ≠ [])
    (answers : store.nextOutage = none) (known : ∀ id ∈ ids, id ∈ store.catalog.ids) :
    (combine ids store).silent =
      match Rule.combineDocuments ids (store.catalog.findMany ids) with
      | .error error => ⟨.error error, store.advance, [], []⟩
      | .ok combined => stored .rulesCombined combined store.advance := by
  have not_empty : ¬ids.isEmpty = true := fun empty => some_id (List.isEmpty_iff.mp empty)
  rw [silent_combine, if_neg not_empty, answers]
  dsimp only
  rw [Rule.missingIds_eq_nil known]
  exact if_pos List.isEmpty_nil

/-- Unless an outage befalls it, a combination stores what the rules with the given ids make. -/
theorem silent_combine_of_rule? {ids : List Text} {rules : List Rule} {store : Store}
    (some_id : ids ≠ []) (answers : store.nextOutage = none)
    (held : ids.map store.catalog.rule? = rules.map fun rule => some (.ok rule)) :
    (combine ids store).silent =
      match Rule.combine rules with
      | .error error => ⟨.error error, store.advance, [], []⟩
      | .ok combined => stored .rulesCombined combined store.advance := by
  have known : ∀ id ∈ ids, id ∈ store.catalog.ids := by
    intro id asked
    have found : store.catalog.rule? id ∈ ids.map store.catalog.rule? := List.mem_map_of_mem asked
    rw [held, List.mem_map] at found
    obtain ⟨rule, _, rule_found⟩ := found
    exact Catalog.mem_ids_of_rule? rule_found.symm
  rw [silent_combine_of_known some_id answers known, Rule.combineDocuments_eq_combine held]

theorem store_evaluate (traced : Bool) (id : Text) (record : Record) (store : Store) :
    (evaluate traced id record store).store = store.advance := by
  rw [← Outcome.silent_store, silent_evaluate, silent_get]
  cases store.nextOutage with
  | some cause => rfl
  | none =>
      cases store.catalog.find? id with
      | none => rfl
      | some document =>
          dsimp only
          rw [Outcome.followedBy_ok]
          cases Rule.ofDocument document <;> rfl

/-- Unless an outage befalls it, an evaluation runs the rule that the document with the id holds. -/
theorem result_evaluate {store : Store} (answers : store.nextOutage = none) (traced : Bool)
    (id : Text) (record : Record) :
    (evaluate traced id record store).result =
      match store.catalog.rule? id with
      | none => .error (.notFound [id])
      | some (.error error) => .error error
      | some (.ok rule) => rule.tree.execute traced record := by
  rw [← Outcome.silent_result, silent_evaluate, silent_get, answers, Catalog.rule?]
  cases store.catalog.find? id with
  | none => rfl
  | some document =>
      dsimp only [Option.map_some]
      rw [Outcome.followedBy_ok]
      cases Rule.ofDocument document <;> rfl

theorem result_evaluate_of_outage {store : Store} {cause : Outage}
    (fails : store.nextOutage = some cause) (traced : Bool) (id : Text) (record : Record) :
    (evaluate traced id record store).result = .error (.outage cause) := by
  rw [← Outcome.silent_result, silent_evaluate, silent_get, fails]
  rfl

end Service

namespace Session

theorem store_run_create (surroundings : Http.Surroundings) {text : Text} {rule : Rule}
    (read : Rule.ofText text = .ok rule) :
    (run surroundings .empty [.create text]).store =
      ⟨(Catalog.empty.insert rule.text rule.tree.encode).2, none, []⟩ := by
  dsimp only [run, Step.perform]
  rw [Operation.store_map, ← Outcome.silent_store, Service.silent_create, read]
  rfl

end Session

end Rulebook
