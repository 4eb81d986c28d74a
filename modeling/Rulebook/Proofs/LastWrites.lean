import Mathlib.Data.List.Forall2
import Mathlib.Data.List.Induction
import Mathlib.Data.List.Nodup
import Rulebook.Proofs.CombinedRules

/-!
# The catalogue as a map of last writes

A history is any list of insertions, updates and lookups, with the ids that were drawn for the
insertions and the times of all writes.  Under an id the catalogue holds what was written last: the
text and the tree of the latest update of the inserted document or, without one, those of its
insertion, which fixes the id and the time of creation.  An operation changes nothing under the ids
that it is not about, so that operations about different ids commute.
-/

namespace Rulebook

/-- What is written to a document at some time. -/
structure Writing where
  ruleText : Text
  encodedTree : Text
  now : Nat

namespace Writing

/-- The document that an insertion under an id makes. -/
def document (writing : Writing) (id : Text) : Document :=
  ⟨id, writing.ruleText, writing.encodedTree, writing.now, writing.now⟩

end Writing

namespace Document

def revise (document : Document) (writing : Writing) : Document :=
  { document with
    ruleText := writing.ruleText
    encodedTree := writing.encodedTree
    updatedAt := writing.now }

end Document

/-- An operation on the catalogue. The id of a new document and the times of writes are drawn before
it. -/
inductive Access where
  | insert (id : Text) (writing : Writing)
  | update (id : Text) (writing : Writing)
  | find (id : Text)
  | findMany (ids : List Text)

namespace Access

/-- Do an operation on a catalogue. -/
def perform : Access → Catalog → Answer × Catalog
  | .insert id writing, catalog =>
      (.inserted (writing.document id), catalog.add (writing.document id))
  | .update id writing, catalog =>
      let (count, after) :=
        catalog.updateAt writing.now id writing.ruleText writing.encodedTree
      (.count count, after)
  | .find id, catalog => (.found (catalog.find? id), catalog)
  | .findMany ids, catalog => (.documents (catalog.findMany ids), catalog)

/-- The ids that an operation is about. -/
def ids : Access → List Text
  | .insert id _ | .update id _ | .find id => [id]
  | .findMany ids => ids

/-- What an operation writes if it inserts a document under an id. -/
def insertion? (id : Text) : Access → Option Writing
  | .insert other writing => if other = id then some writing else none
  | _ => none

/-- What an operation writes if it updates the document with an id. -/
def update? (id : Text) : Access → Option Writing
  | .update other writing => if other = id then some writing else none
  | _ => none

/-- The id that an operation drew for a new document. -/
def drawn? : Access → Option Text
  | .insert id _ => some id
  | _ => none

/-- The ids that were drawn in a history. -/
def drawnIds (history : List Access) : List Text :=
  history.filterMap drawn?

/-- The document that was written last under an id: inserted, and then updated any number of times,
of which the last one counts. -/
def lastWritten? (id : Text) : List Access → Option Document
  | [] => none
  | access :: later =>
      match access.insertion? id with
      | none => lastWritten? id later
      | some first =>
          let last := (later.filterMap (update? id)).getLastD first
          some ⟨id, last.ruleText, last.encodedTree, first.now, last.now⟩

/-- What an operation makes of what is under an id. -/
def apply (id : Text) (access : Access) : Option Document → Option Document
  | none => (access.insertion? id).map fun first => first.document id
  | some document =>
      match access.update? id with
      | none => some document
      | some writing => some (document.revise writing)

variable {id : Text}

theorem lastWritten?_concat (history : List Access) (access : Access) :
    lastWritten? id (history ++ [access]) = access.apply id (lastWritten? id history) := by
  induction history with
  | nil =>
      rw [List.nil_append, lastWritten?, lastWritten?, apply, lastWritten?]
      cases access.insertion? id <;> rfl
  | cons before history induction =>
      rw [List.cons_append, lastWritten?, lastWritten?]
      cases before.insertion? id with
      | none => exact induction
      | some first =>
          dsimp only
          rw [List.filterMap_append, apply]
          cases updated : access.update? id with
          | none => simp [updated]
          | some writing => simp [updated, Document.revise]

theorem apply_eq_self {access : Access} (other : id ∉ access.ids) (document : Option Document) :
    access.apply id document = document := by
  have unwritten : access.insertion? id = none ∧ access.update? id = none := by
    cases access with
    | insert written writing =>
        have ne : written ≠ id := fun same => other (List.mem_singleton.mpr same.symm)
        exact ⟨if_neg ne, rfl⟩
    | update written writing =>
        have ne : written ≠ id := fun same => other (List.mem_singleton.mpr same.symm)
        exact ⟨rfl, if_neg ne⟩
    | find asked => exact ⟨rfl, rfl⟩
    | findMany asked => exact ⟨rfl, rfl⟩
  unfold apply
  rw [unwritten.1, unwritten.2]
  cases document <;> rfl

end Access

namespace Catalog

open Access

/-- The catalogue after some operations. -/
def after (catalog : Catalog) (history : List Access) : Catalog :=
  history.foldl (fun catalog access => (access.perform catalog).2) catalog

variable {catalog : Catalog}

theorem find?_add (document : Document) (id : Text) :
    (catalog.add document).find? id =
      (catalog.find? id).or (if document.id = id then some document else none) := by
  rw [find?, documents_add, List.find?_append, List.find?_singleton, find?]
  simp only [beq_iff_eq]

theorem find?_updateAt (now : Nat) (updated ruleText encodedTree id : Text) :
    (catalog.updateAt now updated ruleText encodedTree).2.find? id =
      (catalog.find? id).map fun document =>
        if updated = id then document.revise ⟨ruleText, encodedTree, now⟩ else document := by
  unfold updateAt
  cases hit : catalog.find? updated with
  | none =>
      cases found : catalog.find? id with
      | none => rfl
      | some document =>
          have other : updated ≠ id := by
            rintro rfl
            rw [hit] at found
            cases found
          rw [Option.map_some, if_neg other]
  | some document =>
      have same_id : ((fun document : Document => document.id == id) ∘ fun document =>
          if document.id = updated then document.revise ⟨ruleText, encodedTree, now⟩
          else document) = fun document => document.id == id := by
        funext document
        rw [Function.comp_apply]
        split <;> rfl
      change (catalog.documents.map fun document =>
        if document.id = updated then document.revise ⟨ruleText, encodedTree, now⟩
        else document).find? (·.id == id) = _
      rw [List.find?_map, same_id, ← find?]
      apply Option.map_congr
      intro document found
      rw [(find?_eq_some found).2]
      simp only [eq_comm]

/-- Under each id an operation has the effect that it is meant to have. -/
theorem find?_perform (access : Access) (id : Text) :
    (access.perform catalog).2.find? id = access.apply id (catalog.find? id) := by
  cases access with
  | insert drawn writing =>
      rw [perform, find?_add]
      cases catalog.find? id with
      | none => by_cases same : drawn = id <;> simp [apply, insertion?, same, Writing.document]
      | some document => rfl
  | update updated writing =>
      rw [perform, find?_updateAt]
      cases catalog.find? id with
      | none => rfl
      | some document => by_cases same : updated = id <;> simp [apply, update?, same]
  | find asked => cases found : catalog.find? id <;> exact found
  | findMany asked => cases found : catalog.find? id <;> exact found

theorem after_concat (catalog : Catalog) (history : List Access) (access : Access) :
    catalog.after (history ++ [access]) = (access.perform (catalog.after history)).2 := by
  rw [after, List.foldl_append]
  rfl

/-- After any history, what is found is what was written last.  The induction splits the last
operation off, since `lastWritten?` looks for the insertion from the front. -/
theorem find?_after (history : List Access) (id : Text) :
    (empty.after history).find? id = lastWritten? id history := by
  induction history using List.reverseRecOn with
  | nil => rfl
  | append_singleton history access induction =>
      rw [after_concat, find?_perform, induction, lastWritten?_concat]

theorem ids_perform (access : Access) (catalog : Catalog) :
    (access.perform catalog).2.ids = catalog.ids ++ access.drawn?.toList := by
  cases access with
  | insert id writing => simp [perform, ids, drawn?, Writing.document]
  | update id writing =>
      rw [perform, ids_updateAt]
      exact (List.append_nil _).symm
  | find id => exact (List.append_nil _).symm
  | findMany ids => exact (List.append_nil _).symm

theorem ids_after (history : List Access) : (empty.after history).ids = drawnIds history := by
  induction history using List.reverseRecOn with
  | nil => rfl
  | append_singleton history access induction =>
      rw [after_concat, ids_perform, induction, drawnIds, drawnIds, List.filterMap_append]
      cases drawn : access.drawn? <;> simp [drawn]

/-- Where no id is used twice, the documents are those that are found. -/
theorem mem_documents_iff (distinct : catalog.ids.Nodup) {document : Document} :
    document ∈ catalog.documents ↔ catalog.find? document.id = some document := by
  constructor
  · intro member
    cases found : catalog.find? document.id with
    | none => exact absurd (List.mem_map_of_mem member) (find?_eq_none_iff.mp found)
    | some other =>
        obtain ⟨other_member, same_id⟩ := find?_eq_some found
        rw [List.inj_on_of_nodup_map distinct other_member member same_id]
  · exact fun found => (find?_eq_some found).1

/-- An update hits the document with its id, if there is one, and otherwise changes nothing. -/
theorem perform_update (id : Text) (writing : Writing) (catalog : Catalog) :
    (id ∈ catalog.ids → ((Access.update id writing).perform catalog).1 = .count 1) ∧
      (id ∉ catalog.ids → (Access.update id writing).perform catalog = (.count 0, catalog)) := by
  rw [← find?_eq_none_iff, perform, updateAt]
  cases found : catalog.find? id with
  | none => exact ⟨fun known => absurd known (find?_eq_none_iff.mp found), fun _ => rfl⟩
  | some document => exact ⟨fun _ => rfl, fun unknown => nomatch unknown⟩

/-- What an operation answers depends on the documents with its ids only. -/
theorem answer_congr {access : Access} {other : Catalog}
    (same : ∀ id ∈ access.ids, other.find? id = catalog.find? id) :
    (access.perform other).1 = (access.perform catalog).1 := by
  cases access with
  | insert id writing => rfl
  | update id writing =>
      rw [perform, perform, updateAt, updateAt, same id (List.mem_singleton_self id)]
      cases catalog.find? id <;> rfl
  | find id => exact congrArg Answer.found (same id (List.mem_singleton_self id))
  | findMany asked =>
      refine congrArg Answer.documents (List.filterMap_congr fun id member => same id ?_)
      exact mem_firstMentions.mp member

/-- Whether two operations have the same answers and the same effect in either order. -/
structure Commute (first second : Access) (catalog : Catalog) : Prop where
  first_answer :
    (first.perform (second.perform catalog).2).1 = (first.perform catalog).1
  second_answer :
    (second.perform (first.perform catalog).2).1 = (second.perform catalog).1
  find?_eq : ∀ id, (second.perform (first.perform catalog).2).2.find? id =
    (first.perform (second.perform catalog).2).2.find? id

theorem find?_perform_of_notMem {access : Access} {id : Text} (other : id ∉ access.ids) :
    (access.perform catalog).2.find? id = catalog.find? id := by
  rw [find?_perform, apply_eq_self other]

/-- Operations about different ids commute. -/
theorem commute_of_disjoint {first second : Access} (disjoint : first.ids.Disjoint second.ids) :
    Commute first second catalog where
  first_answer := answer_congr fun _ asked => find?_perform_of_notMem (disjoint asked)
  second_answer :=
    answer_congr fun _ asked => find?_perform_of_notMem fun touched => disjoint touched asked
  find?_eq id := by
    by_cases touched : id ∈ first.ids
    · rw [find?_perform_of_notMem (disjoint touched), find?_perform, find?_perform,
        find?_perform_of_notMem (disjoint touched)]
    · rw [find?_perform, find?_perform_of_notMem touched, find?_perform_of_notMem touched,
        find?_perform]

/-- A document that is found is found after any operations, with the same id and the same time of
creation. -/
theorem find?_after_of_find? (later : List Access) {id : Text} {document : Document}
    (found : catalog.find? id = some document) :
    ∃ kept, (catalog.after later).find? id = some kept ∧ kept.id = document.id ∧
      kept.createdAt = document.createdAt := by
  induction later generalizing catalog document with
  | nil => exact ⟨document, found, rfl, rfl⟩
  | cons access later induction =>
      have step : (access.perform catalog).2.find? id = access.apply id (some document) := by
        rw [find?_perform, found]
      rw [apply] at step
      cases updated : access.update? id with
      | none =>
          rw [updated] at step
          exact induction step
      | some writing =>
          rw [updated] at step
          obtain ⟨kept, kept_found, id_eq, created_eq⟩ := induction step
          exact ⟨kept, kept_found, id_eq, created_eq⟩

theorem mem_findMany_iff {ids : List Text} {document : Document} :
    document ∈ catalog.findMany ids ↔ ∃ id ∈ ids, catalog.find? id = some document := by
  rw [findMany, List.mem_filterMap]
  simp only [mem_firstMentions]

theorem firstMentions_concat (ids : List Text) (id : Text) :
    firstMentions (ids ++ [id]) =
      if id ∈ ids then firstMentions ids else firstMentions ids ++ [id] := by
  have mentioned : id ∈ ids ↔ id ∈ firstMentions ids := mem_firstMentions.symm
  simp only [mentioned, firstMentions, List.foldl_append, List.foldl_cons, List.foldl_nil]

theorem pairwise_firstMentions (ids : List Text) :
    (firstMentions ids).Pairwise fun first second => ids.idxOf first < ids.idxOf second := by
  induction ids using List.reverseRecOn with
  | nil => exact List.Pairwise.nil
  | append_singleton ids id induction =>
      have earlier : (firstMentions ids).Pairwise fun first second =>
          (ids ++ [id]).idxOf first < (ids ++ [id]).idxOf second := by
        refine induction.imp_of_mem fun first_member second_member before => ?_
        rwa [List.idxOf_append_of_mem (mem_firstMentions.mp first_member),
          List.idxOf_append_of_mem (mem_firstMentions.mp second_member)]
      rw [firstMentions_concat]
      split
      · exact earlier
      · next unmentioned =>
        rw [List.pairwise_append]
        refine ⟨earlier, List.pairwise_singleton _ id, ?_⟩
        intro first member last last_eq
        rw [List.mem_singleton.mp last_eq, List.idxOf_append_of_mem (mem_firstMentions.mp member),
          List.idxOf_append_of_notMem unmentioned]
        have := List.idxOf_lt_length_iff.mpr (mem_firstMentions.mp member)
        omega

/-- The documents that are found together stand in the order in which their ids are first
mentioned, each once. -/
theorem pairwise_findMany (catalog : Catalog) (ids : List Text) :
    (catalog.findMany ids).Pairwise fun first second =>
      ids.idxOf first.id < ids.idxOf second.id := by
  rw [findMany, List.pairwise_filterMap]
  refine (pairwise_firstMentions ids).imp fun before first found second other_found => ?_
  rw [(find?_eq_some found).2, (find?_eq_some other_found).2]
  exact before

end Catalog

namespace Access

/-- The answers of some operations that are done one after the other. -/
def answers (catalog : Catalog) : List Access → List Answer
  | [] => []
  | access :: later => (access.perform catalog).1 :: answers (access.perform catalog).2 later

end Access

namespace Step

/-- Whether a step is an operation on the catalogue. -/
def isAccess : Step → Bool
  | .insert _ _ | .update _ _ _ | .find _ | .findMany _ => true
  | _ => false

/-- Whether a step asks for an operation on the catalogue, whatever was drawn for it. -/
def Asks : Step → Access → Prop
  | .insert ruleText encodedTree, .insert _ writing =>
      writing.ruleText = ruleText ∧ writing.encodedTree = encodedTree
  | .update id ruleText encodedTree, .update updated writing =>
      updated = id ∧ writing.ruleText = ruleText ∧ writing.encodedTree = encodedTree
  | .find id, .find asked => asked = id
  | .findMany ids, .findMany asked => asked = ids
  | _, _ => False

/-- A step that is an operation on the catalogue draws the id and the time that it needs. -/
theorem exists_access {step : Step} (accesses : step.isAccess = true)
    (surroundings : Http.Surroundings) (catalog : Catalog) :
    ∃ access, step.Asks access ∧
      (step.perform surroundings ⟨catalog, none, []⟩).result = .ok (access.perform catalog).1 ∧
      (step.perform surroundings ⟨catalog, none, []⟩).store =
        ⟨(access.perform catalog).2, none, []⟩ := by
  cases step with
  | insert ruleText encodedTree =>
      exact ⟨.insert (catalog.draft ruleText encodedTree).id
        ⟨ruleText, encodedTree, catalog.clock + 1⟩, ⟨rfl, rfl⟩, rfl, rfl⟩
  | update id ruleText encodedTree =>
      exact ⟨.update id ⟨ruleText, encodedTree, catalog.clock + 1⟩, ⟨rfl, rfl, rfl⟩, rfl, rfl⟩
  | find id => exact ⟨.find id, rfl, rfl, rfl⟩
  | findMany ids => exact ⟨.findMany ids, rfl, rfl, rfl⟩
  | _ => cases accesses

end Step

namespace Session

theorem exists_history {steps : List Step} (accesses : ∀ step ∈ steps, step.isAccess = true)
    (surroundings : Http.Surroundings) (catalog : Catalog) :
    ∃ history, List.Forall₂ Step.Asks steps history ∧
      (run surroundings ⟨catalog, none, []⟩ steps).reports.map StepReport.result =
        (Access.answers catalog history).map .ok ∧
      (run surroundings ⟨catalog, none, []⟩ steps).store =
        ⟨catalog.after history, none, []⟩ := by
  induction steps generalizing surroundings catalog with
  | nil => exact ⟨[], .nil, rfl, rfl⟩
  | cons step steps induction =>
      rw [List.forall_mem_cons] at accesses
      obtain ⟨access, asks, result_eq, store_eq⟩ :=
        Step.exists_access accesses.1 surroundings catalog
      obtain ⟨history, all_ask, results_eq, last_eq⟩ :=
        induction accesses.2 (step.surroundingsAfter surroundings) (access.perform catalog).2
      refine ⟨access :: history, .cons asks all_ask, ?_, ?_⟩
      · rw [run, List.map_cons, store_eq, results_eq, result_eq]
        rfl
      · rw [run, store_eq, last_eq]
        rfl

theorem exists_fresh_history {steps : List Step} (accesses : ∀ step ∈ steps, step.isAccess = true)
    (surroundings : Http.Surroundings) :
    ∃ history, List.Forall₂ Step.Asks steps history ∧ (Access.drawnIds history).Nodup ∧
      (run surroundings .empty steps).reports.map StepReport.result =
        (Access.answers .empty history).map .ok ∧
      (run surroundings .empty steps).store = ⟨Catalog.empty.after history, none, []⟩ := by
  obtain ⟨history, all_ask, results_eq, store_eq⟩ :=
    exists_history accesses surroundings .empty
  refine ⟨history, all_ask, ?_, results_eq, store_eq⟩
  have numbered := isNumbered_run surroundings none [] steps
  rw [store_eq] at numbered
  rw [← Catalog.ids_after]
  exact numbered.nodup

end Session

namespace Catalog

open Access

/-- After any history with fresh ids, the catalogue is the map of what was written last.  What is
found under an id, and so every document, is what the insertion of the id and the latest update
after it left; nothing is found under an id that was not drawn.  An update answers one exactly if
its id was drawn, and otherwise changes nothing.  Documents that are found together are those that
are found one by one, each once, in the order in which their ids are first mentioned.  No document
is removed by further operations, and operations about different ids commute.  The steps of a
session that work on the catalogue are such a history. -/
theorem catalog_holds_last_writes (history : List Access) (fresh : (drawnIds history).Nodup)
    (catalog : Catalog) (reached : empty.after history = catalog) :
    (∀ id, catalog.find? id = lastWritten? id history) ∧
      (∀ id, catalog.find? id = none ↔ id ∉ drawnIds history) ∧
      (∀ document, document ∈ catalog.documents ↔
        lastWritten? document.id history = some document) ∧
      (∀ id writing,
        (id ∈ drawnIds history → ((Access.update id writing).perform catalog).1 = .count 1) ∧
          (id ∉ drawnIds history →
            (Access.update id writing).perform catalog = (.count 0, catalog))) ∧
      (∀ ids,
        (∀ document, document ∈ catalog.findMany ids ↔
          ∃ id ∈ ids, lastWritten? id history = some document) ∧
          (catalog.findMany ids).Pairwise fun first second =>
            ids.idxOf first.id < ids.idxOf second.id) ∧
      (∀ later id document, catalog.find? id = some document →
        ∃ kept, (catalog.after later).find? id = some kept ∧ kept.id = document.id ∧
          kept.createdAt = document.createdAt) ∧
      (∀ first second, first.ids.Disjoint second.ids → Commute first second catalog) ∧
      ∀ steps, (∀ step ∈ steps, step.isAccess = true) → ∀ surroundings,
        ∃ accesses, List.Forall₂ Step.Asks steps accesses ∧ (drawnIds accesses).Nodup ∧
          (Session.run surroundings .empty steps).reports.map StepReport.result =
            (answers empty accesses).map .ok ∧
          (Session.run surroundings .empty steps).store = ⟨empty.after accesses, none, []⟩ := by
  subst reached
  rw [← ids_after] at fresh
  refine ⟨find?_after history, ?_, ?_, ?_, ?_, ?_, ?_, ?_⟩
  · intro id
    rw [find?_eq_none_iff, ids_after]
  · intro document
    rw [mem_documents_iff fresh, find?_after]
  · intro id writing
    rw [← ids_after]
    exact perform_update id writing _
  · refine fun ids => ⟨fun document => ?_, pairwise_findMany _ ids⟩
    simp only [mem_findMany_iff, find?_after]
  · exact fun later id document => find?_after_of_find? later
  · exact fun first second => commute_of_disjoint
  · exact fun steps => Session.exists_fresh_history

/-- An update before the insertion of its document is lost, and one after it counts. -/
theorem catalog_holds_last_writes_after_lost_update :
    ∃ history catalog,
      history = [.insert "$1".toList ⟨"a > 1".toList, "first".toList, 1⟩,
        .update "$2".toList ⟨"b > 1".toList, "lost".toList, 2⟩,
        .insert "$2".toList ⟨"b > 2".toList, "second".toList, 3⟩,
        .update "$1".toList ⟨"a > 3".toList, "third".toList, 4⟩] ∧
      (drawnIds history).Nodup ∧ empty.after history = catalog ∧
      catalog.find? "$1".toList =
        some ⟨"$1".toList, "a > 3".toList, "third".toList, 1, 4⟩ ∧
      catalog.find? "$2".toList =
        some ⟨"$2".toList, "b > 2".toList, "second".toList, 3, 3⟩ ∧
      catalog.find? "$3".toList = none ∧
      (catalog.findMany ["$2".toList, "$3".toList, "$1".toList, "$2".toList]).map Document.id =
        ["$2".toList, "$1".toList] := by
  generalize history_eq : [Access.insert "$1".toList ⟨"a > 1".toList, "first".toList, 1⟩,
    .update "$2".toList ⟨"b > 1".toList, "lost".toList, 2⟩,
    .insert "$2".toList ⟨"b > 2".toList, "second".toList, 3⟩,
    .update "$1".toList ⟨"a > 3".toList, "third".toList, 4⟩] = history
  have fresh : (drawnIds history).Nodup := by
    rw [← history_eq]
    decide
  obtain ⟨found, _⟩ := catalog_holds_last_writes history fresh _ rfl
  refine ⟨history, _, rfl, fresh, rfl, ?_⟩
  rw [found, found, found, ← history_eq]
  refine ⟨?_, ?_, ?_, ?_⟩ <;> decide

end Catalog

end Rulebook
