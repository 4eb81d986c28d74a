import Rulebook.Proofs.Calls

/-!
# Calls as activities on a shared catalogue

A call is done in one operation on the catalogue after another, between which others may work on it:
a combination finds its documents one by one and then inserts, and every other call needs one
operation only.  Without others, an activity does what its call does.
-/

namespace Rulebook

/-- What is left to do of a call: operations on the catalogue, each of which is done at one moment,
with what follows on what it gives, and in the end the result of the call. -/
inductive Activity where
  | finished (result : Except RuleError Answer)
  | inserting (rule : Rule) (next : Document → Activity)
  | finding (id : Text) (next : Option Document → Activity)
  | updating (id : Text) (rule : Rule) (next : Nat → Activity)

namespace Activity

def storing (rule : Rule) : Activity :=
  .inserting rule fun document => .finished (.ok (.created document))

/-- Store the combination of the rules with some ids, of which these documents were found. -/
def combining (ids : List Text) (documents : List Document) : Activity :=
  let missing := Rule.missingIds ids documents
  if missing.isEmpty then
    match Rule.combineDocuments ids documents with
    | .error error => .finished (.error error)
    | .ok rule => .storing rule
  else .finished (.error (.notFound missing))

/-- Find documents one by one, after those that were found, and combine the rules with some ids. -/
def gathering (ids : List Text) : (unread : List Text) → (found : List Document) → Activity
  | [], found => .combining ids found
  | id :: unread, found =>
      .finding id fun document? => .gathering ids unread (found ++ document?.toList)

/-- Do one operation on the catalogue. -/
def advance : Activity → Catalog → Activity × Catalog
  | .finished result, catalog => (.finished result, catalog)
  | .inserting rule next, catalog =>
      let (document, catalog) := catalog.insert rule.text rule.tree.encode
      (next document, catalog)
  | .finding id next, catalog => (next (catalog.find? id), catalog)
  | .updating id rule next, catalog =>
      let (count, catalog) := catalog.update id rule.text rule.tree.encode
      (next count, catalog)

/-- Do all that is left on a catalogue on which nothing else works. -/
def alone : Activity → Catalog → Except RuleError Answer × Catalog
  | .finished result, catalog => (result, catalog)
  | .inserting rule next, catalog =>
      let (document, catalog) := catalog.insert rule.text rule.tree.encode
      (next document).alone catalog
  | .finding id next, catalog => (next (catalog.find? id)).alone catalog
  | .updating id rule next, catalog =>
      let (count, catalog) := catalog.update id rule.text rule.tree.encode
      (next count).alone catalog

/-- What is left after one operation on each of some catalogues, whatever happens in between. -/
def after : Activity → List Catalog → Activity
  | activity, [] => activity
  | activity, catalog :: catalogs => (activity.advance catalog).1.after catalogs

end Activity

namespace Call

/-- The answer to an evaluation, by what the document with the id holds. -/
def evaluated (traced : Bool) (id : Text) (record : Record) :
    Option (Except RuleError Rule) → Except RuleError Answer
  | none => .error (.notFound [id])
  | some (.error error) => .error error
  | some (.ok rule) => (rule.tree.execute traced record).map .evaluated

/-- All that there is to do for a call. -/
def activity : Call → Activity
  | .create ruleText =>
      match Rule.ofText ruleText with
      | .error error => .finished (.error error)
      | .ok rule => .storing rule
  | .combine ids =>
      if ids.isEmpty then .finished (.error .emptyCombination)
      else .gathering ids (Catalog.firstMentions ids) []
  | .evaluate traced id record =>
      .finding id fun document? =>
        .finished (evaluated traced id record (document?.map Rule.ofDocument))
  | .modify id ruleText =>
      match Rule.ofText ruleText with
      | .error error => .finished (.error error)
      | .ok rule =>
          .updating id rule fun count =>
            .finished (if count = 0 then .error (.notFound [id]) else .ok .done)
  | .get id =>
      .finding id fun document? =>
        .finished (match document? with
          | none => .error (.notFound [id])
          | some document => .ok (.document document))

end Call

namespace Activity

/-! ## Alone, an activity does what its call does -/

theorem alone_gathering (ids unread : List Text) (found : List Document) (catalog : Catalog) :
    (gathering ids unread found).alone catalog =
      (combining ids (found ++ unread.filterMap catalog.find?)).alone catalog := by
  induction unread generalizing found with
  | nil => rw [gathering, List.filterMap_nil, List.append_nil]
  | cons id unread induction =>
      rw [gathering, alone, induction, List.append_assoc, List.filterMap_cons]
      cases catalog.find? id <;> rfl

/-- What is seen of an operation on a store that answers: its result and the catalogue it leaves. -/
private def seen {α : Type} (operation : Operation α) (catalog : Catalog) :
    Except RuleError α × Catalog :=
  ((operation ⟨catalog, none, []⟩).silent.result,
    (operation ⟨catalog, none, []⟩).silent.store.catalog)

private theorem seen_map {α β : Type} (operation : Operation α) (wrap : α → β)
    (catalog : Catalog) :
    seen (do return wrap (← operation)) catalog =
      ((seen operation catalog).1.map wrap, (seen operation catalog).2) :=
  Prod.ext (Operation.result_map operation wrap _)
    (congrArg Store.catalog (Operation.store_map operation wrap _))

private theorem alone_storing (series : Series) (rule : Rule) (catalog : Catalog) :
    (storing rule).alone catalog =
      ((Service.stored series rule ⟨catalog, none, []⟩).result.map .created,
        (Service.stored series rule ⟨catalog, none, []⟩).store.catalog) :=
  rfl

/-- On a store that answers, a call gives the result of its activity and leaves its catalogue. -/
theorem alone_activity (call : Call) (catalog : Catalog) :
    call.activity.alone catalog =
      ((call.perform ⟨catalog, none, []⟩).result,
        (call.perform ⟨catalog, none, []⟩).store.catalog) := by
  change call.activity.alone catalog = seen call.perform catalog
  have answers : (⟨catalog, none, []⟩ : Store).nextOutage = none := rfl
  cases call with
  | create ruleText =>
      refine Eq.trans ?_ (seen_map (Service.create ruleText) Answer.created catalog).symm
      rw [seen, Service.silent_create, Call.activity]
      cases Rule.ofText ruleText with
      | error error => rfl
      | ok rule => exact alone_storing .rulesCreated rule catalog
  | combine ids =>
      refine Eq.trans ?_ (seen_map (Service.combine ids) Answer.created catalog).symm
      rw [seen, Service.silent_combine, Call.activity, answers]
      split
      · rfl
      · have found : (Catalog.firstMentions ids).filterMap catalog.find? =
            catalog.findMany ids := rfl
        rw [alone_gathering, List.nil_append, found, combining]
        dsimp only
        split
        · cases Rule.combineDocuments ids (catalog.findMany ids) with
          | error error => rfl
          | ok rule => exact alone_storing .rulesCombined rule catalog
        · rfl
  | evaluate traced id record =>
      have mapped := seen_map (Service.evaluate traced id record) Answer.evaluated catalog
      refine Eq.trans ?_ mapped.symm
      rw [seen, Service.silent_evaluate, Service.silent_get, Call.activity, answers]
      dsimp only [alone]
      cases catalog.find? id with
      | none => rfl
      | some document =>
          dsimp only [Option.map_some, Outcome.followedBy]
          cases Rule.ofDocument document <;> rfl
  | modify id ruleText =>
      refine Eq.trans ?_ (seen_map (Service.modify id ruleText) (fun _ => Answer.done) catalog).symm
      rw [seen, Service.silent_modify, Call.activity, answers]
      cases Rule.ofText ruleText with
      | error error => rfl
      | ok rule =>
          dsimp only [alone]
          split <;> rfl
  | get id =>
      refine Eq.trans ?_ (seen_map (Service.get id) Answer.document catalog).symm
      rw [seen, Service.silent_get, Call.activity, answers]
      dsimp only [alone]
      cases catalog.find? id <;> rfl

/-! ## What is left after some operations -/

theorem after_finished (result : Except RuleError Answer) (catalogs : List Catalog) :
    (finished result).after catalogs = finished result := by
  induction catalogs with
  | nil => rfl
  | cons catalog catalogs induction => exact induction

theorem after_concat (activity : Activity) (catalogs : List Catalog) (catalog : Catalog) :
    activity.after (catalogs ++ [catalog]) = ((activity.after catalogs).advance catalog).1 := by
  induction catalogs generalizing activity with
  | nil => rfl
  | cons first catalogs induction => exact induction (activity.advance first).1

theorem after_storing_cons (rule : Rule) (catalog : Catalog) (catalogs : List Catalog) :
    (storing rule).after (catalog :: catalogs) =
      .finished (.ok (.created (catalog.insert rule.text rule.tree.encode).1)) :=
  after_finished _ catalogs

/-- What is combined is found document by document, each at a moment of its own. -/
theorem after_gathering {α : Type} (ids : List Text) (catalog : α → Catalog) (moment : Text → α)
    (read unread : List Text) (found : List Document) (later : List α) :
    (gathering ids (read ++ unread) found).after ((read.map moment ++ later).map catalog) =
      (gathering ids unread
        (found ++ read.filterMap fun id => (catalog (moment id)).find? id)).after
        (later.map catalog) := by
  induction read generalizing found with
  | nil => simp only [List.nil_append, List.map_nil, List.filterMap_nil, List.append_nil]
  | cons id read induction =>
      refine (induction _).trans ?_
      rw [List.append_assoc, List.filterMap_cons]
      cases (catalog (moment id)).find? id <;> rfl

theorem combining_cases (ids : List Text) (documents : List Document) :
    (∃ error, combining ids documents = .finished (.error error)) ∨
      ∃ rule, Rule.combineDocuments ids documents = .ok rule ∧
        combining ids documents = .storing rule := by
  unfold combining
  dsimp only
  split
  · cases Rule.combineDocuments ids documents with
    | error error => exact .inl ⟨error, rfl⟩
    | ok rule => exact .inr ⟨rule, rfl, rfl⟩
  · exact .inl ⟨_, rfl⟩

end Activity

/-- Each of some distinct keys can be given its own one of as many values. -/
theorem exists_map_eq {keys : List Text} (distinct : keys.Nodup) {α : Type} [Inhabited α]
    {values : List α} (same : keys.length = values.length) :
    ∃ value : Text → α, keys.map value = values := by
  refine ⟨fun key => values.getD (keys.idxOf key) default, ?_⟩
  refine List.ext_getElem (by rw [List.length_map, same]) fun place _ below => ?_
  have place_below : place < keys.length := same ▸ below
  rw [List.getElem_map, distinct.idxOf_getElem place place_below, List.getD_eq_getElem?_getD,
    List.getElem?_eq_getElem below, Option.getD_some]

namespace Activity

/-- A combination that has worked on the catalogues of some moments either is to find the document
with the next of the ids, or it has found each one at a moment of its own. -/
theorem after_gathering_cases {α : Type} [Inhabited α] (ids : List Text) (catalog : α → Catalog)
    (moments : List α) :
    (∃ read id next unread, Catalog.firstMentions ids = read ++ id :: unread ∧
      read.length = moments.length ∧
      (gathering ids (Catalog.firstMentions ids) []).after (moments.map catalog) =
        .finding id next) ∨
    ∃ (moment : Text → α) (later : List α),
      moments = (Catalog.firstMentions ids).map moment ++ later ∧
      (gathering ids (Catalog.firstMentions ids) []).after (moments.map catalog) =
        (combining ids ((Catalog.firstMentions ids).filterMap fun id =>
          (catalog (moment id)).find? id)).after (later.map catalog) := by
  have distinct := Catalog.nodup_firstMentions ids
  generalize Catalog.firstMentions ids = mentioned at distinct ⊢
  rcases Nat.lt_or_ge moments.length mentioned.length with reading | read
  · left
    have read_length : (mentioned.take moments.length).length = moments.length :=
      List.length_take_of_le (Nat.le_of_lt reading)
    obtain ⟨moment, moment_eq⟩ :=
      exists_map_eq (distinct.sublist (List.take_sublist moments.length mentioned)) read_length
    have unread := List.drop_eq_getElem_cons reading
    have gathered := after_gathering ids catalog moment (mentioned.take moments.length)
      (mentioned.drop moments.length) [] []
    rw [List.take_append_drop, moment_eq, unread, List.append_nil] at gathered
    refine ⟨mentioned.take moments.length, mentioned[moments.length], _,
      mentioned.drop (moments.length + 1), ?_, read_length, gathered⟩
    rw [← unread, List.take_append_drop]
  · right
    have read_length : mentioned.length = (moments.take mentioned.length).length :=
      (List.length_take_of_le read).symm
    obtain ⟨moment, moment_eq⟩ := exists_map_eq distinct read_length
    have moments_eq : moments = mentioned.map moment ++ moments.drop mentioned.length := by
      rw [moment_eq, List.take_append_drop]
    refine ⟨moment, moments.drop mentioned.length, moments_eq, ?_⟩
    have gathered := after_gathering ids catalog moment mentioned [] []
      (moments.drop mentioned.length)
    rwa [List.append_nil, ← moments_eq] at gathered

end Activity

namespace Call

open Activity

/-! ## How far a call has got -/

variable {α : Type}

/-- Whether a call makes a rule to be written of the catalogues that it reads at some moments. -/
def Makes (catalog : α → Catalog) (reads : List α) (rule : Rule) : Call → Prop
  | .create ruleText | .modify _ ruleText => reads = [] ∧ Rule.ofText ruleText = .ok rule
  | .combine ids =>
      ∃ moment : Text → α, reads = (Catalog.firstMentions ids).map moment ∧
        ∃ rules, ids.map (fun id => (catalog (moment id)).rule? id) =
            (rules.map fun rule => some (.ok rule)) ∧
          Rule.combine rules = .ok rule
  | .evaluate _ _ _ | .get _ => False

/-- What may be left of a call after its turns at some moments. -/
inductive Stage (catalog : α → Catalog) (call : Call) (moments : List α) : Activity → Prop where
  | reads (id : Text) (next : Option Document → Activity) :
      Stage catalog call moments (.finding id next)
  | inserts {rule : Rule} (creates : ∀ id ruleText, call ≠ .modify id ruleText)
      (makes : call.Makes catalog moments rule) : Stage catalog call moments (.storing rule)
  | updates {id ruleText : Text} {rule : Rule} (next : Nat → Activity)
      (modifies : call = .modify id ruleText) (makes : call.Makes catalog moments rule) :
      Stage catalog call moments (.updating id rule next)
  | created {earlier later : List α} {moment : α} {rule : Rule}
      (moments_eq : moments = earlier ++ moment :: later)
      (stored : call.activity.after (earlier.map catalog) = .storing rule) :
      Stage catalog call moments
        (.finished (.ok (.created ((catalog moment).insert rule.text rule.tree.encode).1)))
  | ended {result : Except RuleError Answer}
      (other : ∀ document, result ≠ .ok (.created document)) :
      Stage catalog call moments (.finished result)

theorem evaluated_ne (traced : Bool) (id : Text) (record : Record)
    (holding : Option (Except RuleError Rule)) (document : Document) :
    evaluated traced id record holding ≠ .ok (.created document) := by
  rcases holding with _ | error | rule
  · exact fun same => by cases same
  · exact fun same => by cases same
  · rw [evaluated]
    cases rule.tree.execute traced record with
    | error error => exact fun same => by cases same
    | ok evaluation => exact fun same => by cases same

private theorem stage_after_storing {catalog : α → Catalog} {call : Call} {reads : List α}
    {rule : Rule} (creates : ∀ id ruleText, call ≠ .modify id ruleText)
    (makes : call.Makes catalog reads rule)
    (stored : call.activity.after (reads.map catalog) = .storing rule) (later : List α) :
    call.Stage catalog (reads ++ later) ((storing rule).after (later.map catalog)) := by
  cases later with
  | nil =>
      rw [List.append_nil]
      exact .inserts creates makes
  | cons moment later =>
      rw [List.map_cons, after_storing_cons]
      exact .created rfl stored

private theorem stage_after_finding {catalog : α → Catalog} {call : Call} (id : Text)
    (answer : Option Document → Except RuleError Answer)
    (other : ∀ found document, answer found ≠ .ok (.created document)) (moments : List α) :
    call.Stage catalog moments
      (after (.finding id fun found => .finished (answer found)) (moments.map catalog)) := by
  cases moments with
  | nil => exact .reads id _
  | cons moment later =>
      rw [List.map_cons, after, advance, after_finished]
      exact .ended (other _)

/-- Every call goes through these stages. -/
theorem stage [Inhabited α] (catalog : α → Catalog) (call : Call) (moments : List α) :
    call.Stage catalog moments (call.activity.after (moments.map catalog)) := by
  cases call with
  | create ruleText =>
      rw [activity]
      cases read : Rule.ofText ruleText with
      | error error =>
          rw [after_finished]
          exact .ended fun _ same => by cases same
      | ok rule =>
          have makes : (create ruleText).Makes catalog [] rule := ⟨rfl, read⟩
          refine stage_after_storing (fun _ _ same => by cases same) makes ?_ moments
          rw [activity, read]
          rfl
  | combine ids =>
      cases ids with
      | nil =>
          rw [activity, if_pos List.isEmpty_nil, after_finished]
          exact .ended fun _ same => by cases same
      | cons first others =>
          have gathers : (combine (first :: others)).activity =
              .gathering (first :: others) (Catalog.firstMentions (first :: others)) [] := rfl
          rcases after_gathering_cases (first :: others) catalog moments with
            ⟨_, id, next, _, _, _, finds⟩ | ⟨moment, later, rfl, gathered⟩
          · rw [gathers, finds]
            exact .reads id next
          · rw [gathers, gathered]
            rcases combining_cases (first :: others)
                ((Catalog.firstMentions (first :: others)).filterMap fun id =>
                  (catalog (moment id)).find? id) with
              ⟨error, failed⟩ | ⟨rule, combination, stores⟩
            · rw [failed, after_finished]
              exact .ended fun _ same => by cases same
            · have read_all := after_gathering (first :: others) catalog moment
                (Catalog.firstMentions (first :: others)) [] [] []
              rw [List.append_nil, List.append_nil] at read_all
              rw [stores]
              refine stage_after_storing (fun _ _ same => by cases same) ?_ ?_ later
              · exact ⟨moment, rfl,
                  (Rule.combineDocuments_filterMap_eq_ok_iff fun id => catalog (moment id)).mp
                    combination⟩
              · exact (congrArg (after · _) gathers).trans (read_all.trans stores)
  | evaluate traced id record =>
      exact stage_after_finding id _ (fun _ => evaluated_ne traced id record _) moments
  | modify id ruleText =>
      rw [activity]
      cases read : Rule.ofText ruleText with
      | error error =>
          rw [after_finished]
          exact .ended fun _ same => by cases same
      | ok rule =>
          cases moments with
          | nil => exact .updates _ rfl ⟨rfl, read⟩
          | cons moment later =>
              rw [List.map_cons, after, advance, after_finished]
              refine .ended fun document => ?_
              split <;> exact fun same => by cases same
  | get id =>
      refine stage_after_finding id _ (fun found document => ?_) moments
      cases found <;> exact fun same => by cases same

end Call

end Rulebook
