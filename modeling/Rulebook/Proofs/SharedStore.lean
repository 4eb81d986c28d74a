import Rulebook.Proofs.Soundness
import Rulebook.Proofs.Traffic

/-!
# Concurrent requests

Whatever calls are at work on one catalogue, and in whatever order they take their turns, each
document holds the one rule that was written last under its id, no document is lost, and what a call
reads is what was current at the moment when it read it.
-/

namespace Rulebook

namespace Activity

/-- Whether an activity writes sound rules only, as long as the documents that it finds hold sound
rules. -/
def IsSound : Activity → Prop
  | .finished _ => True
  | .inserting rule next => rule.IsSound ∧ ∀ document, (next document).IsSound
  | .finding _ next =>
      ∀ document?, (∀ document ∈ document?, document.IsSound) → (next document?).IsSound
  | .updating _ rule next => rule.IsSound ∧ ∀ count, (next count).IsSound

theorem isSound_storing {rule : Rule} (sound : rule.IsSound) : (storing rule).IsSound :=
  ⟨sound, fun _ => trivial⟩

theorem isSound_combining {ids : List Text} {documents : List Document}
    (sound : ∀ document ∈ documents, document.IsSound) : (combining ids documents).IsSound := by
  rcases combining_cases ids documents with ⟨error, same⟩ | ⟨rule, combination, same⟩
  · rw [same]
    trivial
  · rw [same]
    exact isSound_storing (Rule.isSound_combineDocuments sound combination)

theorem isSound_gathering (ids unread : List Text) {found : List Document}
    (sound : ∀ document ∈ found, document.IsSound) : (gathering ids unread found).IsSound := by
  induction unread generalizing found with
  | nil => exact isSound_combining sound
  | cons id unread induction =>
      intro document? document_sound
      apply induction
      intro document member
      rcases List.mem_append.mp member with old | new
      · exact sound document old
      · exact document_sound document (Option.mem_toList.mp new)

theorem isSound_activity (call : Call) : call.activity.IsSound := by
  cases call with
  | create ruleText =>
      rw [Call.activity]
      split
      · trivial
      · next read => exact isSound_storing (Rule.isSound_of_ofText read)
  | combine ids =>
      rw [Call.activity]
      split
      · trivial
      · exact isSound_gathering ids _ fun _ member => absurd member List.not_mem_nil
  | evaluate traced id record => exact fun _ _ => trivial
  | modify id ruleText =>
      rw [Call.activity]
      split
      · trivial
      · next read => exact ⟨Rule.isSound_of_ofText read, fun _ => trivial⟩
  | get id => exact fun _ _ => trivial

end Activity

namespace Traffic

/-- Whether a catalogue is what the record of writes says, and all that is still written is sound.
-/
structure IsFaithful (traffic : Traffic) : Prop where
  numbered : traffic.catalog.IsNumbered
  /-- Each document holds the rule that was written last under its id. -/
  held : ∀ document ∈ traffic.catalog.documents, ∃ rule,
    traffic.current? document.id = some rule ∧ document.Holds rule ∧ rule.IsSound
  /-- The documents are those that were inserted. -/
  inserted : traffic.catalog.ids = ((traffic.writes.filter (·.inserts)).map Write.id).reverse
  known : ∀ write ∈ traffic.writes, write.id ∈ traffic.catalog.ids
  sound : ∀ activity ∈ traffic.activities, activity.IsSound

theorem IsFaithful.isSound {traffic : Traffic} (faithful : traffic.IsFaithful) :
    traffic.catalog.IsSound := by
  intro document member
  obtain ⟨rule, _, held, rule_sound⟩ := faithful.held document member
  exact ⟨rule, held, rule_sound⟩

theorem isFaithful_start (calls : List Call) : (start calls).IsFaithful where
  numbered := .empty
  held _ member := absurd member List.not_mem_nil
  inserted := rfl
  known _ member := absurd member List.not_mem_nil
  sound activity member := by
    obtain ⟨call, _, rfl⟩ := List.mem_map.mp member
    exact Activity.isSound_activity call

theorem current?_of_ne {catalog : Catalog} {activities : List Activity} {writes : List Write}
    {write : Write} {id : Text} (other : write.id ≠ id) :
    current? ⟨catalog, activities, write :: writes⟩ id =
      current? ⟨catalog, activities, writes⟩ id := by
  simp only [current?, List.find?_cons, beq_false_of_ne other]

theorem current?_self {catalog : Catalog} {activities : List Activity} {writes : List Write}
    (write : Write) :
    current? ⟨catalog, activities, write :: writes⟩ write.id = some write.rule := by
  simp only [current?, List.find?_cons, beq_self_eq_true, Option.map_some]

theorem IsFaithful.resume {traffic : Traffic} (faithful : traffic.IsFaithful) (turn : Nat)
    {activity : Activity} (sound : activity.IsSound) :
    IsFaithful ⟨traffic.catalog, traffic.activities.set turn activity, traffic.writes⟩ where
  numbered := faithful.numbered
  held := faithful.held
  inserted := faithful.inserted
  known := faithful.known
  sound other member := by
    rcases List.mem_or_eq_of_mem_set member with old | rfl
    · exact faithful.sound other old
    · exact sound

theorem IsFaithful.insert {traffic : Traffic} (faithful : traffic.IsFaithful) (request : Nat)
    {rule : Rule} (sound : rule.IsSound) :
    IsFaithful ⟨(traffic.catalog.insert rule.text rule.tree.encode).2, traffic.activities,
      ⟨request, (traffic.catalog.insert rule.text rule.tree.encode).1.id, rule, true⟩ ::
        traffic.writes⟩ where
  numbered := faithful.numbered.insert rule.text rule.tree.encode
  held document member := by
    rcases Catalog.mem_insert.mp member with old | rfl
    · obtain ⟨last, current, held⟩ := faithful.held document old
      have fresh : (traffic.catalog.insert rule.text rule.tree.encode).1.id ≠ document.id := by
        intro same
        apply faithful.numbered.draft_notMem rule.text rule.tree.encode
        exact same ▸ List.mem_map_of_mem old
      refine ⟨last, ?_, held⟩
      rw [current?_of_ne fresh, ← current]
      rfl
    · exact ⟨rule, current?_self _, ⟨rfl, rfl⟩, sound⟩
  inserted := by
    rw [Catalog.ids_insert, faithful.inserted]
    simp
  known write member := by
    rw [Catalog.ids_insert, List.mem_append, List.mem_singleton]
    rcases List.mem_cons.mp member with rfl | old
    · exact .inr rfl
    · exact .inl (faithful.known write old)
  sound := faithful.sound

theorem IsFaithful.update {traffic : Traffic} (faithful : traffic.IsFaithful) (request : Nat)
    {id : Text} (found : (traffic.catalog.find? id).isSome) {rule : Rule} (sound : rule.IsSound) :
    IsFaithful ⟨(traffic.catalog.update id rule.text rule.tree.encode).2, traffic.activities,
      ⟨request, id, rule, false⟩ :: traffic.writes⟩ where
  numbered := faithful.numbered.update id rule.text rule.tree.encode
  held document member := by
    rcases Catalog.mem_update_cases member with ⟨other, old⟩ | ⟨rfl, held⟩
    · obtain ⟨last, current, held⟩ := faithful.held document old
      refine ⟨last, ?_, held⟩
      rw [current?_of_ne (Ne.symm other), ← current]
      rfl
    · exact ⟨rule, current?_self ⟨request, document.id, rule, false⟩, held, sound⟩
  inserted := by
    rw [Catalog.ids_update, faithful.inserted]
    rfl
  known write member := by
    rw [Catalog.ids_update]
    rcases List.mem_cons.mp member with rfl | old
    · obtain ⟨document, document_found⟩ := Option.isSome_iff_exists.mp found
      exact Catalog.mem_ids_of_find? document_found
    · exact faithful.known write old
  sound := faithful.sound

theorem IsFaithful.step {traffic : Traffic} (faithful : traffic.IsFaithful) (turn : Nat) :
    (traffic.step turn).IsFaithful := by
  cases present : traffic.activities[turn]? with
  | none =>
      rw [step_of_absent present]
      exact faithful
  | some activity =>
      have sound := faithful.sound activity (List.mem_of_getElem? present)
      rw [step_of_present present]
      cases activity with
      | finished result => exact faithful.resume turn trivial
      | inserting rule next => exact (faithful.insert turn sound.1).resume turn (sound.2 _)
      | finding id next =>
          apply faithful.resume turn
          apply sound
          intro document found
          exact faithful.isSound document (Catalog.find?_eq_some found).1
      | updating id rule next =>
          rw [Activity.write?]
          split
          · next found => exact (faithful.update turn found sound.1).resume turn (sound.2 _)
          · next unfound =>
            have kept : traffic.catalog.update id rule.text rule.tree.encode =
                (0, traffic.catalog) := by
              rw [Catalog.update, Catalog.updateAt, Option.not_isSome_iff_eq_none.mp unfound]
            rw [Activity.advance, kept]
            exact faithful.resume turn (sound.2 0)

theorem isFaithful_after (calls : List Call) (schedule : List Nat) :
    (after calls schedule).IsFaithful := by
  induction schedule using List.reverseRecOn with
  | nil => exact isFaithful_start calls
  | append_singleton schedule turn induction =>
      rw [after_concat]
      exact induction.step turn

/-- What is found under an id is the rule that was written last under it. -/
theorem IsFaithful.rule?_eq {traffic : Traffic} (faithful : traffic.IsFaithful) (id : Text) :
    traffic.catalog.rule? id = (traffic.current? id).map .ok := by
  rw [Catalog.rule?]
  cases found : traffic.catalog.find? id with
  | none =>
      have unwritten : traffic.writes.find? (·.id == id) = none := by
        rw [List.find?_eq_none]
        intro write member same
        have known := faithful.known write member
        rw [beq_iff_eq.mp same] at known
        exact Catalog.find?_eq_none_iff.mp found known
      rw [current?, unwritten]
      rfl
  | some document =>
      obtain ⟨member, rfl⟩ := Catalog.find?_eq_some found
      obtain ⟨rule, current, held, sound⟩ := faithful.held document member
      rw [current, Option.map_some, Option.map_some, held.ofDocument sound.depth_le]

/-! ## Where the writes and the answers come from -/

theorem exists_stage {calls : List Call} {schedule : List Nat} {request : Nat}
    {activity : Activity} (present : (after calls schedule).activities[request]? = some activity) :
    ∃ call, calls[request]? = some call ∧
      call.Stage (catalogAt calls) (turns request schedule) activity := by
  rw [activities_after] at present
  obtain ⟨call, called, rfl⟩ := Option.map_eq_some_iff.mp present
  exact ⟨call, called, call.stage (catalogAt calls) (turns request schedule)⟩

end Traffic

/-- Whether a write on a catalogue is one that a call may do. -/
def Write.IsBy (write : Write) (catalog : Catalog) : Call → Prop
  | .create _ | .combine _ => write.inserts = true ∧ write.id ∉ catalog.ids
  | .modify id _ => write.inserts = false ∧ write.id = id ∧ id ∈ catalog.ids
  | .evaluate _ _ _ | .get _ => False

namespace Traffic

/-- Each rule was written by one call, which made it of what it had read in its turns before. -/
theorem exists_call_of_mem_writes {calls : List Call} {schedule : List Nat} {write : Write}
    (member : write ∈ (after calls schedule).writes) :
    ∃ call reads before later, calls[write.request]? = some call ∧
      turns write.request schedule = reads ++ before :: later ∧
      call.Makes (catalogAt calls) reads write.rule ∧
      write.IsBy (catalogAt calls before) call := by
  obtain ⟨before, activity, reached, present, writes⟩ := mem_writes_iff.mp member
  obtain ⟨call, called, stage⟩ := exists_stage present
  obtain ⟨later, turns_eq⟩ := exists_turns_eq reached
  refine ⟨call, _, before, later, called, turns_eq, ?_⟩
  generalize write.request = request at *
  cases stage with
  | reads id next => cases writes
  | @inserts rule creates makes =>
      cases writes
      refine ⟨makes, ?_⟩
      have fresh := (isFaithful_after calls before).numbered.draft_notMem rule.text
        rule.tree.encode
      cases call with
      | create ruleText => exact ⟨rfl, fresh⟩
      | combine ids => exact ⟨rfl, fresh⟩
      | modify id ruleText => exact absurd rfl (creates id ruleText)
      | evaluate traced id record => exact makes.elim
      | get id => exact makes.elim
  | updates next modifies makes =>
      rw [Activity.write?] at writes
      split at writes
      · next found =>
        cases writes
        subst modifies
        obtain ⟨document, document_found⟩ := Option.isSome_iff_exists.mp found
        exact ⟨makes, rfl, rfl, Catalog.mem_ids_of_find? document_found⟩
      · cases writes
  | created _ _ => cases writes
  | ended _ => cases writes

theorem exists_write_of_created {calls : List Call} {schedule : List Nat} {request : Nat}
    {document : Document}
    (created : (after calls schedule).activities[request]? =
      some (.finished (.ok (.created document)))) :
    ∃ write ∈ (after calls schedule).writes, write.request = request ∧ write.inserts = true ∧
      write.id = document.id ∧ document.Holds write.rule := by
  obtain ⟨call, called, stage⟩ := exists_stage created
  cases stage with
  | @created earlier later moment rule moments_eq stored =>
      obtain ⟨reached, earlier_eq⟩ := of_turns_eq moments_eq
      have present := activities_after calls moment request
      rw [called, earlier_eq, Option.map_some] at present
      refine ⟨⟨request, _, rule, true⟩, ?_, rfl, rfl, rfl, rfl, rfl⟩
      exact mem_writes_iff.mpr ⟨moment, _, reached, present.trans (congrArg some stored), rfl⟩
  | ended other => exact absurd rfl (other document)

theorem ids_grow_advance (activity : Activity) (catalog : Catalog) :
    catalog.ids <+: (activity.advance catalog).2.ids := by
  cases activity with
  | finished result => exact List.prefix_rfl
  | inserting rule next =>
      change _ <+: (catalog.insert rule.text rule.tree.encode).2.ids
      rw [Catalog.ids_insert]
      exact List.prefix_append _ _
  | finding id next => exact List.prefix_rfl
  | updating id rule next =>
      change _ <+: (catalog.update id rule.text rule.tree.encode).2.ids
      rw [Catalog.ids_update]

theorem ids_grow_step (traffic : Traffic) (turn : Nat) :
    traffic.catalog.ids <+: (traffic.step turn).catalog.ids := by
  cases present : traffic.activities[turn]? with
  | none => rw [step_of_absent present]
  | some activity =>
      rw [step_of_present present]
      exact ids_grow_advance activity traffic.catalog

theorem ids_grow (calls : List Call) {before schedule : List Nat}
    (reached : before <+: schedule) :
    (catalogAt calls before).ids <+: (catalogAt calls schedule).ids := by
  obtain ⟨rest, rfl⟩ := reached
  induction rest using List.reverseRecOn with
  | nil => rw [List.append_nil]
  | append_singleton rest turn induction =>
      refine induction.trans ?_
      rw [← List.append_assoc, catalogAt, catalogAt, after_concat]
      exact ids_grow_step _ turn

/-- An evaluation has an answer once it had a turn, and it answers by what it found then. -/
theorem finished_evaluate_iff {calls : List Call} {schedule : List Nat} {request : Nat}
    {traced : Bool} {id : Text} {record : Record} {result : Except RuleError Answer}
    (called : calls[request]? = some (.evaluate traced id record)) :
    (after calls schedule).activities[request]? = some (.finished result) ↔
      ∃ before, (turns request schedule).head? = some before ∧
        result = Call.evaluated traced id record ((catalogAt calls before).rule? id) := by
  rw [activities_after, called, Option.map_some, Option.some.injEq, Call.activity]
  cases turns request schedule with
  | nil =>
      constructor
      · intro same
        cases same
      · rintro ⟨before, absent, -⟩
        cases absent
  | cons first later =>
      rw [List.map_cons, Activity.after, Activity.advance, Activity.after_finished,
        Activity.finished.injEq]
      constructor
      · rintro rfl
        exact ⟨first, rfl, rfl⟩
      · rintro ⟨before, same, rfl⟩
        cases same
        rfl

/-- A combination finds the documents with its ids, one in each turn, in the order of first mention.
-/
theorem finding_combine {calls : List Call} {schedule : List Nat} {request : Nat}
    {ids read unread : List Text} {id : Text} (called : calls[request]? = some (.combine ids))
    (mentioned : Catalog.firstMentions ids = read ++ id :: unread)
    (turns_length : (turns request schedule).length = read.length) :
    ∃ next, (after calls schedule).activities[request]? = some (.finding id next) := by
  have some_id : ¬ids.isEmpty = true := by
    intro empty
    rw [List.isEmpty_iff.mp empty] at mentioned
    cases read <;> cases mentioned
  rw [activities_after, called, Option.map_some, Call.activity, if_neg some_id]
  rcases Activity.after_gathering_cases ids (catalogAt calls) (turns request schedule) with
    ⟨read', id', next, unread', split, read_length, finds⟩ | ⟨moment, later, turns_eq, -⟩
  · rw [mentioned] at split
    obtain ⟨-, split⟩ := List.append_inj split (turns_length.symm.trans read_length.symm)
    cases split
    exact ⟨next, congrArg some finds⟩
  · have lengths := congrArg List.length turns_eq
    rw [turns_length, mentioned, List.length_append, List.length_map, List.length_append,
      List.length_cons] at lengths
    omega

/-- What holds of calls at work after the turns of a schedule, which may end at any moment. -/
structure KeepsRules (calls : List Call) (schedule : List Nat) : Prop where
  /-- Each document holds the text and the tree of one rule, the one written last under its id. -/
  held : ∀ document ∈ (catalogAt calls schedule).documents, ∃ rule,
    (after calls schedule).current? document.id = some rule ∧ document.Holds rule
  /-- So what is found under an id is that rule, and nothing if none was written. -/
  found : ∀ id, (catalogAt calls schedule).rule? id =
    ((after calls schedule).current? id).map .ok
  /-- Each rule was written by one call, in the turn after those in which the call had read what it
  made the rule of.  A combination reads once for each of its ids in the order of first mention, and
  combines what was held under the ids at those moments, in their order and with repetitions. -/
  written : ∀ write ∈ (after calls schedule).writes, ∃ call reads before later,
    calls[write.request]? = some call ∧
      turns write.request schedule = reads ++ before :: later ∧
      call.Makes (catalogAt calls) reads write.rule ∧
      write.IsBy (catalogAt calls before) call
  /-- There are as many documents as were inserted, and their ids differ. -/
  size_eq : (catalogAt calls schedule).size =
    ((after calls schedule).writes.filter (·.inserts)).length
  nodup : (catalogAt calls schedule).ids.Nodup
  /-- A document that a call gave was inserted by it. -/
  inserted : ∀ (request : Nat) document,
    (after calls schedule).activities[request]? = some (.finished (.ok (.created document))) →
    ∃ write ∈ (after calls schedule).writes, write.request = request ∧ write.inserts = true ∧
      write.id = document.id ∧ document.Holds write.rule
  /-- Once given, an id is there for good. -/
  kept : ∀ before, before <+: schedule → ∀ (request : Nat) document,
    (after calls before).activities[request]? = some (.finished (.ok (.created document))) →
    document.id ∈ (catalogAt calls schedule).ids
  /-- An evaluation answers as soon as it had a turn, by what was held under the id at that moment.
  -/
  evaluated : ∀ request traced id record result,
    calls[request]? = some (.evaluate traced id record) →
    ((after calls schedule).activities[request]? = some (.finished result) ↔
      ∃ before, (turns request schedule).head? = some before ∧
        result = Call.evaluated traced id record ((catalogAt calls before).rule? id))
  /-- A combination finds the documents with its ids, one in each turn. -/
  gathered : ∀ request ids read id unread, calls[request]? = some (.combine ids) →
    Catalog.firstMentions ids = read ++ id :: unread →
    (turns request schedule).length = read.length →
    ∃ next, (after calls schedule).activities[request]? = some (.finding id next)

/-- Concurrent calls do not corrupt or lose rules, whatever calls there are and however their turns
are interleaved; and alone, each of them does what the service does. -/
theorem concurrent_calls_keep_rules (calls : List Call) (schedule : List Nat) :
    KeepsRules calls schedule ∧
    ∀ call ∈ calls, ∀ catalog, call.activity.alone catalog =
      ((call.perform ⟨catalog, none, []⟩).result,
        (call.perform ⟨catalog, none, []⟩).store.catalog) := by
  have faithful := isFaithful_after calls schedule
  refine ⟨?_, fun call _ => Activity.alone_activity call⟩
  constructor
  case held =>
    intro document member
    obtain ⟨rule, current, held, -⟩ := faithful.held document member
    exact ⟨rule, current, held⟩
  case found => exact faithful.rule?_eq
  case written => exact fun _ => exists_call_of_mem_writes
  case size_eq =>
    rw [← Catalog.length_ids, catalogAt, faithful.inserted, List.length_reverse, List.length_map]
  case nodup => exact faithful.numbered.nodup
  case inserted => exact fun _ _ => exists_write_of_created
  case kept =>
    intro before reached request document created
    obtain ⟨write, member, -, -, id_eq, -⟩ := exists_write_of_created created
    rw [← id_eq]
    apply (ids_grow calls reached).subset
    exact (isFaithful_after calls before).known write member
  case evaluated => exact fun _ _ _ _ _ => finished_evaluate_iff
  case gathered => exact fun _ _ _ _ _ => finding_combine

/-- An evaluation answers by the rule that it found, although the rule is then modified. -/
theorem concurrent_calls_keep_rules_around_modification :
    let calls : List Call :=
      [.create "a = x".toList, .modify "$1".toList "a = y".toList,
        .evaluate false "$1".toList [("a".toList, .text "x".toList)]]
    (after calls [0, 2, 1]).activities[2]? =
        some (.finished ((Tree.execute false (.leaf "a = x".toList)
          [("a".toList, .text "x".toList)]).map .evaluated)) ∧
      ∀ document ∈ (catalogAt calls [0, 2, 1]).documents, document.ruleText = "a = y".toList := by
  intro calls
  have first_built : Tree.ofText "a = x".toList = .ok (.leaf "a = x".toList) := by
    cbv
  have second_built : Tree.ofText "a = y".toList = .ok (.leaf "a = y".toList) := by
    cbv
  have start_eq : start calls = ⟨.empty,
      [.storing ⟨"a = x".toList, .leaf "a = x".toList⟩,
        .updating "$1".toList ⟨"a = y".toList, .leaf "a = y".toList⟩ fun count =>
          .finished (if count = 0 then .error (.notFound ["$1".toList]) else .ok .done),
        (Call.evaluate false "$1".toList [("a".toList, .text "x".toList)]).activity], []⟩ := by
    simp only [start, calls, List.map_cons, List.map_nil, Call.activity,
      Rule.ofText_leaf first_built rfl, Rule.ofText_leaf second_built rfl]
  obtain ⟨keeps, -⟩ := concurrent_calls_keep_rules calls [0, 2, 1]
  obtain ⟨keeps_then, -⟩ := concurrent_calls_keep_rules calls [0]
  constructor
  · apply (keeps.evaluated 2 false "$1".toList [("a".toList, .text "x".toList)] _ rfl).mpr
    have current : (after calls [0]).current? "$1".toList =
        some ⟨"a = x".toList, .leaf "a = x".toList⟩ := by
      rw [after, start_eq]
      rfl
    refine ⟨[0], rfl, ?_⟩
    rw [keeps_then.found, current]
    rfl
  · intro document member
    have ids_eq : (catalogAt calls [0, 2, 1]).ids = ["$1".toList] := by
      rw [catalogAt, after, start_eq]
      rfl
    have current : (after calls [0, 2, 1]).current? "$1".toList =
        some ⟨"a = y".toList, .leaf "a = y".toList⟩ := by
      rw [after, start_eq]
      rfl
    have known : document.id ∈ (catalogAt calls [0, 2, 1]).ids := List.mem_map_of_mem member
    rw [ids_eq, List.mem_singleton] at known
    obtain ⟨rule, written, held⟩ := keeps.held document member
    rw [known, current] at written
    cases written
    exact held.1

end Traffic

end Rulebook
