import Mathlib.Data.List.Infix
import Rulebook.Proofs.Activities

/-!
# Requests that work on one catalogue

Several calls are at work on one catalogue at a time.  A schedule tells whose turn it is, one turn
after another, and in each turn one operation on the catalogue is done.  What a call does depends on
nothing but the catalogues that it has found in its turns, and what it wrote is in the record of all
writes.
-/

namespace Rulebook

/-- A rule that was written. -/
structure Write where
  /-- The place of the call that wrote it. -/
  request : Nat
  id : Text
  rule : Rule
  /-- Whether the rule was inserted; else it took the place of another one. -/
  inserts : Bool

/-- What the next operation of a call writes. -/
def Activity.write? (request : Nat) : Activity → Catalog → Option Write
  | .inserting rule _, catalog =>
      some ⟨request, (catalog.insert rule.text rule.tree.encode).1.id, rule, true⟩
  | .updating id rule _, catalog =>
      if (catalog.find? id).isSome then some ⟨request, id, rule, false⟩ else none
  | .finished _, _ | .finding _ _, _ => none

/-- Calls at work on a catalogue. -/
structure Traffic where
  catalog : Catalog
  /-- What is left to do of each call. -/
  activities : List Activity
  /-- What was written, last first. -/
  writes : List Write

namespace Traffic

/-- Calls of which nothing is done. -/
def start (calls : List Call) : Traffic :=
  ⟨.empty, calls.map Call.activity, []⟩

def step (traffic : Traffic) (request : Nat) : Traffic :=
  match traffic.activities[request]? with
  | none => traffic
  | some activity =>
      ⟨(activity.advance traffic.catalog).2,
        traffic.activities.set request (activity.advance traffic.catalog).1,
        (activity.write? request traffic.catalog).toList ++ traffic.writes⟩

/-- Where calls are after the turns of a schedule. -/
def after (calls : List Call) (schedule : List Nat) : Traffic :=
  schedule.foldl step (start calls)

/-- The catalogue at a moment, which is given by the turns up to there. -/
def catalogAt (calls : List Call) (before : List Nat) : Catalog :=
  (after calls before).catalog

/-- The rule that was written last under an id. -/
def current? (traffic : Traffic) (id : Text) : Option Rule :=
  (traffic.writes.find? (·.id == id)).map Write.rule

/-- The moments before the turns of a call in a schedule that comes after other turns. -/
def turnsFrom (request : Nat) (done : List Nat) : List Nat → List (List Nat)
  | [] => []
  | turn :: schedule =>
      if turn = request then done :: turnsFrom request (done ++ [turn]) schedule
      else turnsFrom request (done ++ [turn]) schedule

/-- The moments before the turns of a call. -/
def turns (request : Nat) (schedule : List Nat) : List (List Nat) :=
  turnsFrom request [] schedule

/-! ## Moments -/

section Moments

variable {request : Nat} {before schedule : List Nat}

theorem turnsFrom_append (request : Nat) (done first second : List Nat) :
    turnsFrom request done (first ++ second) =
      turnsFrom request done first ++ turnsFrom request (done ++ first) second := by
  induction first generalizing done with
  | nil => rw [List.nil_append, turnsFrom, List.nil_append, List.append_nil]
  | cons turn first induction =>
      rw [List.cons_append, turnsFrom, turnsFrom, induction, List.append_assoc]
      split <;> rfl

theorem turns_concat (request : Nat) (schedule : List Nat) (turn : Nat) :
    turns request (schedule ++ [turn]) =
      turns request schedule ++ if turn = request then [schedule] else [] :=
  turnsFrom_append request [] schedule [turn]

theorem exists_turns_eq (reached : before ++ [request] <+: schedule) :
    ∃ later, turns request schedule = turns request before ++ before :: later := by
  obtain ⟨rest, rfl⟩ := reached
  refine ⟨turnsFrom request (before ++ [request]) rest, ?_⟩
  rw [turns, turnsFrom_append, ← turns, turns_concat, if_pos rfl, List.append_assoc]
  rfl

/-- Each turn comes before the schedule ends, after the turns that come earlier. -/
theorem of_turns_eq {earlier later : List (List Nat)}
    (turns_eq : turns request schedule = earlier ++ before :: later) :
    before ++ [request] <+: schedule ∧ turns request before = earlier := by
  induction schedule using List.reverseRecOn generalizing later with
  | nil => cases earlier <;> cases turns_eq
  | append_singleton schedule turn induction =>
      rw [turns_concat] at turns_eq
      split at turns_eq
      · next same =>
        subst same
        rcases List.eq_nil_or_concat later with rfl | ⟨later, last, rfl⟩
        · obtain ⟨rfl, same⟩ := List.append_inj' turns_eq rfl
          cases same
          exact ⟨List.prefix_rfl, rfl⟩
        · rw [List.concat_eq_append, ← List.cons_append, ← List.append_assoc] at turns_eq
          obtain ⟨turns_eq, -⟩ := List.append_inj' turns_eq rfl
          obtain ⟨reached, earlier_eq⟩ := induction turns_eq
          exact ⟨reached.trans (List.prefix_append _ _), earlier_eq⟩
      · rw [List.append_nil] at turns_eq
        obtain ⟨reached, earlier_eq⟩ := induction turns_eq
        exact ⟨reached.trans (List.prefix_append _ _), earlier_eq⟩

end Moments

/-! ## Each call by itself -/

theorem after_concat (calls : List Call) (schedule : List Nat) (turn : Nat) :
    after calls (schedule ++ [turn]) = (after calls schedule).step turn :=
  List.foldl_concat _ _ _ _

theorem step_of_absent {traffic : Traffic} {turn : Nat}
    (absent : traffic.activities[turn]? = none) : traffic.step turn = traffic := by
  rw [step, absent]

theorem step_of_present {traffic : Traffic} {turn : Nat} {activity : Activity}
    (present : traffic.activities[turn]? = some activity) :
    traffic.step turn = ⟨(activity.advance traffic.catalog).2,
      traffic.activities.set turn (activity.advance traffic.catalog).1,
      (activity.write? turn traffic.catalog).toList ++ traffic.writes⟩ := by
  rw [step, present]

theorem activities_step (traffic : Traffic) (turn request : Nat) :
    (traffic.step turn).activities[request]? =
      if turn = request then
        traffic.activities[request]?.map fun activity => (activity.advance traffic.catalog).1
      else traffic.activities[request]? := by
  cases present : traffic.activities[turn]? with
  | none =>
      rw [step_of_absent present]
      split
      · next same => rw [← same, present, Option.map_none]
      · rfl
  | some activity =>
      obtain ⟨below, -⟩ := List.getElem?_eq_some_iff.mp present
      rw [step_of_present present]
      split
      · next same =>
        subst same
        rw [List.getElem?_set_self below, present, Option.map_some]
      · next other => exact List.getElem?_set_ne other

/-- What is left of a call depends on the catalogues that it has found in its turns. -/
theorem activities_after (calls : List Call) (schedule : List Nat) (request : Nat) :
    (after calls schedule).activities[request]? =
      calls[request]?.map fun call =>
        call.activity.after ((turns request schedule).map (catalogAt calls)) := by
  induction schedule using List.reverseRecOn with
  | nil => exact List.getElem?_map
  | append_singleton schedule turn induction =>
      rw [after_concat, turns_concat, activities_step, induction]
      split
      · rw [Option.map_map, List.map_append]
        congr 1
        funext call
        exact (call.activity.after_concat _ _).symm
      · rw [List.append_nil]

/-! ## What is written -/

theorem writes_step (traffic : Traffic) (turn : Nat) :
    (traffic.step turn).writes =
      (traffic.activities[turn]?.bind (·.write? turn traffic.catalog)).toList ++
        traffic.writes := by
  cases present : traffic.activities[turn]? with
  | none =>
      rw [step_of_absent present]
      rfl
  | some activity =>
      rw [step_of_present present]
      rfl

theorem request_of_write? {request : Nat} {activity : Activity} {catalog : Catalog} {write : Write}
    (writes : activity.write? request catalog = some write) : write.request = request := by
  cases activity with
  | finished result => cases writes
  | inserting rule next =>
      cases writes
      rfl
  | finding id next => cases writes
  | updating id rule next =>
      rw [Activity.write?] at writes
      split at writes
      · cases writes
        rfl
      · cases writes

/-- What was written was written in a turn of the call that wrote it. -/
theorem mem_writes_iff {calls : List Call} {schedule : List Nat} {write : Write} :
    write ∈ (after calls schedule).writes ↔
      ∃ before activity, before ++ [write.request] <+: schedule ∧
        (after calls before).activities[write.request]? = some activity ∧
        activity.write? write.request (catalogAt calls before) = some write := by
  induction schedule using List.reverseRecOn with
  | nil =>
      constructor
      · intro member
        cases member
      · rintro ⟨before, _, reached, _⟩
        simp at reached
  | append_singleton schedule turn induction =>
      rw [after_concat, writes_step, List.mem_append, induction, Option.mem_toList,
        Option.bind_eq_some_iff]
      constructor
      · rintro (⟨activity, present, writes⟩ | ⟨before, activity, reached, written⟩)
        · obtain rfl := request_of_write? writes
          exact ⟨schedule, activity, List.prefix_rfl, present, writes⟩
        · exact ⟨before, activity, reached.trans (List.prefix_append _ _), written⟩
      · rintro ⟨before, activity, reached, present, writes⟩
        rcases List.prefix_concat_iff.mp reached with whole | reached
        · obtain ⟨rfl, last⟩ := List.append_inj' whole rfl
          obtain rfl := List.singleton_inj.mp last
          exact .inl ⟨activity, present, writes⟩
        · exact .inr ⟨before, activity, reached, present, writes⟩

end Traffic

end Rulebook
