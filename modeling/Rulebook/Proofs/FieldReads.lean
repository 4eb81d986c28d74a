import Rulebook.Proofs.Addresses

/-!
# Fields that evaluations read

An evaluation reaches leaves from left to right, up to its end or its error.  It reads the fields of
the comparisons at these leaves and nothing else of the record: on another record that has the same
values there it goes the same way and finds the same.
-/

namespace Rulebook

namespace Json.Members

theorem get?_insert_of_ne {key field : Text} (other : field ≠ key) (value : Value)
    (members : Members) : (members.insert key value).get? field = members.get? field := by
  induction members with
  | nil => simp only [insert, get?, if_neg other]
  | cons member rest induction =>
      obtain ⟨name, old⟩ := member
      rw [insert]
      split
      · next same =>
        subst same
        rw [get?, get?, if_neg other, if_neg other]
      · split
        · rw [get?, if_neg other]
        · rw [get?, get?, induction]

/-- A value that is found is that of a member whose key is the very field. -/
theorem mem_of_get? {field : Text} {value : Value} {members : Members}
    (found : members.get? field = some value) : (field, value) ∈ members := by
  induction members with
  | nil => cases found
  | cons member rest induction =>
      obtain ⟨name, old⟩ := member
      rw [get?] at found
      split at found
      · next same =>
        cases found
        rw [same]
        exact List.mem_cons_self
      · exact List.mem_cons_of_mem _ (induction found)

theorem get?_eq_none_iff {field : Text} {members : Members} :
    members.get? field = none ↔ ∀ value, (field, value) ∉ members := by
  induction members with
  | nil => simp [get?]
  | cons member rest induction =>
      obtain ⟨name, old⟩ := member
      rw [get?]
      split
      · next same =>
        subst same
        exact iff_of_false (Option.some_ne_none old) fun absent => absent old List.mem_cons_self
      · next apart => simp [induction, apart]

end Json.Members

namespace Tree

variable {record other : Record} {connective : Connective} {left right tree : Tree}
variable {path : Path} {condition : Text} {error : RuleError}

/-- Whether an evaluation reads a field: it is the field of a comparison at a leaf that is reached.
-/
def Reads (record : Record) (tree : Tree) (field : Text) : Prop :=
  ∃ path condition comparison, tree.HasLeaf path condition ∧ tree.IsReached record path ∧
    Comparison.ofText condition = .ok comparison ∧ comparison.field = field

theorem reads_left {field : Text} (reads : left.Reads record field) :
    (node connective left right).Reads record field := by
  obtain ⟨path, condition, comparison, has, reached, read⟩ := reads
  exact ⟨.left :: path, condition, comparison, hasLeaf_left.mpr has, isReached_left.mpr reached,
    read⟩

theorem reads_right {field : Text} {matched : Bool} (reads : right.Reads record field)
    (left_ran : left.evaluate record = .ok matched)
    (undecided : connective.decidedBy matched = false) :
    (node connective left right).Reads record field := by
  obtain ⟨path, condition, comparison, has, reached, read⟩ := reads
  exact ⟨.right :: path, condition, comparison, hasLeaf_right.mpr has,
    reached.of_right left_ran undecided, read⟩

/-- A condition is evaluated alike on records that agree on its field. -/
theorem evaluateLeaf_congr
    (agree : ∀ comparison, Comparison.ofText condition = .ok comparison →
      other.get? comparison.field = record.get? comparison.field) :
    evaluateLeaf condition other = evaluateLeaf condition record := by
  rw [evaluateLeaf, evaluateLeaf]
  cases read : Comparison.ofText condition with
  | error fault => rfl
  | ok comparison =>
      dsimp only
      rw [agree comparison read]

/-- Evaluations visit the same on records that agree on the fields that one of them reads.

The induction goes along that evaluation: where a left side has no verdict, or one that decides, the
right side is not evaluated on either record. -/
theorem visit_congr (agree : ∀ field, tree.Reads record field →
    other.get? field = record.get? field) (above : Path) :
    tree.visit above other = tree.visit above record := by
  induction tree generalizing above with
  | leaf condition =>
      have same : evaluateLeaf condition other = evaluateLeaf condition record :=
        evaluateLeaf_congr fun comparison read =>
          agree comparison.field ⟨[], condition, comparison, rfl, isReached_leaf, read, rfl⟩
      rw [visit, visit, same]
  | node connective left right left_induction right_induction =>
      rw [visit, visit, left_induction (fun field reads => agree field (reads_left reads))]
      cases left_visit : left.visit (above ++ [.left]) record with
      | error error => rfl
      | ok result =>
        obtain ⟨matched, visits⟩ := result
        dsimp only
        cases decides : connective.decidedBy matched with
        | true => rfl
        | false =>
            rw [right_induction fun field reads =>
              agree field (reads_right reads (evaluate_of_visit left_visit) decides)]

/-- An evaluation that fails reaches the leaves up to the one that fails first, unless they are
skipped. -/
theorem FailsFirst.isReached_iff {otherPath : Path} (first : tree.FailsFirst record path error)
    (has : tree.HasLeaf otherPath condition) :
    tree.IsReached record otherPath ↔
      ¬tree.IsSkipped record otherPath ∧ ¬path.IsLeftOf otherPath := by
  obtain ⟨own, own_has, refused⟩ := first.fails
  constructor
  · intro reached
    refine ⟨reached.visited, fun before => ?_⟩
    rcases reached.earlier path own own_has before with skipped | ⟨outcome, outcome_eq⟩
    · exact first.visited skipped
    · rw [refused] at outcome_eq
      cases outcome_eq
  · rintro ⟨visited, not_after⟩
    refine ⟨visited, fun earlier condition earlier_has before => ?_⟩
    apply first.earlier earlier condition earlier_has
    rcases own_has.eq_or_isLeftOf has with rfl | after | up_to
    · exact before
    · exact absurd after not_after
    · exact before.trans up_to

/-- Evaluations read the fields of the leaves that they reach, and nothing else.

On every record that agrees on these fields, by exact name, the evaluation has the same result or
error.  So no other key counts, whatever its value is.  The leaves that are reached are those that
are not skipped, and if the evaluation fails, only those up to the first one that fails. -/
theorem evaluation_reads_reached_fields (tree : Tree) (record : Record) (traced : Bool) :
    (∀ other : Record,
      (∀ field, tree.Reads record field → other.get? field = record.get? field) →
      tree.execute traced other = tree.execute traced record) ∧
    (∀ key value, ¬tree.Reads record key →
      tree.execute traced (record.insert key value) = tree.execute traced record) ∧
    (∀ field value, (record.get? field = some value → (field, value) ∈ record) ∧
      (record.get? field = none ↔ ∀ value, (field, value) ∉ record)) ∧
    (∀ evaluation, tree.execute traced record = .ok evaluation →
      ∀ path, tree.IsReached record path ↔ ¬tree.IsSkipped record path) ∧
    ∀ error, tree.execute traced record = .error error →
      ∃ path, tree.FailsFirst record path error ∧
        ∀ other condition, tree.HasLeaf other condition →
          (tree.IsReached record other ↔
            ¬tree.IsSkipped record other ∧ ¬path.IsLeftOf other) := by
  have congr : ∀ other : Record,
      (∀ field, tree.Reads record field → other.get? field = record.get? field) →
      tree.execute traced other = tree.execute traced record := by
    intro other agree
    rw [execute, execute, visit_congr agree]
  refine ⟨congr, fun key value unread => ?_,
    fun field value => ⟨Json.Members.mem_of_get?, Json.Members.get?_eq_none_iff⟩,
    fun evaluation ran path => ?_, fun error failed => ?_⟩
  · refine congr _ fun field reads => Json.Members.get?_insert_of_ne ?_ value record
    rintro rfl
    exact unread reads
  · obtain ⟨visits, visit_eq, _⟩ := exists_visits_of_execute ran
    exact isReached_iff_of_evaluate (evaluate_of_visit visit_eq)
  · obtain ⟨path, first⟩ := exists_failsFirst (evaluate_of_execute_error failed)
    exact ⟨path, first, fun other condition has => first.isReached_iff has⟩

/-- A comparison that fails ends an evaluation before the field of the next one is read: whatever
value that field is given, the error stays the same. -/
theorem evaluation_reads_reached_fields_up_to_error :
    let record : Record := [("a".toList, .number (.integer 1)), ("b".toList, .text ['x'])]
    let tree := node .or (leaf "a = 5".toList)
      (node .and (leaf "b > 1".toList) (leaf "c < 3".toList))
    let error := RuleError.typeMismatch "b".toList .integer .string
    tree.execute true record = .error error ∧ ¬tree.Reads record "c".toList ∧
      ∀ value, tree.execute true (record.insert "c".toList value) = .error error := by
  intro record tree error
  have failed : tree.execute true record = .error error := rfl
  have unread : ¬tree.Reads record "c".toList := by
    have other_field {condition : Text} {own comparison : Comparison}
        (own_read : Comparison.ofText condition = .ok own) (apart : own.field ≠ "c".toList)
        (read : Comparison.ofText condition = .ok comparison) : comparison.field ≠ "c".toList := by
      rw [own_read] at read
      cases read
      exact apart
    rintro ⟨path, condition, comparison, has, reached, read, same_field⟩
    rcases has.cases_node with ⟨below, rfl, has_left⟩ | ⟨below, rfl, has_right⟩
    · obtain ⟨rfl, rfl⟩ := hasLeaf_leaf.mp has_left
      exact other_field rfl (by decide) read same_field
    · rcases has_right.cases_node with ⟨below, rfl, has_left⟩ | ⟨below, rfl, has_right⟩
      · obtain ⟨rfl, rfl⟩ := hasLeaf_leaf.mp has_left
        exact other_field rfl (by decide) read same_field
      · have refused : outcomeOf record "b > 1".toList = .error error := rfl
        rcases reached.earlier [.right, .left] _ rfl ⟨[.right], [], below, rfl, rfl⟩ with
          skipped | ⟨outcome, outcome_eq⟩
        · rcases isSkipped_right.mp skipped with ⟨matched, left_ran, decided⟩ | skipped
          · cases left_ran
            cases decided
          · exact not_isSkipped_leaf (isSkipped_left.mp skipped)
        · rw [refused] at outcome_eq
          cases outcome_eq
  refine ⟨failed, unread, fun value => ?_⟩
  rw [(evaluation_reads_reached_fields tree record true).2.1 "c".toList value unread, failed]

end Tree

end Rulebook
