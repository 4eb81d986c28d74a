import Rulebook.Proofs.TraceLines

/-!
# Traces as complete accounts

Every visit accounts for a place of the tree: the leaf of a condition, or the right side that a
connective skips.  The places of an evaluation that ends part the leaves among them and stand from
left to right.  So each leaf has one line of its own or lies below one place that is skipped, and
there are no other lines.
-/

namespace Rulebook

namespace Visit

/-- The place that a visit accounts for: a leaf, or a right side that is skipped. -/
def place : Visit → Path
  | .condition path _ _ _ => path
  | .skip path _ => path ++ [.right]

theorem address_prefix_place (visit : Visit) : visit.address <+: visit.place := by
  cases visit with
  | condition path comparison value matched => exact List.prefix_refl path
  | skip path connective => exact List.prefix_append path [.right]

end Visit

namespace Tree

variable {record : Record} {tree : Tree} {above path : Path} {matched : Bool}
variable {visits : List Visit}

/-! ## Places -/

theorem prefix_address_of_mem_visits (ran : tree.visit above record = .ok (matched, visits))
    {visit : Visit} (member : visit ∈ visits) : above <+: visit.address := by
  obtain ⟨below, address_eq, _⟩ := tells_of_mem_visits ran member
  exact ⟨below, address_eq.symm⟩

theorem prefix_place_of_mem_visits (ran : tree.visit above record = .ok (matched, visits))
    {visit : Visit} (member : visit ∈ visits) : above <+: visit.place :=
  (prefix_address_of_mem_visits ran member).trans visit.address_prefix_place

theorem pairwise_place (ran : tree.visit above record = .ok (matched, visits)) :
    visits.Pairwise fun visit later => visit.place.IsLeftOf later.place := by
  induction tree generalizing above matched visits with
  | leaf condition =>
      obtain ⟨comparison, _, _, rfl⟩ := visit_leaf_eq_ok ran
      exact List.pairwise_singleton _ _
  | node connective left right left_induction right_induction =>
      obtain ⟨leftMatched, leftVisits, left_ran, ⟨decided, rfl, rfl⟩ | ⟨undecided, rightVisits,
        right_ran, rfl⟩⟩ := visit_node_eq_ok ran
      · refine List.pairwise_append.mpr ⟨left_induction left_ran, List.pairwise_singleton _ _, ?_⟩
        intro visit of_left own is_own
        rw [List.mem_singleton] at is_own
        subst is_own
        exact Path.isLeftOf_of_prefix (prefix_place_of_mem_visits left_ran of_left)
          (List.prefix_refl _)
      · refine List.pairwise_append.mpr ⟨left_induction left_ran, right_induction right_ran, ?_⟩
        intro visit of_left later of_right
        exact Path.isLeftOf_of_prefix (prefix_place_of_mem_visits left_ran of_left)
          (prefix_place_of_mem_visits right_ran of_right)

theorem exists_place_prefix (ran : tree.visit above record = .ok (matched, visits))
    {condition : Text} (has : tree.HasLeaf path condition) :
    ∃ visit ∈ visits, visit.place <+: above ++ path := by
  induction tree generalizing above path matched visits with
  | leaf own =>
      obtain ⟨comparison, _, _, rfl⟩ := visit_leaf_eq_ok ran
      exact ⟨_, List.mem_singleton_self _, List.prefix_append above path⟩
  | node connective left right left_induction right_induction =>
      have below_side (side : Side) (below : Path) :
          above ++ [side] ++ below = above ++ side :: below := by
        rw [List.append_assoc]
        rfl
      obtain ⟨leftMatched, leftVisits, left_ran, rest⟩ := visit_node_eq_ok ran
      rcases has.cases_node with ⟨below, rfl, has_left⟩ | ⟨below, rfl, has_right⟩
      · obtain ⟨visit, member, accounts⟩ := left_induction left_ran has_left
        rw [below_side] at accounts
        rcases rest with ⟨_, _, rfl⟩ | ⟨_, rightVisits, _, rfl⟩
        · exact ⟨visit, List.mem_append_left _ member, accounts⟩
        · exact ⟨visit, List.mem_append_left _ member, accounts⟩
      · rcases rest with ⟨_, _, rfl⟩ | ⟨_, rightVisits, right_ran, rfl⟩
        · refine ⟨.skip above connective, by simp, ?_⟩
          rw [← below_side]
          exact List.prefix_append _ below
        · obtain ⟨visit, member, accounts⟩ := right_induction right_ran has_right
          rw [below_side] at accounts
          exact ⟨visit, List.mem_append_right _ member, accounts⟩

/-- Exactly one visit accounts for a leaf. -/
theorem exists_only_place (ran : tree.visit [] record = .ok (matched, visits)) {condition : Text}
    (has : tree.HasLeaf path condition) :
    ∃ before visit after, visits = before ++ visit :: after ∧ visit.place <+: path ∧
      ∀ other ∈ before ++ after, ¬other.place <+: path := by
  obtain ⟨visit, member, accounts⟩ := exists_place_prefix ran has
  obtain ⟨before, after, rfl⟩ := List.append_of_mem member
  refine ⟨before, visit, after, rfl, accounts, fun other other_member => ?_⟩
  obtain ⟨_, later, across⟩ := List.pairwise_append.mp (pairwise_place ran)
  rcases List.mem_append.mp other_member with earlier | further
  · exact fun other_accounts =>
      (across other earlier visit List.mem_cons_self).not_isPrefix other_accounts accounts
  · exact ((List.pairwise_cons.mp later).1 other further).not_isPrefix accounts

/-! ## Skipped right sides -/

theorem visits_ne_nil (ran : tree.visit above record = .ok (matched, visits)) : visits ≠ [] := by
  induction tree generalizing above matched visits with
  | leaf condition =>
      obtain ⟨comparison, _, _, rfl⟩ := visit_leaf_eq_ok ran
      exact List.cons_ne_nil _ _
  | node connective left right left_induction right_induction =>
      obtain ⟨leftMatched, leftVisits, left_ran, ⟨_, _, rfl⟩ | ⟨_, rightVisits, _, rfl⟩⟩ :=
        visit_node_eq_ok ran
      · exact List.append_ne_nil_of_left_ne_nil (left_induction left_ran) _
      · exact List.append_ne_nil_of_left_ne_nil (left_induction left_ran) _

/-- An element of two lists in a row stands in the first or in the second one. -/
theorem split_append {α : Type} {left right before after : List α} {x : α}
    (split : left ++ right = before ++ x :: after) :
    (∃ tail, left = before ++ x :: tail ∧ after = tail ++ right) ∨
      ∃ front, before = left ++ front ∧ right = front ++ x :: after := by
  rcases List.append_eq_append_iff.mp split with second | ⟨tail, left_eq, rest_eq⟩
  · exact .inr second
  · cases tail with
    | nil => exact .inr ⟨[], by simpa using left_eq.symm, by simpa using rest_eq.symm⟩
    | cons y tail =>
        cases rest_eq
        exact .inl ⟨tail, left_eq, rfl⟩

/-- Whether the last visits before a connective that skips its right side are those of its left
side, and no other visits are. -/
def FollowsLeftSide (address : Path) (before after : List Visit) : Prop :=
  ∃ earlier own, before = earlier ++ own ∧ own ≠ [] ∧
    (∀ visit ∈ own, address ++ [.left] <+: visit.address) ∧
    ∀ visit ∈ earlier ++ after, ¬address ++ [.left] <+: visit.address

theorem FollowsLeftSide.frame {address : Path} {before after front back : List Visit}
    (follows : FollowsLeftSide address before after)
    (front_elsewhere : ∀ visit ∈ front, ¬address ++ [.left] <+: visit.address)
    (back_elsewhere : ∀ visit ∈ back, ¬address ++ [.left] <+: visit.address) :
    FollowsLeftSide address (front ++ before) (after ++ back) := by
  obtain ⟨earlier, own, rfl, some_visit, within, elsewhere⟩ := follows
  refine ⟨front ++ earlier, own, (List.append_assoc _ _ _).symm, some_visit, within, ?_⟩
  rw [List.forall_mem_append] at elsewhere
  simp only [List.forall_mem_append]
  exact ⟨⟨front_elsewhere, elsewhere.1⟩, elsewhere.2, back_elsewhere⟩

/-- A connective that skips its right side is visited right after its left side.

The induction goes along the evaluation: the visit of the connective stands among those of the left
side, or it is that of the node itself, or it stands among those of the right side. -/
theorem followsLeftSide (ran : tree.visit above record = .ok (matched, visits)) {address : Path}
    {connective : Connective} {before after : List Visit}
    (split : visits = before ++ .skip address connective :: after) :
    FollowsLeftSide address before after := by
  induction tree generalizing above matched visits before after with
  | leaf condition =>
      obtain ⟨comparison, _, _, rfl⟩ := visit_leaf_eq_ok ran
      have member : Visit.skip address connective ∈ before ++ .skip address connective :: after :=
        List.mem_append_right before List.mem_cons_self
      rw [← split, List.mem_singleton] at member
      cases member
  | node own left right left_induction right_induction =>
      have on_side {side : Side} {sideTree : Tree} {sideMatched : Bool} {front tail : List Visit}
          (ran : sideTree.visit (above ++ [side]) record =
            .ok (sideMatched, front ++ .skip address connective :: tail)) :
          above ++ [side] <+: address ++ [.left] :=
        (prefix_address_of_mem_visits ran
          (List.mem_append_right front List.mem_cons_self)).trans (List.prefix_append address _)
      obtain ⟨leftMatched, leftVisits, left_ran, ⟨decided, rfl, rfl⟩ | ⟨undecided, rightVisits,
        right_ran, rfl⟩⟩ := visit_node_eq_ok ran
      · rcases split_append split with ⟨tail, rfl, rfl⟩ | ⟨front, rfl, own_eq⟩
        · refine (left_induction left_ran rfl).frame (List.forall_mem_nil _) ?_
          rw [List.forall_mem_singleton]
          intro below
          have own_below : above ++ [.left] <+: above := (on_side left_ran).trans below
          have too_long := own_below.length_le
          rw [List.length_append, List.length_singleton] at too_long
          omega
        · obtain ⟨rfl, ⟨rfl, rfl⟩, rfl⟩ : front = [] ∧ (address = above ∧ connective = own) ∧
              after = [] := by
            simpa [List.append_eq_cons_iff] using own_eq.symm
          refine ⟨[], leftVisits, List.append_nil leftVisits, visits_ne_nil left_ran, ?_, ?_⟩
          · exact fun visit member => prefix_address_of_mem_visits left_ran member
          · exact List.forall_mem_nil _
      · rcases split_append split with ⟨tail, rfl, rfl⟩ | ⟨front, rfl, rfl⟩
        · refine (left_induction left_ran rfl).frame (List.forall_mem_nil _) ?_
          intro visit of_right
          exact Path.not_prefix_of_sides (by decide) (on_side left_ran)
            (prefix_address_of_mem_visits right_ran of_right)
        · have follows := (right_induction right_ran rfl).frame
            (fun visit of_left => Path.not_prefix_of_sides (by decide) (on_side right_ran)
              (prefix_address_of_mem_visits left_ran of_left))
            (List.forall_mem_nil _)
          rwa [List.append_nil] at follows

/-! ## Lines -/

/-- Whether exactly one of some lines has a property. -/
def OccursOnce (holds : Text → Prop) (lines : List Text) : Prop :=
  ∃ before line after, lines = before ++ line :: after ∧ holds line ∧
    ∀ other ∈ before ++ after, ¬holds other

/-- Whether a trace accounts for the leaf at a path: the leaf has one line of its own and lies below
no right side that is skipped, or it has no line and lies below the right side of exactly one
connective that has a line for skipping it. -/
def IsAccountedFor (trace : List Text) (path : Path) : Prop :=
  (OccursOnce (Visit.IsConditionLine path) trace ∧
    ∀ above, above ++ [.right] <+: path → ∀ line ∈ trace, ¬Visit.IsSkipLine above line) ∨
  ((∀ line ∈ trace, ¬Visit.IsConditionLine path line) ∧
    ∃ above, above ++ [.right] <+: path ∧ OccursOnce (Visit.IsSkipLine above) trace ∧
      ∀ other, other ++ [.right] <+: path → ∀ line ∈ trace, Visit.IsSkipLine other line →
        other = above)

/-- Whether a trace is a complete account of the evaluation of a tree on a record. -/
structure IsCompleteTrace (record : Record) (tree : Tree) (trace : List Text) : Prop where
  leaves : ∀ path condition, tree.HasLeaf path condition → IsAccountedFor trace path
  /-- Each line is that of a leaf, with its comparison, the value of the field in the record and the
  outcome, or that of a connective which its left side decides. -/
  lines : ∀ line ∈ trace,
    (∃ path condition comparison matched, tree.HasLeaf path condition ∧
      Comparison.ofText condition = .ok comparison ∧ outcomeOf record condition = .ok matched ∧
      line = (Visit.condition path comparison (record.get? comparison.field) matched).line) ∨
    ∃ path connective left right matched, tree.at? path = some (.node connective left right) ∧
      left.evaluate record = .ok matched ∧ connective.decidedBy matched = true ∧
      line = (Visit.skip path connective).line
  /-- The lines of leaves stand in the order of the leaves, from left to right. -/
  order : trace.Pairwise fun line later => ∀ path other, Visit.IsConditionLine path line →
    Visit.IsConditionLine other later → path.IsLeftOf other
  /-- The line of a connective that skips its right side comes right after the lines of its left
  side. -/
  skips : ∀ before line after address, trace = before ++ line :: after →
    Visit.IsSkipLine address line →
      ∃ earlier own, before = earlier ++ own ∧ own ≠ [] ∧
        (∀ other ∈ own, Visit.IsLineBelow (address ++ [.left]) other) ∧
        ∀ other ∈ earlier ++ after, ¬Visit.IsLineBelow (address ++ [.left]) other

theorem occursOnce_map {before after : List Visit} {visit : Visit} {holds : Text → Prop}
    (own : holds visit.line) (only : ∀ other ∈ before ++ after, ¬holds other.line) :
    OccursOnce holds ((before ++ visit :: after).map Visit.line) := by
  refine ⟨before.map Visit.line, visit.line, after.map Visit.line, ?_, own, ?_⟩
  · rw [List.map_append, List.map_cons]
  · rw [← List.map_append, List.forall_mem_map]
    exact only

theorem place_of_isConditionLine {visit : Visit} (own : Visit.IsConditionLine path visit.line) :
    visit.place = path := by
  obtain ⟨rfl, kind⟩ := Visit.isConditionLine_iff.mp own
  cases visit with
  | condition path comparison value matched => rfl
  | skip path connective => cases kind

theorem place_of_isSkipLine {visit : Visit} (own : Visit.IsSkipLine path visit.line) :
    visit.place = path ++ [.right] := by
  obtain ⟨rfl, kind⟩ := Visit.isSkipLine_iff.mp own
  cases visit with
  | condition path comparison value matched => cases kind
  | skip path connective => rfl

/-- The one visit that accounts for a leaf is that of the leaf itself or that of a connective that
skips it. -/
theorem isAccountedFor (ran : tree.visit [] record = .ok (matched, visits)) {condition : Text}
    (has : tree.HasLeaf path condition) : IsAccountedFor (visits.map Visit.line) path := by
  obtain ⟨before, own, after, rfl, accounts, only⟩ := exists_only_place ran has
  have eq_own : ∀ visit ∈ before ++ own :: after, visit.place <+: path → visit = own := by
    intro visit member visit_accounts
    refine Classical.byContradiction fun other => only visit ?_ visit_accounts
    simpa [other] using member
  simp only [IsAccountedFor, List.forall_mem_map]
  cases own with
  | condition address comparison value outcome =>
      obtain ⟨below, address_eq, _, own_has, _⟩ :=
        tells_of_mem_visits ran (List.mem_append_right before List.mem_cons_self)
      obtain rfl : address = below := address_eq
      obtain rfl := own_has.eq_of_prefix has accounts
      refine .inl ⟨occursOnce_map (Visit.isConditionLine_iff.mpr ⟨rfl, rfl⟩) ?_, ?_⟩
      · intro other member its_line
        exact only other member (place_of_isConditionLine its_line ▸ List.prefix_refl _)
      · intro above above_path visit member its_line
        obtain rfl := eq_own visit member (place_of_isSkipLine its_line ▸ above_path)
        cases (Visit.isSkipLine_iff.mp its_line).2
  | skip address connective =>
      refine .inr ⟨?_, address, accounts,
        occursOnce_map (Visit.isSkipLine_iff.mpr ⟨rfl, rfl⟩) ?_, ?_⟩
      · intro visit member its_line
        obtain rfl := eq_own visit member (place_of_isConditionLine its_line ▸ List.prefix_refl _)
        cases (Visit.isConditionLine_iff.mp its_line).2
      · intro other member its_line
        exact only other member (place_of_isSkipLine its_line ▸ accounts)
      · intro other other_path visit member its_line
        obtain rfl := eq_own visit member (place_of_isSkipLine its_line ▸ other_path)
        exact (Visit.isSkipLine_iff.mp its_line).1.symm

theorem lines_of_visit (ran : tree.visit [] record = .ok (matched, visits)) {visit : Visit}
    (member : visit ∈ visits) :
    (∃ path condition comparison matched, tree.HasLeaf path condition ∧
      Comparison.ofText condition = .ok comparison ∧ outcomeOf record condition = .ok matched ∧
      visit.line =
        (Visit.condition path comparison (record.get? comparison.field) matched).line) ∨
    ∃ path connective left right matched, tree.at? path = some (.node connective left right) ∧
      left.evaluate record = .ok matched ∧ connective.decidedBy matched = true ∧
      visit.line = (Visit.skip path connective).line := by
  obtain ⟨below, address_eq, tells⟩ := tells_of_mem_visits ran member
  cases visit with
  | condition path comparison value outcome =>
      obtain rfl : path = below := address_eq
      obtain ⟨condition, has, read, rfl, held⟩ := tells
      refine .inl ⟨path, condition, comparison, outcome, has, read, ?_, rfl⟩
      rw [outcomeOf_eq_holds read, held]
  | skip path connective =>
      obtain rfl : path = below := address_eq
      obtain ⟨left, right, leftMatched, found, left_ran, decided⟩ := tells
      exact .inr ⟨path, connective, left, right, leftMatched, found, left_ran, decided, rfl⟩

theorem skips_of_visit (ran : tree.visit [] record = .ok (matched, visits))
    {before after : List Text} {line : Text} {address : Path}
    (split : visits.map Visit.line = before ++ line :: after)
    (its_line : Visit.IsSkipLine address line) :
    ∃ earlier own, before = earlier ++ own ∧ own ≠ [] ∧
      (∀ other ∈ own, Visit.IsLineBelow (address ++ [.left]) other) ∧
      ∀ other ∈ earlier ++ after, ¬Visit.IsLineBelow (address ++ [.left]) other := by
  obtain ⟨beforeVisits, rest, visits_eq, rfl, rest_eq⟩ := List.map_eq_append_iff.mp split
  obtain ⟨visit, afterVisits, rfl, rfl, rfl⟩ := List.map_eq_cons_iff.mp rest_eq
  obtain ⟨address_eq, kind⟩ := Visit.isSkipLine_iff.mp its_line
  cases visit with
  | condition path comparison value outcome => cases kind
  | skip path connective =>
      obtain rfl : path = address := address_eq
      obtain ⟨earlier, own, rfl, some_visit, within, elsewhere⟩ := followsLeftSide ran visits_eq
      refine ⟨earlier.map Visit.line, own.map Visit.line, List.map_append, ?_, ?_, ?_⟩
      · rwa [ne_eq, List.map_eq_nil_iff]
      · simpa only [List.forall_mem_map, Visit.isLineBelow_iff] using within
      · simpa only [← List.map_append, List.forall_mem_map, Visit.isLineBelow_iff] using elsewhere

theorem isCompleteTrace (ran : tree.visit [] record = .ok (matched, visits)) :
    tree.IsCompleteTrace record (visits.map Visit.line) where
  leaves _ _ has := isAccountedFor ran has
  lines := by
    rw [List.forall_mem_map]
    exact fun visit => lines_of_visit ran
  order := by
    refine List.pairwise_map.mpr ((pairwise_place ran).imp ?_)
    intro visit later in_order path other its_line later_line
    rwa [place_of_isConditionLine its_line, place_of_isConditionLine later_line] at in_order
  skips _ _ _ _ := skips_of_visit ran

/-- The trace of an evaluation is a complete account of it, and the conditions that matched are the
comparisons of the lines that end with that verdict. -/
theorem trace_is_complete_account (tree : Tree) (record : Record) (evaluation : Evaluation)
    (ran : tree.execute true record = .ok evaluation) :
    tree.IsCompleteTrace record evaluation.trace ∧
      evaluation.conditions =
        (evaluation.trace.filter Visit.isMatchedLine).map Visit.comparisonPart := by
  obtain ⟨visits, visit_eq, conditions_eq, trace_eq⟩ := exists_visits_of_execute ran
  rw [conditions_eq, trace_eq, if_pos rfl]
  refine ⟨isCompleteTrace visit_eq, Visit.filterMap_matchedCondition? ?_⟩
  intro path comparison value matched member
  obtain ⟨_, _, condition, _, read, _⟩ := tells_of_mem_visits visit_eq member
  exact ⟨condition, read⟩

/-- Four lines account for five leaves, one of which is no comparison: two are evaluated, and two
connectives skip the others. -/
theorem trace_is_complete_account_of_nested_skips :
    let tree := node .or
      (node .and (leaf "z = 1".toList) (node .or (leaf []) (leaf "c > 1".toList)))
      (node .or (leaf "a = 5".toList) (leaf "d < 1".toList))
    let record : Record := [("a".toList, .number (.integer 5))]
    let trace := ["root.left.left: z = 1 (actual: missing) => NOT_MATCHED".toList,
      "root.left: AND 短路 - 跳过右子节点".toList,
      "root.right.left: a = 5 (actual: 5) => MATCHED".toList,
      "root.right: OR 短路 - 跳过右子节点".toList]
    ∃ evaluation, tree.execute true record = .ok evaluation ∧ evaluation.trace = trace ∧
      evaluation.conditions = ["a = 5".toList] ∧ tree.IsCompleteTrace record trace ∧
      evaluation.conditions = (trace.filter Visit.isMatchedLine).map Visit.comparisonPart := by
  intro tree record trace
  let visits : List Visit := [
    .condition [.left, .left] ⟨"z".toList, .equal, .integer ⟨1, by decide⟩⟩ none false,
    .skip [.left] .and,
    .condition [.right, .left] ⟨"a".toList, .equal, .integer ⟨5, by decide⟩⟩
      (some (.number (.integer 5))) true,
    .skip [.right] .or]
  have visited : tree.visit [] record = .ok (true, visits) := rfl
  have shown : visits.map Visit.line = trace := by
    decide
  have ran : tree.execute true record = .ok ⟨true, ["a = 5".toList], trace⟩ := by
    rw [execute, visited]
    dsimp only
    rw [if_pos rfl, shown]
    rfl
  exact ⟨_, ran, rfl, rfl, trace_is_complete_account tree record _ ran⟩

end Tree

end Rulebook
