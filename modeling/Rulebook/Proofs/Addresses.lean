import Rulebook.Proofs.Logic

/-!
# Addresses

Of two paths one is above the other, or they part at a node, to its left and to its right.  No leaf
is above another one, so leaves stand in an order from left to right.  The text of a path tells the
path, and what an evaluation visits at a path is true of the tree there.
-/

namespace Rulebook

namespace Path

variable {path middle other common : Path}

theorem IsLeftOf.trans (first : path.IsLeftOf middle) (second : middle.IsLeftOf other) :
    path.IsLeftOf other := by
  obtain ⟨above, below, middleBelow, rfl, middle_eq⟩ := first
  obtain ⟨top, bottom, otherBelow, middle_eq', rfl⟩ := second
  rw [middle_eq] at middle_eq'
  rcases List.append_eq_append_iff.mp middle_eq' with ⟨between, rfl, rest⟩ | ⟨between, rfl, rest⟩
  · cases between with
    | nil => cases rest
    | cons side between =>
        cases rest
        exact ⟨above, below, between ++ .right :: otherBelow, rfl, by simp⟩
  · cases between with
    | nil => cases rest
    | cons side between =>
        cases rest
        exact ⟨top, between ++ .left :: below, otherBelow, by simp, rfl⟩

theorem IsLeftOf.not_isPrefix (left : path.IsLeftOf other) (above : path <+: common) :
    ¬other <+: common := by
  obtain ⟨top, tail, otherTail, rfl, rfl⟩ := left
  obtain ⟨below, rfl⟩ := above
  rintro ⟨otherBelow, same⟩
  simp at same

theorem isLeftOf_of_prefix {above : Path} (on_left : above ++ [.left] <+: path)
    (on_right : above ++ [.right] <+: other) : path.IsLeftOf other := by
  obtain ⟨below, rfl⟩ := on_left
  obtain ⟨otherBelow, rfl⟩ := on_right
  exact ⟨above, below, otherBelow, by simp, by simp⟩

theorem not_prefix_of_sides {above : Path} {side otherSide : Side} (apart : side ≠ otherSide)
    (on_side : above ++ [side] <+: path) (on_other : above ++ [otherSide] <+: other) :
    ¬path <+: other := by
  intro below
  have same := List.prefix_of_prefix_length_le (on_side.trans below) on_other (by simp)
  simp [apart] at same

theorem prefix_or_isLeftOf (path other : Path) :
    path <+: other ∨ other <+: path ∨ path.IsLeftOf other ∨ other.IsLeftOf path := by
  induction path generalizing other with
  | nil => exact .inl List.nil_prefix
  | cons side path induction =>
      cases other with
      | nil => exact .inr (.inl List.nil_prefix)
      | cons otherSide other =>
          by_cases same : side = otherSide
          · subst same
            simp only [List.cons_prefix_cons, isLeftOf_cons, true_and]
            exact induction other
          · cases side <;> cases otherSide
            · exact absurd rfl same
            · exact .inr (.inr (.inl (left_isLeftOf_right path other)))
            · exact .inr (.inr (.inr (left_isLeftOf_right other path)))
            · exact absurd rfl same

/-! ## Texts of paths -/

theorem text_injective {path other : Path} (same : path.text = other.text) : path = other := by
  rw [text, text, List.append_cancel_left_eq] at same
  induction path generalizing other with
  | nil =>
      cases other with
      | nil => rfl
      | cons side other => cases same
  | cons side path induction =>
      cases other with
      | nil => cases same
      | cons otherSide other =>
          rw [List.flatMap_cons, List.flatMap_cons] at same
          cases side <;> cases otherSide <;> simp only [Side.name, List.cons_append,
            List.nil_append, List.cons.injEq, Char.reduceEq, false_and, and_false,
            true_and] at same
          · rw [induction same]
          · rw [induction same]

theorem colon_notMem_text (path : Path) : ':' ∉ path.text := by
  have in_names : ∀ side : Side, ':' ∉ '.' :: side.name := by
    rintro (_ | _) <;> decide
  rw [text, List.mem_append, List.mem_flatMap]
  rintro (in_root | ⟨side, _, in_name⟩)
  · revert in_root
    decide
  · exact in_names side in_name

theorem takeWhile_text_append (path : Path) (rest : Text) :
    (path.text ++ (": ".toList ++ rest)).takeWhile (· ≠ ':') = path.text := by
  have colon : ": ".toList = [':', ' '] := rfl
  have before_colon : ∀ c ∈ path.text, decide (c ≠ ':') = true := by
    intro c member
    rw [decide_eq_true_eq]
    rintro rfl
    exact path.colon_notMem_text member
  rw [colon, List.takeWhile_append_of_pos before_colon]
  exact List.append_nil _

end Path

namespace Visit

def address : Visit → Path
  | .condition path _ _ _ | .skip path _ => path

/-- Whether what a visit tells holds of the node at a path, on a record. -/
def Tells (record : Record) (tree : Tree) (path : Path) : Visit → Prop
  | .condition _ comparison value matched =>
      ∃ condition, tree.HasLeaf path condition ∧ Comparison.ofText condition = .ok comparison ∧
        value = record.get? comparison.field ∧ comparison.holds value = .ok matched
  | .skip _ connective =>
      ∃ left right matched, tree.at? path = some (.node connective left right) ∧
        left.evaluate record = .ok matched ∧ connective.decidedBy matched = true

end Visit

namespace Tree

variable {tree : Tree} {path other : Path} {condition otherCondition : Text}

theorem at?_append (tree : Tree) (above below : Path) :
    tree.at? (above ++ below) = (tree.at? above).bind (·.at? below) := by
  induction above generalizing tree with
  | nil => cases tree <;> rfl
  | cons side above induction =>
      cases tree with
      | leaf own => rfl
      | node connective left right => cases side <;> exact induction _

theorem HasLeaf.eq_of_prefix (has : tree.HasLeaf path condition)
    (otherHas : tree.HasLeaf other otherCondition) (above : path <+: other) : path = other := by
  obtain ⟨below, rfl⟩ := above
  rw [HasLeaf, at?_append, has, Option.bind_some] at otherHas
  cases below with
  | nil => exact (List.append_nil path).symm
  | cons side below => cases otherHas

theorem HasLeaf.eq_or_isLeftOf (has : tree.HasLeaf path condition)
    (otherHas : tree.HasLeaf other otherCondition) :
    path = other ∨ path.IsLeftOf other ∨ other.IsLeftOf path := by
  rcases path.prefix_or_isLeftOf other with above | above | parted
  · exact .inl (has.eq_of_prefix otherHas above)
  · exact .inl (otherHas.eq_of_prefix has above).symm
  · exact .inr parted

/-! ## Visits -/

variable {record : Record} {above : Path} {matched : Bool} {visits : List Visit}

/-- What visits tell is true of the tree, at addresses below that of the tree. -/
theorem tells_of_mem_visits (ran : tree.visit above record = .ok (matched, visits)) {visit : Visit}
    (member : visit ∈ visits) :
    ∃ below, visit.address = above ++ below ∧ visit.Tells record tree below := by
  induction tree generalizing above matched visits with
  | leaf condition =>
      obtain ⟨comparison, read, held, rfl⟩ := visit_leaf_eq_ok ran
      rw [List.mem_singleton] at member
      subst member
      exact ⟨[], (List.append_nil above).symm, condition, rfl, read, rfl, held⟩
  | node connective left right left_induction right_induction =>
      have of_side {side : Side} {sideTree : Tree} {below : Path}
          (at_side : ∀ path, (node connective left right).at? (side :: path) = sideTree.at? path)
          (address_eq : visit.address = above ++ [side] ++ below)
          (tells : visit.Tells record sideTree below) :
          ∃ below, visit.address = above ++ below ∧
            visit.Tells record (node connective left right) below := by
        refine ⟨side :: below, by rw [address_eq, List.append_assoc]; rfl, ?_⟩
        cases visit <;> simpa only [Visit.Tells, HasLeaf, at_side] using tells
      obtain ⟨leftMatched, leftVisits, left_ran, ⟨decided, rfl, rfl⟩ | ⟨undecided, rightVisits,
        right_ran, rfl⟩⟩ := visit_node_eq_ok ran
      · rcases List.mem_append.mp member with of_left | own
        · obtain ⟨below, address_eq, tells⟩ := left_induction left_ran of_left
          exact of_side (fun _ => rfl) address_eq tells
        · rw [List.mem_singleton] at own
          subst own
          exact ⟨[], (List.append_nil above).symm, left, right, matched, rfl,
            evaluate_of_visit left_ran, decided⟩
      · rcases List.mem_append.mp member with of_left | of_right
        · obtain ⟨below, address_eq, tells⟩ := left_induction left_ran of_left
          exact of_side (fun _ => rfl) address_eq tells
        · obtain ⟨below, address_eq, tells⟩ := right_induction right_ran of_right
          exact of_side (fun _ => rfl) address_eq tells

end Tree

end Rulebook
