import Rulebook.Proofs.Addresses
import Rulebook.Proofs.NodeEncodings

/-!
# The first faulty node

The nodes of a JSON value are the value itself and, below an object, the nodes of its sides.  Each
node has faults of its own, whatever is below it.  The reader of trees goes through the nodes in
pre-order and tells the path to the first one that has a fault, with a fault that it has.
-/

namespace Rulebook

open Json

namespace Path

/-- Whether a path comes before another one in pre-order: it leads above it, or to its left. -/
def Precedes (path other : Path) : Prop :=
  (path <+: other ∧ path ≠ other) ∨ path.IsLeftOf other

variable {path other : Path} {side : Side}

theorem not_precedes_nil : ¬path.Precedes [] := by
  rintro (⟨above, apart⟩ | ⟨above, below, otherBelow, _, other_eq⟩)
  · exact apart (List.prefix_nil.mp above)
  · cases above <;> cases other_eq

theorem cons_precedes_cons : Precedes (side :: path) (side :: other) ↔ path.Precedes other := by
  simp only [Precedes, List.cons_prefix_cons, isLeftOf_cons, true_and, ne_eq, List.cons.injEq]

theorem not_right_precedes_left : ¬Precedes (.right :: path) (.left :: other) := by
  rintro (⟨above, _⟩ | left)
  · simp at above
  · exact not_right_isLeftOf_left path other left

/-- What comes before a path into a side: the root, the paths before it on that side, and all paths
into the left side if it leads into the right one. -/
theorem eq_nil_or_of_precedes_cons (earlier : path.Precedes (side :: other)) :
    path = [] ∨ (∃ below, path = side :: below ∧ Precedes below other) ∨
      side = .right ∧ ∃ below, path = .left :: below := by
  match path, side with
  | [], _ => exact .inl rfl
  | .left :: below, .left => exact .inr (.inl ⟨below, rfl, cons_precedes_cons.mp earlier⟩)
  | .right :: below, .right => exact .inr (.inl ⟨below, rfl, cons_precedes_cons.mp earlier⟩)
  | .left :: below, .right => exact .inr (.inr ⟨rfl, below, rfl⟩)
  | .right :: below, .left => exact absurd earlier not_right_precedes_left

theorem level_cons (level : Nat) (side : Side) (path : Path) :
    level + List.length (side :: path) = level + 1 + path.length := by
  rw [List.length_cons]
  omega

end Path

namespace Tree

/-- The nodes of a value at their paths: the value itself, and below an object the nodes of its
sides, as far as these are there and not null. -/
inductive HasNode : Value → Path → Value → Prop
  | root {value : Value} : HasNode value [] value
  | side {members : Members} {side : Side} {child node : Value} {path : Path}
      (member : members.get? side.name = some child) (some_child : child ≠ .null)
      (below : HasNode child path node) : HasNode (.object members) (side :: path) node

/-- The faults of a node itself, at a level of the whole value; the root is at the first level. -/
inductive HasFault (level : Nat) : Value → NodeFault → Prop
  | tooDeep {value : Value} (beyond : level = 513) : HasFault level value .tooDeep
  | notObject {value : Value} (no_object : ∀ members, value ≠ .object members) :
      HasFault level value .notObject
  | missing {members : Members} {key : Text}
      (needed : key ∈ [typeKey, valueKey, leftKey, rightKey]) (absent : members.get? key = none) :
      HasFault level (.object members) (.missing key)
  | notText {members : Members} {key : Text} {value : Value} (needed : key ∈ [typeKey, valueKey])
      (member : members.get? key = some value) (no_text : ∀ text, value ≠ .text text) :
      HasFault level (.object members) (.notText key)
  | unknownType {members : Members} {word : Text}
      (type : members.get? typeKey = some (.text word)) (no_node : word ≠ nodeType)
      (no_leaf : word ≠ leafType) : HasFault level (.object members) (.unknownType word)
  | unknownConnective {members : Members} {word : Text}
      (type : members.get? typeKey = some (.text nodeType))
      (text : members.get? valueKey = some (.text word))
      (unknown : ∀ connective : Connective, word ≠ connective.keyword) :
      HasFault level (.object members) (.unknownConnective word)
  | sideMissing {members : Members} {side : Side}
      (type : members.get? typeKey = some (.text nodeType))
      (member : members.get? side.name = some .null) :
      HasFault level (.object members) .sideMissing
  | sideUnexpected {members : Members} {side : Side} {child : Value}
      (type : members.get? typeKey = some (.text leafType))
      (member : members.get? side.name = some child) (some_child : child ≠ .null) :
      HasFault level (.object members) .sideUnexpected

/-- Whether a node itself has no fault, whatever is below it. -/
def IsSoundNode (level : Nat) (node : Value) : Prop :=
  ∀ fault, ¬HasFault level node fault

/-- Whether the first faulty node in pre-order, below a value at a level, is at a path, and has a
fault. -/
structure IsFirstFault (level : Nat) (value : Value) (path : Path) (fault : NodeFault) : Prop where
  faulty : ∃ node, HasNode value path node ∧ HasFault (level + path.length) node fault
  sound_before : ∀ earlier node, earlier.Precedes path → HasNode value earlier node →
    IsSoundNode (level + earlier.length) node

section Members

variable {members : Members} {key : Text} {fault : NodeFault} {level : Nat}

theorem required_eq_error (failed : required members key = .error fault) :
    members.get? key = none ∧ fault = .missing key := by
  unfold required at failed
  cases found : members.get? key with
  | none =>
      rw [found] at failed
      cases failed
      exact ⟨rfl, rfl⟩
  | some value =>
      rw [found] at failed
      cases failed

theorem hasFault_of_required (failed : required members key = .error fault)
    (needed : key ∈ [typeKey, valueKey, leftKey, rightKey]) :
    HasFault level (.object members) fault := by
  obtain ⟨absent, rfl⟩ := required_eq_error failed
  exact .missing needed absent

theorem hasFault_of_requiredText (failed : requiredText members key = .error fault)
    (needed : key ∈ [typeKey, valueKey]) : HasFault level (.object members) fault := by
  unfold requiredText at failed
  split at failed
  · next absent =>
    cases failed
    exact hasFault_of_required absent (List.mem_append_left _ needed)
  · cases failed
  · next value no_text member =>
    cases failed
    exact .notText needed (required_eq_ok_iff.mp member) no_text

end Members

namespace NodeHead

variable {members : Members} {value : Value} {fault : NodeFault} {head : NodeHead} {level : Nat}

/-- What the reader of a node finds wrong with it is a fault of the node. -/
theorem hasFault_of_ofJson (failed : ofJson value = .error fault) : HasFault level value fault := by
  unfold ofJson at failed
  split at failed
  · next members =>
    rcases bind_eq_error_iff.mp failed with failed | ⟨type, type_read, failed⟩
    · exact hasFault_of_requiredText failed (by simp)
    rcases bind_eq_error_iff.mp failed with failed | ⟨text, text_read, failed⟩
    · exact hasFault_of_requiredText failed (by simp)
    rcases bind_eq_error_iff.mp failed with failed | ⟨left, left_read, failed⟩
    · exact hasFault_of_required failed (by simp)
    rcases bind_eq_error_iff.mp failed with failed | ⟨right, right_read, failed⟩
    · exact hasFault_of_required failed (by simp)
    rw [requiredText_eq_ok_iff] at type_read text_read
    rw [required_eq_ok_iff] at left_read right_read
    have left_member : Members.get? Side.left.name members = some left := left_read
    have right_member : Members.get? Side.right.name members = some right := right_read
    split at failed
    · next isNode =>
      rw [isNode] at type_read
      split at failed
      · next unknown =>
        cases failed
        refine .unknownConnective type_read text_read fun connective keyword => ?_
        rw [Connective.ofKeyword?_eq_some_iff.mpr keyword] at unknown
        cases unknown
      · split at failed
        · next null =>
          cases failed
          rw [Bool.or_eq_true, isNull_iff, isNull_iff] at null
          rcases null with rfl | rfl
          · exact .sideMissing type_read left_member
          · exact .sideMissing type_read right_member
        · cases failed
    · next not_node =>
      split at failed
      · next isLeaf =>
        rw [isLeaf] at type_read
        split at failed
        · cases failed
        · next some_side =>
          cases failed
          rw [Bool.and_eq_true, Decidable.not_and_iff_or_not, isNull_iff, isNull_iff] at some_side
          rcases some_side with some_left | some_right
          · exact .sideUnexpected type_read left_member some_left
          · exact .sideUnexpected type_read right_member some_right
      · next not_leaf =>
        cases failed
        exact .unknownType type_read not_node not_leaf
  · next no_object =>
    cases failed
    exact .notObject no_object

/-- The members of a node that is read are there, and its type and its value are texts. -/
theorem IsOf.exists_text (isOf : head.IsOf members) {key : Text}
    (needed : key ∈ [typeKey, valueKey]) : ∃ text, members.get? key = some (.text text) := by
  rw [List.mem_cons, List.mem_singleton] at needed
  cases head with
  | leaf condition =>
      obtain ⟨type, text, _⟩ := isOf
      rcases needed with rfl | rfl
      · exact ⟨_, type⟩
      · exact ⟨_, text⟩
  | node connective left right =>
      obtain ⟨type, text, _⟩ := isOf
      rcases needed with rfl | rfl
      · exact ⟨_, type⟩
      · exact ⟨_, text⟩

theorem IsOf.side_of_leaf {condition : Text} (isOf : (leaf condition).IsOf members) (side : Side) :
    members.get? side.name = some .null := by
  obtain ⟨_, _, left, right⟩ := isOf
  cases side with
  | left => exact left
  | right => exact right

theorem IsOf.side_of_node {connective : Connective} {left right : Value}
    (isOf : (node connective left right).IsOf members) (side : Side) :
    ∃ child, members.get? side.name = some child ∧ child ≠ .null := by
  obtain ⟨_, _, left_member, right_member, left_ne, right_ne⟩ := isOf
  cases side with
  | left => exact ⟨left, left_member, left_ne⟩
  | right => exact ⟨right, right_member, right_ne⟩

theorem IsOf.exists_side (isOf : head.IsOf members) (side : Side) :
    ∃ child, members.get? side.name = some child := by
  cases head with
  | leaf condition => exact ⟨.null, isOf.side_of_leaf side⟩
  | node connective left right =>
      obtain ⟨child, member, _⟩ := isOf.side_of_node side
      exact ⟨child, member⟩

theorem IsOf.exists_member (isOf : head.IsOf members) {key : Text}
    (needed : key ∈ [typeKey, valueKey, leftKey, rightKey]) :
    ∃ value, members.get? key = some value := by
  have needed_parts : key ∈ [typeKey, valueKey] ++ [leftKey, rightKey] := needed
  rcases List.mem_append.mp needed_parts with needed | needed
  · obtain ⟨text, member⟩ := isOf.exists_text needed
    exact ⟨.text text, member⟩
  · rw [List.mem_cons, List.mem_singleton] at needed
    rcases needed with rfl | rfl
    · exact isOf.exists_side .left
    · exact isOf.exists_side .right

/-- A node that is read has no fault of its own, unless it lies too deep. -/
theorem IsOf.isSoundNode (isOf : head.IsOf members) (fits : level ≤ 512) :
    IsSoundNode level (.object members) := by
  have types_differ : leafType ≠ nodeType := by decide
  have same_text {key word other : Text} (first : members.get? key = some (.text word))
      (second : members.get? key = some (.text other)) : word = other :=
    Value.text.inj (Option.some.inj (first.symm.trans second))
  intro fault has
  cases has with
  | tooDeep beyond => omega
  | notObject no_object => exact no_object members rfl
  | missing needed absent =>
      obtain ⟨value, member⟩ := isOf.exists_member needed
      rw [member] at absent
      cases absent
  | notText needed member no_text =>
      obtain ⟨text, text_member⟩ := isOf.exists_text needed
      rw [text_member] at member
      exact no_text text (Option.some.inj member).symm
  | unknownType type no_node no_leaf =>
      cases head with
      | leaf condition => exact no_leaf (same_text type isOf.1)
      | node connective left right => exact no_node (same_text type isOf.1)
  | unknownConnective type text unknown =>
      cases head with
      | leaf condition => exact types_differ (same_text isOf.1 type)
      | node connective left right => exact unknown connective (same_text text isOf.2.1)
  | @sideMissing _ side type member =>
      cases head with
      | leaf condition => exact types_differ (same_text isOf.1 type)
      | node connective left right =>
          obtain ⟨child, child_member, some_child⟩ := isOf.side_of_node side
          exact some_child (Option.some.inj (child_member.symm.trans member))
  | @sideUnexpected _ side child type member some_child =>
      cases head with
      | leaf condition =>
          exact some_child (Option.some.inj (member.symm.trans (isOf.side_of_leaf side)))
      | node connective left right => exact types_differ (same_text type isOf.1)

end NodeHead

section Reading

variable {room level : Nat} {value : Value} {members : Members}

theorem isSoundNode_of_ofJsonAt {path below : Path} {tree : Tree} {node : Value}
    (read : ofJsonAt room path value = .ok tree) (level_eq : level + room = 513)
    (has : HasNode value below node) : IsSoundNode (level + below.length) node := by
  induction room generalizing level path value tree below with
  | zero => cases read
  | succ room induction =>
      have fits : level ≤ 512 := by omega
      rcases ofJsonAt_succ_eq_ok_iff.mp read with ⟨condition, head_read, rfl⟩ |
        ⟨connective, left, right, leftTree, rightTree, head_read, left_read, right_read, rfl⟩
      · obtain ⟨members, rfl, isOf⟩ := NodeHead.isOf_of_ofJson head_read
        cases has with
        | root => exact isOf.isSoundNode fits
        | side member some_child _ =>
            rw [isOf.side_of_leaf] at member
            exact absurd (Option.some.inj member).symm some_child
      · obtain ⟨members, rfl, isOf⟩ := NodeHead.isOf_of_ofJson head_read
        have ⟨_, _, left_member, right_member, _⟩ := isOf
        cases has with
        | root => exact isOf.isSoundNode fits
        | @side _ side child _ path member _ has =>
            have next_level : level + 1 + room = 513 := by omega
            rw [Path.level_cons]
            cases side with
            | left =>
                cases Option.some.inj (left_member.symm.trans member)
                exact induction left_read next_level has
            | right =>
                cases Option.some.inj (right_member.symm.trans member)
                exact induction right_read next_level has

theorem HasNode.of_cons {path : Path} {side : Side} {node : Value}
    (has : HasNode (.object members) (side :: path) node) :
    ∃ child, members.get? side.name = some child ∧ HasNode child path node := by
  cases has with
  | side member _ below => exact ⟨_, member, below⟩

theorem IsFirstFault.root {reason : NodeFault} (fault : HasFault level value reason) :
    IsFirstFault level value [] reason where
  faulty := ⟨value, .root, fault⟩
  sound_before _ _ before := absurd before Path.not_precedes_nil

/-- The first faulty node of a side is that of the whole, if the root has no fault and, for the
right side, no node of the left side has one. -/
theorem IsFirstFault.atSide {side : Side} {child : Value} {path : Path} {reason : NodeFault}
    (first : IsFirstFault (level + 1) child path reason)
    (root_sound : IsSoundNode level (.object members))
    (member : members.get? side.name = some child) (some_child : child ≠ .null)
    (left_sound : side = .right → ∀ left, members.get? Side.left.name = some left →
      ∀ below node, HasNode left below node → IsSoundNode (level + 1 + below.length) node) :
    IsFirstFault level (.object members) (side :: path) reason := by
  constructor
  · obtain ⟨node, has, fault⟩ := first.faulty
    rw [Path.level_cons]
    exact ⟨node, .side member some_child has, fault⟩
  · intro earlier node before has
    rcases Path.eq_nil_or_of_precedes_cons before with
      rfl | ⟨below, rfl, sooner⟩ | ⟨on_right, below, rfl⟩
    · cases has
      exact root_sound
    · obtain ⟨other, other_member, has⟩ := has.of_cons
      cases Option.some.inj (member.symm.trans other_member)
      rw [Path.level_cons]
      exact first.sound_before below node sooner has
    · obtain ⟨left, left_member, has⟩ := has.of_cons
      rw [Path.level_cons]
      exact left_sound on_right left left_member below node has

/-- A value that is not read is refused for its first faulty node.  On each level of the value there
is one less room, and none is left for the level 513. -/
theorem isFirstFault_of_ofJsonAt {path : Path} {fault : EncodingFault}
    (failed : ofJsonAt room path value = .error fault) (level_eq : level + room = 513) :
    ∃ steps reason, fault = .node (path ++ steps) reason ∧
      IsFirstFault level value steps reason := by
  induction room generalizing level path value with
  | zero =>
      cases failed
      exact ⟨[], .tooDeep, by rw [List.append_nil], .root (.tooDeep level_eq)⟩
  | succ room induction =>
      have fits : level ≤ 512 := by omega
      have next_level : level + 1 + room = 513 := by omega
      rcases ofJsonAt_succ_eq_error_iff.mp failed with ⟨reason, head_failed, rfl⟩ |
        ⟨connective, left, right, head_read, left_failed | ⟨leftTree, left_read, right_failed⟩⟩
      · exact ⟨[], reason, by rw [List.append_nil], .root (NodeHead.hasFault_of_ofJson head_failed)⟩
      · obtain ⟨members, rfl, isOf⟩ := NodeHead.isOf_of_ofJson head_read
        have ⟨_, _, left_member, _, some_left, _⟩ := isOf
        obtain ⟨steps, reason, rfl, first⟩ := induction left_failed next_level
        refine ⟨.left :: steps, reason, by simp, ?_⟩
        exact first.atSide (isOf.isSoundNode fits) left_member some_left nofun
      · obtain ⟨members, rfl, isOf⟩ := NodeHead.isOf_of_ofJson head_read
        have ⟨_, _, left_member, right_member, _, some_right⟩ := isOf
        obtain ⟨steps, reason, rfl, first⟩ := induction right_failed next_level
        refine ⟨.right :: steps, reason, by simp, ?_⟩
        refine first.atSide (isOf.isSoundNode fits) right_member some_right fun _ other member => ?_
        cases Option.some.inj (left_member.symm.trans member)
        exact fun below node has => isSoundNode_of_ofJsonAt left_read next_level has

end Reading

/-- The message on a value that is no tree tells the path to the first faulty node, one path only,
and a fault that this node has: at the path there is a node with the fault, and all nodes before it,
above it or to its left, are sound. -/
theorem malformed_tree_is_located {value : Value} {error : RuleError}
    (failed : (ofJson value).mapError RuleError.malformedTree = .error error) :
    ∃ path reason, error = .malformedTree (.node path reason) ∧
      (∀ (other : Path) (rest : Text),
        error.message = "规则树结构损坏: ".toList ++ (other.text ++ (": ".toList ++ rest)) ↔
          other = path ∧ rest = reason.message) ∧
      IsFirstFault 1 value path reason := by
  cases read : ofJson value with
  | ok tree =>
      rw [read] at failed
      cases failed
  | error fault =>
      rw [read] at failed
      cases failed
      obtain ⟨path, reason, rfl, first⟩ := isFirstFault_of_ofJsonAt read rfl
      rw [List.nil_append]
      refine ⟨path, reason, rfl, fun other rest => ?_, first⟩
      have message : (RuleError.malformedTree (.node path reason)).message =
          "规则树结构损坏: ".toList ++ (path.text ++ ": ".toList ++ reason.message) := rfl
      rw [message, List.append_cancel_left_eq, List.append_assoc]
      constructor
      · intro same
        have same_path := congrArg (List.takeWhile (· ≠ ':')) same
        rw [Path.takeWhile_text_append, Path.takeWhile_text_append] at same_path
        cases Path.text_injective same_path
        rw [List.append_cancel_left_eq, List.append_cancel_left_eq] at same
        exact ⟨rfl, same.symm⟩
      · rintro ⟨rfl, rfl⟩
        rfl

/-- The left side of the right side lacks a member and has a number for its type; what is to its
right is no object. -/
theorem malformed_tree_is_located_below_right_side :
    let leaf : Value := .ofMembers [("type", .ofString "operand"), ("value", .ofString "a = 1"),
      ("note", .ofNat 7), ("left", .null), ("right", .null)]
    let faulty : Value := .ofMembers [("type", .ofNat 7), ("left", .null), ("right", .null)]
    let node (left right : Value) : Value := .ofMembers [("type", .ofString "operator"),
      ("value", .ofString "OR"), ("left", left), ("right", right)]
    let corrupt : Value := node leaf (node faulty (.ofNat 0))
    let error : RuleError := .malformedTree (.node [.right, .left] (.notText typeKey))
    (ofJson corrupt).mapError RuleError.malformedTree = .error error ∧
      error.message = "规则树结构损坏: ".toList ++
        ("root.right.left".toList ++ (": ".toList ++ NodeFault.message (.notText typeKey))) ∧
      IsFirstFault 1 corrupt [.right, .left] (.notText typeKey) := by
  intro leaf faulty node corrupt error
  have failed : (ofJson corrupt).mapError RuleError.malformedTree = .error error := rfl
  obtain ⟨path, reason, same, message_eq, first⟩ := malformed_tree_is_located failed
  cases RuleError.malformedTree.inj same
  have text_eq : Path.text [.right, .left] = "root.right.left".toList := by decide
  rw [← text_eq]
  exact ⟨failed, (message_eq _ _).mpr ⟨rfl, rfl⟩, first⟩

end Tree

end Rulebook
