import Rulebook.Rule.Encoding

/-!
# The values that encode a tree

A tree is encoded by objects that have the members of its nodes, whatever else they have.  The
reader accepts the encodings of the trees that are not too deep, and it finds the first faulty node
of all other values.
-/

namespace Rulebook

open Json

namespace Tree

/-- The JSON values that encode a tree.  Objects may have further members. -/
inductive Encodes : Value → Tree → Prop
  | leaf {members : Members} {condition : Text}
      (type : members.get? typeKey = some (.text leafType))
      (text : members.get? valueKey = some (.text condition))
      (left : members.get? leftKey = some .null)
      (right : members.get? rightKey = some .null) :
      Encodes (.object members) (.leaf condition)
  | node {members : Members} {connective : Connective} {leftValue rightValue : Value}
      {left right : Tree}
      (type : members.get? typeKey = some (.text nodeType))
      (text : members.get? valueKey = some (.text connective.keyword))
      (left_member : members.get? leftKey = some leftValue)
      (right_member : members.get? rightKey = some rightValue)
      (left_encodes : Encodes leftValue left)
      (right_encodes : Encodes rightValue right) :
      Encodes (.object members) (.node connective left right)

theorem bind_eq_ok_iff {α β fault : Type} {read : Except fault α} {next : α → Except fault β}
    {result : β} :
    read >>= next = .ok result ↔ ∃ found, read = .ok found ∧ next found = .ok result := by
  cases read <;> simp [bind, Except.bind]

theorem bind_eq_error_iff {α β fault : Type} {read : Except fault α} {next : α → Except fault β}
    {reason : fault} :
    read >>= next = .error reason ↔
      read = .error reason ∨ ∃ found, read = .ok found ∧ next found = .error reason := by
  cases read <;> simp [bind, Except.bind]

section Members

variable {members : Members} {key text : Text} {value : Value}

theorem required_eq_ok_iff : required members key = .ok value ↔ members.get? key = some value := by
  unfold required
  cases members.get? key <;> simp

theorem requiredText_eq_ok_iff :
    requiredText members key = .ok text ↔ members.get? key = some (.text text) := by
  unfold requiredText required
  cases members.get? key with
  | none => simp
  | some value => cases value <;> simp

theorem isNull_iff : value.isNull = true ↔ value = .null := by
  cases value <;> simp [Value.isNull]

end Members

namespace NodeHead

/-- Whether the members of an object are those of a node, whatever its sides encode. -/
def IsOf (members : Members) : NodeHead → Prop
  | .leaf condition =>
      members.get? typeKey = some (.text leafType) ∧
        members.get? valueKey = some (.text condition) ∧
        members.get? leftKey = some .null ∧ members.get? rightKey = some .null
  | .node connective left right =>
      members.get? typeKey = some (.text nodeType) ∧
        members.get? valueKey = some (.text connective.keyword) ∧
        members.get? leftKey = some left ∧ members.get? rightKey = some right ∧
        left ≠ .null ∧ right ≠ .null

variable {members : Members} {head : NodeHead} {value : Value}

theorem ofJson_of_isOf (isOf : head.IsOf members) : ofJson (.object members) = .ok head := by
  cases head with
  | leaf condition =>
      obtain ⟨type, text, left, right⟩ := isOf
      rw [ofJson, requiredText_eq_ok_iff.mpr type, requiredText_eq_ok_iff.mpr text,
        required_eq_ok_iff.mpr left, required_eq_ok_iff.mpr right]
      rfl
  | node connective left right =>
      obtain ⟨type, text, left_member, right_member, left_ne, right_ne⟩ := isOf
      have known := Connective.ofKeyword?_eq_some_iff.mpr (rfl : connective.keyword = _)
      rw [ofJson, requiredText_eq_ok_iff.mpr type, requiredText_eq_ok_iff.mpr text,
        required_eq_ok_iff.mpr left_member, required_eq_ok_iff.mpr right_member]
      simp [bind, Except.bind, known, isNull_iff, left_ne, right_ne]

theorem isOf_of_ofJson (read : ofJson value = .ok head) :
    ∃ members, value = .object members ∧ head.IsOf members := by
  unfold ofJson at read
  split at read
  · next members =>
    obtain ⟨type, type_read, read⟩ := bind_eq_ok_iff.mp read
    obtain ⟨text, text_read, read⟩ := bind_eq_ok_iff.mp read
    obtain ⟨left, left_read, read⟩ := bind_eq_ok_iff.mp read
    obtain ⟨right, right_read, read⟩ := bind_eq_ok_iff.mp read
    rw [requiredText_eq_ok_iff] at type_read text_read
    rw [required_eq_ok_iff] at left_read right_read
    refine ⟨members, rfl, ?_⟩
    split at read
    · next isNode =>
      split at read
      · cases read
      · next connective known =>
        split at read
        · cases read
        · next sides =>
          cases read
          rw [isNode] at type_read
          rw [Connective.ofKeyword?_eq_some_iff.mp known] at text_read
          simp only [Bool.or_eq_true, isNull_iff, not_or] at sides
          exact ⟨type_read, text_read, left_read, right_read, sides⟩
    · split at read
      · next isLeaf =>
        split at read
        · next sides =>
          cases read
          simp only [Bool.and_eq_true, isNull_iff] at sides
          rw [isLeaf] at type_read
          rw [sides.1] at left_read
          rw [sides.2] at right_read
          exact ⟨type_read, text_read, left_read, right_read⟩
        · cases read
      · cases read
  · cases read

end NodeHead

section Reading

variable {room : Nat} {value : Value} {tree other : Tree}

theorem ofJsonAt_succ_eq_ok_iff {path : Path} :
    ofJsonAt (room + 1) path value = .ok tree ↔
      (∃ condition, NodeHead.ofJson value = .ok (.leaf condition) ∧ tree = .leaf condition) ∨
      ∃ connective leftValue rightValue left right,
        NodeHead.ofJson value = .ok (.node connective leftValue rightValue) ∧
        ofJsonAt room (path ++ [.left]) leftValue = .ok left ∧
        ofJsonAt room (path ++ [.right]) rightValue = .ok right ∧
        tree = .node connective left right := by
  rw [ofJsonAt]
  rcases NodeHead.ofJson value with fault | ⟨condition⟩ | ⟨connective, leftValue, rightValue⟩
  · simp
  · simp [eq_comm]
  · simp only [bind_eq_ok_iff]
    constructor
    · rintro ⟨left, left_read, right, right_read, ⟨⟩⟩
      exact .inr ⟨_, _, _, left, right, rfl, left_read, right_read, rfl⟩
    · rintro (⟨_, ⟨⟩, _⟩ | ⟨_, _, _, left, right, ⟨⟩, left_read, right_read, rfl⟩)
      exact ⟨left, left_read, right, right_read, rfl⟩

/-- A tree is not read because of its node or of one of the sides, the left one first. -/
theorem ofJsonAt_succ_eq_error_iff {path : Path} {fault : EncodingFault} :
    ofJsonAt (room + 1) path value = .error fault ↔
      (∃ reason, NodeHead.ofJson value = .error reason ∧ fault = .node path reason) ∨
      ∃ connective leftValue rightValue,
        NodeHead.ofJson value = .ok (.node connective leftValue rightValue) ∧
        (ofJsonAt room (path ++ [.left]) leftValue = .error fault ∨
          ∃ left, ofJsonAt room (path ++ [.left]) leftValue = .ok left ∧
            ofJsonAt room (path ++ [.right]) rightValue = .error fault) := by
  rw [ofJsonAt]
  rcases NodeHead.ofJson value with reason | ⟨condition⟩ | ⟨connective, leftValue, rightValue⟩
  · simp [eq_comm]
  · simp
  · simp only [bind_eq_error_iff, reduceCtorEq, and_false, exists_false, or_false]
    constructor
    · exact fun refused => .inr ⟨_, _, _, rfl, refused⟩
    · rintro (⟨_, ⟨⟩, _⟩ | ⟨_, _, _, ⟨⟩, refused⟩)
      exact refused

theorem Encodes.ne_null (encodes : Encodes value tree) : value ≠ .null := by
  cases encodes <;> exact nofun

theorem ofJsonAt_of_encodes (encodes : Encodes value tree) (fits : tree.depth ≤ room)
    (path : Path) : ofJsonAt room path value = .ok tree := by
  induction encodes generalizing room path with
  | leaf type text left right =>
      cases room with
      | zero => cases fits
      | succ room =>
          have isOf : NodeHead.IsOf _ (.leaf _) := ⟨type, text, left, right⟩
          exact ofJsonAt_succ_eq_ok_iff.mpr (.inl ⟨_, NodeHead.ofJson_of_isOf isOf, rfl⟩)
  | node type text left_member right_member left_encodes right_encodes left_induction
      right_induction =>
      rw [depth] at fits
      cases room with
      | zero => omega
      | succ room =>
          have isOf : NodeHead.IsOf _ (.node _ _ _) :=
            ⟨type, text, left_member, right_member, left_encodes.ne_null, right_encodes.ne_null⟩
          exact ofJsonAt_succ_eq_ok_iff.mpr (.inr ⟨_, _, _, _, _, NodeHead.ofJson_of_isOf isOf,
            left_induction (by omega) _, right_induction (by omega) _, rfl⟩)

/-- The reader accepts the encodings of the trees that there is room for. -/
theorem ofJsonAt_eq_ok_iff (path : Path) :
    ofJsonAt room path value = .ok tree ↔ Encodes value tree ∧ tree.depth ≤ room := by
  refine ⟨fun read => ?_, fun ⟨encodes, fits⟩ => ofJsonAt_of_encodes encodes fits path⟩
  induction room generalizing path value tree with
  | zero => cases read
  | succ room induction =>
      rcases ofJsonAt_succ_eq_ok_iff.mp read with
        ⟨condition, head, rfl⟩ | ⟨connective, _, _, left, right, head, left_read, right_read, rfl⟩
      · obtain ⟨members, rfl, type, text, left, right⟩ := NodeHead.isOf_of_ofJson head
        exact ⟨.leaf type text left right, Nat.le_add_left 1 room⟩
      · obtain ⟨members, rfl, type, text, left_member, right_member, _⟩ :=
          NodeHead.isOf_of_ofJson head
        obtain ⟨left_encodes, left_fits⟩ := induction _ left_read
        obtain ⟨right_encodes, right_fits⟩ := induction _ right_read
        refine ⟨.node type text left_member right_member left_encodes right_encodes, ?_⟩
        rw [depth]
        omega

theorem depth_le_of_ofJsonAt {path : Path} (read : ofJsonAt room path value = .ok tree) :
    tree.depth ≤ room :=
  ((ofJsonAt_eq_ok_iff path).mp read).2

/-- No value encodes two trees, since with enough room both would be read from it. -/
theorem Encodes.unique (encodes : Encodes value tree) (encodes_other : Encodes value other) :
    tree = other := by
  have read := ofJsonAt_of_encodes encodes (Nat.le_max_left tree.depth other.depth) []
  rw [ofJsonAt_of_encodes encodes_other (Nat.le_max_right tree.depth other.depth)] at read
  exact (Except.ok.inj read).symm

/-- What is wrong with the value at the end of a path below another one, if there is room for some
levels: it is no node, or there is no room left for it. -/
inductive Refused : Nat → Path → Value → NodeFault → Prop
  | noRoom {value : Value} : Refused 0 [] value .tooDeep
  | noNode {room : Nat} {value : Value} {fault : NodeFault}
      (read : NodeHead.ofJson value = .error fault) : Refused (room + 1) [] value fault
  | atSide {room : Nat} {side : Side} {path : Path} {members : Members} {value : Value}
      {fault : NodeFault} (member : members.get? side.name = some value)
      (refused : Refused room path value fault) :
      Refused (room + 1) (side :: path) (.object members) fault

/-- A value that is refused has a faulty node at the path that is told. -/
theorem refused_of_ofJsonAt {path : Path} {fault : EncodingFault}
    (read : ofJsonAt room path value = .error fault) :
    ∃ steps reason, fault = .node (path ++ steps) reason ∧ Refused room steps value reason := by
  induction room generalizing path value with
  | zero =>
      cases read
      exact ⟨[], .tooDeep, by rw [List.append_nil], .noRoom⟩
  | succ room induction =>
      rcases ofJsonAt_succ_eq_error_iff.mp read with ⟨reason, head, rfl⟩ |
        ⟨connective, left, right, head, left_read | ⟨leftTree, _, right_read⟩⟩
      · exact ⟨[], reason, by rw [List.append_nil], .noNode head⟩
      · obtain ⟨members, rfl, _, _, left_member, _⟩ := NodeHead.isOf_of_ofJson head
        obtain ⟨steps, reason, rfl, refused⟩ := induction left_read
        exact ⟨.left :: steps, reason, by simp, .atSide left_member refused⟩
      · obtain ⟨members, rfl, _, _, _, right_member, _⟩ := NodeHead.isOf_of_ofJson head
        obtain ⟨steps, reason, rfl, refused⟩ := induction right_read
        exact ⟨.right :: steps, reason, by simp, .atSide right_member refused⟩

end Reading

/-- A tree is read from the JSON values that encode it, if it is not deeper than the limit, and from
no others.  In a value that encodes no such tree a node is malformed: the reader tells the path to
it and what is wrong with it, or that it lies beyond the limit.  No value encodes two trees. -/
theorem ofJson_reads_encodings (value : Value) :
    (∀ tree, ofJson value = .ok tree ↔ Encodes value tree ∧ tree.depth ≤ 512) ∧
    ((¬∃ tree, Encodes value tree ∧ tree.depth ≤ 512) →
      ∃ path fault, (ofJson value).mapError RuleError.malformedTree =
          .error (.malformedTree (.node path fault)) ∧ Refused 512 path value fault) ∧
    ∀ tree other, Encodes value tree → Encodes value other → tree = other := by
  have read_iff (tree : Tree) : ofJson value = .ok tree ↔ Encodes value tree ∧ tree.depth ≤ 512 :=
    ofJsonAt_eq_ok_iff []
  refine ⟨read_iff, fun no_tree => ?_, fun _ _ => Encodes.unique⟩
  cases read : ofJson value with
  | ok tree => exact absurd ⟨tree, (read_iff tree).mp read⟩ no_tree
  | error fault =>
      obtain ⟨path, reason, rfl, refused⟩ := refused_of_ofJsonAt read
      exact ⟨path, reason, rfl, refused⟩

/-- Two leaves under a conjunction, with a member that is ignored, and the same where the right one
has a side. -/
theorem ofJson_reads_encodings_of_pair :
    let leaf (left : Value) : Value := .ofMembers [("type", .ofString "operand"),
      ("value", .ofString "a = 1"), ("note", .ofNat 7), ("left", left), ("right", .null)]
    let pair (right : Value) : Value := .ofMembers [("type", .ofString "operator"),
      ("value", .ofString "AND"), ("left", leaf .null), ("right", right)]
    let tree : Tree := .node .and (.leaf "a = 1".toList) (.leaf "a = 1".toList)
    let corrupt : Value := pair (leaf (leaf .null))
    (Encodes (pair (leaf .null)) tree ∧ ∀ other, Encodes (pair (leaf .null)) other → tree = other) ∧
    (ofJson corrupt).mapError RuleError.malformedTree =
        .error (.malformedTree (.node [.right] .sideUnexpected)) ∧
      Refused 512 [.right] corrupt .sideUnexpected := by
  intro leaf pair tree corrupt
  have encodes := (((ofJson_reads_encodings (pair (leaf .null))).1 tree).mp rfl).1
  have no_tree : ¬∃ tree, Encodes corrupt tree ∧ tree.depth ≤ 512 := by
    rintro ⟨other, fits⟩
    cases ((ofJson_reads_encodings corrupt).1 other).mpr fits
  have at_right : (ofJson corrupt).mapError RuleError.malformedTree =
      .error (.malformedTree (.node [.right] .sideUnexpected)) := rfl
  obtain ⟨path, fault, told, refused⟩ := (ofJson_reads_encodings corrupt).2.1 no_tree
  cases told.symm.trans at_right
  exact ⟨⟨encodes, fun other => (ofJson_reads_encodings _).2.2 tree other encodes⟩, told, refused⟩

end Tree

end Rulebook
