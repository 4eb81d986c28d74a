import Rulebook.Proofs.JsonText
import Rulebook.Proofs.NodeEncodings
import Rulebook.Proofs.Parsing

/-!
# Stored trees are read back

The brackets of the stored form of a tree nest as deeply as the tree, the machine reads the value of
the tree from it, and that value is read as the tree: so a tree that is not too deep comes back.
-/

namespace Rulebook

namespace Tree

open Json

theorem foldl_encodeOnto (tree : Tree) (depth deepest : Nat) (rest : Text) :
    (tree.encodeOnto rest).foldl NestingScan.next (.outside depth deepest) =
      rest.foldl NestingScan.next (.outside depth (max deepest (depth + tree.depth))) := by
  have opens (depth deepest : Nat) : NestingScan.next (.outside depth deepest) '{' =
      .outside (depth + 1) (max deepest (depth + 1)) := rfl
  have closes (depth deepest : Nat) : NestingScan.next (.outside (depth + 1) deepest) '}' =
      .outside depth deepest := rfl
  have comma (depth deepest : Nat) : NestingScan.next (.outside depth deepest) ',' =
      .outside depth deepest := rfl
  have member (depth deepest : Nat) (key value : Text) :
      (memberOnto key value).foldl NestingScan.next (.outside depth deepest) =
        value.foldl NestingScan.next (.outside depth deepest) := by
    rw [memberOnto, NestingScan.foldl_quoted]
    rfl
  have null (depth deepest : Nat) (rest : Text) :
      (Value.onto .null rest).foldl NestingScan.next (.outside depth deepest) =
        rest.foldl NestingScan.next (.outside depth deepest) := by
    rw [Value.onto]
    rfl
  induction tree generalizing depth deepest rest with
  | leaf condition =>
      simp only [encodeOnto, List.foldl_cons, opens, member, NestingScan.foldl_quoted, comma, null,
        closes, Tree.depth]
  | node connective left right left_induction right_induction =>
      simp only [encodeOnto, List.foldl_cons, opens, member, NestingScan.foldl_quoted, comma,
        left_induction, right_induction, closes, Tree.depth]
      congr 2
      omega

theorem nesting_encode (tree : Tree) : Json.nesting tree.encode = tree.depth := by
  have scanned := tree.foldl_encodeOnto 0 0 []
  rw [Json.nesting, encode]
  have start : (⟨0, 0, false, false⟩ : NestingScan) = .outside 0 0 := rfl
  rw [start, scanned, List.foldl_nil]
  simp only [NestingScan.outside]
  omega

/-- The members of a stored node, in the order in which they are written, are kept in the order of
their keys. -/
private theorem insert_members (type text left right : Value) :
    Members.insert rightKey right (Members.insert leftKey left (Members.insert valueKey text
      (Members.insert typeKey type []))) =
      [(leftKey, left), (rightKey, right), (typeKey, type), (valueKey, text)] := by
  have value_type : ¬valueKey = typeKey ∧ ¬valueKey < typeKey := by decide
  have left_type : ¬leftKey = typeKey ∧ leftKey < typeKey := by decide
  have right_left : ¬rightKey = leftKey ∧ ¬rightKey < leftKey := by decide
  have right_type : ¬rightKey = typeKey ∧ rightKey < typeKey := by decide
  simp only [Members.insert, value_type, left_type, right_left, right_type, if_false, if_true]

section Machine

variable {frames : List Frame} {members : Members} {rest : Text} {after : Progress}

private theorem run_open :
    Progress.run .meaning none (.inside frames .value) ('{' :: rest) =
      Progress.run .meaning none (.inside (.object [] :: frames) .keyOrClose) rest :=
  Progress.run_step (Lexeme.next?_mark rest (rfl : Lexeme.mark? '{' = some .openObject) rfl) rfl

private theorem run_comma :
    Progress.run .meaning none (.inside (.object members :: frames) .commaOrClose)
        (',' :: rest) =
      Progress.run .meaning none (.inside (.object members :: frames) .key) rest :=
  Progress.run_step (Lexeme.next?_mark rest (rfl : Lexeme.mark? ',' = some .comma) rfl) rfl

private theorem run_close (settled : Progress.settle (.object members) frames = some after) :
    Progress.run .meaning none (.inside (.object members :: frames) .commaOrClose)
        ('}' :: rest) =
      Progress.run .meaning none after rest :=
  Progress.run_step (Lexeme.next?_mark rest (rfl : Lexeme.mark? '}' = some .closeObject) rfl)
    settled

private theorem run_colon (key : Text) :
    Progress.run .meaning none (.inside (.member members key :: frames) .colon) (':' :: rest) =
      Progress.run .meaning none (.inside (.member members key :: frames) .value) rest :=
  Progress.run_step (Lexeme.next?_mark rest (rfl : Lexeme.mark? ':' = some .colon) rfl) rfl

private theorem run_key (key : Text) {need : Need} (awaits : need = .keyOrClose ∨ need = .key) :
    Progress.run .meaning none (.inside (.object members :: frames) need) (memberOnto key rest) =
      Progress.run .meaning none (.inside (.member members key :: frames) .value) rest := by
  rw [memberOnto, ← run_colon]
  apply Progress.run_step (Lexeme.next?_quoted key (':' :: rest))
  rcases awaits with rfl | rfl <;> rfl

private theorem run_text (key text : Text) :
    Progress.run .meaning none (.inside (.member members key :: frames) .value)
        (Quoted.onto text rest) =
      Progress.run .meaning none
        (.inside (.object (members.insert key (.text text)) :: frames) .commaOrClose) rest :=
  Progress.run_step (Lexeme.next?_quoted text rest) rfl

private theorem run_null (key : Text) :
    Progress.run .meaning none (.inside (.member members key :: frames) .value)
        (Value.onto .null rest) =
      Progress.run .meaning none
        (.inside (.object (members.insert key .null) :: frames) .commaOrClose) rest :=
  Progress.run_step (Lexeme.next?_null .meaning rest) rfl

end Machine

theorem run_encodeOnto (tree : Tree) {frames : List Frame} {after : Progress}
    (settled : Progress.settle tree.toJson frames = some after) (rest : Text) :
    Progress.run .meaning none (.inside frames .value) (tree.encodeOnto rest) =
      Progress.run .meaning none after rest := by
  induction tree generalizing frames after rest with
  | leaf condition =>
      rw [toJson, ← insert_members] at settled
      rw [encodeOnto, run_open, run_key typeKey (.inl rfl), run_text, run_comma,
        run_key valueKey (.inr rfl), run_text, run_comma, run_key leftKey (.inr rfl), run_null,
        run_comma, run_key rightKey (.inr rfl), run_null, run_close settled]
  | node connective left right left_induction right_induction =>
      rw [toJson, ← insert_members] at settled
      rw [encodeOnto, run_open, run_key typeKey (.inl rfl), run_text, run_comma,
        run_key valueKey (.inr rfl), run_text, run_comma, run_key leftKey (.inr rfl),
        left_induction rfl, run_comma, run_key rightKey (.inr rfl), right_induction rfl,
        run_close settled]

theorem read?_encode (tree : Tree) : Value.read? none tree.encode = some tree.toJson := by
  have settled : Progress.settle tree.toJson [] = some (.complete tree.toJson) := rfl
  have read := tree.run_encodeOnto settled []
  rw [Progress.run_complete] at read
  rw [Value.read?, Value.front?, Progress.start, encode, read]
  rfl

theorem encodes_toJson (tree : Tree) : Encodes tree.toJson tree := by
  induction tree with
  | leaf condition => exact .leaf rfl rfl rfl rfl
  | node connective left right left_induction right_induction =>
      exact .node rfl rfl rfl rfl left_induction right_induction

theorem ofJson_node (connective : Connective) (left right : Tree) :
    NodeHead.ofJson (node connective left right).toJson =
      .ok (.node connective left.toJson right.toJson) :=
  NodeHead.ofJson_of_isOf
    ⟨rfl, rfl, rfl, rfl, left.encodes_toJson.ne_null, right.encodes_toJson.ne_null⟩

theorem ofJsonAt_toJson (tree : Tree) {room : Nat} (fits : tree.depth ≤ room) (path : Path) :
    ofJsonAt room path tree.toJson = .ok tree :=
  ofJsonAt_of_encodes tree.encodes_toJson fits path

theorem depth_le_of_decode {text : Text} {tree : Tree} (read : decode text = .ok tree) :
    tree.depth ≤ maxDepth := by
  unfold decode at read
  split at read
  · cases read
  · split at read
    · cases read
    · exact depth_le_of_ofJsonAt read

/-- A tree that is not too deep comes back from its stored form. -/
theorem decode_encode {tree : Tree} (fits : tree.depth ≤ maxDepth) :
    decode tree.encode = .ok tree := by
  rw [decode, nesting_encode, if_neg (by omega), read?_encode]
  exact ofJsonAt_toJson tree fits []

end Tree

end Rulebook
