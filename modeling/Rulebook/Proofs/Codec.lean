import Rulebook.Proofs.Encoding

/-!
# The stored form holds trees exactly up to the limit

Three measures bound the depth of a stored tree: the scan over the text, the levels that are left
while the nodes are read, and the depth of the tree.  They agree, so a tree comes back exactly if it
is not too deep.
-/

namespace Rulebook.Tree

open Json

/-- A tree with more levels than there is room for is refused at its first node without room, which
lies as many steps below the root as there was room for levels. -/
theorem ofJsonAt_toJson_of_deep (tree : Tree) {room : Nat} (deep : room < tree.depth)
    (path : Path) :
    ∃ steps : Path, steps.length = room ∧
      ofJsonAt room path tree.toJson = .error (.node (path ++ steps) .tooDeep) := by
  induction tree generalizing room path with
  | leaf condition =>
      obtain rfl : room = 0 := Nat.lt_one_iff.mp deep
      exact ⟨[], rfl, by rw [ofJsonAt, List.append_nil]⟩
  | node connective left right left_induction right_induction =>
      rw [depth] at deep
      cases room with
      | zero => exact ⟨[], rfl, by rw [ofJsonAt, List.append_nil]⟩
      | succ room =>
          rw [ofJsonAt, ofJson_node]
          dsimp only
          rcases Nat.lt_or_ge room left.depth with left_deep | left_fits
          · obtain ⟨steps, steps_length, refused⟩ := left_induction left_deep (path ++ [.left])
            refine ⟨.left :: steps, by rw [List.length_cons, steps_length], ?_⟩
            rw [refused, List.append_assoc]
            rfl
          · have right_deep : room < right.depth := by omega
            obtain ⟨steps, steps_length, refused⟩ := right_induction right_deep (path ++ [.right])
            refine ⟨.right :: steps, by rw [List.length_cons, steps_length], ?_⟩
            rw [ofJsonAt_toJson left left_fits, refused, List.append_assoc]
            rfl

/-- A tree that is too deep is refused by the scan of its stored form, with its depth. -/
theorem decode_encode_of_deep {tree : Tree} (deep : maxDepth < tree.depth) :
    decode tree.encode = .error (.nesting tree.depth) := by
  rw [decode, nesting_encode, if_pos deep]

/-- A tree comes back from its stored form, and from the JSON value of it, if it is not deeper than
the limit, and else both are refused as malformed.  What is read from any text can be stored and
read again. -/
theorem codec_round_trips (tree : Tree) :
    Value.read? none tree.encode = some tree.toJson ∧
    (tree.depth ≤ 512 → decode tree.encode = .ok tree ∧ ofJson tree.toJson = .ok tree) ∧
    (512 < tree.depth →
      (decode tree.encode).mapError RuleError.malformedTree =
        .error (.malformedTree (.nesting tree.depth)) ∧
      ∃ path : Path, path.length = 512 ∧
        (ofJson tree.toJson).mapError RuleError.malformedTree =
          .error (.malformedTree (.node path .tooDeep))) ∧
    ∀ text, decode text = .ok tree → decode tree.encode = .ok tree := by
  refine ⟨read?_encode tree, ?_, ?_, ?_⟩
  · intro fits
    exact ⟨decode_encode fits, ofJsonAt_toJson tree fits []⟩
  · intro deep
    obtain ⟨path, path_length, refused⟩ := ofJsonAt_toJson_of_deep tree deep []
    refine ⟨?_, path, path_length, ?_⟩
    · rw [decode_encode_of_deep deep]
      rfl
    · rw [ofJson, maxDepth, refused]
      rfl
  · intro text decoded
    exact decode_encode (depth_le_of_decode decoded)

/-- The chain of conjunctions with 512 levels comes back, its conditions full of marks, and the one
with a level more does not. -/
theorem codec_round_trips_on_chains :
    let chain : Nat → Tree :=
      Nat.rec (.leaf "\"[\x7b\\".toList) fun _ tree => .node .and tree (.leaf [])
    decode (chain 511).encode = .ok (chain 511) ∧
    (decode (chain 512).encode).mapError RuleError.malformedTree =
      .error (.malformedTree (.nesting 513)) ∧
    ∃ path : Path, path.length = 512 ∧
      (ofJson (chain 512).toJson).mapError RuleError.malformedTree =
        .error (.malformedTree (.node path .tooDeep)) := by
  intro chain
  have depth_chain (n : Nat) : (chain n).depth = n + 1 := by
    induction n with
    | zero => rfl
    | succ n induction =>
        change 1 + max (chain n).depth 1 = n + 2
        omega
  obtain ⟨_, fitting, _, again⟩ := codec_round_trips (chain 511)
  obtain ⟨back, _⟩ := fitting (Nat.le_of_eq (depth_chain 511))
  obtain ⟨_, _, refusing, _⟩ := codec_round_trips (chain 512)
  obtain ⟨refused, path, path_length, value_refused⟩ :=
    refusing (Nat.le_of_eq (depth_chain 512).symm)
  rw [depth_chain] at refused
  exact ⟨again _ back, refused, path, path_length, value_refused⟩

end Rulebook.Tree
