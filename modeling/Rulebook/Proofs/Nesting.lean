import Rulebook.Proofs.Encoding
import Rulebook.Proofs.JsonGrammar
import Rulebook.Proofs.JsonScan

/-!
# The scan for brackets bounds the machine

The machine that reads stored trees has no limit on open containers of its own.  The scan counts one
bracket for each container that the machine opens or closes, so it never counts fewer than the
machine has open, wherever the machine stops; over a text that the grammar derives it counts exactly
the height of the text.
-/

namespace Rulebook.Json

open NestingScan

namespace Progress

variable {demand : Demand} {frames : List Frame} {need : Need} {lexeme : Lexeme} {after : Progress}

/-! ## How many containers a step leaves open -/

private theorem openContainers_settle {value : Value} (settled : settle value frames = some after) :
    after.openContainers = frames.length := by
  cases frames with
  | nil =>
      cases settled
      rfl
  | cons frame outer =>
      cases frame <;> cases settled
      · rfl
      · rfl

private theorem openContainers_takeValue (taken : takeValue frames lexeme = some after) :
    after.openContainers = lexeme.openAfter frames.length := by
  cases lexeme with
  | openArray =>
      cases taken
      rfl
  | openObject =>
      cases taken
      rfl
  | quoted contents => exact openContainers_settle taken
  | scalar value => exact openContainers_settle taken
  | _ => cases taken

private theorem openContainers_takeKey (taken : takeKey frames lexeme = some after) :
    after.openContainers = lexeme.openAfter frames.length := by
  unfold takeKey at taken
  split at taken
  · cases taken
    rfl
  · cases taken

private theorem openContainers_close (closed : close frames lexeme = some after) :
    after.openContainers = lexeme.openAfter frames.length := by
  unfold close at closed
  split at closed
  · exact openContainers_settle closed
  · exact openContainers_settle closed
  · cases closed

private theorem openContainers_takeComma (taken : takeComma frames = some after) :
    after.openContainers = frames.length := by
  unfold takeComma at taken
  split at taken
  · cases taken
    rfl
  · cases taken
    rfl
  · cases taken

theorem openContainers_step (stepped : step (.inside frames need) lexeme = some after) :
    after.openContainers = lexeme.openAfter (inside frames need).openContainers := by
  change after.openContainers = lexeme.openAfter frames.length
  cases need with
  | value => exact openContainers_takeValue stepped
  | elementOrClose =>
      cases lexeme with
      | closeArray => exact openContainers_close stepped
      | _ => exact openContainers_takeValue stepped
  | keyOrClose =>
      cases lexeme with
      | closeObject => exact openContainers_close stepped
      | _ => exact openContainers_takeKey stepped
  | key => exact openContainers_takeKey stepped
  | colon =>
      cases lexeme with
      | colon =>
          cases stepped
          rfl
      | _ => cases stepped
  | commaOrClose =>
      cases lexeme with
      | comma => exact openContainers_takeComma stepped
      | _ => exact openContainers_close stepped

/-! ## Wherever the machine comes to -/

/-- Where the machine is, the scan has counted what the machine has open. -/
theorem foldl_of_reaches {text : Text} {point : Progress × Text}
    (reached : Reaches demand (.start, text) point) :
    ∃ deepest, point.1.openContainers ≤ deepest ∧
      text.foldl next (outside 0 0) =
        point.2.foldl next (outside point.1.openContainers deepest) := by
  induction reached with
  | refl => exact ⟨0, Nat.le_refl 0, rfl⟩
  | @tail before after _ moved induction =>
      obtain ⟨deepest, bounded, scanned⟩ := induction
      obtain ⟨frames, need, lexeme, inside_eq, read, stepped⟩ := moved
      rw [inside_eq] at stepped bounded scanned
      have counted := foldl_next? read bounded
      rw [← openContainers_step stepped] at counted
      exact ⟨max deepest after.1.openContainers, Nat.le_max_right _ _, scanned.trans counted⟩

/-- Of any text the machine never has more containers open than the scan counts. -/
theorem openContainers_le_nesting {text : Text} {point : Progress × Text}
    (reached : Reaches demand (.start, text) point) :
    point.1.openContainers ≤ nesting text := by
  obtain ⟨deepest, bounded, scanned⟩ := foldl_of_reaches reached
  have start : (⟨0, 0, false, false⟩ : NestingScan) = outside 0 0 := rfl
  rw [nesting, start, scanned]
  exact Nat.le_trans bounded (deepest_le_foldl (outside _ deepest) point.2)

end Progress

/-! ## Over a text that the grammar derives -/

/-- How many of the containers that a part closes are open before it. -/
def Part.alreadyOpen : Part → Nat
  | .value _ => 0
  | .elements _ | .members _ => 1

variable {demand : Demand} {part : Part} {value : Value} {height : Nat} {text rest : Text}

private theorem foldl_outside_congr {depth deepest other : Nat} (same : deepest = other) :
    rest.foldl next (outside depth deepest) = rest.foldl next (outside depth other) := by
  rw [same]

private theorem foldl_key {key afterKey start : Text} {depth deepest : Nat}
    (named : Lexeme.next? demand text = some (.quoted key, afterKey))
    (colon : Lexeme.next? demand afterKey = some (.colon, start)) (bounded : depth ≤ deepest) :
    text.foldl next (outside depth deepest) = start.foldl next (outside depth deepest) := by
  have stays : max deepest depth = deepest := Nat.max_eq_left bounded
  rw [foldl_next? named bounded, Lexeme.openAfter, stays, foldl_next? colon bounded,
    Lexeme.openAfter, stays]

/-- Over a part the scan counts the height of the part, and it ends where the containers that the
part closes had not been opened. -/
theorem foldl_of_spells (spelled : Spells demand part height text rest) (depth deepest : Nat)
    (bounded : depth + part.alreadyOpen ≤ deepest) :
    text.foldl next (outside (depth + part.alreadyOpen) deepest) =
      rest.foldl next (outside depth (max deepest (depth + part.alreadyOpen + height))) := by
  induction spelled generalizing depth deepest with
  | quoted read => exact foldl_next? read bounded
  | scalar read => exact foldl_next? read bounded
  | emptyArray opens closes =>
      have opened := foldl_next? opens bounded
      have closed := foldl_next? closes (Nat.le_max_right deepest (depth + 1))
      refine (opened.trans closed).trans (foldl_outside_congr ?_)
      simp only [Lexeme.openAfter, Part.alreadyOpen]
      omega
  | array opens spelled induction =>
      have opened := foldl_next? opens bounded
      have inner := induction depth _ (Nat.le_max_right deepest (depth + 1))
      refine (opened.trans inner).trans (foldl_outside_congr ?_)
      simp only [Part.alreadyOpen]
      omega
  | emptyObject opens closes =>
      have opened := foldl_next? opens bounded
      have closed := foldl_next? closes (Nat.le_max_right deepest (depth + 1))
      refine (opened.trans closed).trans (foldl_outside_congr ?_)
      simp only [Lexeme.openAfter, Part.alreadyOpen]
      omega
  | object opens spelled induction =>
      have opened := foldl_next? opens bounded
      have inner := induction depth _ (Nat.le_max_right deepest (depth + 1))
      refine (opened.trans inner).trans (foldl_outside_congr ?_)
      simp only [Part.alreadyOpen]
      omega
  | lastElement spelled closes induction =>
      have inner := induction (depth + 1) deepest bounded
      refine inner.trans ((foldl_next? closes ?_).trans (foldl_outside_congr ?_))
      · exact Nat.le_trans bounded (Nat.le_max_left _ _)
      · simp only [Lexeme.openAfter, Part.alreadyOpen]
        omega
  | element spelled comma others induction others_induction =>
      have inner := induction (depth + 1) deepest bounded
      refine inner.trans ((foldl_next? comma ?_).trans
        ((others_induction depth _ (Nat.le_max_right _ _)).trans (foldl_outside_congr ?_)))
      · exact Nat.le_trans bounded (Nat.le_max_left _ _)
      · simp only [Part.alreadyOpen]
        omega
  | lastMember named colon spelled closes induction =>
      have inner := (foldl_key named colon bounded).trans (induction (depth + 1) deepest bounded)
      refine inner.trans ((foldl_next? closes ?_).trans (foldl_outside_congr ?_))
      · exact Nat.le_trans bounded (Nat.le_max_left _ _)
      · simp only [Lexeme.openAfter, Part.alreadyOpen]
        omega
  | member named colon spelled comma others induction others_induction =>
      have inner := (foldl_key named colon bounded).trans (induction (depth + 1) deepest bounded)
      refine inner.trans ((foldl_next? comma ?_).trans
        ((others_induction depth _ (Nat.le_max_right _ _)).trans (foldl_outside_congr ?_)))
      · exact Nat.le_trans bounded (Nat.le_max_left _ _)
      · simp only [Part.alreadyOpen]
        omega

/-- The brackets of a text that the grammar derives nest to its height. -/
theorem nesting_of_isText (spelled : IsText demand text value height) : nesting text = height := by
  obtain ⟨rest, spelled, blank⟩ := spelled
  have scanned := foldl_of_spells spelled 0 0 (Nat.le_refl 0)
  rw [passes_skipSpace rest, blank] at scanned
  have counted := congrArg NestingScan.deepest scanned
  change nesting text = max 0 (0 + 0 + height) at counted
  omega

end Rulebook.Json

namespace Rulebook.Tree

open Json

theorem decode_eq_ok_iff {text : Text} {tree : Tree} :
    decode text = .ok tree ↔
      ∃ value height, IsText .meaning text value height ∧ height ≤ maxDepth ∧
        ofJson value = .ok tree := by
  constructor
  · intro decoded
    rw [decode] at decoded
    split at decoded
    · cases decoded
    · next shallow =>
      split at decoded
      · cases decoded
      · next value read =>
        obtain ⟨height, spelled⟩ := Value.read?_eq_some_iff.mp read
        rw [nesting_of_isText spelled] at shallow
        exact ⟨value, height, spelled, Nat.le_of_not_lt shallow, decoded⟩
  · rintro ⟨value, height, spelled, shallow, read⟩
    rw [decode, nesting_of_isText spelled, if_neg (Nat.not_lt_of_le shallow),
      Value.read?_eq_some_iff.mpr ⟨height, spelled⟩]
    exact read

/-- A text that is not refused for its nesting does not nest deeper than a tree may be. -/
theorem nesting_le_of_decode_ne {text : Text}
    (admitted : ∀ count, decode text ≠ .error (.nesting count)) : nesting text ≤ maxDepth := by
  apply Nat.le_of_not_lt
  intro deep
  apply admitted (nesting text)
  rw [decode, if_pos deep]

/-- No limit on open containers is missed where trees are read: wherever the machine comes to in a
text, it has no more of them open than the scan over the bytes of the text counts, and the scan
counts no more than there are. -/
theorem nesting_bounds_reader (text : Text) :
    nesting (text.flatMap bytesOf) = nesting text ∧
    (∀ demand progress rest, Progress.Reaches demand (.start, text) (progress, rest) →
      progress.openContainers ≤ nesting text) ∧
    ((∀ count, decode text ≠ .error (.nesting count)) →
      ∀ demand progress rest, Progress.Reaches demand (.start, text) (progress, rest) →
        progress.openContainers ≤ 512) ∧
    (∀ demand value height, IsText demand text value height →
      nesting text = height ∧
      ∃ progress rest, Progress.Reaches demand (.start, text) (progress, rest) ∧
        progress.openContainers = height) ∧
    ∀ tree, decode text = .ok tree ↔
      ∃ value height, IsText .meaning text value height ∧ height ≤ 512 ∧
        ofJson value = .ok tree := by
  refine ⟨nesting_flatMap_bytesOf text, ?_, ?_, ?_, fun _ => decode_eq_ok_iff⟩
  · intro demand progress rest reached
    exact Progress.openContainers_le_nesting reached
  · intro admitted demand progress rest reached
    have bounded := Progress.openContainers_le_nesting reached
    exact Nat.le_trans bounded (nesting_le_of_decode_ne admitted)
  · intro demand value height spelled
    refine ⟨nesting_of_isText spelled, ?_⟩
    obtain ⟨rest, spelled, _⟩ := spelled
    obtain ⟨_, ⟨progress, left⟩, reached, top⟩ :=
      Progress.follows_of_spells spelled [] (.complete value) rfl
    rw [List.length_nil, Nat.zero_add] at top
    exact ⟨progress, left, reached, top⟩

/-- In `{"":[[]],"":"[{"}` the deepest member is overwritten, and the brackets of the string do not
count. -/
theorem nesting_bounds_reader_on_overwritten_member :
    let text : Text := ['{', '"', '"', ':', '[', '[', ']', ']', ',',
      '"', '"', ':', '"', '[', '{', '"', '}']
    let value : Value := .object [([], .text ['[', '{'])]
    IsText .meaning text value 3 ∧ nesting text = 3 ∧
      (∃ progress rest, Progress.Reaches .meaning (.start, text) (progress, rest) ∧
        progress.openContainers = 3) ∧
      (∀ progress rest, Progress.Reaches .meaning (.start, text) (progress, rest) →
        progress.openContainers ≤ 3) ∧
      ∀ demand progress rest, Progress.Reaches demand (.start, text) (progress, rest) →
        progress.openContainers ≤ 512 := by
  intro text value
  have arrays : Spells .meaning (.value (.array [.array []])) 2 (text.drop 4) (text.drop 8) :=
    .array rfl (.lastElement (.emptyArray rfl rfl) rfl)
  have string : Spells .meaning (.value (.text ['[', '{'])) 0 (text.drop 12) (text.drop 16) :=
    .quoted (Lexeme.next?_quoted ['[', '{'] (text.drop 16))
  have members : Spells .meaning
      (.members [([], .array [.array []]), ([], .text ['[', '{'])]) 2 (text.drop 1) [] :=
    .member (Lexeme.next?_quoted [] _) rfl arrays rfl
      (.lastMember (Lexeme.next?_quoted [] _) rfl string rfl)
  have spelled : IsText .meaning text value 3 := ⟨[], .object rfl members, rfl⟩
  have refused : decode text = .error (.node [] (.missing typeKey)) := by
    rw [decode, if_neg (by decide), Value.read?_eq_some_iff.mpr ⟨3, spelled⟩]
    rfl
  have admitted (count : Nat) : decode text ≠ .error (.nesting count) := by
    rw [refused]
    intro same
    cases same
  obtain ⟨_, reader_le, reader_le_limit, reaches, _⟩ := nesting_bounds_reader text
  obtain ⟨nesting_eq, reached⟩ := reaches .meaning value 3 spelled
  refine ⟨spelled, nesting_eq, reached, ?_, reader_le_limit admitted⟩
  rw [← nesting_eq]
  exact reader_le .meaning

end Rulebook.Tree
