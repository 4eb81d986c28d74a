import Mathlib.Logic.Relation
import Rulebook.Json.Reader
import Rulebook.Proofs.JsonText

/-!
# The grammar of JSON texts

The grammar derives a value from a text together with the height to which the containers of the text
nest.  The machine with the stack of open containers reads exactly the values that the grammar
derives, and on its way it has as many containers open as the height says, and never more.
-/

namespace Rulebook.Json

/-- What the grammar derives from a piece of a text. -/
inductive Part where
  | value (value : Value)
  /-- One element or more, with the bracket that closes their array. -/
  | elements (elements : List Value)
  /-- One member or more, in their order, with the brace that closes their object. -/
  | members (members : List (Text × Value))

/-- A text begins with a piece that spells a part and is followed by the rest. The height is the
greatest number of containers within the piece that lie in each other. Of several members with one
key the last one counts for the value, and all of them for the height. -/
inductive Spells (demand : Demand) : Part → Nat → (text rest : Text) → Prop where
  | quoted {contents text rest : Text}
      (read : Lexeme.next? demand text = some (.quoted contents, rest)) :
      Spells demand (.value (.text contents)) 0 text rest
  | scalar {value : Value} {text rest : Text}
      (read : Lexeme.next? demand text = some (.scalar value, rest)) :
      Spells demand (.value value) 0 text rest
  | emptyArray {text inner rest : Text}
      (opens : Lexeme.next? demand text = some (.openArray, inner))
      (closes : Lexeme.next? demand inner = some (.closeArray, rest)) :
      Spells demand (.value (.array [])) 1 text rest
  | array {elements : List Value} {height : Nat} {text inner rest : Text}
      (opens : Lexeme.next? demand text = some (.openArray, inner))
      (spelled : Spells demand (.elements elements) height inner rest) :
      Spells demand (.value (.array elements)) (height + 1) text rest
  | emptyObject {text inner rest : Text}
      (opens : Lexeme.next? demand text = some (.openObject, inner))
      (closes : Lexeme.next? demand inner = some (.closeObject, rest)) :
      Spells demand (.value (.object [])) 1 text rest
  | object {members : List (Text × Value)} {height : Nat} {text inner rest : Text}
      (opens : Lexeme.next? demand text = some (.openObject, inner))
      (spelled : Spells demand (.members members) height inner rest) :
      Spells demand (.value (.object (Members.ofList members))) (height + 1) text rest
  | lastElement {value : Value} {height : Nat} {text after rest : Text}
      (spelled : Spells demand (.value value) height text after)
      (closes : Lexeme.next? demand after = some (.closeArray, rest)) :
      Spells demand (.elements [value]) height text rest
  | element {value : Value} {elements : List Value} {height heights : Nat}
      {text after more rest : Text}
      (spelled : Spells demand (.value value) height text after)
      (comma : Lexeme.next? demand after = some (.comma, more))
      (others : Spells demand (.elements elements) heights more rest) :
      Spells demand (.elements (value :: elements)) (max height heights) text rest
  | lastMember {value : Value} {height : Nat} {key text afterKey start after rest : Text}
      (named : Lexeme.next? demand text = some (.quoted key, afterKey))
      (colon : Lexeme.next? demand afterKey = some (.colon, start))
      (spelled : Spells demand (.value value) height start after)
      (closes : Lexeme.next? demand after = some (.closeObject, rest)) :
      Spells demand (.members [(key, value)]) height text rest
  | member {value : Value} {members : List (Text × Value)} {height heights : Nat}
      {key text afterKey start after more rest : Text}
      (named : Lexeme.next? demand text = some (.quoted key, afterKey))
      (colon : Lexeme.next? demand afterKey = some (.colon, start))
      (spelled : Spells demand (.value value) height start after)
      (comma : Lexeme.next? demand after = some (.comma, more))
      (others : Spells demand (.members members) heights more rest) :
      Spells demand (.members ((key, value) :: members)) (max height heights) text rest

/-- A text spells a value and nothing else, with containers nested to a height. -/
def IsText (demand : Demand) (text : Text) (value : Value) (height : Nat) : Prop :=
  ∃ rest, Spells demand (.value value) height text rest ∧ Lexeme.skipSpace rest = []

theorem Spells.length_lt {demand : Demand} {part : Part} {height : Nat} {text rest : Text}
    (spelled : Spells demand part height text rest) : rest.length < text.length := by
  induction spelled with
  | quoted read => exact Lexeme.next?_length read
  | scalar read => exact Lexeme.next?_length read
  | emptyArray opens closes =>
      exact Nat.lt_trans (Lexeme.next?_length closes) (Lexeme.next?_length opens)
  | array opens _ induction => exact Nat.lt_trans induction (Lexeme.next?_length opens)
  | emptyObject opens closes =>
      exact Nat.lt_trans (Lexeme.next?_length closes) (Lexeme.next?_length opens)
  | object opens _ induction => exact Nat.lt_trans induction (Lexeme.next?_length opens)
  | lastElement _ closes induction => exact Nat.lt_trans (Lexeme.next?_length closes) induction
  | element _ comma _ induction others_induction =>
      exact Nat.lt_trans others_induction (Nat.lt_trans (Lexeme.next?_length comma) induction)
  | lastMember named colon _ closes induction =>
      have := Lexeme.next?_length named
      have := Lexeme.next?_length colon
      have := Lexeme.next?_length closes
      omega
  | member named colon _ comma _ induction others_induction =>
      have := Lexeme.next?_length named
      have := Lexeme.next?_length colon
      have := Lexeme.next?_length comma
      omega

namespace Progress

/-! ## The machine, step by step -/

/-- A move of the machine at a point, which is its state and what is left of the text. -/
def Moves (demand : Demand) (before after : Progress × Text) : Prop :=
  ∃ frames need lexeme, before.1 = .inside frames need ∧
    Lexeme.next? demand before.2 = some (lexeme, after.2) ∧
    step before.1 lexeme = some after.1

/-- The points that the machine comes to. -/
def Reaches (demand : Demand) : Progress × Text → Progress × Text → Prop :=
  Relation.ReflTransGen (Moves demand)

variable {demand : Demand} {frames : List Frame} {need : Need} {text rest : Text}
  {lexeme : Lexeme} {after : Progress}

theorem moves (read : Lexeme.next? demand text = some (lexeme, rest))
    (stepped : step (.inside frames need) lexeme = some after) :
    Moves demand (.inside frames need, text) (after, rest) :=
  ⟨frames, need, lexeme, rfl, read, stepped⟩

theorem run_of_moves {before after : Progress × Text} (moved : Moves demand before after) :
    run demand none before.1 before.2 = run demand none after.1 after.2 := by
  obtain ⟨progress, left⟩ := before
  obtain ⟨frames, need, lexeme, rfl, read, stepped⟩ := moved
  exact run_step read stepped

theorem run_of_reaches {before after : Progress × Text} (reached : Reaches demand before after) :
    run demand none before.1 before.2 = run demand none after.1 after.2 := by
  induction reached with
  | refl => rfl
  | tail _ moved induction => exact induction.trans (run_of_moves moved)

/-- Where the end of an array may come, all other lexemes are read as where a value must come. -/
theorem step_elementOrClose (other : lexeme ≠ .closeArray) :
    step (.inside frames .elementOrClose) lexeme = step (.inside frames .value) lexeme := by
  cases lexeme with
  | closeArray => exact absurd rfl other
  | _ => rfl

/-- Where the end of an object may come, all other lexemes are read as where a key must come. -/
theorem step_keyOrClose (other : lexeme ≠ .closeObject) :
    step (.inside frames .keyOrClose) lexeme = step (.inside frames .key) lexeme := by
  cases lexeme with
  | closeObject => exact absurd rfl other
  | _ => rfl

theorem step_elementOrClose_of_value (stepped : step (.inside frames .value) lexeme = some after) :
    step (.inside frames .elementOrClose) lexeme = some after := by
  rw [step_elementOrClose, stepped]
  rintro rfl
  cases stepped

theorem step_keyOrClose_of_key (stepped : step (.inside frames .key) lexeme = some after) :
    step (.inside frames .keyOrClose) lexeme = some after := by
  rw [step_keyOrClose, stepped]
  rintro rfl
  simp [step, takeKey] at stepped

/-! ## What the grammar derives is read -/

/-- Whether the machine comes from one point to another and has some number of containers open at a
point on its way. -/
def ReachesOver (demand : Demand) (before after : Progress × Text) (height : Nat) : Prop :=
  Reaches demand before after ∧
    ∃ top, Reaches demand before top ∧ top.1.openContainers = height

theorem reachesOver_of_moves {before between after : Progress × Text} {height : Nat}
    (moved : Moves demand before between) (way : ReachesOver demand between after height) :
    ReachesOver demand before after height := by
  obtain ⟨reached, top, top_reached, top_open⟩ := way
  exact ⟨.head moved reached, top, .head moved top_reached, top_open⟩

theorem ReachesOver.trans {before between after : Progress × Text} {height other : Nat}
    (first : ReachesOver demand before between height)
    (second : ReachesOver demand between after other) :
    ReachesOver demand before after (max height other) := by
  obtain ⟨reached, top, top_reached, top_open⟩ := first
  obtain ⟨later, top', top_reached', top_open'⟩ := second
  refine ⟨Relation.ReflTransGen.trans reached later, ?_⟩
  rcases Nat.le_total height other with le | le
  · rw [Nat.max_eq_right le]
    exact ⟨top', Relation.ReflTransGen.trans reached top_reached', top_open'⟩
  · rw [Nat.max_eq_left le]
    exact ⟨top, top_reached, top_open⟩

theorem ReachesOver.followed {before between after : Progress × Text} {height : Nat}
    (way : ReachesOver demand before between height) (moved : Moves demand between after) :
    ReachesOver demand before after height :=
  ⟨.tail way.1 moved, way.2⟩

/-- What may come where a container may also end is read as where it must go on. -/
theorem reachesOver_of_need {need other : Need} {point : Progress × Text} {height : Nat}
    (weaker : ∀ lexeme after, step (.inside frames need) lexeme = some after →
      step (.inside frames other) lexeme = some after)
    (moved : point.2.length < text.length)
    (way : ReachesOver demand (.inside frames need, text) point height) :
    ReachesOver demand (.inside frames other, text) point height := by
  have started {goal : Progress × Text} {between : Progress × Text}
      (first : Moves demand (.inside frames need, text) between)
      (later : Reaches demand between goal) :
      Reaches demand (.inside frames other, text) goal := by
    obtain ⟨_, _, lexeme, same, read, stepped⟩ := first
    cases same
    exact .head ⟨frames, other, lexeme, rfl, read, weaker lexeme _ stepped⟩ later
  obtain ⟨reached, top, top_reached, top_open⟩ := way
  constructor
  · rcases Relation.ReflTransGen.cases_head reached with rfl | ⟨between, first, later⟩
    · exact absurd moved (Nat.lt_irrefl _)
    · exact started first later
  · rcases Relation.ReflTransGen.cases_head top_reached with rfl | ⟨between, first, later⟩
    · exact ⟨(.inside frames other, text), .refl, top_open⟩
    · exact ⟨top, started first later, top_open⟩

/-- What the machine does with a part of a text, from the point where the part may come. -/
def Follows (demand : Demand) (height : Nat) (text rest : Text) : Part → Prop
  | .value value => ∀ frames after, settle value frames = some after →
      ReachesOver demand (.inside frames .value, text) (after, rest) (frames.length + height)
  | .elements elements => ∀ done frames after,
      settle (.array (done.reverse ++ elements)) frames = some after →
      ReachesOver demand (.inside (.array done :: frames) .value, text) (after, rest)
        (frames.length + 1 + height)
  | .members members => ∀ found frames after,
      settle (.object
        (members.foldl (fun done member => Members.insert member.1 member.2 done) found))
        frames = some after →
      ReachesOver demand (.inside (.object found :: frames) .key, text) (after, rest)
        (frames.length + 1 + height)

theorem follows_of_spells {part : Part} {height : Nat}
    (spelled : Spells demand part height text rest) : Follows demand height text rest part := by
  induction spelled with
  | quoted read =>
      intro frames after settled
      exact ⟨.single (moves read settled), _, .refl, rfl⟩
  | scalar read =>
      intro frames after settled
      exact ⟨.single (moves read settled), _, .refl, rfl⟩
  | emptyArray opens closes =>
      intro frames after settled
      have opened : Moves demand (.inside frames .value, _)
          (.inside (.array [] :: frames) .elementOrClose, _) := moves opens rfl
      exact ⟨.head opened (.single (moves closes settled)), _, .single opened, rfl⟩
  | array opens spelled induction =>
      intro frames after settled
      apply reachesOver_of_moves (moves opens rfl)
      apply reachesOver_of_need (fun _ _ => step_elementOrClose_of_value) spelled.length_lt
      have way := induction [] frames after settled
      rwa [Nat.add_right_comm] at way
  | emptyObject opens closes =>
      intro frames after settled
      have opened : Moves demand (.inside frames .value, _)
          (.inside (.object [] :: frames) .keyOrClose, _) := moves opens rfl
      exact ⟨.head opened (.single (moves closes settled)), _, .single opened, rfl⟩
  | object opens spelled induction =>
      intro frames after settled
      apply reachesOver_of_moves (moves opens rfl)
      apply reachesOver_of_need (fun _ _ => step_keyOrClose_of_key) spelled.length_lt
      have way := induction [] frames after settled
      rwa [Nat.add_right_comm] at way
  | lastElement spelled closes induction =>
      intro done frames after settled
      have way := induction (.array done :: frames) _ rfl
      refine way.followed (moves closes ?_)
      change settle (.array (_ :: done).reverse) frames = some after
      rwa [List.reverse_cons]
  | element spelled comma others induction others_induction =>
      intro done frames after settled
      have way := induction (.array done :: frames) _ rfl
      have more := others_induction (_ :: done) frames after (by simpa using settled)
      have whole := (way.followed (moves comma rfl)).trans more
      rwa [List.length_cons, Nat.add_max_add_left] at whole
  | @lastMember _ _ key _ _ _ _ _ named colon spelled closes induction =>
      intro found frames after settled
      apply reachesOver_of_moves (moves named rfl)
      apply reachesOver_of_moves (moves colon rfl)
      have way := induction (.member found key :: frames) _ rfl
      exact way.followed (moves closes settled)
  | @member _ _ _ _ key _ _ _ _ _ _ named colon spelled comma others induction others_induction =>
      intro found frames after settled
      apply reachesOver_of_moves (moves named rfl)
      apply reachesOver_of_moves (moves colon rfl)
      have way := induction (.member found key :: frames) _ rfl
      have more := others_induction _ frames after settled
      have whole := (way.followed (moves comma rfl)).trans more
      rwa [List.length_cons, Nat.add_max_add_left] at whole

/-! ## What is read is derived by the grammar -/

variable {result : Value × Text}

theorem run_cases (ran : run demand none (.inside frames need) text = some result) :
    ∃ lexeme rest after, Lexeme.next? demand text = some (lexeme, rest) ∧
      step (.inside frames need) lexeme = some after ∧
      run demand none after rest = some result := by
  rw [run] at ran
  simp only [Option.any_none, Bool.false_eq_true, if_false] at ran
  split at ran
  · cases ran
  · next lexeme rest read =>
    split at ran
    · cases ran
    · next after stepped => exact ⟨lexeme, rest, after, read, stepped, ran⟩

/-- Whether every run from a value on reads first what the grammar derives. -/
private def IsReadFromValue (demand : Demand) (text : Text) : Prop :=
  ∀ frames result, run demand none (.inside frames .value) text = some result →
    ∃ value height rest after, Spells demand (.value value) height text rest ∧
      settle value frames = some after ∧ run demand none after rest = some result

/-- Whether every run from an element on reads first what the grammar derives. -/
private def IsReadFromElement (demand : Demand) (text : Text) : Prop :=
  ∀ done frames result,
    run demand none (.inside (.array done :: frames) .value) text = some result →
    ∃ elements height rest after, Spells demand (.elements elements) height text rest ∧
      settle (.array (done.reverse ++ elements)) frames = some after ∧
      run demand none after rest = some result

/-- Whether every run from a key on reads first what the grammar derives. -/
private def IsReadFromKey (demand : Demand) (text : Text) : Prop :=
  ∀ found frames result,
    run demand none (.inside (.object found :: frames) .key) text = some result →
    ∃ members height rest after, Spells demand (.members members) height text rest ∧
      settle (.object
        (members.foldl (fun done member => Members.insert member.1 member.2 done) found))
        frames = some after ∧
      run demand none after rest = some result

private theorem isReadFromValue
    (inner : ∀ rest : Text, rest.length < text.length →
      IsReadFromElement demand rest ∧ IsReadFromKey demand rest) :
    IsReadFromValue demand text := by
  intro frames result ran
  obtain ⟨lexeme, rest, after, read, stepped, later⟩ := run_cases ran
  have shorter := Lexeme.next?_length read
  cases lexeme with
  | openArray =>
      cases stepped
      obtain ⟨lexeme, rest', after, read', stepped, later'⟩ := run_cases later
      by_cases closed : lexeme = .closeArray
      · subst closed
        exact ⟨_, _, _, after, .emptyArray read read', stepped, later'⟩
      · rw [step_elementOrClose closed] at stepped
        have again := (run_step read' stepped).trans later'
        obtain ⟨_, _, _, after, spelled, settled, last⟩ := (inner rest shorter).1 [] frames _ again
        exact ⟨_, _, _, after, .array read spelled, settled, last⟩
  | openObject =>
      cases stepped
      obtain ⟨lexeme, rest', after, read', stepped, later'⟩ := run_cases later
      by_cases closed : lexeme = .closeObject
      · subst closed
        exact ⟨_, _, _, after, .emptyObject read read', stepped, later'⟩
      · rw [step_keyOrClose closed] at stepped
        have again := (run_step read' stepped).trans later'
        obtain ⟨_, _, _, after, spelled, settled, last⟩ := (inner rest shorter).2 [] frames _ again
        exact ⟨_, _, _, after, .object read spelled, settled, last⟩
  | quoted contents => exact ⟨_, _, _, after, .quoted read, stepped, later⟩
  | scalar value => exact ⟨_, _, _, after, .scalar read, stepped, later⟩
  | _ => cases stepped

private theorem isReadFromElement (first : IsReadFromValue demand text)
    (others : ∀ rest : Text, rest.length < text.length → IsReadFromElement demand rest) :
    IsReadFromElement demand text := by
  intro done frames result ran
  obtain ⟨value, height, rest, after, spelled, settled, later⟩ := first _ _ ran
  cases settled
  obtain ⟨lexeme, rest', after, read, stepped, later'⟩ := run_cases later
  have shorter := Nat.lt_trans (Lexeme.next?_length read) spelled.length_lt
  cases lexeme with
  | comma =>
      cases stepped
      obtain ⟨elements, _, _, after, more, settled, last⟩ := others rest' shorter _ _ _ later'
      refine ⟨value :: elements, _, _, after, .element spelled read more, ?_, last⟩
      rwa [List.reverse_cons, List.append_assoc] at settled
  | closeArray =>
      refine ⟨[value], _, _, after, .lastElement spelled read, ?_, later'⟩
      rw [← List.reverse_cons]
      exact stepped
  | _ => cases stepped

private theorem isReadFromKey
    (inner : ∀ rest : Text, rest.length < text.length →
      IsReadFromValue demand rest ∧ IsReadFromKey demand rest) :
    IsReadFromKey demand text := by
  intro found frames result ran
  obtain ⟨lexeme, afterKey, after, named, stepped, ran⟩ := run_cases ran
  have key_shorter := Lexeme.next?_length named
  cases lexeme with
  | quoted key =>
      cases stepped
      obtain ⟨lexeme, start, after, colon, stepped, ran⟩ := run_cases ran
      have start_shorter := Nat.lt_trans (Lexeme.next?_length colon) key_shorter
      cases lexeme with
      | colon =>
          cases stepped
          obtain ⟨value, height, rest, after, spelled, settled, ran⟩ :=
            (inner start start_shorter).1 _ _ ran
          cases settled
          obtain ⟨lexeme, rest', after, read, stepped, ran⟩ := run_cases ran
          have shorter := Nat.lt_trans (Nat.lt_trans (Lexeme.next?_length read) spelled.length_lt)
            start_shorter
          cases lexeme with
          | comma =>
              cases stepped
              obtain ⟨members, _, _, after, more, settled, last⟩ :=
                (inner rest' shorter).2 _ _ _ ran
              exact ⟨(key, value) :: members, _, _, after, .member named colon spelled read more,
                settled, last⟩
          | closeObject =>
              exact ⟨[(key, value)], _, _, after, .lastMember named colon spelled read, stepped,
                ran⟩
          | _ => cases stepped
      | _ => cases stepped
  | _ => cases stepped

/-- Induction on how much text is left: a value is read by way of shorter texts, elements and
members by way of a value and shorter texts. -/
private theorem isRead (text : Text) :
    IsReadFromValue demand text ∧ IsReadFromElement demand text ∧ IsReadFromKey demand text := by
  induction length_eq : text.length using Nat.strongRecOn generalizing text with
  | ind length induction =>
      subst length_eq
      have value : IsReadFromValue demand text :=
        isReadFromValue fun rest shorter => (induction _ shorter rest rfl).2
      refine ⟨value, ?_, ?_⟩
      · exact isReadFromElement value fun rest shorter => (induction _ shorter rest rfl).2.1
      · apply isReadFromKey
        intro rest shorter
        obtain ⟨value, _, key⟩ := induction _ shorter rest rfl
        exact ⟨value, key⟩

/-- The machine reads exactly what the grammar derives. -/
theorem run_start_eq_some_iff {value : Value} :
    run demand none .start text = some (value, rest) ↔
      ∃ height, Spells demand (.value value) height text rest := by
  constructor
  · intro ran
    obtain ⟨read, height, after_read, after, spelled, settled, ran⟩ := (isRead text).1 [] _ ran
    cases settled
    rw [run_complete] at ran
    cases ran
    exact ⟨height, spelled⟩
  · rintro ⟨height, spelled⟩
    have way := follows_of_spells spelled [] (.complete value) rfl
    have ran := run_of_reaches way.1
    rwa [run_complete] at ran

end Progress

/-- A text is read as a value exactly if it spells that value and nothing else. -/
theorem Value.read?_eq_some_iff {text : Text} {value : Value} :
    read? none text = some value ↔ ∃ height, IsText .meaning text value height := by
  have split : read? none text = some value ↔
      ∃ rest, Progress.run .meaning none .start text = some (value, rest) ∧
        Lexeme.skipSpace rest = [] := by
    rw [read?, front?]
    cases Progress.run .meaning none .start text with
    | none => simp
    | some found =>
        obtain ⟨found, rest⟩ := found
        simp [List.isEmpty_iff, and_assoc, and_comm]
  rw [split]
  simp only [Progress.run_start_eq_some_iff, IsText]
  constructor
  · rintro ⟨rest, ⟨height, spelled⟩, blank⟩
    exact ⟨height, rest, spelled, blank⟩
  · rintro ⟨height, rest, spelled, blank⟩
    exact ⟨rest, ⟨height, spelled⟩, blank⟩

end Rulebook.Json
