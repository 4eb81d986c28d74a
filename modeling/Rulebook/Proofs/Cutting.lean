import Rulebook.Proofs.Conditions
import Rulebook.Proofs.Tokens

/-!
# Cutting rules into tokens

A rule is cut at every break, and a rule without breaks makes one token or none; what holds of all
texts of the second kind and of a text that is cut in two holds of every rule.  So every token is
found at its place in the rule, none is lost or cut short, and the tokens are known again however
their texts are spread with blank characters.
-/

namespace Rulebook

namespace Token

/-! ## Breaks -/

/-- Induction on texts that are cut at their breaks, in any order. -/
@[elab_as_elim]
theorem breakInduction {motive : Text → Prop}
    (run : ∀ run : Text, (∀ c ∈ run, ¬IsBreak c) → motive run)
    (cut : ∀ left c right, IsBreak c → motive left → motive right → motive (left ++ c :: right))
    (text : Text) : motive text := by
  by_cases breaks : ∃ c ∈ text, IsBreak c
  · obtain ⟨c, member, ends⟩ := breaks
    obtain ⟨left, right, text_eq⟩ := List.append_of_mem member
    have left_shorter : left.length < text.length := by simp [text_eq]
    have right_shorter : right.length < text.length := by
      rw [text_eq, List.length_append, List.length_cons]
      omega
    rw [text_eq]
    exact cut left c right ends (breakInduction run cut left) (breakInduction run cut right)
  · exact run text fun c member ends => breaks ⟨c, member, ends⟩
termination_by text.length

theorem ofText_cons_of_isBreak {c : Char} (ends : IsBreak c) (rest : Text) :
    ofText (c :: rest) = ofBreak c ++ ofText rest :=
  scan_of_isBreak ends [] rest

/-- The tokens of a text that is cut at a break, which may make a token itself. -/
theorem ofText_cut {c : Char} (ends : IsBreak c) (left right : Text) :
    ofText (left ++ c :: right) = ofText left ++ (ofBreak c ++ ofText right) := by
  rw [ofText_append ends, ofText_cons_of_isBreak ends]

theorem text_ofRun (run : Text) : (ofRun run).text = run := by
  unfold ofRun
  split
  · next c known => exact (Connective.ofKeyword?_eq_some_iff.mp known).symm
  · rfl

theorem ofBreak_cases {c : Char} (ends : IsBreak c) :
    (Text.isBlank c = true ∧ ofBreak c = []) ∨
      (c = '(' ∧ ofBreak c = [.opening]) ∨ (c = ')' ∧ ofBreak c = [.closing]) := by
  rcases ends with blank | rfl | rfl
  · exact .inl ⟨blank, if_pos blank⟩
  · exact .inr (.inl ⟨rfl, rfl⟩)
  · exact .inr (.inr ⟨rfl, rfl⟩)

theorem nil_of_ofBreak {c : Char} (ends : IsBreak c) {front back : List Token} {token : Token}
    (tokens_eq : ofBreak c = front ++ token :: back) : front = [] ∧ back = [] := by
  rcases ofBreak_cases ends with ⟨_, made⟩ | ⟨_, made⟩ | ⟨_, made⟩ <;>
    cases front <;> simp_all

/-! ## Texts of tokens -/

theorem not_isBlank_of_not_isBreak {c : Char} (inner : ¬IsBreak c) : Text.isBlank c = false :=
  Bool.eq_false_iff.mpr fun blank => inner (.inl blank)

theorem flatMap_text_ofText (text : Text) :
    (ofText text).flatMap Token.text = text.filter fun c => !Text.isBlank c := by
  induction text using breakInduction with
  | run run inner =>
      have kept : run.filter (fun c => !Text.isBlank c) = run :=
        List.filter_eq_self.mpr fun c member => by
          rw [not_isBlank_of_not_isBreak (inner c member), Bool.not_false]
      rw [kept]
      by_cases empty : run = []
      · rw [empty]
        rfl
      · rw [ofText_run inner empty, List.flatMap_singleton, text_ofRun]
  | cut left c right ends left_kept right_kept =>
      have break_kept : (ofBreak c).flatMap Token.text = [c].filter fun c => !Text.isBlank c := by
        rcases ofBreak_cases ends with ⟨blank, none_eq⟩ | ⟨rfl, _⟩ | ⟨rfl, _⟩
        · simp [none_eq, blank]
        · rfl
        · rfl
      rw [ofText_cut ends, List.flatMap_append, List.flatMap_append, left_kept, break_kept,
        right_kept, ← List.filter_append, ← List.filter_append, List.singleton_append]

theorem ofText_text_of_mem {text : Text} {token : Token} (member : token ∈ ofText text) :
    ofText token.text = [token] := by
  induction text using breakInduction with
  | run run inner =>
      by_cases empty : run = []
      · subst empty
        cases member
      · rw [ofText_run inner empty, List.mem_singleton] at member
        rw [member, text_ofRun, ofText_run inner empty]
  | cut left c right ends of_left of_right =>
      rw [ofText_cut ends, List.mem_append, List.mem_append] at member
      rcases member with in_left | at_break | in_right
      · exact of_left in_left
      · rcases ofBreak_cases ends with ⟨_, tokens_eq⟩ | ⟨_, tokens_eq⟩ | ⟨_, tokens_eq⟩ <;>
          rw [tokens_eq] at at_break
        · cases at_break
        · rw [List.mem_singleton.mp at_break]
          rfl
        · rw [List.mem_singleton.mp at_break]
          rfl
      · exact of_right in_right

theorem eq_connective_iff {text : Text} {token : Token} (member : token ∈ ofText text)
    (connective : Connective) :
    token = .connective connective ↔ token.text = connective.keyword := by
  have keyword : ofText connective.keyword = [.connective connective] := by
    cases connective <;> decide
  constructor
  · rintro rfl
    rfl
  · intro same
    have cut := ofText_text_of_mem member
    rw [same, keyword] at cut
    exact (List.singleton_inj.mp cut).symm

/-! ## Places of tokens -/

/-- Whether a text is a run between two others: it has characters, none of which is a break, and it
goes on to neither side. -/
structure IsMaximalRun (before run after : Text) : Prop where
  ne_nil : run ≠ []
  inner : ∀ c ∈ run, ¬IsBreak c
  starts : ∀ c ∈ before.getLast?, IsBreak c
  ends : ∀ c ∈ after.head?, IsBreak c

/-- Whether a token between others has a place in a text: what is before and after it there is cut
into the others, and unless it is a parenthesis, it is a maximal run. -/
def Stands (text : Text) (front : List Token) (token : Token) (back : List Token) : Prop :=
  ∃ before after, text = before ++ (token.text ++ after) ∧
    ofText before = front ∧ ofText after = back ∧
    (token = .opening ∨ token = .closing ∨ IsMaximalRun before token.text after)

namespace Stands

variable {left right : Text} {c : Char} {front back : List Token} {token : Token}

theorem append (ends : IsBreak c) (stands : Stands left front token back) :
    Stands (left ++ c :: right) front token (back ++ (ofBreak c ++ ofText right)) := by
  obtain ⟨before, after, rfl, rfl, rfl, place⟩ := stands
  refine ⟨before, after ++ c :: right, ?_, rfl, ofText_cut ends _ _, ?_⟩
  · simp only [List.append_assoc]
  refine place.imp_right (Or.imp_right fun run => { run with ends := ?_ })
  cases after with
  | nil => simpa using ends
  | cons d after => exact run.ends

theorem after_break (ends : IsBreak c) (stands : Stands right front token back) :
    Stands (left ++ c :: right) (ofText left ++ (ofBreak c ++ front)) token back := by
  obtain ⟨before, after, rfl, rfl, rfl, place⟩ := stands
  refine ⟨left ++ c :: before, after, by simp, ofText_cut ends _ _, rfl, ?_⟩
  refine place.imp_right (Or.imp_right fun run => { run with starts := ?_ })
  intro d last
  rw [List.getLast?_append, List.getLast?_cons, Option.some_or] at last
  cases nothing : before.getLast? with
  | none =>
      rw [nothing] at last
      cases last
      exact ends
  | some e =>
      rw [nothing] at last
      exact run.starts d (nothing ▸ last)

theorem run (inner : ∀ c ∈ left, ¬IsBreak c) (some_character : left ≠ []) :
    Stands left [] (ofRun left) [] := by
  refine ⟨[], [], ?_, rfl, rfl, .inr (.inr ?_)⟩
  · rw [text_ofRun, List.nil_append, List.append_nil]
  · rw [text_ofRun]
    exact ⟨some_character, inner, nofun, nofun⟩

theorem parenthesis (ends : IsBreak c) (makes : ofBreak c = [token]) :
    Stands (left ++ c :: right) (ofText left) token (ofText right) := by
  refine ⟨left, right, ?_, rfl, rfl, ?_⟩
  · rcases ofBreak_cases ends with ⟨_, tokens_eq⟩ | ⟨rfl, tokens_eq⟩ | ⟨rfl, tokens_eq⟩ <;>
      cases makes.symm.trans tokens_eq <;> rfl
  · rcases ofBreak_cases ends with ⟨_, tokens_eq⟩ | ⟨rfl, tokens_eq⟩ | ⟨rfl, tokens_eq⟩ <;>
      cases makes.symm.trans tokens_eq <;> simp

end Stands

/-- A member of two lists together is one of the first or one of the second. -/
private theorem split_append {first second front back : List Token} {token : Token}
    (whole : first ++ second = front ++ token :: back) :
    (∃ rest, first = front ++ token :: rest ∧ back = rest ++ second) ∨
      ∃ rest, front = first ++ rest ∧ second = rest ++ token :: back := by
  rcases List.append_eq_append_iff.mp whole with later | ⟨rest, first_eq, back_eq⟩
  · exact .inr later
  · cases rest with
    | nil => exact .inr ⟨[], by simpa using first_eq.symm, by simpa using back_eq.symm⟩
    | cons other rest =>
        cases back_eq
        exact .inl ⟨rest, first_eq, rfl⟩

/-- Every token of a text has its place there, in the order of the tokens. -/
theorem stands_of_ofText {text : Text} {front back : List Token} {token : Token}
    (tokens_eq : ofText text = front ++ token :: back) : Stands text front token back := by
  induction text using breakInduction generalizing front back with
  | run run inner =>
      by_cases empty : run = []
      · subst empty
        cases front <;> cases tokens_eq
      · rw [ofText_run inner empty, eq_comm, List.append_eq_singleton_iff] at tokens_eq
        rcases tokens_eq with ⟨rfl, same⟩ | ⟨_, same⟩
        · cases same
          exact .run inner empty
        · cases same
  | cut left c right ends of_left of_right =>
      rw [ofText_cut ends] at tokens_eq
      rcases split_append tokens_eq with ⟨rest, left_eq, rfl⟩ | ⟨rest, rfl, later⟩
      · exact (of_left left_eq).append ends
      · rcases split_append later with ⟨after, break_eq, rfl⟩ | ⟨rest, rfl, right_eq⟩
        · obtain ⟨rfl, rfl⟩ := nil_of_ofBreak ends break_eq
          rw [List.append_nil]
          exact .parenthesis ends break_eq
        · exact (of_right right_eq).after_break ends

/-- A text is cut where one of its parts ends with a break or the other begins with one. -/
theorem ofText_append_of_apart {left right : Text}
    (apart : (∀ c ∈ left.getLast?, IsBreak c) ∨ ∀ c ∈ right.head?, IsBreak c) :
    ofText (left ++ right) = ofText left ++ ofText right := by
  rcases apart with ends | starts
  · rcases List.eq_nil_or_concat left with rfl | ⟨left, c, rfl⟩
    · rfl
    · rw [List.concat_eq_append] at ends ⊢
      have breaks : IsBreak c := ends c (by simp)
      have last_eq : ofText [c] = ofBreak c ++ ofText [] := ofText_cons_of_isBreak breaks []
      rw [List.append_assoc, List.singleton_append, ofText_cut breaks, ofText_append breaks,
        last_eq, List.append_assoc, List.append_assoc]
      rfl
  · cases right with
    | nil =>
        rw [List.append_nil]
        exact (List.append_nil _).symm
    | cons c right => exact ofText_append (starts c rfl) left right

theorem IsMaximalRun.ofText_eq {before run after : Text} (maximal : IsMaximalRun before run after) :
    ofText (before ++ (run ++ after)) = ofText before ++ ofRun run :: ofText after := by
  rw [ofText_append_of_apart (.inl maximal.starts), ofText_append_of_apart (.inr maximal.ends),
    ofText_run maximal.inner maximal.ne_nil]
  rfl

/-! ## Two passes -/

/-- Whether a character is a parenthesis. -/
def isParenthesis (c : Char) : Bool :=
  c = '(' || c = ')'

theorem isParenthesis_iff {c : Char} : isParenthesis c = true ↔ c = '(' ∨ c = ')' := by
  simp [isParenthesis]

/-- The tokens of a piece without blank characters: first the parenthesis at its front, or else
what is before the first parenthesis. -/
def ofPiece : Text → List Token
  | [] => []
  | c :: rest =>
      if c = '(' then .opening :: ofPiece rest
      else if c = ')' then .closing :: ofPiece rest
      else
        ofRun (c :: rest.takeWhile fun d => !isParenthesis d) ::
          ofPiece (rest.dropWhile fun d => !isParenthesis d)
termination_by piece => piece.length
decreasing_by
  all_goals simp only [List.length_cons, Nat.lt_succ_iff, Nat.le_refl]
  exact (List.dropWhile_sublist _).length_le

theorem ofText_eq_ofPiece {piece : Text} (solid : ∀ c ∈ piece, Text.isBlank c = false) :
    ofText piece = ofPiece piece := by
  fun_induction ofPiece piece with
  | case1 => rfl
  | case2 rest induction =>
      rw [ofText_opening, induction (List.forall_mem_cons.mp solid).2]
  | case3 rest _ induction =>
      rw [ofText_cons_of_isBreak (.inr (.inr rfl)), induction (List.forall_mem_cons.mp solid).2]
      rfl
  | case4 c rest not_opening not_closing induction =>
      obtain ⟨c_solid, rest_solid⟩ := List.forall_mem_cons.mp solid
      have inner_of {d : Char} (d_solid : Text.isBlank d = false)
          (outside : isParenthesis d = false) : ¬IsBreak d := by
        rintro (blank | parenthesis)
        · cases blank.symm.trans d_solid
        · cases (isParenthesis_iff.mpr parenthesis).symm.trans outside
      have maximal : IsMaximalRun [] (c :: rest.takeWhile fun d => !isParenthesis d)
          (rest.dropWhile fun d => !isParenthesis d) := by
        refine ⟨List.cons_ne_nil _ _, List.forall_mem_cons.mpr ⟨?_, ?_⟩, nofun, ?_⟩
        · exact inner_of c_solid (by simp [isParenthesis, not_opening, not_closing])
        · intro d member
          refine inner_of (rest_solid d ((List.takeWhile_sublist _).mem member)) ?_
          simpa using List.all_eq_true.mp List.all_takeWhile d member
        · intro d first
          have stops := List.head?_dropWhile_not (fun d => !isParenthesis d) rest
          rw [first] at stops
          exact .inr (isParenthesis_iff.mp (by simpa using stops))
      have whole : c :: rest = (c :: rest.takeWhile fun d => !isParenthesis d) ++
          rest.dropWhile fun d => !isParenthesis d := by
        rw [List.cons_append, List.takeWhile_append_dropWhile]
      have left_solid : ∀ d ∈ rest.dropWhile fun d => !isParenthesis d, Text.isBlank d = false :=
        fun d member => rest_solid d ((List.dropWhile_sublist _).mem member)
      rw [← induction left_solid, whole]
      exact maximal.ofText_eq

/-- Cutting at blank characters first and then each piece at its parentheses gives the same. -/
theorem ofText_eq_flatMap_words (text : Text) :
    ofText text = (Text.words text).flatMap ofPiece := by
  suffices ∀ current : Text, (∀ c ∈ current, Text.isBlank c = false) →
      ofText (current.reverse ++ text) = (Text.wordsFrom current text).flatMap ofPiece from
    this [] nofun
  intro current solid
  have current_cut {current : Text} (solid : ∀ c ∈ current, Text.isBlank c = false) :
      ofText current.reverse = (Text.wordsFrom current []).flatMap ofPiece := by
    cases current with
    | nil => rfl
    | cons c current =>
        rw [Text.wordsFrom_nil (List.cons_ne_nil c current), List.flatMap_singleton]
        exact ofText_eq_ofPiece fun d member => solid d (List.mem_reverse.mp member)
  induction text generalizing current with
  | nil => rw [List.append_nil, current_cut solid]
  | cons c rest induction =>
      cases blank : Text.isBlank c with
      | true =>
          rw [Text.wordsFrom_blank blank, List.flatMap_append, ← current_cut solid, Text.words,
            ← induction [] nofun, ofText_append (.inl blank), ofText_blank blank]
          rfl
      | false =>
          rw [Text.wordsFrom_cons blank, ← induction _ (List.forall_mem_cons.mpr ⟨blank, solid⟩),
            List.reverse_cons, List.append_assoc]
          rfl

/-! ## The tokens of a rule -/

/-- What the tokens of a text are: its parentheses and its maximal runs of other characters that
are not blank, each at its place. -/
structure AreTokensOf (tokens : List Token) (text : Text) : Prop where
  /-- Only blank characters are lost. -/
  lossless : tokens.flatMap Token.text = text.filter fun c => !Text.isBlank c
  stand : ∀ front token back, tokens = front ++ token :: back → Stands text front token back
  conjunction : ∀ token ∈ tokens, token = .connective .and ↔ token.text = "AND".toList
  disjunction : ∀ token ∈ tokens, token = .connective .or ↔ token.text = "OR".toList
  opening : ∀ before after, text = before ++ '(' :: after →
    tokens = ofText before ++ .opening :: ofText after
  closing : ∀ before after, text = before ++ ')' :: after →
    tokens = ofText before ++ .closing :: ofText after
  run : ∀ before run after, text = before ++ (run ++ after) → IsMaximalRun before run after →
    ∃ token, token.text = run ∧ tokens = ofText before ++ token :: ofText after

theorem areTokensOf_ofText (text : Text) : AreTokensOf (ofText text) text where
  lossless := flatMap_text_ofText text
  stand _ _ _ := stands_of_ofText
  conjunction _ member := eq_connective_iff member .and
  disjunction _ member := eq_connective_iff member .or
  opening before after text_eq := text_eq ▸ ofText_cut (.inr (.inl rfl)) before after
  closing before after text_eq := text_eq ▸ ofText_cut (.inr (.inr rfl)) before after
  run _ run _ text_eq maximal :=
    ⟨ofRun run, text_ofRun run, text_eq ▸ maximal.ofText_eq⟩

/-- The tokens of a text are its parentheses and its maximal runs of characters that are neither
blank nor parentheses, each at its place, of which `AND` and `OR` are keywords; only blank
characters are lost.  They are also those of the pieces between blank characters, each of which is
cut at its parentheses.  Two texts with blank characters between them have the tokens of both, a
text in parentheses has those of the text in parentheses, and the texts of tokens with blank
characters between them are cut into the same tokens. -/
theorem tokens_are_maximal_runs (text : Text) :
    AreTokensOf (ofText text) text ∧
      ofText text = (Text.words text).flatMap ofPiece ∧
      ofText ('(' :: (text ++ [')'])) = .opening :: (ofText text ++ [.closing]) ∧
      ∀ blanks : Text, blanks ≠ [] → (∀ c ∈ blanks, Text.isBlank c = true) →
        (∀ other, ofText (text ++ (blanks ++ other)) = ofText text ++ ofText other) ∧
          ofText (Text.join blanks ((ofText text).map Token.text)) = ofText text :=
  ⟨areTokensOf_ofText text, ofText_eq_flatMap_words text, ofText_enclosed text,
    fun _ some_blank all_blank =>
      ⟨ofText_spaced some_blank all_blank text,
        ofText_join_texts some_blank all_blank fun _ => ofText_text_of_mem⟩⟩

/-- A keyword between a parenthesis and an ideographic space. -/
theorem tokens_are_maximal_runs_at_keyword :
    let text : Text := "(a)AND\u3000b".toList
    ofText text = [.opening, .word ['a'], .closing, .connective .and, .word ['b']] ∧
      ofText text = ["(a)AND".toList, ['b']].flatMap ofPiece ∧
      (∃ before after, text = before ++ ("AND".toList ++ after) ∧
        ofText before = [.opening, .word ['a'], .closing] ∧ ofText after = [.word ['b']] ∧
        IsMaximalRun before "AND".toList after) ∧
      (∃ token, token.text = ['a'] ∧
        ofText text = ofText ['('] ++ token :: ofText ")AND\u3000b".toList) ∧
      ofText (text ++ (['\u2003', '\t'] ++ "OR c".toList)) = ofText text ++ ofText "OR c".toList ∧
      ofText (Text.join ['\u2003', '\t'] ((ofText text).map Token.text)) = ofText text := by
  intro text
  have tokens_eq : ofText text =
      [.opening, .word ['a'], .closing] ++ .connective .and :: [.word ['b']] := by
    decide
  have run_at : IsMaximalRun ['('] ['a'] ")AND\u3000b".toList := {
    ne_nil := List.cons_ne_nil _ _
    inner := List.forall_mem_singleton.mpr (by decide)
    starts := by
      rintro _ ⟨⟩
      exact .inr (.inl rfl)
    ends := by
      rintro _ ⟨⟩
      exact .inr (.inr rfl) }
  obtain ⟨tokens, two_passes, _, spread⟩ := tokens_are_maximal_runs text
  obtain ⟨before, after, place⟩ := tokens.stand _ _ _ tokens_eq
  have all_blank : ∀ c ∈ ['\u2003', '\t'], Text.isBlank c = true :=
    List.forall_mem_cons.mpr ⟨rfl, List.forall_mem_singleton.mpr rfl⟩
  obtain ⟨spaced, joined⟩ := spread ['\u2003', '\t'] (List.cons_ne_nil _ _) all_blank
  refine ⟨tokens_eq, two_passes, ⟨before, after, place.1, place.2.1, place.2.2.1, ?_⟩,
    tokens.run _ _ _ rfl run_at, spaced _, joined⟩
  exact (place.2.2.2.resolve_left nofun).resolve_left nofun

end Token

end Rulebook
