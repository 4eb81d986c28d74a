import Rulebook.Rule.Combination
import Rulebook.Rule.Token

/-!
# Tokens of composed texts

A text is cut at every blank character and at every parenthesis, so the tokens of a text that is
put together at one of these are those of its parts.  What trimming, parentheses and joining do to
the tokens follows from this one equation.  The words among the tokens are just the texts in which
nothing ends a run and which are no keywords.
-/

namespace Rulebook

namespace Token

/-- Whether a run of characters ends before a character. -/
def IsBreak (c : Char) : Prop :=
  Text.isBlank c = true ∨ c = '(' ∨ c = ')'

instance (c : Char) : Decidable (IsBreak c) :=
  inferInstanceAs (Decidable (_ ∨ _ ∨ _))

/-- The token of a character before which a run ends, if it makes one. -/
def ofBreak (c : Char) : List Token :=
  if Text.isBlank c then [] else if c = '(' then [.opening] else [.closing]

private theorem flush_eq_append (current : Text) (after : List Token) :
    flush current after = flush current [] ++ after := by
  unfold flush
  split <;> rfl

theorem scan_of_isBreak {c : Char} (ends : IsBreak c) (current rest : Text) :
    scan current (c :: rest) = flush current [] ++ (ofBreak c ++ scan [] rest) := by
  rw [scan, ofBreak, ← flush_eq_append]
  split
  · rfl
  · next not_blank =>
    split
    · rfl
    · next not_opening =>
      rw [if_pos ((ends.resolve_left not_blank).resolve_left not_opening)]
      rfl

theorem scan_of_not_isBreak {c : Char} (inner : ¬IsBreak c) (current rest : Text) :
    scan current (c :: rest) = scan (c :: current) rest := by
  rw [IsBreak, not_or, not_or] at inner
  rw [scan, if_neg inner.1, if_neg inner.2.1, if_neg inner.2.2]

theorem scan_append {c : Char} (ends : IsBreak c) (current left right : Text) :
    scan current (left ++ c :: right) = scan current left ++ scan [] (c :: right) := by
  induction left generalizing current with
  | nil =>
      rw [List.nil_append, scan_of_isBreak ends current, scan_of_isBreak ends []]
      rfl
  | cons d left induction =>
      rw [List.cons_append]
      by_cases breaks : IsBreak d
      · rw [scan_of_isBreak breaks, scan_of_isBreak breaks, induction, List.append_assoc,
          List.append_assoc]
      · rw [scan_of_not_isBreak breaks, scan_of_not_isBreak breaks, induction]

theorem ofText_append {c : Char} (ends : IsBreak c) (left right : Text) :
    ofText (left ++ c :: right) = ofText left ++ ofText (c :: right) :=
  scan_append ends [] left right

theorem ofText_blank {c : Char} (blank : Text.isBlank c = true) (rest : Text) :
    ofText (c :: rest) = ofText rest := by
  rw [ofText, ofText, scan, if_pos blank]
  rfl

theorem ofText_opening (rest : Text) : ofText ('(' :: rest) = .opening :: ofText rest := rfl

theorem ofText_append_of_blank {blanks : Text} (all_blank : ∀ c ∈ blanks, Text.isBlank c = true)
    (text : Text) : ofText (text ++ blanks) = ofText text := by
  induction blanks generalizing text with
  | nil => rw [List.append_nil]
  | cons c rest induction =>
      rw [List.forall_mem_cons] at all_blank
      rw [ofText_append (.inl all_blank.1), ofText_blank all_blank.1]
      have empty := induction all_blank.2 []
      rw [List.nil_append] at empty
      rw [empty]
      exact List.append_nil _

theorem ofText_dropWhile (text : Text) :
    ofText (text.dropWhile Text.isBlank) = ofText text := by
  induction text with
  | nil => rfl
  | cons c rest induction =>
      rw [List.dropWhile_cons]
      split
      · next blank => rw [induction, ofText_blank blank]
      · rfl

theorem ofText_dropEndWhile (text : Text) :
    ofText (Text.dropEndWhile Text.isBlank text) = ofText text := by
  have all_blank : ∀ c ∈ (text.reverse.takeWhile Text.isBlank).reverse, Text.isBlank c = true := by
    intro c member
    exact List.all_eq_true.mp List.all_takeWhile c (List.mem_reverse.mp member)
  calc
    ofText (Text.dropEndWhile Text.isBlank text) =
        ofText (Text.dropEndWhile Text.isBlank text ++
          (text.reverse.takeWhile Text.isBlank).reverse) :=
      (ofText_append_of_blank all_blank _).symm
    _ = ofText text := by
      rw [Text.dropEndWhile, ← List.reverse_append, List.takeWhile_append_dropWhile,
        List.reverse_reverse]

theorem ofText_trim (text : Text) : ofText (Text.trim text) = ofText text := by
  rw [Text.trim, ofText_dropEndWhile, ofText_dropWhile]

theorem ofText_enclosed (text : Text) :
    ofText ('(' :: (text ++ [')'])) = .opening :: (ofText text ++ [.closing]) := by
  rw [ofText_opening, ofText_append (.inr (.inr rfl))]
  rfl

theorem ofText_joined (connective : Connective) (left right : Text) :
    ofText (left ++ ' ' :: (connective.keyword ++ ' ' :: right)) =
      ofText left ++ .connective connective :: ofText right := by
  have blank : Text.isBlank ' ' = true := by decide
  have keyword : ofText connective.keyword = [.connective connective] := by
    cases connective <;> decide
  rw [ofText_append (.inl blank), ofText_blank blank, ofText_append (.inl blank),
    ofText_blank blank, keyword]
  rfl

theorem ofText_conjunction (left right : Text) :
    ofText (left ++ " AND ".toList ++ right) =
      ofText left ++ .connective .and :: ofText right := by
  have delimiter : " AND ".toList = ' ' :: (Connective.and.keyword ++ [' ']) := by decide
  rw [← ofText_joined, delimiter, List.append_assoc]
  rfl

/-! ## Blank characters between texts -/

section Blanks

variable {blanks : Text} (some_blank : blanks ≠ [])
  (all_blank : ∀ c ∈ blanks, Text.isBlank c = true)

include all_blank

theorem ofText_blanks_append (text : Text) : ofText (blanks ++ text) = ofText text := by
  induction blanks with
  | nil => rfl
  | cons c rest induction =>
      rw [List.forall_mem_cons] at all_blank
      rw [List.cons_append, ofText_blank all_blank.1, induction all_blank.2]

include some_blank

theorem ofText_spaced (left right : Text) :
    ofText (left ++ (blanks ++ right)) = ofText left ++ ofText right := by
  obtain ⟨blank, rest, rfl⟩ := List.exists_cons_of_ne_nil some_blank
  rw [← ofText_blanks_append all_blank right]
  exact ofText_append (.inl (all_blank blank List.mem_cons_self)) left (rest ++ right)

theorem ofText_join_texts {tokens : List Token}
    (each : ∀ token ∈ tokens, ofText token.text = [token]) :
    ofText (Text.join blanks (tokens.map Token.text)) = tokens := by
  induction tokens with
  | nil => rfl
  | cons token rest induction =>
      rw [List.forall_mem_cons] at each
      cases rest with
      | nil =>
          rw [Text.join, List.map_singleton, List.intercalate_singleton]
          exact each.1
      | cons next rest =>
          rw [Text.join, List.map_cons, List.map_cons, List.intercalate_cons_cons,
            List.append_assoc, ofText_spaced some_blank all_blank, each.1]
          exact congrArg _ (induction each.2)

end Blanks

/-! ## Words -/

/-- Whether a text is a word wherever it stands in a rule: nothing in it ends a run, and it is no
keyword. -/
structure IsPlainWord (word : Text) : Prop where
  ne_nil : word ≠ []
  inner : ∀ c ∈ word, ¬IsBreak c
  ne_keyword : ∀ connective : Connective, word ≠ connective.keyword

theorem ofRun_eq_word_iff {run word : Text} :
    ofRun run = .word word ↔ run = word ∧ ∀ connective : Connective, run ≠ connective.keyword := by
  unfold ofRun
  cases known : Connective.ofKeyword? run with
  | some connective =>
      have keyword := Connective.ofKeyword?_eq_some_iff.mp known
      simp only [reduceCtorEq, false_iff, not_and]
      exact fun _ no_keyword => no_keyword connective keyword
  | none =>
      have no_keyword : ∀ connective : Connective, run ≠ connective.keyword := by
        intro connective keyword
        rw [Connective.ofKeyword?_eq_some_iff.mpr keyword] at known
        cases known
      simp [no_keyword]

theorem scan_run {run : Text} (inner : ∀ c ∈ run, ¬IsBreak c) (current : Text) :
    scan current run = flush (run.reverse ++ current) [] := by
  induction run generalizing current with
  | nil => rfl
  | cons c run induction =>
      rw [List.forall_mem_cons] at inner
      rw [scan_of_not_isBreak inner.1, induction inner.2, List.reverse_cons, List.append_assoc]
      rfl

theorem ofText_run {run : Text} (inner : ∀ c ∈ run, ¬IsBreak c) (some_character : run ≠ []) :
    ofText run = [ofRun run] := by
  have reversed : run.reverse.isEmpty = false := by simpa using some_character
  rw [ofText, scan_run inner, List.append_nil, flush, reversed, if_neg Bool.false_ne_true,
    List.reverse_reverse]

theorem IsPlainWord.ofText_eq {word : Text} (plain : IsPlainWord word) :
    ofText word = [.word word] := by
  rw [ofText_run plain.inner plain.ne_nil, ofRun_eq_word_iff.mpr ⟨rfl, plain.ne_keyword⟩]

theorem ofText_join {words : List Text} (plain : ∀ word ∈ words, IsPlainWord word) :
    ofText (Text.join [' '] words) = words.map .word := by
  have blank : ∀ c ∈ [' '], Text.isBlank c = true := List.forall_mem_singleton.mpr rfl
  have texts_eq : (words.map Token.word).map Token.text = words := by
    rw [List.map_map]
    exact List.map_id words
  have each : ∀ token ∈ words.map Token.word, ofText token.text = [token] := by
    rw [List.forall_mem_map]
    exact fun word member => (plain word member).ofText_eq
  rw [← ofText_join_texts (List.cons_ne_nil _ _) blank each, texts_eq]

theorem isPlainWord_of_mem_flush {current word : Text} (inner : ∀ c ∈ current, ¬IsBreak c)
    (member : .word word ∈ flush current []) : IsPlainWord word := by
  unfold flush at member
  split at member
  · cases member
  · next some_character =>
    obtain ⟨rfl, no_keyword⟩ := ofRun_eq_word_iff.mp (List.mem_singleton.mp member).symm
    exact {
      ne_nil := by simpa using some_character
      inner := fun c in_run => inner c (List.mem_reverse.mp in_run)
      ne_keyword := no_keyword }

theorem isPlainWord_of_mem_scan {current text word : Text} (inner : ∀ c ∈ current, ¬IsBreak c)
    (member : .word word ∈ scan current text) : IsPlainWord word := by
  induction text generalizing current with
  | nil => exact isPlainWord_of_mem_flush inner member
  | cons c text induction =>
      by_cases breaks : IsBreak c
      · rw [scan_of_isBreak breaks, List.mem_append, List.mem_append] at member
        rcases member with of_current | of_break | of_rest
        · exact isPlainWord_of_mem_flush inner of_current
        · unfold ofBreak at of_break
          split at of_break
          · cases of_break
          · split at of_break <;> simp at of_break
        · exact induction (List.forall_mem_nil _) of_rest
      · rw [scan_of_not_isBreak breaks] at member
        exact induction (List.forall_mem_cons.mpr ⟨breaks, inner⟩) member

theorem isPlainWord_of_mem {rule word : Text} (member : .word word ∈ ofText rule) :
    IsPlainWord word :=
  isPlainWord_of_mem_scan (List.forall_mem_nil _) member

end Token

namespace Rule

/-- The tokens of a part of a combined text: those of the rule, in parentheses if it has a
connective at its root. -/
theorem ofText_part (rule : Rule) :
    Token.ofText rule.part =
      if rule.tree.isNode then .opening :: (Token.ofText rule.text ++ [.closing])
      else Token.ofText rule.text := by
  rw [part]
  split
  · rw [Token.ofText_enclosed, Token.ofText_trim]
  · exact Token.ofText_trim rule.text

end Rule

end Rulebook
