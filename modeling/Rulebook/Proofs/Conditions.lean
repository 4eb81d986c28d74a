import Rulebook.Rule.Comparison

/-!
# Words and conditions

Everything about the words of a text follows from one equation: a text is cut at a blank character.
A comparison that was read from a condition is written as a text of three words, which is read as
the same comparison.
-/

namespace Rulebook

namespace Text

/-- Whether a text is a word: it has characters, and none of them is blank. -/
def IsWord (text : Text) : Prop :=
  text ≠ [] ∧ ∀ c ∈ text, isBlank c = false

theorem wordsFrom_blank {c : Char} (blank : isBlank c = true) (current rest : Text) :
    wordsFrom current (c :: rest) = wordsFrom current [] ++ words rest := by
  rw [wordsFrom.eq_def current (c :: rest), wordsFrom.eq_def current []]
  dsimp only
  rw [if_pos blank]
  split <;> rfl

theorem wordsFrom_cons {c : Char} (inner : isBlank c = false) (current rest : Text) :
    wordsFrom current (c :: rest) = wordsFrom (c :: current) rest := by
  rw [wordsFrom, inner, if_neg Bool.false_ne_true]

theorem wordsFrom_append {c : Char} (blank : isBlank c = true) (current left right : Text) :
    wordsFrom current (left ++ c :: right) = wordsFrom current left ++ words right := by
  induction left generalizing current with
  | nil => exact wordsFrom_blank blank current right
  | cons d left induction =>
      rw [List.cons_append]
      cases inner : isBlank d with
      | true =>
          rw [wordsFrom_blank inner, wordsFrom_blank inner, words, induction, List.append_assoc]
          rfl
      | false => rw [wordsFrom_cons inner, wordsFrom_cons inner, induction]

theorem words_append {c : Char} (blank : isBlank c = true) (left right : Text) :
    words (left ++ c :: right) = words left ++ words right :=
  wordsFrom_append blank [] left right

theorem wordsFrom_of_solid {text : Text} (solid : ∀ c ∈ text, isBlank c = false) (current : Text) :
    wordsFrom current text = wordsFrom (text.reverse ++ current) [] := by
  induction text generalizing current with
  | nil => rfl
  | cons c text induction =>
      rw [List.forall_mem_cons] at solid
      rw [wordsFrom_cons solid.1, induction solid.2, List.reverse_cons, List.append_assoc]
      rfl

theorem wordsFrom_nil {current : Text} (some_character : current ≠ []) :
    wordsFrom current [] = [current.reverse] := by
  rw [wordsFrom, if_neg (mt List.isEmpty_iff.mp some_character)]

theorem IsWord.words_eq {text : Text} (word : text.IsWord) : words text = [text] := by
  have some_character : text.reverse ≠ [] := mt List.reverse_eq_nil_iff.mp word.1
  rw [words, wordsFrom_of_solid word.2, List.append_nil, wordsFrom_nil some_character,
    List.reverse_reverse]

theorem words_join {texts : List Text} (each : ∀ text ∈ texts, IsWord text) :
    words (join [' '] texts) = texts := by
  have blank : isBlank ' ' = true := by decide
  induction texts with
  | nil => rfl
  | cons text rest induction =>
      rw [List.forall_mem_cons] at each
      cases rest with
      | nil =>
          rw [join, List.intercalate_singleton]
          exact each.1.words_eq
      | cons next rest =>
          rw [join, List.intercalate_cons_cons, List.append_assoc, List.singleton_append,
            words_append blank, each.1.words_eq]
          exact congrArg _ (induction each.2)

theorem isWord_of_mem_wordsFrom_nil {current word : Text}
    (solid : ∀ c ∈ current, isBlank c = false) (member : word ∈ wordsFrom current []) :
    word.IsWord := by
  cases current with
  | nil => cases member
  | cons c current =>
      rw [wordsFrom_nil (List.cons_ne_nil c current), List.mem_singleton] at member
      subst member
      refine ⟨by simp, fun d member => solid d (List.mem_reverse.mp member)⟩

theorem isWord_of_mem_wordsFrom {current text word : Text}
    (solid : ∀ c ∈ current, isBlank c = false) (member : word ∈ wordsFrom current text) :
    word.IsWord := by
  induction text generalizing current with
  | nil => exact isWord_of_mem_wordsFrom_nil solid member
  | cons c text induction =>
      cases inner : isBlank c with
      | true =>
          rw [wordsFrom_blank inner, List.mem_append] at member
          rcases member with of_current | of_rest
          · exact isWord_of_mem_wordsFrom_nil solid of_current
          · exact induction (List.forall_mem_nil _) of_rest
      | false =>
          rw [wordsFrom_cons inner] at member
          exact induction (List.forall_mem_cons.mpr ⟨inner, solid⟩) member

theorem isWord_of_mem_words {text word : Text} (member : word ∈ words text) : word.IsWord :=
  isWord_of_mem_wordsFrom (List.forall_mem_nil _) member

theorem not_isBlank_of_all {text : Text} (solid : text.all (!isBlank ·) = true) :
    ∀ c ∈ text, isBlank c = false := by
  simpa only [List.all_eq_true, Bool.not_eq_true'] using solid

theorem not_isBlank_of_isDigit {c : Char} (digit : c.isDigit = true) : isBlank c = false := by
  have bounds : 48 ≤ c.toNat ∧ c.toNat ≤ 57 := Char.isDigit_iff_toNat.mp digit
  simp only [isBlank, Bool.or_eq_false_iff, Bool.and_eq_false_iff, decide_eq_false_iff_not,
    beq_eq_false_iff_ne]
  omega

end Text

theorem Comparator.isWord_symbol (comparator : Comparator) : comparator.symbol.IsWord := by
  cases comparator <;> exact ⟨List.cons_ne_nil _ _, Text.not_isBlank_of_all (by decide)⟩

namespace Literal

theorem unquote_quoted (text : Text) : unquote (apostrophe :: (text ++ [apostrophe])) = text := by
  rw [unquote, if_pos ⟨rfl, List.getLast?_concat⟩, List.dropLast_concat]

theorem ofText_render (literal : Literal) : ofText literal.render = .ok literal := by
  cases literal with
  | integer n =>
      rw [render, ofText, if_pos (Numeral.isNumeral_ofNat n)]
      simp only [Numeral.value_ofNat, dif_pos n.isLt]
  | string text =>
      have not_numeral : Numeral.isNumeral (apostrophe :: (text ++ [apostrophe])) = false := rfl
      rw [render, ofText, not_numeral, if_neg Bool.false_ne_true, unquote_quoted]

theorem mem_of_mem_unquote {raw : Text} {c : Char} (member : c ∈ unquote raw) : c ∈ raw := by
  unfold unquote at member
  split at member
  · exact member
  · split at member
    · exact List.mem_cons_of_mem _ (List.dropLast_subset _ member)
    · exact member

theorem render_ne_nil (literal : Literal) : literal.render ≠ [] := by
  cases literal with
  | integer n => exact Nat.toDigits_ne_nil
  | string text => exact List.cons_ne_nil _ _

/-- What is written for a literal has no other characters than digits, apostrophes and those that it
was read from. -/
theorem of_mem_render {raw : Text} {literal : Literal} {c : Char}
    (read : ofText raw = .ok literal) (member : c ∈ literal.render) :
    c.isDigit = true ∨ c = apostrophe ∨ c ∈ raw := by
  unfold ofText at read
  split at read
  · split at read
    · cases read
      exact .inl (Numeral.isDigit_of_mem_ofNat member)
    · cases read
  · cases read
    rw [render, List.mem_cons, List.mem_append, List.mem_singleton] at member
    rcases member with first | inside | last
    · exact .inr (.inl first)
    · exact .inr (.inr (mem_of_mem_unquote inside))
    · exact .inr (.inl last)

/-- What is written for a literal that was read from a word is a word. -/
theorem isWord_render {raw : Text} {literal : Literal} (word : raw.IsWord)
    (read : ofText raw = .ok literal) : literal.render.IsWord := by
  refine ⟨literal.render_ne_nil, fun c member => ?_⟩
  rcases of_mem_render read member with digit | rfl | in_raw
  · exact Text.not_isBlank_of_isDigit digit
  · decide
  · exact word.2 c in_raw

end Literal

namespace Comparison

/-- What a condition is read as: three words, of which the second is the symbol of the comparator
and the third is read as the literal. -/
theorem words_of_ofText {condition : Text} {comparison : Comparison}
    (read : ofText condition = .ok comparison) :
    ∃ raw, Text.words condition = [comparison.field, comparison.comparator.symbol, raw] ∧
      Literal.ofText raw = .ok comparison.literal := by
  unfold ofText at read
  split at read
  · next field symbol raw cut =>
    cases known : Comparator.ofSymbol? symbol with
    | none => simp [known] at read
    | some comparator =>
        cases literal_read : Literal.ofText raw with
        | error fault => simp [known, literal_read] at read
        | ok literal =>
            simp only [known, literal_read, Except.ok.injEq] at read
            subst read
            rw [Comparator.ofSymbol?_eq_some_iff.mp known] at cut
            exact ⟨raw, cut, literal_read⟩
  · cases read

theorem isWord_field {condition : Text} {comparison : Comparison}
    (read : ofText condition = .ok comparison) : comparison.field.IsWord := by
  obtain ⟨raw, cut, _⟩ := words_of_ofText read
  exact Text.isWord_of_mem_words (cut ▸ List.mem_cons_self)

theorem words_render {condition : Text} {comparison : Comparison}
    (read : ofText condition = .ok comparison) :
    Text.words comparison.render =
      [comparison.field, comparison.comparator.symbol, comparison.literal.render] := by
  obtain ⟨raw, cut, literal_read⟩ := words_of_ofText read
  have raw_member : raw ∈ Text.words condition := by
    rw [cut]
    simp
  have raw_word : raw.IsWord := Text.isWord_of_mem_words raw_member
  have blank : Text.isBlank ' ' = true := by decide
  rw [render, Text.words_append blank, Text.words_append blank, (isWord_field read).words_eq,
    comparison.comparator.isWord_symbol.words_eq,
    (Literal.isWord_render raw_word literal_read).words_eq]
  rfl

/-- A comparison that was read is written as a condition that is read as the same comparison. -/
theorem ofText_render {condition : Text} {comparison : Comparison}
    (read : ofText condition = .ok comparison) : ofText comparison.render = .ok comparison := by
  have known : Comparator.ofSymbol? comparison.comparator.symbol = some comparison.comparator :=
    Comparator.ofSymbol?_eq_some_iff.mpr rfl
  rw [ofText, words_render read]
  simp only [known, Literal.ofText_render]

end Comparison

end Rulebook
