import Rulebook.Proofs.JsonText

/-!
# The scan for brackets follows the lexemes

The scan knows nothing of JSON.  Still it is never inside of a string where a lexeme ends: over each
lexeme of a text it counts one bracket up, one bracket down, or nothing.  It may as well go over the
bytes of the text.
-/

namespace Rulebook.Json

namespace Lexeme

/-- How many containers are open after a lexeme. -/
def openAfter (before : Nat) : Lexeme → Nat
  | .openArray | .openObject => before + 1
  | .closeArray | .closeObject => before - 1
  | .comma | .colon | .quoted _ | .scalar _ => before

end Lexeme

namespace NestingScan

theorem deepest_le_next (scan : NestingScan) (c : Char) :
    scan.deepest ≤ (scan.next c).deepest := by
  unfold next
  split
  · split
    · exact Nat.le_refl _
    · split
      · exact Nat.le_refl _
      · split <;> exact Nat.le_refl _
  · split
    · exact Nat.le_refl _
    · split
      · exact Nat.le_max_left _ _
      · split <;> exact Nat.le_refl _

theorem deepest_le_foldl (scan : NestingScan) (text : Text) :
    scan.deepest ≤ (text.foldl next scan).deepest := by
  induction text generalizing scan with
  | nil => exact Nat.le_refl _
  | cons c text induction => exact Nat.le_trans (scan.deepest_le_next c) (induction (scan.next c))

/-! ## Strings -/

theorem next_inside {c : Char} (depth deepest : Nat) (not_quote : c ≠ '"')
    (not_backslash : c ≠ '\\') : next (inside depth deepest) c = inside depth deepest := by
  simp [next, inside, not_quote, not_backslash]

/-- The scan in a string, after a backslash. -/
def escaping (depth deepest : Nat) : NestingScan :=
  ⟨depth, deepest, true, true⟩

theorem next_backslash (depth deepest : Nat) :
    next (inside depth deepest) '\\' = escaping depth deepest :=
  rfl

theorem next_escaping (depth deepest : Nat) (c : Char) :
    next (escaping depth deepest) c = inside depth deepest :=
  rfl

private theorem foldl_hexQuad {text rest : Text} {code : Nat}
    (found : Quoted.hexQuad? text = some (code, rest)) (depth deepest : Nat) :
    text.foldl next (inside depth deepest) = rest.foldl next (inside depth deepest) := by
  have passes {c : Char} {n : Nat} (digit : Numeral.hexDigit? c = some n) :
      next (inside depth deepest) c = inside depth deepest := by
    apply next_inside
    · rintro rfl
      cases digit
    · rintro rfl
      cases digit
  unfold Quoted.hexQuad? at found
  split at found
  · simp only [Option.bind_eq_bind, Option.bind_eq_some_iff, Option.some.injEq, Prod.mk.injEq]
      at found
    obtain ⟨_, first, _, second, _, third, _, fourth, _, rfl⟩ := found
    simp only [List.foldl_cons, passes first, passes second, passes third, passes fourth]
  · cases found

private theorem foldl_unicodeEscape {text rest : Text} {c : Char}
    (found : Quoted.unicodeEscape? text = some (c, rest)) (depth deepest : Nat) :
    text.foldl next (inside depth deepest) = rest.foldl next (inside depth deepest) := by
  unfold Quoted.unicodeEscape? at found
  split at found
  · cases found
  · next quad =>
    rw [foldl_hexQuad quad]
    split at found
    · split at found
      · split at found
        · cases found
        · next low_quad =>
          split at found
          · obtain ⟨_, rfl⟩ := Prod.mk.inj (Option.some.inj found)
            rw [List.foldl_cons, List.foldl_cons, next_backslash, next_escaping,
              foldl_hexQuad low_quad]
          · cases found
      · cases found
    · split at found
      · cases found
      · obtain ⟨_, rfl⟩ := Prod.mk.inj (Option.some.inj found)
        rfl

private theorem foldl_escape {text rest : Text} {c : Char}
    (found : Quoted.escape? text = some (c, rest)) (depth deepest : Nat) :
    text.foldl next (escaping depth deepest) = rest.foldl next (inside depth deepest) := by
  unfold Quoted.escape? at found
  split at found
  case h_9 =>
    rw [List.foldl_cons, next_escaping]
    exact foldl_unicodeEscape found depth deepest
  case h_10 => cases found
  all_goals
    cases found
    rw [List.foldl_cons, next_escaping]

private theorem foldl_escapeForm {text rest : Text} (found : Quoted.escapeForm? text = some rest)
    (depth deepest : Nat) :
    text.foldl next (escaping depth deepest) = rest.foldl next (inside depth deepest) := by
  unfold Quoted.escapeForm? at found
  split at found
  · cases found
  · rw [List.foldl_cons, next_escaping]
    split at found
    · obtain ⟨⟨code, _⟩, quad, rfl⟩ := Option.map_eq_some_iff.mp found
      exact foldl_hexQuad quad depth deepest
    · split at found <;> cases found
      rfl

theorem foldl_read {done text contents rest : Text}
    (found : Quoted.read done text = some (contents, rest)) (depth deepest : Nat) :
    text.foldl next (inside depth deepest) = rest.foldl next (outside depth deepest) := by
  fun_induction Quoted.read done text with
  | case1 => cases found
  | case2 =>
      cases found
      rfl
  | case3 => cases found
  | case4 done tail escaped after escape_found _ induction =>
      rw [List.foldl_cons, next_backslash, foldl_escape escape_found, induction found]
  | case5 => cases found
  | case6 done c tail not_quote not_backslash _ induction =>
      rw [List.foldl_cons, next_inside depth deepest not_quote not_backslash, induction found]

theorem foldl_form {text rest : Text} (found : Quoted.form? text = some rest)
    (depth deepest : Nat) :
    text.foldl next (inside depth deepest) = rest.foldl next (outside depth deepest) := by
  fun_induction Quoted.form? text with
  | case1 => cases found
  | case2 =>
      cases found
      rfl
  | case3 => cases found
  | case4 tail after escape_found _ induction =>
      rw [List.foldl_cons, next_backslash, foldl_escapeForm escape_found, induction found]
  | case5 => cases found
  | case6 c tail not_quote not_backslash _ induction =>
      rw [List.foldl_cons, next_inside depth deepest not_quote not_backslash, induction found]

/-! ## Everything else -/

/-- Whether the scan counts nothing between a text and a rest of it. -/
def Passes (text rest : Text) : Prop :=
  ∀ depth deepest,
    text.foldl next (outside depth deepest) = rest.foldl next (outside depth deepest)

theorem Passes.refl (text : Text) : Passes text text :=
  fun _ _ => rfl

theorem Passes.trans {text middle rest : Text} (first : Passes text middle)
    (second : Passes middle rest) : Passes text rest :=
  fun depth deepest => (first depth deepest).trans (second depth deepest)

/-- Whether the scan outside of strings counts nothing at a character. -/
def isPlain (c : Char) : Bool :=
  c ∉ ['"', '{', '[', '}', ']']

theorem next_outside {c : Char} (plain : isPlain c) (depth deepest : Nat) :
    next (outside depth deepest) c = outside depth deepest := by
  simp only [isPlain, List.mem_cons, List.not_mem_nil, or_false, not_or, decide_eq_true_eq]
    at plain
  obtain ⟨quote, brace, bracket, brace', bracket'⟩ := plain
  simp [next, outside, quote, brace, bracket, brace', bracket']

theorem passes_cons {c : Char} {text rest : Text} (plain : isPlain c) (passes : Passes text rest) :
    Passes (c :: text) rest := by
  intro depth deepest
  rw [List.foldl_cons, next_outside plain, passes]

theorem passes_append {front : Text} (plain : ∀ c ∈ front, isPlain c) (rest : Text) :
    Passes (front ++ rest) rest := by
  induction front with
  | nil => exact .refl rest
  | cons c front induction =>
      rw [List.forall_mem_cons] at plain
      exact passes_cons plain.1 (induction plain.2)

theorem passes_dropWhile {class? : Char → Bool} (plain : ∀ c, class? c → isPlain c)
    (text : Text) : Passes text (text.dropWhile class?) := by
  have taken : ∀ c ∈ text.takeWhile class?, isPlain c :=
    fun c member => plain c (List.all_eq_true.mp List.all_takeWhile c member)
  have passes := passes_append taken (text.dropWhile class?)
  rwa [List.takeWhile_append_dropWhile] at passes

private theorem isPlain_of_class {class? : Char → Bool}
    (excluded : ['"', '{', '[', '}', ']'].all (!class? ·)) (c : Char) (member : class? c) :
    isPlain c := by
  rw [isPlain, decide_eq_true_eq]
  intro bracket
  have outside := List.all_eq_true.mp excluded c bracket
  rw [member] at outside
  cases outside

theorem passes_skipSpace (text : Text) : Passes text (Lexeme.skipSpace text) :=
  passes_dropWhile (isPlain_of_class (by decide)) text

/-! ### Numbers -/

section Numbers

variable {text digits rest : Text}

private theorem passes_digits (found : Number.digits? text = some (digits, rest)) :
    Passes text rest := by
  unfold Number.digits? at found
  dsimp only at found
  split at found
  · cases found
  · cases found
    exact passes_dropWhile (isPlain_of_class (by decide)) text

private theorem passes_map_digits {α : Type} {f : Text → α} {read : α}
    (found : (Number.digits? text).map (Prod.map f id) = some (read, rest)) :
    Passes text rest := by
  obtain ⟨⟨digits, after⟩, digits_found, same⟩ := Option.map_eq_some_iff.mp found
  cases same
  exact passes_digits digits_found

private theorem passes_fraction {fraction : Option Text}
    (found : Number.fraction? text = some (fraction, rest)) : Passes text rest := by
  unfold Number.fraction? at found
  split at found
  · exact passes_cons (by decide) (passes_map_digits found)
  · cases found
    exact .refl text

private theorem passes_signedExponent {exponent : Option Int}
    (found : Number.signedExponent? text = some (exponent, rest)) : Passes text rest := by
  unfold Number.signedExponent? at found
  split at found
  · exact passes_cons (by decide) (passes_map_digits found)
  · exact passes_cons (by decide) (passes_map_digits found)
  · exact passes_map_digits found

private theorem passes_exponent {exponent : Option Int}
    (found : Number.exponent? text = some (exponent, rest)) : Passes text rest := by
  unfold Number.exponent? at found
  split at found
  · exact passes_cons (by decide) (passes_signedExponent found)
  · exact passes_cons (by decide) (passes_signedExponent found)
  · cases found
    exact .refl text

private theorem passes_magnitude {negative : Bool} {written : WrittenNumber}
    (found : Number.magnitude? negative text = some (written, rest)) : Passes text rest := by
  unfold Number.magnitude? at found
  simp only [Option.bind_eq_bind, Option.bind_eq_some_iff, Prod.exists] at found
  obtain ⟨whole, afterWhole, whole_found, found⟩ := found
  split at found
  · cases found
  · simp only [Option.bind_eq_some_iff, Prod.exists, Option.some.injEq, Prod.mk.injEq] at found
    obtain ⟨_, _, fraction_found, _, _, exponent_found, _, rfl⟩ := found
    exact (passes_digits whole_found).trans
      ((passes_fraction fraction_found).trans (passes_exponent exponent_found))

private theorem passes_written {written : WrittenNumber}
    (found : Number.written? text = some (written, rest)) : Passes text rest := by
  unfold Number.written? at found
  split at found
  · exact passes_cons (by decide) (passes_magnitude found)
  · exact passes_magnitude found

private theorem passes_number {demand : Demand} {number : Number}
    (found : demand.number? text = some (number, rest)) : Passes text rest := by
  cases demand with
  | meaning =>
      unfold Demand.number? Number.number? at found
      dsimp only at found
      split at found
      · cases found
      · next written_found =>
        obtain ⟨_, _, same⟩ := Option.map_eq_some_iff.mp found
        cases same
        exact passes_written written_found
  | form =>
      obtain ⟨⟨written, after⟩, written_found, same⟩ := Option.map_eq_some_iff.mp found
      cases same
      exact passes_written written_found

end Numbers

/-! ### Lexemes -/

private theorem passes_after {front text rest : Text} (plain : ∀ c ∈ front, isPlain c)
    (found : Text.after? front text = some rest) : Passes text rest := by
  fun_induction Text.after? front text with
  | case1 =>
      cases found
      exact .refl rest
  | case2 => cases found
  | case3 c front tail induction =>
      rw [List.forall_mem_cons] at plain
      exact passes_cons plain.1 (induction plain.2 found)
  | case4 => cases found

private theorem foldl_quoted? {demand : Demand} {text contents rest : Text}
    (found : demand.quoted? text = some (contents, rest)) (depth deepest : Nat) :
    text.foldl next (inside depth deepest) = rest.foldl next (outside depth deepest) := by
  cases demand with
  | meaning => exact foldl_read found depth deepest
  | form =>
      obtain ⟨after, form_found, same⟩ := Option.map_eq_some_iff.mp found
      cases same
      exact foldl_form form_found depth deepest

variable {demand : Demand} {text rest : Text} {lexeme : Lexeme} {depth deepest : Nat}

private theorem next_mark {c : Char} (mark : Lexeme.mark? c = some lexeme)
    (bounded : depth ≤ deepest) :
    next (outside depth deepest) c =
      outside (lexeme.openAfter depth) (max deepest (lexeme.openAfter depth)) := by
  have closes : max deepest (depth - 1) = deepest := by omega
  have stays : max deepest depth = deepest := by omega
  have opening {c : Char} (opens : c = '[' ∨ c = '{') :
      next (outside depth deepest) c = outside (depth + 1) (max deepest (depth + 1)) := by
    rcases opens with rfl | rfl <;> rfl
  have closing {c : Char} (opens : c = ']' ∨ c = '}') :
      next (outside depth deepest) c = outside (depth - 1) deepest := by
    rcases opens with rfl | rfl <;> rfl
  unfold Lexeme.mark? at mark
  split at mark
  · next bracket =>
    cases mark
    exact opening (.inl bracket)
  split at mark
  · next bracket =>
    cases mark
    rw [Lexeme.openAfter, closes]
    exact closing (.inl bracket)
  split at mark
  · next brace =>
    cases mark
    exact opening (.inr brace)
  split at mark
  · next brace =>
    cases mark
    rw [Lexeme.openAfter, closes]
    exact closing (.inr brace)
  split at mark
  · next comma =>
    cases mark
    rw [Lexeme.openAfter, stays, comma]
    rfl
  split at mark
  · next colon =>
    cases mark
    rw [Lexeme.openAfter, stays, colon]
    rfl
  · cases mark

private theorem passes_word {c : Char} {word tail : Text} {value : Value}
    (plain : (c :: word).all isPlain)
    (found : Lexeme.word? word value tail = some (lexeme, rest)) :
    Passes (c :: tail) rest ∧ ∃ value, lexeme = .scalar value := by
  obtain ⟨after, after_found, same⟩ := Option.map_eq_some_iff.mp found
  cases same
  rw [List.all_cons, Bool.and_eq_true, List.all_eq_true] at plain
  exact ⟨passes_cons plain.1 (passes_after plain.2 after_found), value, rfl⟩

private theorem front?_cases {c : Char} {tail : Text}
    (found : Lexeme.front? demand (c :: tail) = some (lexeme, rest)) :
    (Lexeme.mark? c = some lexeme ∧ rest = tail) ∨
      (c = '"' ∧ ∃ contents, lexeme = .quoted contents ∧
        demand.quoted? tail = some (contents, rest)) ∨
      (Passes (c :: tail) rest ∧ ∃ value, lexeme = .scalar value) := by
  unfold Lexeme.front? at found
  dsimp only at found
  split at found
  · next mark =>
    cases found
    exact .inl ⟨mark, rfl⟩
  split at found
  · next quote =>
    obtain ⟨⟨contents, after⟩, quoted_found, same⟩ := Option.map_eq_some_iff.mp found
    cases same
    exact .inr (.inl ⟨quote, contents, rfl, quoted_found⟩)
  right
  right
  split at found
  · next letter =>
    rw [letter]
    exact passes_word (by decide) found
  split at found
  · next letter =>
    rw [letter]
    exact passes_word (by decide) found
  split at found
  · next letter =>
    rw [letter]
    exact passes_word (by decide) found
  · obtain ⟨⟨number, after⟩, number_found, same⟩ := Option.map_eq_some_iff.mp found
    cases same
    exact ⟨passes_number number_found, _, rfl⟩

theorem foldl_next? (found : Lexeme.next? demand text = some (lexeme, rest))
    (bounded : depth ≤ deepest) :
    text.foldl next (outside depth deepest) =
      rest.foldl next
        (outside (lexeme.openAfter depth) (max deepest (lexeme.openAfter depth))) := by
  rw [Lexeme.next?] at found
  rw [passes_skipSpace text]
  generalize Lexeme.skipSpace text = shown at found
  have stays : max deepest depth = deepest := Nat.max_eq_left bounded
  cases shown with
  | nil => cases found
  | cons c tail =>
      rcases front?_cases found with
        ⟨mark, rfl⟩ | ⟨rfl, contents, rfl, quoted⟩ | ⟨passes, value, rfl⟩
      · rw [List.foldl_cons, next_mark mark bounded]
      · have opens : next (outside depth deepest) '"' = inside depth deepest := rfl
        rw [List.foldl_cons, opens, foldl_quoted? quoted, Lexeme.openAfter, stays]
      · rw [passes, Lexeme.openAfter, stays]

/-! ## Bytes -/

/-- The scan after a character that is no bracket, quote or backslash. -/
def relax (scan : NestingScan) : NestingScan :=
  if scan.quoted then { scan with escaped := false } else scan

theorem next_eq_relax (scan : NestingScan) {c : Char} (wide : 128 ≤ c.toNat) :
    scan.next c = scan.relax := by
  have other {mark : Char} (narrow : mark.toNat < 128) : c ≠ mark := by
    rintro rfl
    omega
  have quote : c ≠ '"' := other (by decide)
  have backslash : c ≠ '\\' := other (by decide)
  have opening : ¬(c = '{' ∨ c = '[') := not_or.mpr ⟨other (by decide), other (by decide)⟩
  have closing : ¬(c = '}' ∨ c = ']') := not_or.mpr ⟨other (by decide), other (by decide)⟩
  rcases scan with ⟨depth, deepest, quoted, escaped⟩
  cases quoted <;> cases escaped <;>
    simp [next, relax, quote, backslash, opening, closing]

theorem relax_relax (scan : NestingScan) : scan.relax.relax = scan.relax := by
  rcases scan with ⟨depth, deepest, quoted, escaped⟩
  cases quoted <;> rfl

private theorem foldl_wide {codes : Text} (wide : ∀ c ∈ codes, 128 ≤ c.toNat)
    (nonempty : codes ≠ []) (scan : NestingScan) : codes.foldl next scan = scan.relax := by
  induction codes generalizing scan with
  | nil => exact absurd rfl nonempty
  | cons c codes induction =>
      rw [List.forall_mem_cons] at wide
      rw [List.foldl_cons, next_eq_relax scan wide.1]
      cases codes with
      | nil => rfl
      | cons d codes => rw [induction wide.2 (List.cons_ne_nil _ _), relax_relax]

end NestingScan

/-- The bytes of a character in UTF-8, each written as the character with that code. -/
def bytesOf (c : Char) : Text :=
  (String.utf8EncodeChar c).map fun byte => Char.ofNat byte.toNat

/-- A character takes one byte, which is its code, or several bytes that are no ASCII codes. -/
theorem bytesOf_cases (c : Char) :
    bytesOf c = [c] ∨
      (128 ≤ c.toNat ∧ bytesOf c ≠ [] ∧ ∀ byte ∈ bytesOf c, 128 ≤ byte.toNat) := by
  have code_eq (code : Nat) : (Char.ofNat (UInt8.ofNat code).toNat).toNat = code % 256 := by
    have valid : (code % 256).isValidChar := .inl (by omega)
    rw [UInt8.toNat_ofNat', Char.ofNat, dif_pos valid]
    rfl
  unfold bytesOf String.utf8EncodeChar
  dsimp only
  split
  · next narrow =>
    left
    have whole : (UInt8.ofNat c.val.toNat).toNat = c.toNat := by
      rw [UInt8.toNat_ofNat', Nat.mod_eq_of_lt (by omega)]
      rfl
    rw [List.map_singleton, whole, Char.ofNat_toNat]
  · next wide =>
    right
    refine ⟨Nat.lt_of_not_le wide, ?_⟩
    split
    · simp only [List.map_cons, List.map_nil, List.forall_mem_cons, code_eq]
      exact ⟨List.cons_ne_nil _ _, by omega, by omega, by simp⟩
    split
    · simp only [List.map_cons, List.map_nil, List.forall_mem_cons, code_eq]
      exact ⟨List.cons_ne_nil _ _, by omega, by omega, by omega, by simp⟩
    · simp only [List.map_cons, List.map_nil, List.forall_mem_cons, code_eq]
      exact ⟨List.cons_ne_nil _ _, by omega, by omega, by omega, by omega, by simp⟩

/-- The scan may go over the bytes of a text instead of its characters. -/
theorem nesting_flatMap_bytesOf (text : Text) : nesting (text.flatMap bytesOf) = nesting text := by
  have scanned (c : Char) (scan : NestingScan) :
      (bytesOf c).foldl NestingScan.next scan = scan.next c := by
    rcases bytesOf_cases c with narrow | ⟨wide, nonempty, wide_bytes⟩
    · rw [narrow]
      rfl
    · rw [NestingScan.foldl_wide wide_bytes nonempty, NestingScan.next_eq_relax scan wide]
  have folded : ∀ scan : NestingScan,
      (text.flatMap bytesOf).foldl NestingScan.next scan = text.foldl NestingScan.next scan := by
    induction text with
    | nil => exact fun _ => rfl
    | cons c text induction =>
        intro scan
        rw [List.flatMap_cons, List.foldl_append, scanned, induction, List.foldl_cons]
  rw [nesting, nesting, folded]

end Rulebook.Json
