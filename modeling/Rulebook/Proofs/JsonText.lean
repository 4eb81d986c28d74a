import Rulebook.Json.Printer
import Rulebook.Json.Reader

/-!
# Reading back what is written in JSON

A written string is read back whatever its characters are, and the scan for brackets passes over
it.  The machine that reads values is followed one lexeme at a time.
-/

namespace Rulebook.Json

namespace Quoted

theorem hexDigit?_digitChar {n : Nat} (small : n < 16) :
    Numeral.hexDigit? (Nat.digitChar n) = some n := by
  have every : ∀ n < 16, Numeral.hexDigit? (Nat.digitChar n) = some n := by decide
  exact every n small

private theorem escape?_control {c : Char} (control : c.toNat < 0x20) (after : Text) :
    escape? ('u' :: (['0', '0'] ++ hexPair c.toNat ++ after)) = some (c, after) := by
  have zero : Numeral.hexDigit? '0' = some 0 := by decide
  have high : Numeral.hexDigit? (Nat.digitChar (c.toNat / 16 % 16)) = some (c.toNat / 16 % 16) :=
    hexDigit?_digitChar (Nat.mod_lt _ (by omega))
  have low : Numeral.hexDigit? (Nat.digitChar (c.toNat % 16)) = some (c.toNat % 16) :=
    hexDigit?_digitChar (Nat.mod_lt _ (by omega))
  have quad : hexQuad? (['0', '0'] ++ hexPair c.toNat ++ after) = some (c.toNat, after) := by
    have code : ((0 * 16 + 0) * 16 + c.toNat / 16 % 16) * 16 + c.toNat % 16 = c.toNat := by omega
    simp only [hexPair, List.cons_append, List.nil_append, hexQuad?, zero, high, low,
      Option.bind_eq_bind, Option.bind_some, code]
  rw [escape?, unicodeEscape?, quad]
  dsimp only
  rw [if_neg (by omega), if_neg (by omega), Char.ofNat_toNat]

private theorem hexPair_plain {c d : Char} (member : d ∈ hexPair c.toNat) : d ≠ '"' ∧ d ≠ '\\' := by
  have plain : ∀ n < 16, Nat.digitChar n ≠ '"' ∧ Nat.digitChar n ≠ '\\' := by decide
  simp only [hexPair, List.mem_cons, List.not_mem_nil, or_false] at member
  rcases member with rfl | rfl
  · exact plain _ (Nat.mod_lt _ (by omega))
  · exact plain _ (Nat.mod_lt _ (by omega))

/-- A character stands for itself, or it is written as a backslash and a code that is read back and
holds no further quote or backslash after its first character. -/
theorem escaped_cases (c : Char) :
    (escaped c = [c] ∧ c ≠ '"' ∧ c ≠ '\\' ∧ ¬c.toNat < 0x20) ∨
      ∃ mark code, escaped c = '\\' :: mark :: code ∧ (∀ d ∈ code, d ≠ '"' ∧ d ≠ '\\') ∧
        ∀ after, escape? (mark :: (code ++ after)) = some (c, after) := by
  unfold escaped
  split
  · next quote => exact .inr ⟨'"', [], rfl, by simp, fun after => by rw [quote]; rfl⟩
  split
  · next backslash => exact .inr ⟨'\\', [], rfl, by simp, fun after => by rw [backslash]; rfl⟩
  split
  · next backspace => exact .inr ⟨'b', [], rfl, by simp, fun after => by rw [backspace]; rfl⟩
  split
  · next feed => exact .inr ⟨'f', [], rfl, by simp, fun after => by rw [feed]; rfl⟩
  split
  · next line => exact .inr ⟨'n', [], rfl, by simp, fun after => by rw [line]; rfl⟩
  split
  · next carriage => exact .inr ⟨'r', [], rfl, by simp, fun after => by rw [carriage]; rfl⟩
  split
  · next tab => exact .inr ⟨'t', [], rfl, by simp, fun after => by rw [tab]; rfl⟩
  split
  · next control =>
    refine .inr ⟨'u', ['0', '0'] ++ hexPair c.toNat, rfl, ?_, escape?_control control⟩
    intro d member
    simp only [List.cons_append, List.nil_append, List.mem_cons] at member
    rcases member with rfl | rfl | member
    · decide
    · decide
    · exact hexPair_plain member
  · next not_quote not_backslash _ _ _ _ _ not_control =>
    exact .inl ⟨rfl, not_quote, not_backslash, not_control⟩

theorem read_escaped (c : Char) (done after : Text) :
    read done (escaped c ++ after) = read (c :: done) after := by
  rcases escaped_cases c with ⟨plain, not_quote, not_backslash, not_control⟩ |
    ⟨mark, code, written, _, read_back⟩
  · rw [plain, List.singleton_append, read, if_neg not_quote, if_neg not_backslash,
      if_neg not_control]
  · rw [written, List.cons_append, List.cons_append, read, if_neg (by decide), if_pos rfl]
    split
    · next unread =>
      rw [read_back] at unread
      cases unread
    · next found =>
      rw [read_back] at found
      cases found
      rfl

theorem read_written (contents done after : Text) :
    read done (contents.flatMap escaped ++ '"' :: after) =
      some (done.reverse ++ contents, after) := by
  induction contents generalizing done with
  | nil =>
      rw [List.flatMap_nil, List.nil_append, read, if_pos rfl, List.append_nil]
  | cons c contents induction =>
      rw [List.flatMap_cons, List.append_assoc, read_escaped, induction, List.reverse_cons,
        List.append_assoc]
      rfl

end Quoted

namespace NestingScan

def outside (depth deepest : Nat) : NestingScan :=
  ⟨depth, deepest, false, false⟩

def inside (depth deepest : Nat) : NestingScan :=
  ⟨depth, deepest, true, false⟩

private theorem foldl_plain (depth deepest : Nat) {code : Text}
    (plain : ∀ d ∈ code, d ≠ '"' ∧ d ≠ '\\') :
    code.foldl next (inside depth deepest) = inside depth deepest := by
  induction code with
  | nil => rfl
  | cons d code induction =>
      rw [List.forall_mem_cons] at plain
      have stays : next (inside depth deepest) d = inside depth deepest := by
        simp [next, inside, plain.1.1, plain.1.2]
      rw [List.foldl_cons, stays, induction plain.2]

theorem foldl_escaped (depth deepest : Nat) (c : Char) :
    (Quoted.escaped c).foldl next (inside depth deepest) = inside depth deepest := by
  rcases Quoted.escaped_cases c with ⟨plain, not_quote, not_backslash, _⟩ |
    ⟨mark, code, written, plain, _⟩
  · rw [plain]
    exact foldl_plain depth deepest (by simp [not_quote, not_backslash])
  · rw [written, List.foldl_cons, List.foldl_cons]
    exact foldl_plain depth deepest plain

theorem foldl_quoted (depth deepest : Nat) (contents after : Text) :
    (Quoted.onto contents after).foldl next (outside depth deepest) =
      after.foldl next (outside depth deepest) := by
  have whole : (contents.flatMap Quoted.escaped).foldl next (inside depth deepest) =
      inside depth deepest := by
    induction contents with
    | nil => rfl
    | cons c contents induction =>
        rw [List.flatMap_cons, List.foldl_append, foldl_escaped, induction]
  have opens : next (outside depth deepest) '"' = inside depth deepest := rfl
  have closes : next (inside depth deepest) '"' = outside depth deepest := rfl
  rw [Quoted.onto, List.foldl_cons, opens, List.foldl_append, whole, List.foldl_cons, closes]

end NestingScan

namespace Lexeme

theorem next?_mark {demand : Demand} {c : Char} {mark : Lexeme} (rest : Text)
    (is_mark : mark? c = some mark) (no_space : isSpace c = false) :
    next? demand (c :: rest) = some (mark, rest) := by
  rw [next?, skipSpace, List.dropWhile_cons, no_space]
  simp only [Bool.false_eq_true, if_false, front?, is_mark]

theorem next?_quoted (contents rest : Text) :
    next? .meaning (Quoted.onto contents rest) = some (.quoted contents, rest) := by
  have no_space : isSpace '"' = false := by decide
  have no_mark : mark? '"' = none := by decide
  rw [next?, skipSpace, Quoted.onto, List.dropWhile_cons, no_space]
  simp only [Bool.false_eq_true, if_false, front?, no_mark, if_true, Demand.quoted?,
    Quoted.read_written, Option.map_some, Prod.map_apply, id_eq, List.reverse_nil, List.nil_append]

theorem next?_null (demand : Demand) (rest : Text) :
    next? demand (Value.onto .null rest) = some (.scalar .null, rest) := by
  have no_space : isSpace 'n' = false := by decide
  have no_mark : mark? 'n' = none := by decide
  rw [next?, skipSpace, Value.onto, List.dropWhile_cons, no_space]
  simp [front?, no_mark, word?, Text.after?]

end Lexeme

namespace Progress

theorem run_step {demand : Demand} {frames : List Frame} {need : Need} {text rest : Text}
    {lexeme : Lexeme} {after : Progress} (read : Lexeme.next? demand text = some (lexeme, rest))
    (moves : step (.inside frames need) lexeme = some after) :
    run demand none (.inside frames need) text = run demand none after rest := by
  rw [run]
  simp only [Option.any_none, Bool.false_eq_true, if_false]
  split
  · next unread =>
    rw [read] at unread
    cases unread
  · next found =>
    rw [read] at found
    cases found
    rw [moves]

theorem run_complete (demand : Demand) (limit : Option Nat) (value : Value) (text : Text) :
    run demand limit (.complete value) text = some (value, text) := by
  rw [run]

end Progress

end Rulebook.Json
