import Mathlib.Data.List.Lex
import Rulebook.Text.Basic

/-!
# The order of texts

Texts are ordered by the code points of their characters, from the first one on which they differ.
The bytes of texts in UTF-8 are in the same order.
-/

namespace Rulebook.Text

/-- The code points of the characters of a text. -/
def codePoints (text : Text) : List Nat :=
  text.map Char.toNat

def bytes (text : Text) : List UInt8 :=
  text.flatMap String.utf8EncodeChar

theorem codePoints_cons (c : Char) (text : Text) :
    codePoints (c :: text) = c.toNat :: codePoints text :=
  rfl

theorem bytes_cons (c : Char) (text : Text) :
    bytes (c :: text) = String.utf8EncodeChar c ++ bytes text :=
  List.flatMap_cons

theorem codePoints_injective : Function.Injective codePoints :=
  List.map_injective_iff.mpr fun _ _ => Char.toNat_inj.mp

theorem lt_iff_codePoints_lt {left right : Text} :
    left < right ↔ codePoints left < codePoints right := by
  induction left generalizing right with
  | nil => cases right <;> simp [codePoints]
  | cons c left induction =>
      cases right with
      | nil => simp [codePoints]
      | cons d right =>
          rw [List.cons_lt_cons_iff, codePoints_cons, codePoints_cons, List.cons_lt_cons_iff,
            induction, Char.toNat_inj]
          rfl

theorem order_eq_lt_iff {left right : Text} :
    order left right = .lt ↔ codePoints left < codePoints right := by
  rw [order, compareOfLessAndEq_eq_lt, lt_iff_codePoints_lt]

theorem order_eq_eq_iff {left right : Text} :
    order left right = .eq ↔ codePoints left = codePoints right := by
  rw [codePoints_injective.eq_iff, order, compareOfLessAndEq]
  split
  · next less => simpa using fun same : left = right => List.lt_irrefl right (same ▸ less)
  · split <;> simpa

section Bytes

variable {c d : Char} {m n : Nat}

theorem byte_lt_iff (m_small : m < 256) (n_small : n < 256) :
    UInt8.ofNat m < UInt8.ofNat n ↔ m < n := by
  rw [UInt8.lt_iff_toNat_lt, UInt8.toNat_ofNat', UInt8.toNat_ofNat', Nat.mod_eq_of_lt m_small,
    Nat.mod_eq_of_lt n_small]

theorem byte_eq_iff (m_small : m < 256) (n_small : n < 256) :
    UInt8.ofNat m = UInt8.ofNat n ↔ m = n := by
  rw [← UInt8.toNat_inj, UInt8.toNat_ofNat', UInt8.toNat_ofNat', Nat.mod_eq_of_lt m_small,
    Nat.mod_eq_of_lt n_small]

/-- The first byte of a character tells how many there are: more for greater code points. -/
theorem exists_first_byte (c : Char) :
    ∃ first rest, String.utf8EncodeChar c = UInt8.ofNat first :: rest ∧ first < 256 ∧
      (128 ≤ c.toNat → 192 ≤ first) ∧ (2048 ≤ c.toNat → 224 ≤ first) ∧
      (65536 ≤ c.toNat → 240 ≤ first) := by
  have value_eq : c.val.toNat = c.toNat := rfl
  unfold String.utf8EncodeChar
  simp only [value_eq]
  split
  · exact ⟨_, _, rfl, by omega, by omega, by omega, by omega⟩
  split
  · exact ⟨_, _, rfl, by omega, by omega, by omega, by omega⟩
  split
  · exact ⟨_, _, rfl, by omega, by omega, by omega, by omega⟩
  · exact ⟨_, _, rfl, by omega, by omega, by omega, by omega⟩

theorem cons_lt_cons_of_byte_lt (m_small : m < 256) (n_small : n < 256) (lt : m < n)
    (left right : List UInt8) : UInt8.ofNat m :: left < UInt8.ofNat n :: right :=
  List.cons_lt_cons_iff.mpr (.inl ((byte_lt_iff m_small n_small).mpr lt))

theorem digits_eq (valid : n < 0x110000) :
    n = 262144 * (n / 262144 % 8) + 4096 * (n / 4096 % 64) + 64 * (n / 64 % 64) + n % 64 := by
  omega

theorem digits_lt (valid : n < 0x110000) (lt : m < n) :
    m / 262144 % 8 < n / 262144 % 8 ∨ m / 262144 % 8 = n / 262144 % 8 ∧
      (m / 4096 % 64 < n / 4096 % 64 ∨ m / 4096 % 64 = n / 4096 % 64 ∧
        (m / 64 % 64 < n / 64 % 64 ∨ m / 64 % 64 = n / 64 % 64 ∧ m % 64 < n % 64)) := by
  have m_eq := digits_eq (Nat.lt_trans lt valid)
  have n_eq := digits_eq valid
  have mod_lt (k : Nat) : k % 64 < 64 := Nat.mod_lt k (by decide)
  have m_digits := And.intro (mod_lt (m / 4096)) (And.intro (mod_lt (m / 64)) (mod_lt m))
  have n_digits := And.intro (mod_lt (n / 4096)) (And.intro (mod_lt (n / 64)) (mod_lt n))
  generalize m / 262144 % 8 = m₁, m / 4096 % 64 = m₂, m / 64 % 64 = m₃, m % 64 = m₄ at *
  generalize n / 262144 % 8 = n₁, n / 4096 % 64 = n₂, n / 64 % 64 = n₃, n % 64 = n₄ at *
  omega

/-- Of two characters the one with the smaller code point has the smaller bytes, whatever follows
them.  Either the other one has more bytes, or the bytes carry the digits of both code points to the
base 64 one by one. -/
theorem utf8EncodeChar_append_lt (lt : c.toNat < d.toNat) (left right : List UInt8) :
    String.utf8EncodeChar c ++ left < String.utf8EncodeChar d ++ right := by
  have valid : d.toNat < 0x110000 := by
    rcases d.valid with low | ⟨_, high⟩
    · exact Nat.lt_trans low (by decide)
    · exact high
  obtain ⟨first, rest, d_eq, first_small, two, three, four⟩ := exists_first_byte d
  have value_eq (e : Char) : e.val.toNat = e.toNat := rfl
  rw [String.utf8EncodeChar]
  simp only [value_eq]
  split
  · rcases Nat.lt_or_ge 127 d.toNat with longer | alike
    · rw [d_eq]
      exact cons_lt_cons_of_byte_lt (by omega) first_small (by omega) _ _
    · rw [String.utf8EncodeChar, value_eq, if_pos alike]
      simp (disch := omega) only [List.cons_append, List.cons_lt_cons_iff, byte_lt_iff]
      exact .inl lt
  split
  · rcases Nat.lt_or_ge 2047 d.toNat with longer | alike
    · rw [d_eq]
      exact cons_lt_cons_of_byte_lt (by omega) first_small (by omega) _ _
    · rw [String.utf8EncodeChar, value_eq, if_neg (by omega), if_pos alike]
      simp (disch := omega) only [List.cons_append, List.cons_lt_cons_iff, byte_lt_iff,
        byte_eq_iff]
      omega
  split
  · rcases Nat.lt_or_ge 65535 d.toNat with longer | alike
    · rw [d_eq]
      exact cons_lt_cons_of_byte_lt (by omega) first_small (by omega) _ _
    · rw [String.utf8EncodeChar, value_eq, if_neg (by omega), if_neg (by omega), if_pos alike]
      simp (disch := omega) only [List.cons_append, List.cons_lt_cons_iff, byte_lt_iff,
        byte_eq_iff]
      omega
  · rw [String.utf8EncodeChar, value_eq, if_neg (by omega), if_neg (by omega), if_neg (by omega)]
    simp (disch := omega) only [List.cons_append, List.cons_lt_cons_iff, byte_lt_iff,
      byte_eq_iff, Nat.add_lt_add_iff_right, Nat.add_right_cancel_iff]
    rcases digits_lt valid lt with lt | ⟨eq, lt | ⟨eq', lt | ⟨eq'', lt⟩⟩⟩
    · exact .inl lt
    · exact .inr ⟨eq, .inl lt⟩
    · exact .inr ⟨eq, .inr ⟨eq', .inl lt⟩⟩
    · exact .inr ⟨eq, .inr ⟨eq', .inr ⟨eq'', .inl lt⟩⟩⟩

end Bytes

theorem bytes_lt_of_codePoints_lt {left right : Text} (lt : codePoints left < codePoints right) :
    bytes left < bytes right := by
  induction left generalizing right with
  | nil =>
      cases right with
      | nil => exact absurd lt (lt_irrefl _)
      | cons d right =>
          obtain ⟨first, rest, encoded, _⟩ := exists_first_byte d
          rw [bytes_cons, encoded, List.cons_append]
          exact List.nil_lt_cons _ _
  | cons c left induction =>
      cases right with
      | nil => exact absurd lt (List.not_lt_nil _)
      | cons d right =>
          rw [codePoints_cons, codePoints_cons, List.cons_lt_cons_iff] at lt
          rw [bytes_cons, bytes_cons]
          rcases lt with smaller | ⟨same, rest_lt⟩
          · exact utf8EncodeChar_append_lt smaller _ _
          · rw [Char.toNat_inj.mp same]
            exact List.Lex.append_left _ (induction rest_lt) _

theorem bytes_injective : Function.Injective bytes := by
  intro left right same
  rcases lt_trichotomy (codePoints left) (codePoints right) with before | equal | after
  · exact absurd (bytes_lt_of_codePoints_lt before) (same ▸ List.lt_irrefl _)
  · exact codePoints_injective equal
  · exact absurd (bytes_lt_of_codePoints_lt after) (same ▸ List.lt_irrefl _)

/-- The bytes of texts are in the same order as their code points. -/
theorem bytes_lt_iff {left right : Text} :
    bytes left < bytes right ↔ codePoints left < codePoints right := by
  refine ⟨fun lt => ?_, bytes_lt_of_codePoints_lt⟩
  rcases lt_trichotomy (codePoints left) (codePoints right) with before | same | after
  · exact before
  · rw [codePoints_injective same] at lt
    exact absurd lt (List.lt_irrefl _)
  · exact absurd lt (List.lt_asymm (bytes_lt_of_codePoints_lt after))

end Rulebook.Text
