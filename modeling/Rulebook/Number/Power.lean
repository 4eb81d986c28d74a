/-!
# Powers and ranges

Powers of two and ten, and the ranges of integers of a fixed width.
-/

namespace Rulebook

def twoTo (exponent : Nat) : Nat :=
  Nat.pow 2 exponent

def tenTo (exponent : Nat) : Nat :=
  Nat.pow 10 exponent

theorem twoTo_pos (exponent : Nat) : 0 < twoTo exponent :=
  Nat.two_pow_pos exponent

theorem twoTo_add (left right : Nat) : twoTo (left + right) = twoTo left * twoTo right :=
  Nat.pow_add 2 left right

theorem twoTo_le {smaller greater : Nat} (le : smaller ≤ greater) :
    twoTo smaller ≤ twoTo greater :=
  Nat.pow_le_pow_right (by omega) le

theorem tenTo_le {smaller greater : Nat} (le : smaller ≤ greater) :
    tenTo smaller ≤ tenTo greater :=
  Nat.pow_le_pow_right (by omega) le

theorem twoTo_dvd {smaller greater : Nat} (le : smaller ≤ greater) :
    twoTo smaller ∣ twoTo greater :=
  Nat.pow_dvd_pow 2 le

theorem log2_lt_iff {n exponent : Nat} (n_ne : n ≠ 0) : n.log2 < exponent ↔ n < twoTo exponent :=
  Nat.log2_lt n_ne

theorem lt_twoTo_log2 (n : Nat) : n < twoTo (n.log2 + 1) :=
  Nat.lt_log2_self

theorem log2_twoTo (exponent : Nat) : (twoTo exponent).log2 = exponent :=
  Nat.log2_two_pow

namespace Range

/-- Natural numbers of 16 bits lie below this bound. -/
abbrev natural16 : Nat :=
  0x10000

/-- Natural numbers of 32 bits lie below this bound. -/
abbrev natural32 : Nat :=
  0x100000000

/-- Natural numbers of 64 bits lie below this bound. -/
abbrev natural64 : Nat :=
  0x10000000000000000

/-- Signed integers of 64 bits lie below this bound and not below its negation. -/
abbrev signed64 : Nat :=
  0x8000000000000000

/-- Whether an integer is a signed one of 64 bits. -/
def isSigned64 (n : Int) : Bool :=
  -(signed64 : Int) ≤ n && n < signed64

/-- Whether an integer has 64 bits, with a sign or without one. -/
def isInteger64 (n : Int) : Bool :=
  -(signed64 : Int) ≤ n && n < natural64

end Range

end Rulebook
