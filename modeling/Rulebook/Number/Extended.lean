import Rulebook.Number.Shortest

/-!
# Binary64 numbers with infinities

Decimal texts that are too large for a finite binary64 number denote an infinity. Numbers are
written without exponents, and whole numbers without a point.
-/

namespace Rulebook

/-- A binary64 number, finite or not. -/
inductive Extended where
  | finite (x : Binary64)
  | infinite (negative : Bool)
  | nan
deriving DecidableEq

namespace Extended

/-- The number nearest to `digits * 10 ^ exponent`, with a sign. -/
def ofDecimal (negative : Bool) (digits : Nat) (exponent : Int) : Extended :=
  match Magnitude.ofDecimal? digits exponent with
  | some magnitude => .finite ⟨negative, magnitude⟩
  | none => .infinite negative

/-- Split off a sign and tell whether it is a minus. -/
def splitSign : Text → Bool × Text
  | '-' :: rest => (true, rest)
  | '+' :: rest => (false, rest)
  | text => (false, text)

/-- The exponent in what follows the digits of a number: nothing, or the letter `e` and an integer.
-/
def exponent? : Text → Option Int
  | [] => some 0
  | c :: rest => if c = 'e' ∨ c = 'E' then Numeral.int? rest else none

/-- Read a decimal number without its sign: digits on at least one side of an optional point, and
possibly an exponent. -/
def decimal? (negative : Bool) (text : Text) : Option Extended :=
  let whole := text.takeWhile Char.isDigit
  let afterWhole := text.drop whole.length
  let fraction := match afterWhole with
    | '.' :: rest => rest.takeWhile Char.isDigit
    | _ => []
  let afterFraction := match afterWhole with
    | '.' :: rest => rest.drop fraction.length
    | rest => rest
  if whole.isEmpty && fraction.isEmpty then none
  else
    (exponent? afterFraction).map fun exponent =>
      ofDecimal negative (Numeral.value (whole ++ fraction)) (exponent - fraction.length)

/-- Read a number: a decimal number, `inf`, `infinity` or `nan` in any case, with at most one sign.
-/
def ofText? (text : Text) : Option Extended :=
  let (negative, rest) := splitSign text
  let word := Text.lower rest
  if word = "inf".toList ∨ word = "infinity".toList then some (.infinite negative)
  else if word = "nan".toList then some .nan
  else decimal? negative rest

def finiteText (x : Binary64) : Text :=
  let (whole, fraction) := x.magnitude.shortest.positional
  let point := if fraction.isEmpty then [] else ['.']
  (if x.negative then ['-'] else []) ++ whole ++ point ++ fraction

def text : Extended → Text
  | .finite x => finiteText x
  | .infinite true => "-inf".toList
  | .infinite false => "inf".toList
  | .nan => "NaN".toList

/-- The nearest natural number up to a greatest one. A half goes away from zero, and what is no
number counts as zero. -/
def clamp (greatest : Nat) : Extended → Nat
  | .finite x =>
      if x.negative then 0
      else min greatest ((2 * x.magnitude.units + Binary64.one) / (2 * Binary64.one))
  | .infinite true => 0
  | .infinite false => greatest
  | .nan => 0

def isZero : Extended → Bool
  | .finite x => x.magnitude.units == 0
  | _ => false

end Extended

end Rulebook
