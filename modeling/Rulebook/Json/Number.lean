import Rulebook.Json.Value
import Rulebook.Number.Shortest

/-!
# Texts of JSON numbers

A number is read in two roundings: its leading digits, as many as stay below `2 ^ 64`, make a
binary64 number, which is then scaled by a power of ten. A number without fraction and exponent is
an exact integer if it lies within `-2 ^ 63 … 2 ^ 64 - 1`; minus zero is not one. A number is
written with the fewest digits that denote it, positionally from `1e-5` up to below `1e16`.
-/

namespace Rulebook.Json

/-- The parts of a written number. -/
structure WrittenNumber where
  negative : Bool
  whole : Text
  fraction : Option Text
  exponent : Option Int

namespace WrittenNumber

/-- The largest number that the leading digits may make. -/
def largestSignificand : Nat :=
  Range.natural64 - 1

/-- Add digits at the end of a number as long as it stays small enough; the digits not used are left
over. -/
def absorb (significand : Nat) : Text → Nat × Text
  | [] => (significand, [])
  | digit :: rest =>
      let next := 10 * significand + (digit.toNat - 48)
      if next ≤ largestSignificand then absorb next rest else (significand, digit :: rest)

def powerOfTen? (n : Nat) : Option Magnitude :=
  Magnitude.ofNat? (tenTo n)

/-- Scale a magnitude up by a power of ten. Powers above `10 ^ 308` are not finite. -/
def scaleUp? (magnitude : Magnitude) (exponent : Nat) : Option Magnitude :=
  if exponent ≤ 308 then powerOfTen? exponent >>= magnitude.mul?
  else if magnitude.units = 0 then some magnitude
  else none

/-- Scale a magnitude down by a power of ten, at most 308 places at a time. -/
def scaleDown? (magnitude : Magnitude) (exponent : Nat) : Option Magnitude :=
  if exponent ≤ 308 then powerOfTen? exponent >>= magnitude.div?
  else if magnitude.units = 0 then some magnitude
  else powerOfTen? 308 >>= magnitude.div? >>= fun less => scaleDown? less (exponent - 308)
termination_by exponent

/-- The number that the parts stand for, unless it is too large. -/
def number? (written : WrittenNumber) : Option Number :=
  let (significand, left) := absorb 0 written.whole
  match written.fraction, written.exponent, left with
  | none, none, [] =>
      if !written.negative then some (.integer significand)
      else if 0 < significand ∧ significand ≤ Range.signed64 then
        some (.integer (-(significand : Int)))
      else (Magnitude.ofNat? significand).map fun magnitude => .float ⟨true, magnitude⟩
  | fraction, exponent, left =>
      let digits := fraction.getD []
      let (significand, unused) := absorb significand digits
      let place : Int := left.length - (digits.length - unused.length : Nat) + exponent.getD 0
      let scale := if 0 ≤ place then scaleUp? else scaleDown?
      (Magnitude.ofNat? significand >>= (scale · place.natAbs)).map fun magnitude =>
        .float ⟨written.negative, magnitude⟩

end WrittenNumber

namespace Number

/-- A nonempty run of digits and what follows it. -/
def digits? (text : Text) : Option (Text × Text) :=
  let digits := text.takeWhile Char.isDigit
  if digits.isEmpty then none else some (digits, text.dropWhile Char.isDigit)

/-- The digits after a point, if there is one. -/
def fraction? : Text → Option (Option Text × Text)
  | '.' :: rest => (digits? rest).map (Prod.map some id)
  | text => some (none, text)

/-- The exponent after the letter `e`. -/
def signedExponent? : Text → Option (Option Int × Text)
  | '-' :: rest =>
      (digits? rest).map (Prod.map (fun digits => some (-(Numeral.value digits : Int))) id)
  | '+' :: rest =>
      (digits? rest).map (Prod.map (fun digits => some (Numeral.value digits : Int)) id)
  | text => (digits? text).map (Prod.map (fun digits => some (Numeral.value digits : Int)) id)

def exponent? : Text → Option (Option Int × Text)
  | 'e' :: rest => signedExponent? rest
  | 'E' :: rest => signedExponent? rest
  | text => some (none, text)

/-- The parts of a number after its sign. A zero must not be followed by a digit. -/
def magnitude? (negative : Bool) (text : Text) : Option (WrittenNumber × Text) := do
  let (whole, rest) ← digits? text
  if whole.head? = some '0' ∧ 1 < whole.length then none
  else
    let (fraction, rest) ← fraction? rest
    let (exponent, rest) ← exponent? rest
    some (⟨negative, whole, fraction, exponent⟩, rest)

/-- The parts of the number at the front of a text, and what follows it. -/
def written? : Text → Option (WrittenNumber × Text)
  | '-' :: rest => magnitude? true rest
  | text => magnitude? false text

/-- The number at the front of a text, and what follows it. -/
def number? (text : Text) : Option (Number × Text) :=
  match written? text with
  | none => none
  | some (written, rest) => written.number?.map fun number => (number, rest)

theorem digits?_length {text digits rest : Text} (found : digits? text = some (digits, rest)) :
    rest.length < text.length := by
  unfold digits? at found
  dsimp only at found
  split at found
  · cases found
  · next some_digit =>
    simp only [Option.some.injEq, Prod.mk.injEq] at found
    obtain ⟨_, rfl⟩ := found
    have size :=
      congrArg List.length (List.takeWhile_append_dropWhile (p := Char.isDigit) (l := text))
    simp only [List.length_append] at size
    have : 0 < (text.takeWhile Char.isDigit).length := by
      cases run : text.takeWhile Char.isDigit with
      | nil => simp [run] at some_digit
      | cons => simp
    omega

private theorem map_digits?_length {α : Type} {text rest : Text} {f : Text → α} {read : α}
    (found : (digits? text).map (Prod.map f id) = some (read, rest)) :
    rest.length < text.length := by
  simp only [Option.map_eq_some_iff, Prod.map_apply, id_eq, Prod.mk.injEq, Prod.exists] at found
  obtain ⟨digits, after, digits_found, _, rfl⟩ := found
  exact digits?_length digits_found

theorem fraction?_length {text rest : Text} {fraction : Option Text}
    (found : fraction? text = some (fraction, rest)) : rest.length ≤ text.length := by
  unfold fraction? at found
  split at found
  · have := map_digits?_length found
    simp only [List.length_cons]
    omega
  · simp only [Option.some.injEq, Prod.mk.injEq] at found
    obtain ⟨_, rfl⟩ := found
    exact Nat.le_refl _

theorem signedExponent?_length {text rest : Text} {exponent : Option Int}
    (found : signedExponent? text = some (exponent, rest)) : rest.length < text.length := by
  unfold signedExponent? at found
  split at found
  · have := map_digits?_length found
    simp only [List.length_cons]
    omega
  · have := map_digits?_length found
    simp only [List.length_cons]
    omega
  · exact map_digits?_length found

theorem exponent?_length {text rest : Text} {exponent : Option Int}
    (found : exponent? text = some (exponent, rest)) : rest.length ≤ text.length := by
  unfold exponent? at found
  split at found
  · have := signedExponent?_length found
    simp only [List.length_cons]
    omega
  · have := signedExponent?_length found
    simp only [List.length_cons]
    omega
  · simp only [Option.some.injEq, Prod.mk.injEq] at found
    obtain ⟨_, rfl⟩ := found
    exact Nat.le_refl _

theorem magnitude?_length {negative : Bool} {text rest : Text} {written : WrittenNumber}
    (found : magnitude? negative text = some (written, rest)) : rest.length < text.length := by
  unfold magnitude? at found
  simp only [Option.bind_eq_bind, Option.bind_eq_some_iff, Prod.exists] at found
  obtain ⟨whole, afterWhole, whole_found, found⟩ := found
  split at found
  · cases found
  · simp only [Option.bind_eq_some_iff, Prod.exists, Option.some.injEq, Prod.mk.injEq] at found
    obtain ⟨_, afterFraction, fraction_found, _, _, exponent_found, _, rfl⟩ := found
    have := digits?_length whole_found
    have := fraction?_length fraction_found
    have := exponent?_length exponent_found
    omega

theorem written?_length {text rest : Text} {written : WrittenNumber}
    (found : written? text = some (written, rest)) : rest.length < text.length := by
  unfold written? at found
  split at found
  · have := magnitude?_length found
    simp only [List.length_cons]
    omega
  · exact magnitude?_length found

theorem number?_length {text rest : Text} {number : Number}
    (found : number? text = some (number, rest)) : rest.length < text.length := by
  unfold number? at found
  split at found
  · cases found
  · next written_found =>
    simp only [Option.map_eq_some_iff, Prod.mk.injEq] at found
    obtain ⟨_, _, _, rfl⟩ := found
    exact written?_length written_found

/-- The text of a float: positional with at least one decimal place, or with an exponent. -/
def floatText (x : Binary64) : Text :=
  let number := x.magnitude.shortest
  let sign := if x.negative then ['-'] else []
  if -5 ≤ number.exponent ∧ number.exponent ≤ 15 then
    let (whole, fraction) := number.positional
    sign ++ whole ++ ['.'] ++ (if fraction.isEmpty then ['0'] else fraction)
  else
    let mantissa := match number.digits with
      | first :: second :: rest => first :: '.' :: second :: rest
      | digits => digits
    let plus := if 0 ≤ number.exponent then ['+'] else []
    sign ++ mantissa ++ ['e'] ++ plus ++ Numeral.ofInt number.exponent

def text : Number → Text
  | .integer n => Numeral.ofInt n
  | .float x => floatText x

end Number

end Rulebook.Json
