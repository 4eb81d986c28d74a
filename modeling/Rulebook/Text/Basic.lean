/-!
# Texts and blank characters

A text is a list of characters. Blank characters are those with the Unicode property `White_Space`;
they separate words and are cut off by `trim`.
-/

namespace Rulebook

/-- A text, character by character. Texts are ordered by the code points of their characters. -/
abbrev Text := List Char

namespace Text

/-- Whether a character has the Unicode property `White_Space`. -/
def isBlank (c : Char) : Bool :=
  let code := c.toNat
  (9 ≤ code && code ≤ 13) || code == 0x20 || code == 0x85 || code == 0xA0 || code == 0x1680 ||
    (0x2000 ≤ code && code ≤ 0x200A) || code == 0x2028 || code == 0x2029 || code == 0x202F ||
    code == 0x205F || code == 0x3000

/-- Whether a character lies in one of the ranges that some code points bound, given in increasing
order: those from the first up to the second, from the third up to the fourth, and so on. The last
one may be without an end. -/
def isBetween (boundaries : List Nat) (c : Char) : Bool :=
  (boundaries.takeWhile (· ≤ c.toNat)).length % 2 == 1

/-- Cut the characters of a class off the end. -/
def dropEndWhile (isCut : Char → Bool) (text : Text) : Text :=
  (text.reverse.dropWhile isCut).reverse

/-- Cut the blank characters off both ends. -/
def trim (text : Text) : Text :=
  dropEndWhile isBlank (text.dropWhile isBlank)

/-- Drop the byte order mark at the front. -/
def dropMark : Text → Text
  | '\uFEFF' :: rest => rest
  | text => text

/-- The words of a text, the first of which has `current` already read, last character first. -/
def wordsFrom (current : Text) : Text → List Text
  | [] => if current.isEmpty then [] else [current.reverse]
  | c :: rest =>
      if isBlank c then
        if current.isEmpty then wordsFrom [] rest else current.reverse :: wordsFrom [] rest
      else wordsFrom (c :: current) rest

/-- The words of a text: its maximal runs of characters that are not blank. -/
def words (text : Text) : List Text :=
  wordsFrom [] text

/-- Write texts one after the other with a separator between neighbours. -/
def join (separator : Text) (texts : List Text) : Text :=
  separator.intercalate texts

/-- The lower case of a character, if it is an ASCII letter, and otherwise the character. The Kelvin
sign is the only character outside ASCII whose lower case is one. -/
def lowerCase (c : Char) : Char :=
  if c = '\u212A' then 'k' else c.toLower

/-- Write a text in lower case, as far as that is ASCII. -/
def lower (text : Text) : Text :=
  text.map lowerCase

/-- Split a text at each occurrence of a character. -/
def splitOn (separator : Char) : Text → List Text
  | [] => [[]]
  | c :: rest =>
      if c = separator then [] :: splitOn separator rest
      else
        match splitOn separator rest with
        | [] => [[c]]
        | piece :: pieces => (c :: piece) :: pieces

/-- What follows `front` in a text that begins with it. -/
def after? : (front text : Text) → Option Text
  | [], text => some text
  | _ :: _, [] => none
  | f :: front, c :: rest => if f = c then after? front rest else none

theorem length_of_after? {front text rest : Text} (found : after? front text = some rest) :
    text.length = front.length + rest.length := by
  fun_induction after? front text with
  | case1 => simp_all
  | case2 => cases found
  | case3 f front tail induction =>
      have := induction found
      simp only [List.length_cons]
      omega
  | case4 => cases found

/-- The number of bytes of a text in UTF-8. -/
def byteCount (text : Text) : Nat :=
  text.foldl (fun count c => count + c.utf8Size) 0

/-- The order of two texts by code points. -/
def order (left right : Text) : Ordering :=
  compareOfLessAndEq left right

end Text

end Rulebook
