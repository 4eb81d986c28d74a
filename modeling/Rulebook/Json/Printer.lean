import Rulebook.Json.Value
import Rulebook.Json.Number
import Rulebook.Text.Numeral

/-!
# Writing JSON texts

A string is written between quotes. Quotes, backslashes and the characters below the space are
escaped, all others stand for themselves; any character may be read from an escape. Values are
written without white space, the members of objects in increasing order of keys.
-/

namespace Rulebook.Json

namespace Quoted

/-- Four hexadecimal digits and what follows them. -/
def hexQuad? : Text → Option (Nat × Text)
  | a :: b :: c :: d :: rest => do
      let a ← Numeral.hexDigit? a
      let b ← Numeral.hexDigit? b
      let c ← Numeral.hexDigit? c
      let d ← Numeral.hexDigit? d
      some (((a * 16 + b) * 16 + c) * 16 + d, rest)
  | _ => none

/-- The character of an escape by code, after the letter `u`. A code of the upper surrogates must be
followed by an escape with one of the lower surrogates. -/
def unicodeEscape? (text : Text) : Option (Char × Text) :=
  match hexQuad? text with
  | none => none
  | some (code, rest) =>
      if 0xD800 ≤ code ∧ code < 0xDC00 then
        match rest with
        | '\\' :: 'u' :: rest =>
            match hexQuad? rest with
            | none => none
            | some (low, rest) =>
                if 0xDC00 ≤ low ∧ low < 0xE000 then
                  some (Char.ofNat (0x10000 + (code - 0xD800) * 0x400 + (low - 0xDC00)), rest)
                else none
        | _ => none
      else if 0xDC00 ≤ code ∧ code < 0xE000 then none
      else some (Char.ofNat code, rest)

/-- The character of an escape, after the backslash. -/
def escape? : Text → Option (Char × Text)
  | '"' :: rest => some ('"', rest)
  | '\\' :: rest => some ('\\', rest)
  | '/' :: rest => some ('/', rest)
  | 'b' :: rest => some ('\x08', rest)
  | 'f' :: rest => some ('\x0c', rest)
  | 'n' :: rest => some ('\n', rest)
  | 'r' :: rest => some ('\r', rest)
  | 't' :: rest => some ('\t', rest)
  | 'u' :: rest => unicodeEscape? rest
  | _ => none

theorem hexQuad?_length {text : Text} {code : Nat} {rest : Text}
    (found : hexQuad? text = some (code, rest)) : rest.length < text.length := by
  unfold hexQuad? at found
  split at found
  · simp only [Option.bind_eq_bind, Option.bind_eq_some_iff, Option.some.injEq, Prod.mk.injEq]
      at found
    obtain ⟨_, _, _, _, _, _, _, _, _, rfl⟩ := found
    simp only [List.length_cons]
    omega
  · cases found

theorem unicodeEscape?_length {text : Text} {c : Char} {rest : Text}
    (found : unicodeEscape? text = some (c, rest)) : rest.length < text.length := by
  unfold unicodeEscape? at found
  split at found
  · cases found
  · next code after quad =>
    have after_lt := hexQuad?_length quad
    split at found
    · split at found
      · next tail =>
        split at found
        · cases found
        · next low after' quad' =>
          have := hexQuad?_length quad'
          simp only [List.length_cons] at after_lt
          split at found
          · simp only [Option.some.injEq, Prod.mk.injEq] at found
            obtain ⟨_, rfl⟩ := found
            omega
          · cases found
      · cases found
    · split at found
      · cases found
      · simp only [Option.some.injEq, Prod.mk.injEq] at found
        obtain ⟨_, rfl⟩ := found
        exact after_lt

theorem escape?_length {text : Text} {c : Char} {rest : Text}
    (found : escape? text = some (c, rest)) : rest.length < text.length := by
  unfold escape? at found
  split at found
  case h_9 =>
    have := unicodeEscape?_length found
    simp only [List.length_cons]
    omega
  case h_10 => cases found
  all_goals
    simp only [Option.some.injEq, Prod.mk.injEq] at found
    obtain ⟨_, rfl⟩ := found
    simp

/-- Read a string up to its closing quote. `done` holds the characters read, last first. -/
def read (done : Text) : Text → Option (Text × Text)
  | [] => none
  | c :: rest =>
      if c = '"' then some (done.reverse, rest)
      else if c = '\\' then
        match _found : escape? rest with
        | none => none
        | some (escaped, after) => read (escaped :: done) after
      else if c.toNat < 0x20 then none
      else read (c :: done) rest
termination_by text => text.length
decreasing_by
  · have := escape?_length _found
    simp only [List.length_cons]
    omega
  · simp

theorem read_length {done text contents rest : Text}
    (found : read done text = some (contents, rest)) : rest.length < text.length := by
  fun_induction read done text with
  | case1 => cases found
  | case2 done tail =>
      simp only [Option.some.injEq, Prod.mk.injEq] at found
      obtain ⟨_, rfl⟩ := found
      simp
  | case3 => cases found
  | case4 done tail escaped after escape_found _ induction =>
      have := induction found
      have := escape?_length escape_found
      simp only [List.length_cons]
      omega
  | case5 => cases found
  | case6 done c tail _ _ _ induction =>
      have := induction found
      simp only [List.length_cons]
      omega

/-- What follows an escape, after the backslash, whatever its code. -/
def escapeForm? : Text → Option Text
  | [] => none
  | c :: rest =>
      if c = 'u' then (hexQuad? rest).map Prod.snd
      else if c ∈ ['"', '\\', '/', 'b', 'f', 'n', 'r', 't'] then some rest
      else none

theorem escapeForm?_length {text rest : Text} (found : escapeForm? text = some rest) :
    rest.length < text.length := by
  unfold escapeForm? at found
  split at found
  · cases found
  · split at found
    · simp only [Option.map_eq_some_iff, Prod.exists, exists_eq_right] at found
      obtain ⟨_, quad⟩ := found
      have := hexQuad?_length quad
      simp only [List.length_cons]
      omega
    · split at found
      · cases found
        simp
      · cases found

/-- What follows a string, after its opening quote, whatever the codes of its escapes. -/
def form? : Text → Option Text
  | [] => none
  | c :: rest =>
      if c = '"' then some rest
      else if c = '\\' then
        match _found : escapeForm? rest with
        | none => none
        | some after => form? after
      else if c.toNat < 0x20 then none
      else form? rest
termination_by text => text.length
decreasing_by
  · have := escapeForm?_length _found
    simp only [List.length_cons]
    omega
  · simp

theorem form?_length {text rest : Text} (found : form? text = some rest) :
    rest.length < text.length := by
  fun_induction form? text with
  | case1 => cases found
  | case2 => cases found; simp
  | case3 => cases found
  | case4 tail after escape_found _ induction =>
      have := induction found
      have := escapeForm?_length escape_found
      simp only [List.length_cons]
      omega
  | case5 => cases found
  | case6 c tail _ _ _ induction =>
      have := induction found
      simp only [List.length_cons]
      omega

/-- The last two hexadecimal digits of a code. -/
def hexPair (code : Nat) : Text :=
  [Nat.digitChar (code / 16 % 16), Nat.digitChar (code % 16)]

/-- Write a character inside a string. -/
def escaped (c : Char) : Text :=
  if c = '"' then ['\\', '"']
  else if c = '\\' then ['\\', '\\']
  else if c = '\x08' then ['\\', 'b']
  else if c = '\x0c' then ['\\', 'f']
  else if c = '\n' then ['\\', 'n']
  else if c = '\r' then ['\\', 'r']
  else if c = '\t' then ['\\', 't']
  else if c.toNat < 0x20 then ['\\', 'u', '0', '0'] ++ hexPair c.toNat
  else [c]

def onto (contents rest : Text) : Text :=
  '"' :: (contents.flatMap escaped ++ '"' :: rest)

end Quoted

namespace Value

mutual

def onto : Value → Text → Text
  | .null, rest => 'n' :: 'u' :: 'l' :: 'l' :: rest
  | .boolean true, rest => 't' :: 'r' :: 'u' :: 'e' :: rest
  | .boolean false, rest => 'f' :: 'a' :: 'l' :: 's' :: 'e' :: rest
  | .number n, rest => n.text ++ rest
  | .text t, rest => Quoted.onto t rest
  | .array elements, rest => '[' :: elementsOnto elements (']' :: rest)
  | .object members, rest => '{' :: membersOnto members ('}' :: rest)

/-- Write elements before a text, with commas between them. -/
def elementsOnto : List Value → Text → Text
  | [], rest => rest
  | [value], rest => value.onto rest
  | value :: others, rest => value.onto (',' :: elementsOnto others rest)

/-- Write members before a text, with commas between them. -/
def membersOnto : List (Text × Value) → Text → Text
  | [], rest => rest
  | [(key, value)], rest => Quoted.onto key (':' :: value.onto rest)
  | (key, value) :: others, rest =>
      Quoted.onto key (':' :: value.onto (',' :: membersOnto others rest))

end

/-- Write a value. -/
def render (value : Value) : Text :=
  value.onto []

end Value

end Rulebook.Json
