import Rulebook.Text.Numeral

/-!
# Routes

The path of a request is what comes before its query and after its host. A route answers one path,
or all paths with one nonempty segment in place of its parameter. The parameter is percent-decoded
once the route is found.
-/

namespace Rulebook.Http

/-- What follows the scheme of a target. -/
def afterScheme? (target : Text) : Option Text :=
  Text.after? "://".toList (target.dropWhile (· ≠ ':'))

/-- The path of a target. If a scheme and a host come first, there is always a path; a host alone
has none. -/
def path (target : Text) : Text :=
  let beforeQuery := List.takeWhile fun c => c ≠ '?' ∧ c ≠ '#'
  if target.head? = some '/' ∨ target = ['*'] then beforeQuery target
  else
    match afterScheme? target with
    | none => []
    | some rest =>
        match (beforeQuery rest).dropWhile (· ≠ '/') with
        | [] => ['/']
        | path => path

/-- The segment that follows the front of a path and ends it. -/
def lastSegment? (front path : Text) : Option Text :=
  match Text.after? front path with
  | some segment => if segment.isEmpty || segment.contains '/' then none else some segment
  | none => none

/-- The byte that a percent sign and two hexadecimal digits stand for. -/
def escapedByte? (sign high low : UInt8) : Option UInt8 :=
  if sign = 0x25 then do
    let high ← Numeral.hexDigit? (Char.ofNat high.toNat)
    let low ← Numeral.hexDigit? (Char.ofNat low.toNat)
    some (UInt8.ofNat (16 * high + low))
  else none

/-- The bytes of a text after percent decoding. What is no escape stays as it is. -/
def percentBytes : List UInt8 → List UInt8
  | first :: second :: third :: rest =>
      match escapedByte? first second third with
      | some byte => byte :: percentBytes rest
      | none => first :: percentBytes (second :: third :: rest)
  | bytes => bytes

/-- Percent-decode a text, if its bytes are UTF-8 then. -/
def percentDecode? (text : Text) : Option Text :=
  let bytes := percentBytes (String.ofList text).toUTF8.toList
  (String.fromUTF8? (ByteArray.mk bytes.toArray)).map String.toList

/-- What can be requested. -/
inductive Route where
  | createRule
  | combineRules
  | evaluateRule
  | modifyRule
  | getRule
  | health
deriving DecidableEq

namespace Route

/-- The routes whose path has no parameter. -/
def fixed : List Route :=
  [createRule, combineRules, evaluateRule, modifyRule, health]

/-- The path of a route, with its parameter in braces. -/
def template : Route → Text
  | .createRule => "/create_rule".toList
  | .combineRules => "/combine_rules".toList
  | .evaluateRule => "/evaluate_rule".toList
  | .modifyRule => "/modify_rule".toList
  | .getRule => "/rules/\x7bid\x7d".toList
  | .health => "/health".toList

/-- Whether a route is asked with `GET`; the others are asked with `POST`. -/
def isGet : Route → Bool
  | .getRule | .health => true
  | _ => false

/-- Whether a route answers a method. A route for `GET` also answers `HEAD`. -/
def allows (route : Route) (method : Text) : Bool :=
  if route.isGet then method == "GET".toList || method == "HEAD".toList
  else method == "POST".toList

/-- The route of a path, with the segment in place of its parameter. -/
def ofPath? (path : Text) : Option (Route × Text) :=
  match fixed.find? (·.template == path) with
  | some route => some (route, [])
  | none => (lastSegment? "/rules/".toList path).map fun segment => (.getRule, segment)

/-- How a route, if there is one, is named in the metrics. -/
def label : Option Route → Text
  | some route => route.template
  | none => "unmatched".toList

end Route

end Rulebook.Http
