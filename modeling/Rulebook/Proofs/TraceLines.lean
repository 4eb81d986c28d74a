import Rulebook.Proofs.Addresses
import Rulebook.Proofs.Conditions

/-!
# Lines of traces

The text of a line tells the address that the line is about, and whether it is about a condition or
about a right side that is skipped.  The line of a condition also tells whether it matched, and the
comparison.
-/

namespace Rulebook

namespace Visit

/-- Whether a visit skips a right side. -/
def isSkip : Visit → Bool
  | .condition .. => false
  | .skip .. => true

/-- How the value of a field is shown. -/
def shown : Option Json.Value → Text
  | some value => value.render
  | none => "missing".toList

/-- How the outcome of a condition is shown. -/
def verdict (matched : Bool) : Text :=
  if matched then "MATCHED".toList else "NOT_MATCHED".toList

theorem line_condition (path : Path) (comparison : Comparison) (value : Option Json.Value)
    (matched : Bool) :
    (condition path comparison value matched).line =
      path.text ++ ": ".toList ++ comparison.render ++ " (actual: ".toList ++ shown value ++
        ") => ".toList ++ verdict matched :=
  rfl

theorem line_skip (path : Path) (connective : Connective) :
    (skip path connective).line =
      path.text ++ ": ".toList ++ connective.keyword ++ " 短路 - 跳过右子节点".toList :=
  rfl

/-- Whether a line is about a condition at an address. -/
def IsConditionLine (address : Path) (line : Text) : Prop :=
  ∃ comparison value matched, line = (condition address comparison value matched).line

/-- Whether a line is about a connective at an address that skips its right side. -/
def IsSkipLine (address : Path) (line : Text) : Prop :=
  ∃ connective, line = (skip address connective).line

/-- Whether a line is about something at or below an address. -/
def IsLineBelow (address : Path) (line : Text) : Prop :=
  ∃ visit : Visit, line = visit.line ∧ address <+: visit.address

variable {visit other : Visit} {path : Path}

/-! ## Addresses and kinds of lines -/

/-- What stands before the first colon of a line is the text of its address. -/
theorem takeWhile_line (visit : Visit) :
    visit.line.takeWhile (· ≠ ':') = visit.address.text := by
  cases visit with
  | condition path comparison value matched =>
      simp only [line_condition, List.append_assoc]
      exact path.takeWhile_text_append _
  | skip path connective =>
      simp only [line_skip, List.append_assoc]
      exact path.takeWhile_text_append _

theorem address_eq_of_line_eq (same : visit.line = other.line) : visit.address = other.address := by
  apply Path.text_injective
  rw [← takeWhile_line, same, takeWhile_line]

theorem getLast?_line (visit : Visit) :
    visit.line.getLast? = some (if visit.isSkip then '点' else 'D') := by
  cases visit with
  | condition path comparison value matched =>
      rw [line_condition, List.getLast?_append]
      cases matched <;> rfl
  | skip path connective =>
      rw [line_skip, List.getLast?_append]
      rfl

theorem isSkip_eq_of_line_eq (same : visit.line = other.line) : visit.isSkip = other.isSkip := by
  have last_eq := visit.getLast?_line
  rw [same, getLast?_line] at last_eq
  cases kind : visit.isSkip <;> cases other_kind : other.isSkip <;>
    simp [kind, other_kind] at last_eq ⊢

theorem isConditionLine_iff :
    IsConditionLine path visit.line ↔ visit.address = path ∧ visit.isSkip = false := by
  constructor
  · rintro ⟨comparison, value, matched, same⟩
    exact ⟨address_eq_of_line_eq same, isSkip_eq_of_line_eq same⟩
  · rintro ⟨rfl, kind⟩
    cases visit with
    | condition path comparison value matched => exact ⟨comparison, value, matched, rfl⟩
    | skip path connective => cases kind

theorem isSkipLine_iff :
    IsSkipLine path visit.line ↔ visit.address = path ∧ visit.isSkip = true := by
  constructor
  · rintro ⟨connective, same⟩
    exact ⟨address_eq_of_line_eq same, isSkip_eq_of_line_eq same⟩
  · rintro ⟨rfl, kind⟩
    cases visit with
    | condition path comparison value matched => cases kind
    | skip path connective => exact ⟨connective, rfl⟩

theorem isLineBelow_iff : IsLineBelow path visit.line ↔ path <+: visit.address := by
  constructor
  · rintro ⟨other, same, below⟩
    rwa [address_eq_of_line_eq same]
  · exact fun below => ⟨visit, rfl, below⟩

/-! ## Conditions that matched -/

/-- Whether a line ends with the verdict that a condition matched. -/
def isMatchedLine (line : Text) : Bool :=
  " => MATCHED".toList.isSuffixOf line

/-- The comparison that a line tells: the three words after the address. -/
def comparisonPart (line : Text) : Text :=
  Text.join [' '] (((Text.words line).drop 1).take 3)

theorem isMatchedLine_append {back : Text} (long : 11 ≤ back.length) (front : Text) :
    isMatchedLine (front ++ back) = isMatchedLine back := by
  rw [Bool.eq_iff_iff, isMatchedLine, isMatchedLine, List.isSuffixOf_iff_suffix,
    List.isSuffixOf_iff_suffix]
  constructor
  · exact fun ends => List.suffix_of_suffix_length_le ends (List.suffix_append front back) long
  · exact fun ends => ends.trans (List.suffix_append front back)

/-- A line ends with that verdict exactly if it is the line of a condition that matched. -/
theorem isMatchedLine_line (visit : Visit) :
    isMatchedLine visit.line = visit.matchedCondition?.isSome := by
  cases visit with
  | condition path comparison value matched =>
      rw [line_condition, List.append_assoc]
      cases matched with
      | true => exact isMatchedLine_append (by decide) _
      | false => exact isMatchedLine_append (by decide) _
  | skip path connective =>
      rw [line_skip]
      exact isMatchedLine_append (by decide) _

theorem isWord_address (path : Path) : Text.IsWord (path.text ++ [':']) := by
  have in_names : ∀ side : Side, ∀ c ∈ '.' :: side.name, Text.isBlank c = false := by
    rintro (_ | _) <;> exact Text.not_isBlank_of_all (by decide)
  refine ⟨by simp, fun c member => ?_⟩
  rw [Path.text, List.mem_append, List.mem_append, List.mem_flatMap, List.mem_singleton] at member
  rcases member with (in_root | ⟨side, _, in_name⟩) | rfl
  · exact Text.not_isBlank_of_all (by decide) c in_root
  · exact in_names side c in_name
  · decide

theorem comparisonPart_line {condition : Text} {comparison : Comparison}
    (read : Comparison.ofText condition = .ok comparison) (path : Path)
    (value : Option Json.Value) (matched : Bool) :
    comparisonPart (Visit.condition path comparison value matched).line = comparison.render := by
  have blank : Text.isBlank ' ' = true := by decide
  have line_eq : ∃ rest, (Visit.condition path comparison value matched).line =
      path.text ++ [':'] ++ ' ' :: (comparison.render ++ ' ' :: rest) := by
    have colon : ": ".toList = [':', ' '] := rfl
    have opening : " (actual: ".toList = ' ' :: "(actual: ".toList := rfl
    simp only [line_condition, colon, opening, List.append_assoc]
    exact ⟨_, rfl⟩
  obtain ⟨rest, line_eq⟩ := line_eq
  rw [comparisonPart, line_eq, Text.words_append blank, Text.words_append blank,
    (isWord_address path).words_eq, Comparison.words_render read]
  change Text.join [' ']
    [comparison.field, comparison.comparator.symbol, comparison.literal.render] = _
  simp [Text.join, List.intercalate, Comparison.render]

/-- The conditions that matched are the comparisons of the lines that end with that verdict. -/
theorem filterMap_matchedCondition? {visits : List Visit}
    (read : ∀ path comparison value matched, condition path comparison value matched ∈ visits →
      ∃ text, Comparison.ofText text = .ok comparison) :
    visits.filterMap matchedCondition? =
      ((visits.map line).filter isMatchedLine).map comparisonPart := by
  induction visits with
  | nil => rfl
  | cons visit visits induction =>
      have rest_eq := induction fun path comparison value matched member =>
        read path comparison value matched (List.mem_cons_of_mem _ member)
      rw [List.map_cons, List.filter_cons, isMatchedLine_line]
      cases visit with
      | skip path connective => exact rest_eq
      | condition path comparison value matched =>
          obtain ⟨text, text_read⟩ := read path comparison value matched List.mem_cons_self
          cases matched with
          | false => exact rest_eq
          | true =>
              have first : (condition path comparison value true).matchedCondition? =
                  some comparison.render := rfl
              rw [List.filterMap_cons_some first, rest_eq, first, Option.isSome_some, if_pos rfl,
                List.map_cons, comparisonPart_line text_read]

end Visit

end Rulebook
