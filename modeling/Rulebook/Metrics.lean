import Rulebook.Text.Numeral

/-!
# Metrics

Each observation names the series that it belongs to. The metrics of a run are all observations made
in it; a series shows how many there are.
-/

namespace Rulebook

/-- How an evaluation ends. -/
inductive Verdict where
  | matched
  | notMatched
  | error
deriving DecidableEq

/-- What is counted, with its labels. -/
inductive Series where
  | rulesCreated
  | rulesCombined
  | rulesModified
  | evaluations (verdict : Verdict)
  | evaluationTimes
  | requests (method route : Text) (status : Nat)
  | requestTimes (method route : Text) (status : Nat)
deriving DecidableEq

namespace Verdict

def label : Verdict → Text
  | .matched => "matched".toList
  | .notMatched => "not_matched".toList
  | .error => "error".toList

end Verdict

namespace Series

/-- The name under which a series is shown. -/
def name : Series → Text
  | .rulesCreated => "rules_created_total".toList
  | .rulesCombined => "rules_combined_total".toList
  | .rulesModified => "rules_modified_total".toList
  | .evaluations _ => "rule_evaluations_total".toList
  | .evaluationTimes => "rule_evaluation_duration_seconds_count".toList
  | .requests .. => "http_requests_total".toList
  | .requestTimes .. => "http_request_duration_seconds_count".toList

/-- The labels of a series, in the order in which they are shown. -/
def labels : Series → List (Text × Text)
  | .evaluations verdict => [("result".toList, verdict.label)]
  | .requests method route status | .requestTimes method route status =>
      [("method".toList, method), ("path".toList, route),
        ("status".toList, Numeral.ofNat status)]
  | _ => []

/-- The text of a series: its name and, in braces, its labels if it has any. -/
def text (series : Series) : Text :=
  match series.labels with
  | [] => series.name
  | labels =>
      let written := labels.map fun (label, value) => label ++ ['=', '"'] ++ value ++ ['"']
      series.name ++ ['\x7b'] ++ Text.join [','] written ++ ['\x7d']

end Series

/-- The lines that show observations: each series once with its count, in order of their texts. -/
def metricsReport (recorded : List Series) : List Text :=
  (recorded.eraseDups.map fun series =>
      series.text ++ ' ' :: Numeral.ofNat (recorded.count series)).mergeSort
    fun left right => !(decide (right < left))

end Rulebook
