import Rulebook.Proofs.Responses

/-!
# Tracing

An evaluation may write its trace while it goes along the tree, and then each step asks whether it
is traced.  All that depends on this is the trace: without it a traced evaluation is the untraced
one.  The same holds of evaluations of stored rules, of what is observed of them, and of what is
answered to requests for them.
-/

namespace Rulebook

namespace Evaluation

/-- The same evaluation without its trace. -/
def withoutTrace (evaluation : Evaluation) : Evaluation :=
  { evaluation with trace := [] }

/-- Add a line to the trace of an evaluation that is traced. -/
def note (traced : Bool) (line : Text) (evaluation : Evaluation) : Evaluation :=
  if traced then { evaluation with trace := evaluation.trace ++ [line] } else evaluation

def keep (condition : Text) (evaluation : Evaluation) : Evaluation :=
  { evaluation with conditions := evaluation.conditions ++ [condition] }

/-- The evaluation after some more visits. -/
def after (traced : Bool) (evaluation : Evaluation) (visits : List Visit) : Evaluation where
  matched := evaluation.matched
  conditions := evaluation.conditions ++ visits.filterMap Visit.matchedCondition?
  trace := evaluation.trace ++ if traced then visits.map Visit.line else []

theorem after_append (traced : Bool) (evaluation : Evaluation) (visits more : List Visit) :
    evaluation.after traced (visits ++ more) =
      (evaluation.after traced visits).after traced more := by
  cases traced <;> simp [after]

theorem after_condition (traced : Bool) (evaluation : Evaluation) (path : Path)
    (comparison : Comparison) (value : Option Json.Value) (matched : Bool) :
    evaluation.after traced [.condition path comparison value matched] =
      let noted := evaluation.note traced (Visit.condition path comparison value matched).line
      if matched then noted.keep comparison.render else noted := by
  cases traced <;> cases matched <;>
    simp [after, note, keep, List.filterMap_cons, Visit.matchedCondition?]

theorem after_skip (traced : Bool) (evaluation : Evaluation) (path : Path)
    (connective : Connective) :
    evaluation.after traced [.skip path connective] =
      evaluation.note traced (Visit.skip path connective).line := by
  cases traced <;> simp [after, note, List.filterMap_cons, Visit.matchedCondition?]

end Evaluation

namespace Tree

/-- Evaluate the subtree at a path and add to an evaluation what comes up, step by step. -/
def evaluateOnto (traced : Bool) (record : Record) (path : Path) (done : Evaluation) :
    Tree → Except RuleError (Bool × Evaluation)
  | .leaf condition =>
      match evaluateLeaf condition record with
      | .error error => .error error
      | .ok (matched, comparison, value) =>
          let noted := done.note traced (Visit.condition path comparison value matched).line
          .ok (matched, if matched then noted.keep comparison.render else noted)
  | .node connective left right =>
      match left.evaluateOnto traced record (path ++ [.left]) done with
      | .error error => .error error
      | .ok (leftMatched, done) =>
          if connective.decidedBy leftMatched then
            .ok (leftMatched, done.note traced (Visit.skip path connective).line)
          else right.evaluateOnto traced record (path ++ [.right]) done

/-- Evaluate a tree on a record, with a trace that is written on the way. -/
def executeInOnePass (traced : Bool) (tree : Tree) (record : Record) :
    Except RuleError Evaluation :=
  (tree.evaluateOnto traced record [] .initial).map fun (matched, evaluation) =>
    { evaluation with matched }

/-- What is added to an evaluation is what the visits of the subtree show. -/
theorem evaluateOnto_eq (traced : Bool) (record : Record) (path : Path) (done : Evaluation)
    (tree : Tree) :
    tree.evaluateOnto traced record path done =
      (tree.visit path record).map fun (matched, visits) =>
        (matched, done.after traced visits) := by
  induction tree generalizing path done with
  | leaf condition =>
      rw [evaluateOnto, visit]
      rcases evaluateLeaf condition record with error | ⟨matched, comparison, value⟩
      · rfl
      · simp only [Except.map, Evaluation.after_condition]
  | node connective left right left_induction right_induction =>
      rw [evaluateOnto, visit, left_induction]
      generalize left.visit (path ++ [.left]) record = left_visit
      rcases left_visit with error | ⟨leftMatched, leftVisits⟩
      · rfl
      · dsimp only [Except.map]
        cases connective.decidedBy leftMatched with
        | true => simp only [if_true, Evaluation.after_append, Evaluation.after_skip]
        | false =>
            rw [if_neg Bool.false_ne_true, if_neg Bool.false_ne_true, right_induction]
            generalize right.visit (path ++ [.right]) record = right_visit
            rcases right_visit with error | ⟨rightMatched, rightVisits⟩
            · rfl
            · simp only [Except.map, Evaluation.after_append]

theorem execute_eq_executeInOnePass (traced : Bool) (tree : Tree) (record : Record) :
    tree.execute traced record = tree.executeInOnePass traced record := by
  rw [execute, executeInOnePass, evaluateOnto_eq]
  rcases tree.visit [] record with error | ⟨matched, visits⟩ <;> rfl

theorem execute_untraced (tree : Tree) (record : Record) :
    tree.execute false record = (tree.execute true record).map Evaluation.withoutTrace := by
  rw [execute, execute]
  rcases tree.visit [] record with error | ⟨matched, visits⟩ <;> rfl

end Tree

namespace Outcome

/-- The same outcome with a view of its value. -/
def map {α β : Type} (view : α → β) (outcome : Outcome α) : Outcome β :=
  ⟨outcome.result.map view, outcome.store, outcome.recorded, outcome.log⟩

end Outcome

namespace Operation

theorem within_map {α β : Type} {operation : Operation α} {other : Operation β} {view : α → β}
    {store : Store} (same : other store = (operation store).map view) (span : Log.Span) :
    within span other store = (within span operation store).map view := by
  simp only [within, withinNoting, same, Outcome.map]
  cases (operation store).result <;> rfl

theorem bind_map {α β γ : Type} {operation : Operation α} {next : α → Operation β}
    {other : α → Operation γ} {view : β → γ}
    (same : ∀ value store, other value store = (next value store).map view) (store : Store) :
    (operation >>= other) store = ((operation >>= next) store).map view := by
  change (operation.andThen other) store = ((operation.andThen next) store).map view
  rw [andThen, andThen]
  dsimp only
  cases (operation store).result with
  | error error => rfl
  | ok value =>
      dsimp only
      rw [same]
      rfl

end Operation

namespace Service

/-- An untraced evaluation of a stored rule is the traced one without its trace.  It leaves the same
store, it is observed the same, and it reports the same. -/
theorem evaluate_untraced (id : Text) (record : Record) (store : Store) :
    evaluate false id record store =
      (evaluate true id record store).map Evaluation.withoutTrace := by
  rw [evaluate, evaluate]
  refine Operation.within_map (Operation.bind_map (fun document store => ?_) store) _
  refine Operation.bind_map (fun rule store => ?_) store
  rw [rule.tree.execute_untraced]
  cases rule.tree.execute true record <;> rfl

end Service

namespace Http

/-- The value at some keys within the JSON value of a response. -/
def Response.at? (response : Response) (keys : List String) : Option Json.Value :=
  match response.content with
  | .json value => keys.foldlM (fun value key => value.member? key) value
  | .text _ => none

/-- Whether two requests are answered with the same verdict: with the same status, the same code and
the same result of an evaluation, if there is one.  They leave the same store, and the same is
observed of them. -/
structure SameVerdict (outcome other : Outcome Response) : Prop where
  responses : ∃ response otherResponse, outcome.result = .ok response ∧
    other.result = .ok otherResponse ∧ response.status = otherResponse.status ∧
    response.at? ["code"] = otherResponse.at? ["code"] ∧
    response.at? ["data", "result"] = otherResponse.at? ["data", "result"]
  store_eq : outcome.store = other.store
  recorded_eq : outcome.recorded = other.recorded

theorem Response.at?_code_success (data : Json.Value) :
    (Response.success (some data)).at? ["code"] = some (.ofString "SUCCESS") :=
  rfl

theorem Response.at?_result_evaluationData (traced : Bool) (evaluation : Evaluation) :
    (Response.success (some (evaluationData traced evaluation))).at? ["data", "result"] =
      some (.boolean evaluation.matched) := by
  cases traced <;> rfl

theorem sameVerdict_respond (id : Text) (record : Record) (store : Store) :
    SameVerdict
      (respond (Service.evaluate false id record)
        (fun evaluation => some (evaluationData false evaluation)) store)
      (respond (Service.evaluate true id record)
        (fun evaluation => some (evaluationData true evaluation)) store) := by
  have plain := silent_respond (Service.evaluate false id record)
    (fun evaluation => some (evaluationData false evaluation)) store
  have traced := silent_respond (Service.evaluate true id record)
    (fun evaluation => some (evaluationData true evaluation)) store
  rw [Service.evaluate_untraced] at plain
  refine ⟨⟨_, _, congrArg Outcome.result plain, congrArg Outcome.result traced, ?_⟩,
    (congrArg Outcome.store plain).trans (congrArg Outcome.store traced).symm,
    (congrArg Outcome.recorded plain).trans (congrArg Outcome.recorded traced).symm⟩
  dsimp only [Outcome.map]
  cases (Service.evaluate true id record store).result with
  | error error => exact ⟨rfl, rfl, rfl⟩
  | ok evaluation =>
      dsimp only [Except.map]
      rw [Response.at?_code_success, Response.at?_code_success,
        Response.at?_result_evaluationData, Response.at?_result_evaluationData]
      exact ⟨rfl, rfl, rfl⟩

theorem Submission.sameVerdict_answer (id : Text) (record : Record) (store : Store) :
    SameVerdict ((evaluate id record false).answer store)
      ((evaluate id record true).answer store) := by
  have same_objections :
      (evaluate id record false).objections = (evaluate id record true).objections := rfl
  rw [answer, answer, same_objections]
  cases (evaluate id record true).objections with
  | nil => exact sameVerdict_respond id record store
  | cons objection objections => exact ⟨⟨_, _, rfl, rfl, rfl, rfl, rfl⟩, rfl, rfl⟩

namespace Request

variable {plain traced : Request} {id : Text} {record : Record}

theorem observations_of_posts {route : Route} {submission other : Submission}
    (plain_posts : plain.Posts route submission) (traced_posts : traced.Posts route other)
    (status : Nat) : plain.observations status = traced.observations status := by
  simp only [observations, routeLabel, plain_posts.method, traced_posts.method, plain_posts.path,
    traced_posts.path]

theorem Posts.silent_serve (timeText : Nat → Text) {route : Route} {submission : Submission}
    {request : Request} {store : Store} {response : Response}
    (posts : request.Posts route submission)
    (responded : (submission.answer store).result = .ok response) :
    (request.serve timeText store).silent =
      ⟨.ok response, (submission.answer store).store,
        (submission.answer store).recorded ++ request.observations response.status, []⟩ := by
  have answered : (request.answer timeText store).silent = (submission.answer store).silent :=
    posts.silent_answer
  have store_eq : (request.answer timeText store).store = (submission.answer store).store := by
    rw [← Outcome.silent_store, answered, Outcome.silent_store]
  have recorded_eq : (request.answer timeText store).recorded =
      (submission.answer store).recorded := by
    rw [← Outcome.silent_recorded, answered, Outcome.silent_recorded]
  rw [Request.silent_serve ((congrArg Outcome.result answered).trans responded), store_eq,
    recorded_eq]

theorem Posts.sameVerdict_serve (timeText : Nat → Text)
    (plain_posts : plain.Posts .evaluateRule (.evaluate id record false))
    (traced_posts : traced.Posts .evaluateRule (.evaluate id record true)) (store : Store) :
    SameVerdict (plain.serve timeText store) (traced.serve timeText store) := by
  obtain ⟨⟨response, other, plain_result, traced_result, status_eq, code_eq, result_eq⟩,
    store_eq, recorded_eq⟩ := Submission.sameVerdict_answer id record store
  have plain_served := plain_posts.silent_serve timeText plain_result
  have traced_served := traced_posts.silent_serve timeText traced_result
  rw [store_eq, recorded_eq, observations_of_posts plain_posts traced_posts, status_eq]
    at plain_served
  exact ⟨⟨response, other, congrArg Outcome.result plain_served,
    congrArg Outcome.result traced_served, status_eq, code_eq, result_eq⟩,
    (congrArg Outcome.store plain_served).trans (congrArg Outcome.store traced_served).symm,
    (congrArg Outcome.recorded plain_served).trans (congrArg Outcome.recorded traced_served).symm⟩

end Request

/-- Tracing does not change results.

An evaluation that writes its trace on the way gives the same as one that derives it from its
visits, and without its trace a traced evaluation is the untraced one, also if it fails.  So an
untraced evaluation of a stored rule is the traced one without its trace, in every state of the
store; both are observed the same.  Two requests for the evaluation of a rule, of which one asks for
a trace and the other one does not, are answered with the same verdict. -/
theorem tracing_keeps_results (timeText : Nat → Text) (tree : Tree) (id : Text) (record : Record)
    (store : Store) :
    (∀ traced, tree.execute traced record = tree.executeInOnePass traced record) ∧
    tree.execute false record = (tree.execute true record).map Evaluation.withoutTrace ∧
    Service.evaluate false id record store =
      (Service.evaluate true id record store).map Evaluation.withoutTrace ∧
    ∀ plain traced : Request, plain.Posts .evaluateRule (.evaluate id record false) →
      traced.Posts .evaluateRule (.evaluate id record true) →
      SameVerdict (plain.serve timeText store) (traced.serve timeText store) :=
  ⟨fun traced => tree.execute_eq_executeInOnePass traced record, tree.execute_untraced record,
    Service.evaluate_untraced id record store,
    fun _ _ plain_posts traced_posts => plain_posts.sameVerdict_serve timeText traced_posts store⟩

/-- A disjunction whose left side decides it matches with and without a trace. -/
theorem tracing_keeps_results_of_disjunction :
    let rule : Rule :=
      ⟨"a = 5 OR b > 1".toList, .node .or (.leaf "a = 5".toList) (.leaf "b > 1".toList)⟩
    let record : Record := [("a".toList, .number (.integer 5))]
    let store : Store := ⟨(Catalog.empty.insert rule.text rule.tree.encode).2, none, []⟩
    let request (body : Text) : Request :=
      ⟨"POST".toList, "/evaluate_rule".toList, some "application/json".toList, body, none⟩
    let plain := request "[\"$1\", \x7b\"a\": 5\x7d]".toList
    let traced := request "[\"$1\", \x7b\"a\": 5\x7d, true]".toList
    plain.Posts .evaluateRule (.evaluate "$1".toList record false) ∧
      traced.Posts .evaluateRule (.evaluate "$1".toList record true) ∧
      SameVerdict (plain.serve Numeral.ofNat store) (traced.serve Numeral.ofNat store) ∧
      ∃ response, (plain.serve Numeral.ofNat store).result = .ok response ∧ response.status = 200 ∧
        response.at? ["code"] = some (.ofString "SUCCESS") ∧
        response.at? ["data", "result"] = some (.boolean true) := by
  intro rule record store request plain traced
  have plain_posts : plain.Posts .evaluateRule (.evaluate "$1".toList record false) := by
    refine Request.posts_json rfl ?_ ?_
    · decide
    · with_unfolding_all rfl
  have traced_posts : traced.Posts .evaluateRule (.evaluate "$1".toList record true) := by
    refine Request.posts_json rfl ?_ ?_
    · decide
    · with_unfolding_all rfl
  have same := (tracing_keeps_results Numeral.ofNat rule.tree "$1".toList record store).2.2.2
    plain traced plain_posts traced_posts
  have fits : rule.tree.depth ≤ Tree.maxDepth := by
    decide
  have held : store.catalog.rule? "$1".toList = some (.ok rule) :=
    Catalog.IsNumbered.empty.rule?_insert fits
  have evaluated : (Service.evaluate false "$1".toList record store).result =
      .ok ⟨true, ["a = 5".toList], []⟩ := by
    rw [Service.result_evaluate rfl, held]
    rfl
  have performed : ((Call.evaluate false "$1".toList record).perform store).result =
      .ok (.evaluated ⟨true, ["a = 5".toList], []⟩) := by
    rw [Call.perform, Operation.result_map, evaluated]
    rfl
  have relays : Relays Numeral.ofNat (.evaluate false "$1".toList record) store
      (plain.serve Numeral.ofNat store) :=
    plain_posts.relays_serve (List.cons_ne_nil _ _)
  obtain ⟨response, responded, tells⟩ := relays.tells
  rw [tells.of_ok _ performed] at responded
  exact ⟨plain_posts, traced_posts, same, _, responded, rfl, rfl, rfl⟩

end Http

end Rulebook
