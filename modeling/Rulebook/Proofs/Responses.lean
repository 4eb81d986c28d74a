import Rulebook.Proofs.Accounting
import Rulebook.Proofs.Routes

/-!
# Requests that make calls

A request that gets as far as the service is its call: it leaves the store that the call leaves, the
same is observed of rules, and the response is a function of the result.  It shows what the call
answers, member by member, or the code, the status and the text of its error, except that of an
outage it shows the kind alone.  What a submission is refused for are the limits of its fields; a
refused one does not reach the service.
-/

namespace Rulebook

open Http

namespace Series

/-- Whether a series observes rules, and not requests. -/
def isOfRules : Series → Bool
  | .requests .. | .requestTimes .. => false
  | _ => true

end Series

theorem AnsweredCall.isOfRules_of_mem_observations {answered : AnsweredCall} {series : Series}
    (member : series ∈ answered.observations) : series.isOfRules = true := by
  rw [observations] at member
  split at member
  · simp only [List.mem_cons, List.not_mem_nil, or_false] at member
    rcases member with rfl | rfl <;> rfl
  · split at member
    · rw [Option.mem_toList] at member
      cases purpose : answered.call.purpose <;> simp [purpose, Purpose.counter?] at member <;>
        rw [← member] <;> rfl
    · cases member

namespace Call

/-- What is shown of the answer to a call, with the members of objects in increasing order of keys:
the id and the tree of a new rule, the result of an evaluation together with its conditions and its
trace if it was traced, or a whole document with its times as they are written. -/
def shown (timeText : Nat → Text) : Call → Answer → Option Json.Value
  | .create _, .created document | .combine _, .created document =>
      some (.object [("ast".toList, .text document.encodedTree), ("id".toList, .text document.id)])
  | .evaluate false _ _, .evaluated evaluation =>
      some (.object [("result".toList, .boolean evaluation.matched)])
  | .evaluate true _ _, .evaluated evaluation =>
      some (.object [("matched_conditions".toList, .array (evaluation.conditions.map .text)),
        ("result".toList, .boolean evaluation.matched),
        ("trace".toList, .array (evaluation.trace.map .text))])
  | .get _, .document document =>
      some (.object [("ast".toList, .text document.encodedTree),
        ("created_at".toList, .text (timeText document.createdAt)),
        ("id".toList, .text document.id), ("rule_string".toList, .text document.ruleText),
        ("updated_at".toList, .text (timeText document.updatedAt))])
  | _, _ => none

/-- The response that tells the result of a call. -/
def response (timeText : Nat → Text) (call : Call) : Except RuleError Answer → Response
  | .ok answer => .success (call.shown timeText answer)
  | .error error => .ofError error

theorem isOfRules_of_mem_recorded {call : Call} {store : Store} {series : Series}
    (member : series ∈ (call.perform store).recorded) : series.isOfRules = true := by
  rw [recorded_perform] at member
  exact AnsweredCall.isOfRules_of_mem_observations member

end Call

namespace Http

open Operation

/-- The only thing that is told about outages. -/
def outageMessage : Text :=
  "服务内部错误，请稍后重试".toList

/-- The status and the code of an error. -/
def errorKind : RuleError → Nat × String
  | .parse _ => (400, "PARSE_ERROR")
  | .malformedTree _ => (422, "MALFORMED_TREE")
  | .malformedCondition _ _ => (400, "MALFORMED_OPERAND")
  | .typeMismatch _ _ _ => (400, "TYPE_MISMATCH")
  | .notFound _ => (404, "RULE_NOT_FOUND")
  | .emptyCombination => (400, "EMPTY_COMBINATION")
  | .treeTooDeep _ => (400, "TREE_TOO_DEEP")
  | .outage (.ofDatabase _) => (500, "DATABASE_ERROR")
  | .outage (.ofEncoding _) => (500, "JSON_ERROR")

namespace Response

/-- Whether a response shows an object that says that the request succeeded, with some data or
without any. -/
def Succeeds (data : Option Json.Value) (response : Response) : Prop :=
  let shown := match data with
    | some value => [("data".toList, value)]
    | none => []
  response = ⟨200, .json (.object ([("code".toList, .text "SUCCESS".toList)] ++ shown ++
    [("message".toList, .text "操作成功".toList), ("success".toList, .boolean true)]))⟩

/-- Whether a response shows an object that says that the request failed, with a code and a text. -/
def Fails (status : Nat) (code : String) (message : Text) (response : Response) : Prop :=
  response = ⟨status, .json (.object [("code".toList, .text code.toList),
    ("message".toList, .text message), ("success".toList, .boolean false)])⟩

theorem succeeds_success (data : Option Json.Value) : (success data).Succeeds data := by
  cases data <;> rfl

theorem fails_failure (status : Nat) (code : String) (message : Text) :
    (failure status code message).Fails status code message :=
  rfl

/-- Whether a response tells the result of a call: what the call answers, or the status, the code
and the text of its error.  An outage is told by its kind alone. -/
structure Tells (timeText : Nat → Text) (call : Call) (result : Except RuleError Answer)
    (response : Response) : Prop where
  of_ok : ∀ answer, result = .ok answer → response.Succeeds (call.shown timeText answer)
  of_error : ∀ error, result = .error error → (∀ cause, error ≠ .outage cause) →
    response.Fails (errorKind error).1 (errorKind error).2 error.message
  of_database : ∀ detail, result = .error (.outage (.ofDatabase detail)) →
    response.Fails 500 "DATABASE_ERROR" outageMessage
  of_encoding : ∀ detail, result = .error (.outage (.ofEncoding detail)) →
    response.Fails 500 "JSON_ERROR" outageMessage

theorem tells_response (timeText : Nat → Text) (call : Call) (result : Except RuleError Answer) :
    (call.response timeText result).Tells timeText call result where
  of_ok := by
    rintro answer rfl
    exact succeeds_success _
  of_error := by
    rintro error rfl visible
    cases error with
    | outage cause => exact absurd rfl (visible cause)
    | _ => exact fails_failure _ _ _
  of_database := by
    rintro detail rfl
    exact fails_failure _ _ _
  of_encoding := by
    rintro detail rfl
    exact fails_failure _ _ _

end Response

/-- Whether an outcome of a request is that of a call on the store before it: it leaves the same
store, it is observed the same of rules, and a response tells the result. -/
structure Relays (timeText : Nat → Text) (call : Call) (store : Store)
    (outcome : Outcome Response) : Prop where
  store_eq : outcome.store = (call.perform store).store
  recorded_eq : outcome.recorded.filter Series.isOfRules = (call.perform store).recorded
  tells : ∃ response, outcome.result = .ok response ∧
    response.Tells timeText call (call.perform store).result

/-- The outcome of an operation whose response tells the result of a call. -/
def relayed (timeText : Nat → Text) (call : Call) (store : Store) : Outcome Response :=
  ⟨.ok (call.response timeText (call.perform store).result), (call.perform store).store,
    (call.perform store).recorded, []⟩

theorem silent_respond_of_call {α : Type} {timeText : Nat → Text} (call : Call)
    {operation : Operation α} {data : α → Option Json.Value} (wrap : α → Answer)
    (performed : call.perform = do return wrap (← operation))
    (shown : ∀ value, call.shown timeText (wrap value) = data value) (store : Store) :
    (respond operation data store).silent = relayed timeText call store := by
  rw [silent_respond, relayed, performed, result_map, store_map, recorded_map]
  cases (operation store).result with
  | error error => rfl
  | ok value =>
      rw [Except.map, Call.response, shown]

namespace Submission

/-- Whether a submission keeps the limits of its fields. -/
def IsWithinLimits : Submission → Prop
  | .create ruleText => ruleText.length ≤ 4096
  | .combine ids => ids.length ≤ 256 ∧ ∀ id ∈ ids, Text.trim id ≠ []
  | .evaluate id _ _ => id ≠ []
  | .modify id ruleText => id ≠ [] ∧ ruleText.length ≤ 4096

theorem reasonIf_eq_nil_iff {applies : Prop} [Decidable applies] {reason : String} :
    reasonIf (decide applies) reason = [] ↔ ¬applies := by
  by_cases holds : applies <;> simp [reasonIf, holds]

theorem objections_eq_nil_iff {submission : Submission} :
    submission.objections = [] ↔ submission.IsWithinLimits := by
  have unlimited (text : Text) : ruleReasons text = [] ↔ text.length ≤ 4096 := by
    rw [ruleReasons, reasonIf_eq_nil_iff, Nat.not_lt, maxRuleLength]
  have named (id : Text) : idReasons id = [] ↔ id ≠ [] := by
    cases id <;> simp [idReasons, reasonIf]
  have few (ids : List Text) :
      idsReasons ids = [] ↔ ids.length ≤ 256 ∧ ∀ id ∈ ids, Text.trim id ≠ [] := by
    rw [idsReasons, List.append_eq_nil_iff, reasonIf_eq_nil_iff, Nat.not_lt, maxSources]
    refine and_congr_right fun _ => ?_
    cases blank : ids.any fun id => (Text.trim id).isEmpty <;>
      simpa [reasonIf] using blank
  cases submission with
  | create ruleText => simp [objections, reasons, IsWithinLimits, unlimited]
  | combine ids => simp [objections, reasons, IsWithinLimits, few]
  | evaluate id record traced => simp [objections, reasons, IsWithinLimits, named]
  | modify id ruleText => simp [objections, reasons, IsWithinLimits, named, unlimited, and_comm]

theorem silent_perform (timeText : Nat → Text) (submission : Submission) (store : Store) :
    (submission.perform store).silent = relayed timeText submission.call store := by
  cases submission with
  | create ruleText =>
      exact silent_respond_of_call (.create ruleText) .created rfl (fun _ => rfl) store
  | combine ids =>
      exact silent_respond_of_call (.combine (ids.map Text.trim)) .created rfl (fun _ => rfl) store
  | evaluate id record traced =>
      refine silent_respond_of_call (.evaluate traced id record) .evaluated rfl (fun _ => ?_) store
      cases traced <;> rfl
  | modify id ruleText =>
      exact silent_respond_of_call (.modify id ruleText) (fun _ => .done) rfl (fun _ => rfl) store

end Submission

namespace Request

/-- Whether a request posts a submission to a route: it announces JSON of a length that is read, and
its body is read as the submission. -/
structure Posts (request : Request) (route : Route) (submission : Submission) : Prop where
  method : request.method = "POST".toList
  path : Http.path request.target = route.template
  read : request.submission route = .ok submission

/-- Whether a request asks for the document with an id: the id is what the last segment of the path
is decoded to. -/
structure AsksFor (request : Request) (id : Text) : Prop where
  method : request.method = "GET".toList
  path : ∃ segment, Http.path request.target = "/rules/".toList ++ segment ∧ segment ≠ [] ∧
    '/' ∉ segment ∧ percentDecode? segment = some id

variable {timeText : Nat → Text} {request : Request} {store : Store}

private theorem followedBy_give (outcome : Outcome Response) :
    outcome.silent.followedBy (fun response store => ⟨.ok response, store, [], []⟩) =
      outcome.silent := by
  rw [Outcome.followedBy, Outcome.silent_result]
  cases result : outcome.result with
  | error error => simp [Outcome.silent, result]
  | ok response => simp [Outcome.silent, result]

/-- Unless its content is withheld, the response of a route is the response to the request. -/
theorem silent_answer {route : Route} {segment : Text}
    (leads : route.Leads (path request.target) segment)
    (allowed : route.allows request.method = true) (shown : request.method ≠ "HEAD".toList) :
    (request.answer timeText store).silent =
      (request.dispatch timeText route segment store).silent := by
  unfold answer
  rw [Route.ofPath?_eq_some_iff.mpr leads]
  dsimp only
  rw [if_pos allowed, silent_bind]
  simp only [if_neg shown, silent_pure]
  exact followedBy_give _

theorem submission_eq_ok {route : Route} {submission : Submission}
    (read : request.submission route = .ok submission) :
    ∃ members, readBody (Submission.fields route) request.body = .ok members ∧
      Submission.ofMembers? members route = some submission := by
  unfold Request.submission Submission.ofBody at read
  split at read
  · cases read
  · split at read
    · cases read
    · cases body_read : readBody (Submission.fields route) request.body with
      | error fault => simp [body_read] at read
      | ok members =>
          refine ⟨members, rfl, ?_⟩
          cases found : Submission.ofMembers? members route with
          | none => simp [body_read, found] at read
          | some other =>
              simp only [body_read, found, Except.ok.injEq] at read
              rw [read]

theorem posts_json {route : Route} {target body : Text} {id : Option Text} {submission : Submission}
    (path_eq : Http.path target = route.template)
    (short : Text.byteCount body ≤ Submission.maxBodyBytes)
    (read : Submission.ofBody route body = .ok submission) :
    (⟨"POST".toList, target, some "application/json".toList, body, id⟩ : Request).Posts route
      submission := by
  have announced : MediaType.isJson "application/json".toList = true := by
    decide
  refine ⟨rfl, path_eq, ?_⟩
  simp only [Request.submission, Option.any_some, announced, read, if_neg (Nat.not_lt.mpr short)]
  rfl

theorem Posts.silent_answer {route : Route} {submission : Submission}
    (posts : request.Posts route submission) :
    (request.answer timeText store).silent = (submission.answer store).silent := by
  obtain ⟨members, _, read⟩ := submission_eq_ok posts.read
  have submits (takes : route.Leads (Http.path request.target) [])
      (allows : route.allows "POST".toList = true)
      (dispatches : request.dispatch timeText route [] = request.submit route) :
      (request.answer timeText store).silent = (submission.answer store).silent := by
    rw [Request.silent_answer takes, dispatches, submit, posts.read]
    · rw [posts.method]
      exact allows
    · rw [posts.method]
      decide
  have path_eq := posts.path
  cases route with
  | getRule => cases read
  | health => cases read
  | createRule => exact submits ⟨path_eq, rfl⟩ rfl rfl
  | combineRules => exact submits ⟨path_eq, rfl⟩ rfl rfl
  | evaluateRule => exact submits ⟨path_eq, rfl⟩ rfl rfl
  | modifyRule => exact submits ⟨path_eq, rfl⟩ rfl rfl

theorem AsksFor.silent_answer {id : Text} (asks : request.AsksFor id) :
    (request.answer timeText store).silent = relayed timeText (.get id) store := by
  obtain ⟨segment, path_eq, nonempty, slashless, decoded⟩ := asks.path
  have leads : Route.getRule.Leads (Http.path request.target) segment :=
    ⟨path_eq, nonempty, slashless⟩
  rw [Request.silent_answer leads, dispatch, decoded]
  · exact silent_respond_of_call (.get id) .document rfl (fun _ => rfl) store
  · rw [asks.method]
    rfl
  · rw [asks.method]
    decide

/-- A request is served with its answer, and what is observed of it besides is nothing of rules. -/
theorem serve_of_answer {response : Response} {after : Store} {recorded : List Series}
    (answered : (request.answer timeText store).silent = ⟨.ok response, after, recorded, []⟩) :
    (request.serve timeText store).result = .ok response ∧
      (request.serve timeText store).store = after ∧
      (request.serve timeText store).recorded.filter Series.isOfRules =
        recorded.filter Series.isOfRules := by
  have served := request.silent_serve (congrArg Outcome.result answered)
  have left : (request.answer timeText store).recorded = recorded :=
    congrArg Outcome.recorded answered
  have unrelated : (request.observations response.status).filter Series.isOfRules = [] := rfl
  refine ⟨congrArg Outcome.result served, ?_, ?_⟩
  · exact (congrArg Outcome.store served).trans (congrArg Outcome.store answered)
  · rw [← Outcome.silent_recorded, served]
    dsimp only
    rw [List.filter_append, unrelated, left, List.append_nil]

theorem relays_serve {call : Call}
    (answered : (request.answer timeText store).silent = relayed timeText call store) :
    Relays timeText call store (request.serve timeText store) := by
  obtain ⟨result_eq, store_eq, recorded_eq⟩ := serve_of_answer answered
  rw [List.filter_eq_self.mpr fun _ => Call.isOfRules_of_mem_recorded] at recorded_eq
  exact ⟨store_eq, recorded_eq, _, result_eq, Response.tells_response timeText call _⟩

theorem Posts.relays_serve {route : Route} {submission : Submission}
    (posts : request.Posts route submission) (within : submission.IsWithinLimits) :
    Relays timeText submission.call store (request.serve timeText store) := by
  apply Request.relays_serve
  rw [posts.silent_answer, Submission.answer, Submission.objections_eq_nil_iff.mpr within]
  exact submission.silent_perform timeText store

end Request

end Http

end Rulebook
