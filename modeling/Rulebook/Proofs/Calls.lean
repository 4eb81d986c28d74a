import Rulebook.Proofs.CombinedRules

/-!
# Calls and the requests that make them

A request either gets as far as one call of the service or leaves the store alone.  In the first
case it leaves what the call leaves, and its status tells whether the call succeeded.
-/

namespace Rulebook

/-- A call of the service. -/
inductive Call where
  | create (ruleText : Text)
  | combine (ids : List Text)
  | evaluate (traced : Bool) (id : Text) (record : Record)
  | modify (id ruleText : Text)
  | get (id : Text)

namespace Call

/-- Do what a call asks for. -/
def perform : Call → Operation Answer
  | .create ruleText => return .created (← Service.create ruleText)
  | .combine ids => return .created (← Service.combine ids)
  | .evaluate traced id record => return .evaluated (← Service.evaluate traced id record)
  | .modify id ruleText => do
      Service.modify id ruleText
      return .done
  | .get id => return .document (← Service.get id)

end Call

namespace Outcome

theorem silent_recorded {α : Type} (outcome : Outcome α) :
    outcome.silent.recorded = outcome.recorded :=
  rfl

/-- Whether an operation succeeded. -/
def Succeeds {α : Type} (outcome : Outcome α) : Prop :=
  ∃ value, outcome.result = .ok value

end Outcome

namespace Operation

theorem recorded_map {α β : Type} (operation : Operation α) (wrap : α → β) (store : Store) :
    ((do return wrap (← operation)) store : Outcome β).recorded = (operation store).recorded := by
  change (operation.andThen _ store).recorded = _
  rw [andThen]
  cases (operation store).result with
  | error error => rfl
  | ok value => exact List.append_nil _

theorem succeeds_map {α β : Type} (operation : Operation α) (wrap : α → β) (store : Store) :
    ((do return wrap (← operation)) store : Outcome β).Succeeds ↔ (operation store).Succeeds := by
  rw [Outcome.Succeeds, Outcome.Succeeds, result_map]
  cases (operation store).result <;> simp [Except.map]

end Operation

namespace Http

open Operation

/-- Whether an operation answers for a call: it leaves what the call leaves, and the status of its
response is 200 exactly if the call succeeds.  Without a call it leaves everything as it is. -/
def AnswersFor (call? : Option Call) (operation : Operation Response) : Prop :=
  ∀ store, ∃ response, (operation store).result = .ok response ∧
    match call? with
    | none => (operation store).store = store ∧ (operation store).recorded = []
    | some call =>
        (operation store).store = (call.perform store).store ∧
          (operation store).recorded = (call.perform store).recorded ∧
          (response.status = 200 ↔ (call.perform store).Succeeds)

theorem answersFor_pure (response : Response) : AnswersFor none (pure response) :=
  fun _ => ⟨response, rfl, rfl, rfl⟩

theorem statusOf_ne (error : RuleError) : Response.statusOf error ≠ 200 := by
  cases error <;> simp [Response.statusOf]

theorem silent_reportOutage (error : RuleError) (store : Store) :
    (reportOutage error store).silent = ⟨.ok (), store, [], []⟩ := by
  cases error <;> rfl

/-- A response tells the result of an operation, and all else is as the operation leaves it. -/
theorem silent_respond {α : Type} (operation : Operation α) (data : α → Option Json.Value)
    (store : Store) :
    (respond operation data store).silent =
      ⟨.ok (match (operation store).result with
        | .ok value => .success (data value)
        | .error error => .ofError error),
        (operation store).store, (operation store).recorded, []⟩ := by
  have attempted : (operation.attempt store).silent =
      ⟨.ok (operation store).result, (operation store).store, (operation store).recorded, []⟩ :=
    rfl
  rw [respond, silent_bind, attempted, Outcome.followedBy_ok]
  cases (operation store).result with
  | ok value => simp only [silent_pure, List.append_nil]
  | error error =>
      simp only [silent_bind, silent_reportOutage, Outcome.followedBy_ok, silent_pure,
        List.append_nil]

theorem answersFor_respond {α : Type} {call : Call} {operation : Operation α} (wrap : α → Answer)
    (performed : call.perform = do return wrap (← operation)) (data : α → Option Json.Value) :
    AnswersFor (some call) (respond operation data) := by
  intro store
  have responded := silent_respond operation data store
  refine ⟨_, congrArg Outcome.result responded, ?_⟩
  dsimp only
  rw [performed, store_map, recorded_map, succeeds_map, Outcome.Succeeds]
  refine ⟨congrArg Outcome.store responded, congrArg Outcome.recorded responded, ?_⟩
  cases (operation store).result with
  | ok value => simp [Response.success]
  | error error => simp [Response.ofError, Response.failure, statusOf_ne]

namespace Submission

/-- The call that a submission asks for. The ids of rules to combine are trimmed. -/
def call : Submission → Call
  | .create ruleText => .create ruleText
  | .combine ids => .combine (ids.map Text.trim)
  | .evaluate id record traced => .evaluate traced id record
  | .modify id ruleText => .modify id ruleText

/-- The call that a submission makes, unless it is refused. -/
def call? (submission : Submission) : Option Call :=
  match submission.objections with
  | [] => some submission.call
  | _ => none

theorem answersFor_perform (submission : Submission) :
    AnswersFor (some submission.call) submission.perform := by
  cases submission with
  | create ruleText => exact answersFor_respond .created rfl _
  | combine ids => exact answersFor_respond .created rfl _
  | evaluate id record traced => exact answersFor_respond .evaluated rfl _
  | modify id ruleText => exact answersFor_respond (fun _ => .done) rfl _

theorem answersFor_answer (submission : Submission) :
    AnswersFor submission.call? submission.answer := by
  unfold call? answer
  cases submission.objections with
  | nil => exact submission.answersFor_perform
  | cons objection objections => exact answersFor_pure _

end Submission

namespace Request

/-- The call that a request with a submission to a route makes, if what it submits can be read. -/
def submittedCall? (request : Request) (route : Route) : Option Call :=
  match request.submission route with
  | .ok submission => submission.call?
  | .error _ => none

/-- The call that a request makes to a route that answers its method. -/
def dispatchedCall? (request : Request) (route : Route) (segment : Text) : Option Call :=
  match route with
  | .health => none
  | .getRule => (percentDecode? segment).map .get
  | route => request.submittedCall? route

/-- The call that a request makes, if it gets as far as the service. -/
def call? (request : Request) : Option Call :=
  match Route.ofPath? (path request.target) with
  | none => none
  | some (route, segment) =>
      if route.allows request.method then request.dispatchedCall? route segment else none

theorem answersFor_submit (request : Request) (route : Route) :
    AnswersFor (request.submittedCall? route) (request.submit route) := by
  unfold submittedCall? submit
  cases request.submission route with
  | ok submission => exact submission.answersFor_answer
  | error response => exact answersFor_pure response

theorem answersFor_dispatch (timeText : Nat → Text) (request : Request) (route : Route)
    (segment : Text) :
    AnswersFor (request.dispatchedCall? route segment)
      (request.dispatch timeText route segment) := by
  cases route with
  | health => exact answersFor_pure _
  | getRule =>
      unfold dispatchedCall? dispatch
      cases percentDecode? segment with
      | none => exact answersFor_pure _
      | some id => exact answersFor_respond .document rfl _
  | createRule => exact request.answersFor_submit .createRule
  | combineRules => exact request.answersFor_submit .combineRules
  | evaluateRule => exact request.answersFor_submit .evaluateRule
  | modifyRule => exact request.answersFor_submit .modifyRule

/-- What is done to a response without a change of its status does not matter. -/
private theorem answersFor_map {call? : Option Call} {operation : Operation Response}
    (answers : AnswersFor call? operation) {revise : Response → Response}
    (same_status : ∀ response, (revise response).status = response.status) :
    AnswersFor call? (do return revise (← operation)) := by
  intro store
  obtain ⟨response, responded, left⟩ := answers store
  refine ⟨revise response, ?_, ?_⟩
  · rw [result_map, responded]
    rfl
  · rw [store_map, recorded_map]
    cases call? with
    | none => exact left
    | some call =>
        dsimp only
        rw [same_status]
        exact left

theorem answersFor_answer (timeText : Nat → Text) (request : Request) :
    AnswersFor request.call? (request.answer timeText) := by
  unfold call? answer
  cases Route.ofPath? (path request.target) with
  | none => exact answersFor_pure _
  | some found =>
      obtain ⟨route, segment⟩ := found
      dsimp only
      split
      · apply answersFor_map (request.answersFor_dispatch timeText route segment)
        intro response
        split <;> rfl
      · exact answersFor_pure _

/-- What is observed of a request itself. -/
def observations (request : Request) (status : Nat) : List Series :=
  [.requests request.method request.routeLabel status,
    .requestTimes request.method request.routeLabel status]

theorem silent_serve {timeText : Nat → Text} {request : Request} {store : Store}
    {response : Response} (responded : (request.answer timeText store).result = .ok response) :
    (request.serve timeText store).silent =
      ⟨.ok response, (request.answer timeText store).store,
        (request.answer timeText store).recorded ++ request.observations response.status, []⟩ := by
  have noted : (withinNoting request.span
      (fun response => [⟨"status".toList, .natural response.status⟩]) (request.answer timeText)
        store).silent =
      ⟨.ok response, (request.answer timeText store).store,
        (request.answer timeText store).recorded, []⟩ := by
    rw [← responded]
    rfl
  rw [serve, silent_bind, noted, Outcome.followedBy_ok]
  simp [observations]

end Request

end Http

theorem Step.silent_request {surroundings : Http.Surroundings} {request : Http.Request}
    {store : Store} {response : Http.Response}
    (responded : (request.answer surroundings.timeText store).result = .ok response) :
    ((Step.request request).perform surroundings store).silent =
      ⟨.ok (.response (Http.requestIdOr (surroundings.requestIds 0) request.requestId) response),
        (request.answer surroundings.timeText store).store,
        (request.answer surroundings.timeText store).recorded ++
          request.observations response.status, []⟩ := by
  rw [perform, Operation.silent_bind, Http.Request.silent_serve responded, Outcome.followedBy_ok]
  simp only [Operation.silent_pure, List.append_nil]

end Rulebook
