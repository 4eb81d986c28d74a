import Rulebook.Http.MediaType
import Rulebook.Http.Response
import Rulebook.Service

/-!
# The HTTP server

Each request is answered by one operation: it is led to its route, what it submits is read and
checked, and the service does the rest. Every request, whatever becomes of it, is observed once
under its route, lies in a span of its own, and gets a request id.
-/

namespace Rulebook.Http

/-- A request. -/
structure Request where
  method : Text
  target : Text
  contentType : Option Text
  body : Text
  /-- The request id that was sent, if one was. -/
  requestId : Option Text

/-- Whether a character may stand in a request id. -/
def isHeaderCharacter (c : Char) : Bool :=
  c == '\t' || (0x20 ≤ c.toNat && c.toNat ≤ 0x7E)

/-- The request id that was sent, if it can be kept. -/
def keptRequestId? (sent : Option Text) : Option Text :=
  sent.filter (·.all isHeaderCharacter)

/-- The request id that a response carries: the one that was sent if it can be kept, else the one
that is generated. -/
def requestIdOr (generated : Text) (sent : Option Text) : Text :=
  (keptRequestId? sent).getD generated

/-- What the server takes from its surroundings. -/
structure Surroundings where
  /-- How the time of a write is written. -/
  timeText : Nat → Text
  /-- The request ids that are generated, one after another. -/
  requestIds : Nat → Text

/-- The surroundings once a request id has been generated. -/
def Surroundings.advance (surroundings : Surroundings) : Surroundings :=
  { surroundings with requestIds := fun n => surroundings.requestIds (n + 1) }

/-- The target of what is reported about failed requests. -/
def errorTarget : Text :=
  "rule_engine::http::error".toList

/-- The target of the span around a request. -/
def requestTarget : Text :=
  "rule_shared::observability::middleware".toList

/-- Report an outage, which is not told to the outside. -/
def reportOutage : RuleError → Operation Unit
  | .outage cause =>
      let message := match cause with
        | .ofDatabase _ => "Database operation failed"
        | .ofEncoding _ => "JSON encoding failed"
      .report ⟨.error, errorTarget, message.toList, [⟨"error".toList, .plain cause.detail⟩]⟩
  | _ => pure ()

/-- Answer with the result of an operation. -/
def respond {α : Type} (operation : Operation α) (data : α → Option Json.Value) :
    Operation Response := do
  match ← operation.attempt with
  | .ok value => return .success (data value)
  | .error error =>
      reportOutage error
      return .ofError error

namespace Submission

def perform : Submission → Operation Response
  | .create ruleText =>
      respond (Service.create ruleText) fun document => some (createdData document)
  | .combine ids =>
      respond (Service.combine (ids.map Text.trim)) fun document => some (createdData document)
  | .evaluate id record traced =>
      respond (Service.evaluate traced id record) fun evaluation =>
        some (evaluationData traced evaluation)
  | .modify id ruleText => respond (Service.modify id ruleText) fun _ => none

/-- Do what a submission asks for, unless it is refused. -/
def answer (submission : Submission) : Operation Response :=
  match submission.objections with
  | [] => submission.perform
  | objections => return .refusal objections

end Submission

namespace Request

/-- What a request to a route submits, or the response where that cannot be read. -/
def submission (request : Request) (route : Route) : Except Response Submission :=
  if !request.contentType.any MediaType.isJson then .error .wrongContentType
  else if Submission.maxBodyBytes < Text.byteCount request.body then .error .bodyTooLong
  else
    match Submission.ofBody route request.body with
    | .error fault => .error (.ofBodyFault fault)
    | .ok submission => .ok submission

/-- Answer a request to a route that takes a submission. -/
def submit (request : Request) (route : Route) : Operation Response :=
  match request.submission route with
  | .error response => return response
  | .ok submission => submission.answer

/-- Answer a request to a route that answers its method. -/
def dispatch (timeText : Nat → Text) (request : Request) (route : Route) (segment : Text) :
    Operation Response :=
  match route with
  | .health => return .ofText 200 "OK"
  | .getRule =>
      match percentDecode? segment with
      | some id => respond (Service.get id) fun document => some (documentData timeText document)
      | none => return .invalidPath
  | route => request.submit route

/-- Answer a request, before it is observed. -/
def answer (timeText : Nat → Text) (request : Request) : Operation Response :=
  match Route.ofPath? (path request.target) with
  | none => return .unknownPath
  | some (route, segment) =>
      if route.allows request.method then do
        let response ← request.dispatch timeText route segment
        return if request.method = "HEAD".toList then response.withoutContent else response
      else return .wrongMethod

def span (request : Request) : Log.Span :=
  ⟨"http_request".toList, requestTarget,
    [⟨"method".toList, .plain request.method⟩, ⟨"uri".toList, .plain (path request.target)⟩]⟩

/-- How the route of a request is named in the metrics. -/
def routeLabel (request : Request) : Text :=
  Route.label ((Route.ofPath? (path request.target)).map Prod.fst)

/-- Answer a request and observe it. -/
def serve (timeText : Nat → Text) (request : Request) : Operation Response := do
  let response ← .withinNoting request.span
    (fun response => [⟨"status".toList, .natural response.status⟩]) (request.answer timeText)
  .record (.requests request.method request.routeLabel response.status)
  .record (.requestTimes request.method request.routeLabel response.status)
  return response

end Request

/-- What is seen of a request to a server whose only route answers with the request id. -/
structure Echo where
  status : Nat
  /-- The request id in the header of the response. -/
  header : Text
  /-- The content of the response. -/
  seen : Text

/-- Ask the server that answers with the request id, sending some ids. The first one counts; another
one is generated if need be. -/
def echo (generated target : Text) (ids : List Text) : Echo :=
  let id := requestIdOr generated ids.head?
  match lastSegment? "/echo/".toList (path target) with
  | some _ => ⟨200, id, id⟩
  | none => ⟨404, id, []⟩

end Rulebook.Http
