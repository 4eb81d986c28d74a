import Rulebook.Catalog
import Rulebook.Http.Submission
import Rulebook.Rule.Evaluation

/-!
# Responses

A response has a status. A request that was understood is answered with a JSON object that says
whether it succeeded, a code and a message; any other request is answered with a text. Outages are
not told to the outside.
-/

namespace Rulebook.Http

open Json

/-- The content of a response. -/
inductive Content where
  | json (value : Value)
  | text (text : Text)

/-- A response, apart from its headers. -/
structure Response where
  status : Nat
  content : Content

namespace Response

def ofText (status : Nat) (text : String) : Response :=
  ⟨status, .text text.toList⟩

def unknownPath : Response :=
  ofText 404 ""

/-- The route does not answer the method. -/
def wrongMethod : Response :=
  ofText 405 ""

/-- The parameter in the path is no text. -/
def invalidPath : Response :=
  ofText 400 "Invalid URL"

/-- The content type does not announce JSON. -/
def wrongContentType : Response :=
  ofText 415 "Expected request with \x60Content-Type: application/json\x60"

/-- The body is too long to be read at all. -/
def bodyTooLong : Response :=
  ofText 413 "Failed to buffer the request body: length limit exceeded"

def ofBodyFault : BodyFault → Response
  | .notJson => ofText 400 "Failed to parse the request body as JSON"
  | .wrongShape => ofText 422 "Failed to deserialize the JSON body into the target type"

def success (data : Option Value) : Response :=
  let data := match data with
    | some value => [("data", value)]
    | none => []
  ⟨200, .json (.ofMembers ([("success", .boolean true), ("code", .ofString "SUCCESS"),
    ("message", .ofString "操作成功")] ++ data))⟩

def failure (status : Nat) (code : String) (message : Text) : Response :=
  ⟨status, .json (.ofMembers [("success", .boolean false), ("code", .ofString code),
    ("message", .text message)])⟩

def refusal (objections : List Objection) : Response :=
  failure 400 "VALIDATION_ERROR" (Objection.message objections)

def statusOf : RuleError → Nat
  | .parse _ | .malformedCondition .. | .typeMismatch .. | .emptyCombination | .treeTooDeep _ => 400
  | .notFound _ => 404
  | .malformedTree _ => 422
  | .outage _ => 500

/-- What is told to the outside about an error. -/
def publicMessage : RuleError → Text
  | .outage _ => "服务内部错误，请稍后重试".toList
  | error => error.message

def ofError (error : RuleError) : Response :=
  failure (statusOf error) error.code (publicMessage error)

/-- The same response without its content. -/
def withoutContent (response : Response) : Response :=
  ⟨response.status, .text []⟩

end Response

/-- What a response tells about a new rule. -/
def createdData (document : Document) : Value :=
  .ofMembers [("id", .text document.id), ("ast", .text document.encodedTree)]

/-- What a response tells about a document, with its times as they are written. -/
def documentData (timeText : Nat → Text) (document : Document) : Value :=
  .ofMembers [("id", .text document.id), ("rule_string", .text document.ruleText),
    ("ast", .text document.encodedTree), ("created_at", .text (timeText document.createdAt)),
    ("updated_at", .text (timeText document.updatedAt))]

/-- What a response tells about an evaluation: the result, and how it came about if it was traced.
-/
def evaluationData (traced : Bool) (evaluation : Evaluation) : Value :=
  let account := if traced then
      [("matched_conditions", Value.ofTexts evaluation.conditions),
        ("trace", Value.ofTexts evaluation.trace)]
    else []
  .ofMembers (("result", .boolean evaluation.matched) :: account)

end Rulebook.Http
