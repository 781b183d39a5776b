import Fcmr.WebUi.Values

/-! The API client: which answers are results, which are refusals to be shown, and which are
failures. -/
namespace Fcmr.WebUi

open DotNet

/-- What becomes of a call: the token or the request fails, with the message of an `Error`, or
a response comes, with its body or, if that is not JSON, the message of the `SyntaxError`. -/
inductive Response
  | rejected (message : Option Text)
  | received (status : Nat) (statusText : Text) (body : Except Text Value)

/-- What is thrown: an `ApiError`, another `Error`, or something else. -/
inductive Failure
  | api (status : Nat) (message : Value)
  | error (message : Value)
  | other

def Failure.message : Failure → Option Value
  | api _ message => some message
  | error message => some message
  | other => none

abbrev Answer := Except Failure Value

namespace ApiClient

def ok (status : Nat) : Bool := 200 ≤ status && status < 300

/-- `payload.detail ?? payload.title ?? detail`; a payload that has no members throws, and the
status text stands. -/
def detailOf (statusText : Text) (body : Except Text Value) : Value :=
  (do
    let payload ← body.toOption
    let detail ← payload.read "detail"
    let title ← payload.read "title"
    return detail.orElse (title.orElse (.string statusText))).getD (.string statusText)

def apiError (status : Nat) (detail : Value) : Failure :=
  match detail.text with
  | some message => .api status message
  | none => .error (.string (lit "Cannot convert object to primitive value"))

def sendAllowing (refusalStatuses : List Nat) : Response → Answer
  | .rejected (some message) => .error (.error (.string message))
  | .rejected none => .error .other
  | .received status statusText body =>
    if !ok status && !refusalStatuses.contains status then
      .error (apiError status (detailOf statusText body))
    else
      match body with
      | .ok body => .ok body
      | .error message => .error (.error (.string message))

inductive Request
  | proposeRoute (request : Value)
  | getApproval (id : Text)
  | executeRoute (request : Value)

def Request.refusalStatuses : Request → List Nat
  | .proposeRoute _ => [422]
  | .getApproval _ => []
  | .executeRoute _ => [403, 409]

def answer (request : Request) : Response → Answer := sendAllowing request.refusalStatuses

end ApiClient

def isHalt (result : Value) : Option Bool := do
  return (← result.read "status").equals (lit "Halted")

def isExecutionRefusal (result : Value) : Option Bool := do
  match ← result.read "executed" with
  | .boolean false => return true
  | _ => return false

theorem apiError_string (status : Nat) (detail : Text) :
    ApiClient.apiError status (.string detail) = .api status (.string detail) := by
  rw [ApiClient.apiError, Value.text_string]

theorem sendAllowing_failed {status : Nat} {refusalStatuses : List Nat}
    (hfailed : ApiClient.ok status = false) (hother : status ∉ refusalStatuses) (statusText : Text)
    (body : Except Text Value) :
    ApiClient.sendAllowing refusalStatuses (.received status statusText body) =
      .error (ApiClient.apiError status (ApiClient.detailOf statusText body)) := by
  simp [ApiClient.sendAllowing, hfailed, hother]

theorem sendAllowing_taken {status : Nat} {refusalStatuses : List Nat}
    (htaken : ApiClient.ok status = true ∨ status ∈ refusalStatuses) (statusText : Text)
    (body : Value) : ApiClient.sendAllowing refusalStatuses
      (.received status statusText (.ok body)) = .ok body := by
  rcases htaken with hok | hmem
  · simp [ApiClient.sendAllowing, hok]
  · simp [ApiClient.sendAllowing, hmem]

end Fcmr.WebUi
