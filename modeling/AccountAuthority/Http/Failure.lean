import AccountAuthority.Json.Basic

/-!
# Failed requests

What a client is told when a request fails.  The status and a stable code are always told; what
went wrong inside of the authority is not.
-/

namespace AccountAuthority

/-- What is sent to a client. -/
structure HttpResponse where
  status : Nat
  headers : List (String × String)
  /-- Nothing is sent without a value. -/
  body : Option Json

namespace HttpResponse

def ofJson (status : Nat) (body : Json) : HttpResponse :=
  ⟨status, [("content-type", "application/json")], some body⟩

end HttpResponse

/-- Why a request failed. -/
inductive Failure where
  | badRequest (text : String)
  | notFound (text : String)
  | unauthorized (text : String)
  | forbidden (text : String)
  | conflict (text : String)
  | tooManyRequests (text : String) (retryAfter : Option Nat)
  /-- Refused for a reason that has a code of its own. -/
  | rejected (status : Nat) (code text : String)
  | internal (text : String)
  | unavailable
  | database (text : String)
  | configuration (text : String)
  deriving DecidableEq, Repr

namespace Failure

/-- The stable code of a failure. -/
def code : Failure → String
  | badRequest _ => "bad_request"
  | notFound _ => "not_found"
  | unauthorized _ => "unauthorized"
  | forbidden _ => "forbidden"
  | conflict _ => "conflict"
  | tooManyRequests .. => "rate_limited"
  | rejected _ code _ => code
  | internal _ => "internal_error"
  | unavailable => "service_unavailable"
  | database _ => "database_error"
  | configuration _ => "config_error"

def status : Failure → Nat
  | badRequest _ => 400
  | notFound _ => 404
  | unauthorized _ => 401
  | forbidden _ => 403
  | conflict _ => 409
  | tooManyRequests .. => 429
  | rejected status _ _ => status
  | internal _ | database _ | configuration _ => 500
  | unavailable => 503

/-- The text of a failure, for those who run the authority. -/
def message : Failure → String
  | badRequest text => "Bad request: " ++ text
  | notFound text => "Not found: " ++ text
  | unauthorized text => "Unauthorized: " ++ text
  | forbidden text => "Forbidden: " ++ text
  | conflict text => "Conflict: " ++ text
  | tooManyRequests text _ => "Too many requests: " ++ text
  | rejected _ _ text => text
  | internal text => "Internal server error: " ++ text
  | unavailable => "Service Unavailable"
  | database text => "Database error: " ++ text
  | configuration text => "Configuration error: " ++ text

/-- What a client is told, and perhaps details. -/
def shown : Failure → String × Option String
  | badRequest text | notFound text | unauthorized text | forbidden text | conflict text =>
    (text, none)
  | tooManyRequests text _ => (text, none)
  | rejected _ _ text => (text, none)
  | internal _ => ("Internal server error", none)
  | unavailable => ("Service unavailable", none)
  | database _ => ("Database error", none)
  | configuration text => ("Configuration error", some text)

/-- The seconds after which a client may try again. -/
def retryAfter : Failure → Option Nat
  | tooManyRequests _ retry => retry
  | _ => none

def response (f : Failure) : HttpResponse :=
  let (text, details) := f.shown
  let body := Json.obj ([("error", .str text), ("code", .str f.code)] ++
    details.toList.map fun d => ("details", .str d))
  let r := HttpResponse.ofJson f.status body
  { r with headers := r.headers ++ f.retryAfter.toList.map fun n => ("retry-after", toString n) }

end Failure

end AccountAuthority
