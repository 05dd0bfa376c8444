import AccountAuthority.Service.Backend
import AccountAuthority.Text.Split

/-!
# The pages of the authority

Its health, and the keys with which its tokens can be checked.
-/

namespace AccountAuthority

/-- What the health page names. -/
structure ServiceName where
  name : String
  version : String
  deriving DecidableEq, Repr

inductive Page where
  | health
  | keySet
  deriving DecidableEq, Repr

namespace Page

def ofPath? (path : String) : Option Page :=
  match path with
  | "/health" => some .health
  | "/.well-known/jwks.json" => some .keySet
  | _ => none

def content (service : ServiceName) : Page → Program Backend HttpResponse
  | health => do
    match ← Service.ask (.repository .ping) with
    | .ok _ =>
      pure (.ofJson 200 (.obj [
        ("status", .str "healthy"),
        ("service", .str service.name),
        ("version", .str service.version),
        ("checks", .obj [("postgres", .str "up")])]))
    | .error _ => pure Failure.unavailable.response
  | keySet => do
    match ← Service.ask .publishedKeys with
    | .ok keys =>
      let r := HttpResponse.ofJson 200 (Jwt.keySetToJson keys)
      pure { r with headers := r.headers ++ [("cache-control", "public, max-age=3600")] }
    | .error text => pure (Failure.internal text).response

end Page

/-- The response to a request.  Pages can be read with `GET`, and without their body with `HEAD`. -/
def respond (service : ServiceName) (method target : String) : Program Backend HttpResponse := do
  match Page.ofPath? (String.ofList (target.toList.takeWhile (· ≠ '?'))) with
  | none => pure ⟨404, [], none⟩
  | some page =>
    if method = "GET" then page.content service
    else if method = "HEAD" then
      let r ← page.content service
      pure { r with body := none }
    else pure ⟨405, [("allow", "GET,HEAD")], none⟩

end AccountAuthority
