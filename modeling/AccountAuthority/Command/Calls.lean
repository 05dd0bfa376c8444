import AccountAuthority.Command.Requests
import AccountAuthority.Service.Accounts
import AccountAuthority.Service.Credentials
import AccountAuthority.Service.Deletion

/-!
# Calls as commands

Every call of a service can be written as a command.  What it answers is a JSON value, or an error
as a record.
-/

namespace AccountAuthority

/-- An error of a service as a record, together with what a client would be told. -/
def ServiceError.record (e : ServiceError) : Json :=
  let f := e.toFailure
  let retry := f.retryAfter.toList.map fun n => ("retry_after_secs", .int n)
  .obj ([("error", .str e.code), ("message", .str e.message), ("http", .int f.status),
    ("app_code", .str f.code)] ++ retry)

namespace AccessClaims

/-- A part of a signed token. -/
def part (token : String) (i : Nat) : Json :=
  match (Text.splitOn '.' token.toList)[i]? with
  | some p => (Jwt.decodePart p).toOption.getD .null
  | none => .null

/-- The claims in a token that do not depend on when it was signed, and its lifetime. -/
def timeless (token : String) : List (String × Json) × Json :=
  let claims := part token 1
  (["sub", "sid", "email_verified", "roles", "iss"].map fun name =>
      (name, (claims.get? name).getD .null),
    .int (Command.int claims "exp" 0 - Command.int claims "iat" 0))

end AccessClaims

/-- What a client is given, with the claims in the access token in its place. -/
def Grant.toJson (g : Grant) : Json :=
  let (claims, lifetime) := AccessClaims.timeless g.accessToken
  .obj [
    ("user", .obj g.user.fields),
    ("session", g.session.toJson),
    ("refresh_token", .str g.refreshToken),
    ("refresh_token_len", .int g.refreshToken.length),
    ("token_type", .str g.tokenType),
    ("expires_in", .int g.expiresIn),
    ("access", .obj (claims ++ [("lifetime", lifetime)]))]

def DeletionResult.toJson : DeletionResult → Json
  | completed outcome => .obj [("completed", outcome.toJson)]
  | rescheduled runAt => .obj [("rescheduled", runAt.toJson)]
  | failed cause => .obj [("failed", .str cause.chain)]

namespace Command

/-- A command that can be run. -/
abbrev Runnable := Program Backend (Except Json Json)

/-- A call of a service whose value is shown by `render`. -/
def call {α : Type} (p : Service α) (render : α → Json) : Runnable := do
  match ← p.run with
  | .ok a => pure (.ok (render a))
  | .error e => pure (.error e.record)

def callUnit (p : Service Unit) : Runnable :=
  call p fun _ => .null

def askRepository (r : RepositoryRequest) : Runnable := do
  match ← Service.ask (.repository r) with
  | .ok a => pure (.ok (r.report a))
  | .error e => pure (.error (errorRecord e.kind e.message))

def leaseRecord (j : Job) : Json :=
  .obj [("job", .str j.id), ("attempts", .int j.attempts), ("run_at_utc", j.runAt.toJson)]

/-- What an operation of the queue answered; `leased` shows claimed jobs, and `job` those that were
looked up. -/
def queueReport (leased job : Job → Json) (r : QueueRequest) (a : r.Answer) : Json :=
  match r, a with
  | .enqueue .., id => .str id
  | .claim .., jobs => .arr (jobs.map leased)
  | .complete .., _ | .reschedule .., _ => .null
  | .fail .., state => .str (code state)
  | .find _, j => .ofOption job j

def askQueue (r : QueueRequest) : Runnable := do
  match ← Service.ask (.queue r) with
  | .ok a => pure (.ok (queueReport leaseRecord (fun j => .obj j.fields) r a))
  | .error e => pure (.error (errorRecord e.kind e.message))

/-- A change of role or status; the command says whether its outcome is wanted as a user. -/
def lifecycle (c : Json) (p : Service LifecycleOutcome) : Runnable :=
  if flag c "into_user" false then
    call (do liftExcept (← p).toUser) fun u => .obj u.view.fields
  else call p LifecycleOutcome.toJson
where
  liftExcept (r : Except ServiceError User) : Service User :=
    match r with
    | .ok u => pure u
    | .error e => throw e

namespace Context

variable (x : Context) (s : ServiceSettings) (w : WorkerSettings)

/-- The call that a command writes. -/
def runnable (name : String) (c : Json) : Reading Runnable := do
  let user := x.ref c "user"
  let session := x.ref c "session"
  let token := do x.token (← text c "token")
  let idToken := (text? c "id_token").getD ""
  match name with
  | "register" =>
    pure (call (Service.register s (← text c "email") (← text c "password")
      (text? c "display_name") (← device c)) Grant.toJson)
  | "login" =>
    pure (call (Service.login s (← text c "email") (← text c "password") (← device c)) Grant.toJson)
  | "exchange_oidc" =>
    pure (call (Service.exchangeIdToken s (← text c "provider") idToken (← device c)) Grant.toJson)
  | "connect_oidc" =>
    pure (callUnit (Service.connectIdentity (← user) (← text c "provider") idToken))
  | "change_password" =>
    pure (call (Service.changePassword s (← user) (← x.ref? c "session") (← text c "current")
      (← text c "new")) fun n => .int n)
  | "request_reset" => pure (callUnit (Service.requestReset s (← text c "email")))
  | "confirm_reset" => pure (callUnit (Service.confirmReset s (← token) (← text c "password")))
  | "verify_email" => pure (call (Service.verifyEmail s (← token)) Uuid.toJson)
  | "issue" =>
    match x.user? (← user) with
    | none => .error (.unknownReference "no such user")
    | some u => pure (call (Service.issue s u (← authMethods c) (← device c)) Grant.toJson)
  | "refresh" => pure (call (Service.refresh s (← token) (← device c)) Grant.toJson)
  | "logout" => pure (callUnit (Service.logout s (← token)))
  | "revoke_session" => pure (callUnit (Service.revokeSession (← user) (← session)))
  | "push" =>
    pure (callUnit (Service.registerPushToken (← user) (← session) (← text c "token")
      (text? c "platform")))
  | "revoke_device" => pure (call (Service.revokeDevice (← user) (← text c "device_id")) .bool)
  | "list_sessions" =>
    pure (call (Service.listSessions (← user) (← x.ref? c "current")) fun infos =>
      .arr (infos.map fun i => .obj i.fields))
  | "change_role" =>
    pure (lifecycle c (Service.changeRole (← x.actor c) (← user) (← coded Role c "role")))
  | "change_status" =>
    pure (lifecycle c (Service.changeStatus (← x.actor c) (← user) (← coded Status c "status")
      (text? c "reason")))
  | "request_deletion" =>
    pure (call (Service.requestDeletion s (← x.actor c) (← user)) DeletionRequestOutcome.toJson)
  | "cancel_deletion" =>
    pure (call (Service.cancelDeletion (← x.actor c) (← user)) DeletionCancelOutcome.toJson)
  | "audit" =>
    pure (call (Service.auditTrail (← user)) fun events => .arr (events.map fun e => .obj e.fields))
  | "finalize" =>
    let payload : DeletionPayload := ⟨← user, (time? c "scheduled_for").getD x.now⟩
    let p := Service.finalize s.blockedRetry payload (text? c "trace_id")
    pure (do pure (.ok (← p).toJson))
  | "poll" =>
    pure (do
      match ← Worker.poll w with
      | .ok summary => pure (.ok (.obj summary.fields))
      | .error e => pure (.error (errorRecord e.kind e.message)))
  | "worker_run" =>
    let polls := nat c "polls" 0
    pure (do
      Worker.run w polls
      pure (.ok (.obj [("polls", .int polls)])))
  | _ =>
    match name.toList with
    | 'r' :: 'e' :: 'p' :: 'o' :: '.' :: rest =>
      pure (askRepository (← x.repositoryRequest (String.ofList rest) c))
    | 'q' :: 'u' :: 'e' :: 'u' :: 'e' :: '.' :: rest =>
      pure (askQueue (← x.queueRequest (String.ofList rest) c))
    | _ => .error (.malformed ("unknown step " ++ name))

end Context

end Command

end AccountAuthority
