import AccountAuthority.Command.Basic
import AccountAuthority.Job.Queue

/-!
# Requests as commands

Every request to the repository and to the queue can be written as a command.
-/

namespace AccountAuthority.Command.Context

variable (x : Context)

/-- The session of a command, opened now. -/
def newSession (c : Json) : Reading Session := do
  pure (.create (x.fresh 0) (← x.ref c "user") (← authMethods c) (← device c)
    (x.now + span c "session_ttl") x.now)

def hashOf (c : Json) (name : String) : Reading String := do
  x.tokenHash (← text c name)

def repositoryRequest (name : String) (c : Json) : Reading RepositoryRequest := do
  let user := x.ref c "user"
  let reason := coded RevocationReason c "reason"
  match name with
  | "ping" => pure .ping
  | "create_user" => pure (.createUser (← x.newUser c) (← text c "password_hash"))
  | "find_login" => pure (.findLogin (← text c "email"))
  | "find_credentials" => pure (.findCredentials (← user))
  | "find_user" => pure (.findUser (← user))
  | "find_ext" => pure (.findExternalUser (← text c "provider") (← text c "subject"))
  | "create_ext" =>
    let u ← x.newUser c
    pure (.createExternalUser u (← x.newIdentity c u.id))
  | "link" => pure (.linkIdentity (← x.newIdentity c (← user)))
  | "store_vtoken" =>
    pure (.storeVerificationToken {
      id := x.fresh 0
      user := ← user
      purpose := ← coded TokenPurpose c "purpose"
      hash := ← x.hashOf c "hash"
      expiresAt := x.now + span c "ttl"
      createdAt := x.now })
  | "reset" => pure (.resetPassword (← x.hashOf c "hash") (← text c "new_hash") x.now)
  | "verify_email" => pure (.verifyEmail (← x.hashOf c "hash") x.now)
  | "change_password" =>
    let id ← user
    let expected ← text c "expected"
    let expected := if expected = "$current" then (x.passwordHash? id).getD "" else expected
    pure (.changePassword id expected (← text c "new_hash") (← x.ref? c "keep") x.now)
  | "create_session" =>
    let session ← x.newSession c
    let token : RefreshToken := {
      id := x.fresh 1
      session := session.id
      hash := ← x.hashOf c "hash"
      expiresAt := x.now + span c "token_ttl"
      createdAt := x.now }
    pure (.createSession session token x.now)
  | "context" => pure (.findRefreshContext (← x.hashOf c "hash"))
  | "rotate" =>
    pure (.rotate ⟨← x.hashOf c "hash", ← x.hashOf c "new_hash", span c "ttl", ← device c, x.now⟩)
  | "revoke_by_hash" => pure (.revokeByToken (← x.hashOf c "hash") (← reason) x.now)
  | "revoke" => pure (.revokeSession (← user) (← x.ref c "session") (← reason) x.now)
  | "revoke_device" => pure (.revokeDevice (← user) (← text c "device_id") (← reason) x.now)
  | "list" => pure (.listSessions (← user) x.now)
  | "push" =>
    pure (.setPushToken (← user) (← x.ref c "session") (← text c "token") (text? c "platform")
      x.now)
  | "role" => pure (.changeRole (← x.actor c) (← user) (← coded Role c "role") x.now)
  | "status" =>
    pure (.changeStatus (← x.actor c) (← user) (← coded Status c "status") (text? c "reason") x.now)
  | "request_deletion" =>
    pure (.requestDeletion (← x.actor c) (← user) (x.now + span c "in") x.now)
  | "cancel_deletion" => pure (.cancelDeletion (← x.actor c) (← user) x.now)
  | "finalize" => pure (.finalizeDeletion (← user) (text? c "trace_id") x.now)
  | "audit" => pure (.listAudit (← user))
  | _ => .error (.malformed ("unknown step repo." ++ name))

mutual

/-- A value with the references in its texts resolved. -/
def fill : Json → Reading Json
  | .str s => Json.str <$> x.job s
  | .arr items => Json.arr <$> fillItems items
  | .obj fields => Json.obj <$> fillFields fields
  | j => .ok j

def fillItems : List Json → Reading (List Json)
  | [] => .ok []
  | j :: js => do pure ((← fill j) :: (← fillItems js))

def fillFields : List (String × Json) → Reading (List (String × Json))
  | [] => .ok []
  | (name, j) :: fields => do pure ((name, ← fill j) :: (← fillFields fields))

end

def jobType (c : Json) : String :=
  (text? c "type").getD Job.deletionType

def queueRequest (name : String) (c : Json) : Reading QueueRequest := do
  let job := do x.job (← text c "job")
  match name with
  | "enqueue" =>
    let id ← (text? c "job_id").mapM x.job
    let attempts := (argument? c "max_attempts").map fun _ => int c "max_attempts" 0
    pure (.enqueue (jobType c) (← x.fill ((argument? c "payload").getD .null))
      ((argument? c "delay").map spanOf) id attempts x.now)
  | "claim" => pure (.claim (jobType c) x.now (span c "lease") (nat c "limit" 10))
  | "complete" => pure (.complete (← job) x.now)
  | "reschedule" => pure (.reschedule (← job) (x.now + span c "in") x.now)
  | "fail" =>
    let retryAt := (argument? c "retry_in").map fun d => x.now + spanOf d
    pure (.fail (← job) (← text c "error") retryAt x.now)
  | "find" => pure (.find (← job))
  | _ => .error (.malformed ("unknown step queue." ++ name))

end AccountAuthority.Command.Context
