import AccountAuthority.Json.Quoted
import AccountAuthority.Job.Basic

/-!
# What a deletion job carries

The user whose account is to be deleted and the instant that was announced.  The record is read
from an object, whose other fields do not matter, or from an array of the two.
-/

namespace AccountAuthority

/-- Whose account is to be deleted, and when. -/
structure DeletionPayload where
  user : UserId
  scheduledFor : Instant
  deriving DecidableEq, Repr

namespace DeletionPayload

def toJson (p : DeletionPayload) : Json :=
  .obj [("user_id", p.user.toJson), ("scheduled_for", p.scheduledFor.toJson)]

/-- Why a JSON value is not a payload. -/
inductive ReadError where
  | notARecord (found : Json)
  | tooShort (length : Nat)
  | tooLong (length : Nat)
  | missing (field : String)
  | repeated (field : String)
  | notAnId (found : Json)
  | notATime (found : Json)
  | badId (e : Uuid.TextError)
  | badTime (e : Instant.TextError)
  deriving Repr

def ReadError.message : ReadError → String
  | notARecord found =>
    "invalid type: " ++ found.described ++ ", expected struct DeletionJobPayload"
  | tooShort length =>
    "invalid length " ++ toString length ++ ", expected struct DeletionJobPayload with 2 elements"
  | tooLong length =>
    "invalid length " ++ toString length ++ ", expected fewer elements in array"
  | missing field => "missing field \x60" ++ field ++ "\x60"
  | repeated field => "duplicate field \x60" ++ field ++ "\x60"
  | notAnId found => "invalid type: " ++ found.described ++ ", expected a formatted UUID string"
  | notATime found =>
    "invalid type: " ++ found.described ++ ", expected an RFC 3339 formatted date and time string"
  | badId e => "UUID parsing failed: " ++ e.message
  | badTime e => e.message

def readUser (j : Json) : Except ReadError UserId :=
  match j with
  | .str s => (Uuid.parse s).mapError .badId
  | _ => .error (.notAnId j)

def readTime (j : Json) : Except ReadError Instant :=
  match j with
  | .str s => (Instant.parse s).mapError .badTime
  | _ => .error (.notATime j)

/-- The only field with a name, read by `read`, or `none` if there is no such field. -/
def readField {α : Type} (name : String) (read : Json → Except ReadError α)
    (fields : List (String × Json)) : Except ReadError (Option α) :=
  match fields.filter fun f => f.1 == name with
  | [] => .ok none
  | [f] => (read f.2).map some
  | _ => .error (.repeated name)

/-- The payload that a JSON value holds.  The instant is read before the user. -/
def read (j : Json) : Except ReadError DeletionPayload := do
  match j with
  | .arr [] => .error (.tooShort 0)
  | .arr [user] => do let _ ← readUser user; .error (.tooShort 1)
  | .arr (user :: time :: rest) => do
    let user ← readUser user
    let time ← readTime time
    if rest.isEmpty then .ok ⟨user, time⟩ else .error (.tooLong (rest.length + 2))
  | .obj fields => do
    let time ← readField "scheduled_for" readTime fields
    let user ← readField "user_id" readUser fields
    match user, time with
    | some user, some time => .ok ⟨user, time⟩
    | none, _ => .error (.missing "user_id")
    | some _, none => .error (.missing "scheduled_for")
  | _ => .error (.notARecord j)

end DeletionPayload

end AccountAuthority
