import AccountAuthority.Repository.Report

/-!
# Commands

A command is a JSON record that asks the authority to do something.  This module holds the reading
of its arguments; an argument that is `null` counts as missing.  Records are named in commands by
references, which a context resolves.
-/

namespace AccountAuthority

/-- Why a command cannot be carried out as it is written. -/
inductive CommandError where
  | malformed (text : String)
  /-- Nothing goes by the name of the reference. -/
  | unknownReference (reference : String)
  deriving DecidableEq, Repr

namespace CommandError

def kind : CommandError → String
  | malformed _ => "bad_request"
  | unknownReference _ => "bad_ref"

def message : CommandError → String
  | malformed text => text
  | unknownReference reference => reference

end CommandError

def errorRecord (kind message : String) : Json :=
  .obj [("error", .str kind), ("message", .str message)]

namespace Command

/-- What can be read from a command, or why it cannot. -/
abbrev Reading := Except CommandError

def argument? (c : Json) (name : String) : Option Json :=
  match c.get? name with
  | some .null => none
  | x => x

def text? (c : Json) (name : String) : Option String :=
  (argument? c name).bind Json.text?

/-- A text among the arguments, which may not be missing. -/
def text (c : Json) (name : String) : Reading String :=
  match text? c name with
  | some s => .ok s
  | none => .error (.malformed ("missing text " ++ name))

/-- An integer among the arguments, or a default. -/
def int (c : Json) (name : String) (default : Int) : Int :=
  match argument? c name with
  | some (.int n) => n
  | _ => default

def nat (c : Json) (name : String) (default : Nat) : Nat :=
  (int c name default).toNat

def flag (c : Json) (name : String) (default : Bool) : Bool :=
  ((argument? c name).bind Json.bool?).getD default

/-- A list among the arguments; a missing one is empty. -/
def items (c : Json) (name : String) : List Json :=
  match argument? c name with
  | some (.arr xs) => xs
  | _ => []

/-- The span that a record of days, hours, minutes, seconds, milliseconds and microseconds adds up
to. -/
def spanOf (c : Json) : Span :=
  .days (int c "days" 0) + .hours (int c "hours" 0) + .minutes (int c "minutes" 0) +
    .seconds (int c "seconds" 0) + .millis (int c "ms" 0) + .micros (int c "us" 0)

/-- A span among the arguments; a missing one has no length. -/
def span (c : Json) (name : String) : Span :=
  spanOf ((argument? c name).getD .null)

def time? (c : Json) (name : String) : Option Instant :=
  (text? c name).bind Instant.parse?

/-- A value of a coded type among the arguments, which may not be missing. -/
def coded (α : Type) [Coded α] (c : Json) (name : String) : Reading α := do
  match Coded.ofCode? (← text c name) with
  | some a => .ok a
  | none => .error (.malformed (Coded.invalidMessage α (← text c name)))

def coded? (α : Type) [Coded α] (c : Json) (name : String) : Reading (Option α) :=
  if (argument? c name).isSome then some <$> coded α c name else .ok none

/-- The device of a command: the name of one, or a record. -/
def device (c : Json) : Reading Device :=
  match argument? c "device" with
  | none => .ok {}
  | some (.str id) => .ok { id := some id }
  | some d =>
    match Device.ofJson? d with
    | some d => .ok d
    | none => .error (.malformed "not a device")

/-- How the references of a command are resolved, and what it is told apart from its arguments. -/
structure Context where
  now : Instant
  id : String → Reading Uuid
  tokenHash : String → Reading String
  token : String → Reading String
  job : String → Reading String
  user? : UserId → Option User
  passwordHash? : UserId → Option String
  /-- Identifiers for the records that the command makes. -/
  fresh : Nat → Uuid

namespace Context

variable (x : Context)

/-- A reference among the arguments, which may not be missing. -/
def ref (c : Json) (name : String) : Reading Uuid := do
  x.id (← text c name)

def ref? (c : Json) (name : String) : Reading (Option Uuid) :=
  match text? c name with
  | some s => some <$> x.id s
  | none => .ok none

/-- Who acts: nobody, a user, or a user out of a session. -/
def actor (c : Json) : Reading Actor := do
  match argument? c "actor" with
  | none => pure {}
  | some (.str s) => pure { user := some (← x.id s) }
  | some a => pure ⟨← x.ref? a "user", ← x.ref? a "session", text? a "trace"⟩

/-- A user with those fields changed that the command names. -/
def patch (c : Json) (u : User) : Reading User := do
  pure { u with
    email := (text? c "set_email").getD u.email
    displayName := (text? c "display_name").or u.displayName
    avatarUrl := (text? c "avatar_url").or u.avatarUrl
    role := (← coded? Role c "role").getD u.role
    status := (← coded? Status c "status").getD u.status
    emailVerifiedAt := (time? c "email_verified_utc").or u.emailVerifiedAt
    deletionScheduledFor := (time? c "deletion_scheduled_utc").or u.deletionScheduledFor
    deletionSession := (← x.ref? c "deletion_session").or u.deletionSession
    deletionTrace := (text? c "deletion_trace_id").or u.deletionTrace }

def newUser (c : Json) : Reading User := do
  x.patch c (User.create (x.fresh 0) (← text c "email") (text? c "display_name") x.now)

def newIdentity (c : Json) (user : UserId) : Reading ExternalIdentity := do
  pure (.create (x.fresh 1) (← text c "provider") (← text c "subject") user
    (text? c "email_snapshot") x.now)

end Context

/-- The ways of proof that a command names; without any it is the password. -/
def authMethods (c : Json) : Reading (List AuthMethod) :=
  match argument? c "methods" with
  | none => .ok [.password]
  | some _ => (items c "methods").mapM fun m => coded AuthMethod (.obj [("method", m)]) "method"

end Command

end AccountAuthority
