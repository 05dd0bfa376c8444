import AccountAuthority.Database.Request

/-!
# A scripted database

A server that knows no statements.  It answers them with prepared replies in their order, lets
control statements succeed unless it has been told otherwise, and notes down what it is sent.
-/

namespace AccountAuthority

/-- What a server was sent. -/
inductive Sent (S : Type) where
  | statement (s : S)
  | control (c : TransactionControl)

namespace Sent

def toJson {S : Type} [SqlStatement S] : Sent S → Json
  | statement s => SqlStatement.toJson s
  | control c => .str c.sql

/-- Whether a control statement of a kind was sent. -/
def isControl {S : Type} (c : TransactionControl) : Sent S → Bool
  | control d => c = d
  | statement _ => false

end Sent

/-- A control statement that fails: the one of its kind with the given place, counted from 1. -/
structure ControlFailure where
  control : TransactionControl
  place : Nat
  error : DatabaseError

/-- A server with prepared replies. -/
structure ScriptedServer (S : Type) where
  replies : List (Except DatabaseError Reply)
  failures : List ControlFailure := []
  /-- What it was sent, the first one first. -/
  sent : List (Sent S) := []
  /-- The identifiers that it gives out. -/
  ids : Nat → Uuid
  drawn : Nat := 0

namespace ScriptedServer

variable {S : Type}

/-- The error of a server that has run out of replies. -/
def exhausted : DatabaseError :=
  .server { state := some "XX000", message := "script exhausted" }

/-- The number of control statements of a kind that were sent. -/
def controls (server : ScriptedServer S) (c : TransactionControl) : Nat :=
  server.sent.countP (Sent.isControl c)

/-- Note down what was sent. -/
def note (server : ScriptedServer S) (s : Sent S) : ScriptedServer S :=
  { server with sent := server.sent ++ [s] }

def answer (r : DatabaseRequest S) (server : ScriptedServer S) : r.Answer × ScriptedServer S :=
  match r with
  | .execute s =>
    let server := server.note (.statement s)
    match server.replies with
    | [] => (.error exhausted, server)
    | reply :: replies => (reply, { server with replies })
  | .control c =>
    let server := server.note (.control c)
    let place := server.controls c
    match server.failures.find? fun f => f.control = c && f.place = place with
    | some f => (.error f.error, server)
    | none => (.ok (), server)
  | .freshId => (server.ids server.drawn, { server with drawn := server.drawn + 1 })
  | .jitter => (0, server)
  | .pause _ => ((), server)
  | .elapsed => (0, server)

end ScriptedServer

end AccountAuthority
