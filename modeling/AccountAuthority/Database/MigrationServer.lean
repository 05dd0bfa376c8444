import AccountAuthority.Database.Migration
import AccountAuthority.Database.Scripted

/-!
# A database that keeps the record of migrations

A server that answers from the record of migrations and lets every other statement succeed, unless
it has been told which ones fail.  It notes down what it is sent.
-/

namespace AccountAuthority

/-- A server with a record of migrations. -/
structure MigrationServer where
  /-- The versions that were applied, with the checksums of their scripts. -/
  applied : List (Int × Bytes)
  /-- The versions that were left half done. -/
  dirty : List Int
  /-- The error of a statement with a text, if it fails. -/
  failure? : String → Option DatabaseError
  /-- What it was sent, the first one first. -/
  sent : List (Sent MigrationStatement) := []

namespace MigrationServer

/-- A column of a row. -/
def column {α : Type} [SqlType α] (name : String) (a : α) : String × SqlValue :=
  (name, toSql a)

def rows (s : MigrationServer) : MigrationStatement → List Row
  | .currentDatabase => [[column "current_database" "authority"]]
  | .selectDirty => (s.dirty.mergeSort.take 1).map fun v => [column "version" v]
  | .selectApplied =>
    (s.applied.mergeSort fun a b => a.1 ≤ b.1).map fun a =>
      [column "version" a.1, column "checksum" a.2]
  | _ => []

/-- Note down what was sent, and answer it unless it fails. -/
def reply {α : Type} (server : MigrationServer) (s : Sent MigrationStatement) (sql : String)
    (answer : α) : Except DatabaseError α × MigrationServer :=
  let server := { server with sent := server.sent ++ [s] }
  match server.failure? sql with
  | some e => (.error e, server)
  | none => (.ok answer, server)

def answer (r : DatabaseRequest MigrationStatement) (server : MigrationServer) :
    r.Answer × MigrationServer :=
  match r with
  | .execute s => server.reply (.statement s) s.sql { rows := server.rows s }
  | .control c => server.reply (.control c) c.sql ()
  | .freshId => (.numbered 0, server)
  | .jitter => (Jitter.least, server)
  | .pause _ => ((), server)
  | .elapsed => (0, server)

end MigrationServer

end AccountAuthority
