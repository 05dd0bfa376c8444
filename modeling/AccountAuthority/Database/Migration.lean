import AccountAuthority.Crypto.Crc32
import AccountAuthority.Crypto.Sha2
import AccountAuthority.Database.Transaction

/-!
# Migrations

A migration is a script that changes the schema, and a table of the database records which ones
have been applied.  Only one run at a time gets past the lock.  A run refuses to go on when the
record does not fit the migrations it knows: when one was left half done, is not known, or is no
longer the same script.
-/

namespace AccountAuthority

/-- A change of the schema. -/
structure Migration where
  version : Int
  description : String
  sql : String
  deriving DecidableEq, Repr

/-- What is recorded of a script. -/
def Migration.checksum (m : Migration) : Bytes :=
  sha384 (Bytes.ofString m.sql)

/-- The statements of a run. -/
inductive MigrationStatement where
  | currentDatabase
  | lock (key : Int)
  | unlock (key : Int)
  /-- Create the table of the record, if it is not there. -/
  | createTable
  /-- The first migration that was left half done. -/
  | selectDirty
  | selectApplied
  | script (sql : String)
  | record (m : Migration)
  | setDuration (version nanos : Int)
  deriving Repr

namespace MigrationStatement

/-- The table of the record. -/
def table : String := "_sqlx_migrations"

def sql : MigrationStatement → String
  | currentDatabase => "SELECT current_database()"
  | lock _ => "SELECT pg_advisory_lock($1)"
  | unlock _ => "SELECT pg_advisory_unlock($1)"
  | createTable =>
    "CREATE TABLE IF NOT EXISTS " ++ table ++ " ( version BIGINT PRIMARY KEY, " ++
      "description TEXT NOT NULL, installed_on TIMESTAMPTZ NOT NULL DEFAULT now(), " ++
      "success BOOLEAN NOT NULL, checksum BYTEA NOT NULL, execution_time BIGINT NOT NULL );"
  | selectDirty =>
    "SELECT version FROM " ++ table ++ " WHERE success = false ORDER BY version LIMIT 1"
  | selectApplied => "SELECT version, checksum FROM " ++ table ++ " ORDER BY version"
  | script sql => sql
  | record _ =>
    "INSERT INTO " ++ table ++ " ( version, description, success, checksum, execution_time ) " ++
      "VALUES ( $1, $2, TRUE, $3, -1 )"
  | setDuration .. => "UPDATE " ++ table ++ " SET execution_time = $1 WHERE version = $2"

def parameters : MigrationStatement → List SqlValue
  | currentDatabase | createTable | selectDirty | selectApplied | script _ => []
  | lock key | unlock key => [toSql key]
  | record m => [toSql m.version, toSql m.description, toSql m.checksum]
  | setDuration version nanos => [toSql nanos, toSql version]

end MigrationStatement

instance : SqlStatement MigrationStatement where
  sql := MigrationStatement.sql
  parameters := MigrationStatement.parameters

/-- Why a run of the migrations failed. -/
inductive MigrationError where
  | database (cause : DatabaseError)
  | script (version : Int) (cause : DatabaseError)
  | dirty (version : Int)
  | unknown (version : Int)
  | modified (version : Int)
  deriving DecidableEq, Repr

namespace MigrationError

def message : MigrationError → String
  | database cause => "while executing migrations: " ++ cause.message
  | script version cause =>
    "while executing migration " ++ toString version ++ ": " ++ cause.message
  | dirty version =>
    "migration " ++ toString version ++
      " is partially applied; fix and remove row from \x60" ++ MigrationStatement.table ++
      "\x60 table"
  | unknown version =>
    "migration " ++ toString version ++
      " was previously applied but is missing in the resolved migrations"
  | modified version =>
    "migration " ++ toString version ++ " was previously applied but has been modified"

end MigrationError

instance : OfDatabase MigrationError := ⟨.database⟩

/-- A run of migrations, or a part of one. -/
abbrev Migrating (α : Type) := Sql MigrationStatement MigrationError α

namespace Migrating

/-- Send a statement for what it does. -/
def send (s : MigrationStatement) : Migrating Unit := do
  let _ ← Sql.execute s

/-- The key of the lock on the schema of a database. -/
def lockKey (database : String) : Int :=
  0x3d32ad9e * ((crc32 (Bytes.ofString database)).toNat : Int)

/-- The key of the lock on the schema of the current database. -/
def currentLockKey : Migrating Int := do
  lockKey <$> Sql.fetchOne .currentDatabase Row.first

/-- A row of the record: a version and its checksum. -/
def readApplied (r : Row) : Except DatabaseError (Int × Bytes) := do
  pure (← r.get "version", ← r.get "checksum")

/-- Run the script of a migration and record that. -/
def apply (m : Migration) : Migrating Unit := do
  let start ← Sql.elapsed
  Sql.transaction do
    match ← ExceptT.lift (Sql.ask (.execute (.script m.sql))) with
    | .error e => throw (.script m.version e)
    | .ok _ => send (.record m)
  send (.setDuration m.version ((← Sql.elapsed) - start))

/-- Apply the migrations that are not in the record, and check those that are. -/
def applyMissing (applied : List (Int × Bytes)) : List Migration → Migrating Unit
  | [] => pure ()
  | m :: ms => do
    match applied.lookup m.version with
    | some checksum => if checksum = m.checksum then pure () else throw (.modified m.version)
    | none => apply m
    applyMissing applied ms

def run (migrations : List Migration) : Migrating Unit := do
  send (.lock (← currentLockKey))
  send .createTable
  match ← Sql.fetchOptional .selectDirty Row.first with
  | some version => throw (.dirty version)
  | none => pure ()
  let applied ← Sql.fetchAll .selectApplied readApplied
  match applied.find? fun a => !(migrations.map Migration.version).contains a.1 with
  | some a => throw (.unknown a.1)
  | none => pure ()
  applyMissing applied.reverse migrations
  send (.unlock (← currentLockKey))

end Migrating

end AccountAuthority
