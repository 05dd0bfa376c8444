import AccountAuthority.Database.Value
import AccountAuthority.Program
import AccountAuthority.Retry

/-!
# Requests to a database

A program over a database sends statements and controls its transaction; it can also draw an
identifier or a number, and pause.  `S` is the type of the statements, whose texts and parameters
are of no concern here.
-/

namespace AccountAuthority

/-- What a statement is sent as. -/
class SqlStatement (S : Type) where
  sql : S → String
  parameters : S → List SqlValue

namespace SqlStatement

/-- A statement as JSON: its text, with its parameters if there are any. -/
def toJson {S : Type} [SqlStatement S] (statement : S) : Json :=
  match parameters statement with
  | [] => .str (sql statement)
  | params => .obj [("sql", .str (sql statement)), ("params", .arr (params.map SqlValue.toJson))]

end SqlStatement

/-- The statements that control a transaction. -/
inductive TransactionControl where
  | begin
  /-- Make the transaction serializable. -/
  | serializable
  | commit
  | rollback
  deriving DecidableEq, Repr

def TransactionControl.sql : TransactionControl → String
  | begin => "BEGIN"
  | serializable => "SET TRANSACTION ISOLATION LEVEL SERIALIZABLE"
  | commit => "COMMIT"
  | rollback => "ROLLBACK"

/-- What a program over a database can ask for. -/
inductive DatabaseRequest (S : Type) where
  | execute (statement : S)
  | control (c : TransactionControl)
  | freshId
  | jitter
  | pause (d : Span)
  /-- The nanoseconds since the program began. -/
  | elapsed

@[reducible] def DatabaseRequest.Answer {S : Type} : DatabaseRequest S → Type
  | execute _ => Except DatabaseError Reply
  | control _ => Except DatabaseError Unit
  | freshId => Uuid
  | jitter => Jitter
  | pause _ => Unit
  | elapsed => Int

/-- The interface of a database for the statements `S`. -/
@[reducible] def Database (S : Type) : Interface := ⟨DatabaseRequest S, DatabaseRequest.Answer⟩

/-- The errors that a failed statement turns into. -/
class OfDatabase (ε : Type) where
  ofDatabase : DatabaseError → ε

instance : OfDatabase DatabaseError := ⟨id⟩

/-- A program over a database that ends with a value or an error. -/
abbrev Sql (S ε α : Type) := ExceptT ε (Program (Database S)) α

namespace Sql

variable {S ε α β : Type}

def ask (r : DatabaseRequest S) : Program (Database S) r.Answer :=
  Program.request (I := Database S) r

def freshId : Sql S ε Uuid :=
  ExceptT.lift (ask .freshId)

/-- The nanoseconds since the program began. -/
def elapsed : Sql S ε Int :=
  ExceptT.lift (ask .elapsed)

/-- The value of a result. -/
def ofExcept (r : Except ε α) : Sql S ε α :=
  ExceptT.mk (pure r)

variable [OfDatabase ε]

/-- What a failed statement turns into. -/
def lift (r : Except DatabaseError α) : Sql S ε α :=
  ofExcept (r.mapError OfDatabase.ofDatabase)

def control (c : TransactionControl) : Sql S ε Unit := do
  lift (← ExceptT.lift (ask (S := S) (.control c)))

def execute (statement : S) : Sql S ε Reply := do
  lift (← ExceptT.lift (ask (.execute statement)))

/-- Send a statement, and say how many rows it has written. -/
def affected (statement : S) : Sql S ε Nat := do
  pure (← execute statement).affected

/-- Send a statement that gives rows. -/
def fetchAll (statement : S) (read : Row → Except DatabaseError α) : Sql S ε (List α) := do
  lift ((← execute statement).rows.mapM read)

/-- Send a statement that gives a row or none. -/
def fetchOptional (statement : S) (read : Row → Except DatabaseError α) :
    Sql S ε (Option α) := do
  lift ((← execute statement).rows.head?.mapM read)

/-- Send a statement that has to give a row. -/
def fetchOne (statement : S) (read : Row → Except DatabaseError α) : Sql S ε α := do
  match (← execute statement).rows with
  | row :: _ => lift (read row)
  | [] => lift (.error .rowNotFound)

end Sql

end AccountAuthority
