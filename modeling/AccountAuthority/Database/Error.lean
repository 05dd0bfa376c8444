/-!
# Errors of a database

What can go wrong between a statement and the values of its rows.
-/

namespace AccountAuthority

/-- An error that the server answers a statement with. -/
structure ServerError where
  /-- The five characters of the SQL state. -/
  state : Option String
  message : String
  /-- The constraint that was violated. -/
  constraint : Option String := none
  /-- Whether a unique constraint was violated. -/
  isUnique : Bool := false
  deriving DecidableEq, Repr

/-- How a column of a row is asked for. -/
inductive Column where
  | named (name : String)
  /-- The column with a place, counted from 0. -/
  | numbered (place : Nat)
  deriving DecidableEq, Repr

def Column.shown : Column → String
  | named name => "\"" ++ name ++ "\""
  | numbered place => toString place

/-- Why a statement gave no values. -/
inductive DatabaseError where
  | server (e : ServerError)
  | poolTimedOut
  | rowNotFound
  | columnNotFound (name : String)
  /-- The row has only `length` columns. -/
  | columnOutOfRange (place length : Nat)
  | unexpectedNull (column : Column)
  | mismatchedType (column : Column)
  deriving DecidableEq, Repr

namespace DatabaseError

def message : DatabaseError → String
  | server e => "error returned from database: " ++ e.message
  | poolTimedOut => "pool timed out while waiting for an open connection"
  | rowNotFound => "no rows returned by a query that expected to return at least one row"
  | columnNotFound name => "no column found for name: " ++ name
  | columnOutOfRange place length =>
    "column index out of bounds: the len is " ++ toString length ++ ", but the index is " ++
      toString place
  | unexpectedNull column =>
    "error occurred while decoding column " ++ column.shown ++
      ": unexpected null; try decoding as an \x60Option\x60"
  | mismatchedType column =>
    "error occurred while decoding column " ++ column.shown ++ ": mismatched types"

end DatabaseError

end AccountAuthority
