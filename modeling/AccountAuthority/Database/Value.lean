import AccountAuthority.Crypto.Bytes
import AccountAuthority.Database.Error
import AccountAuthority.Time.Rfc3339
import AccountAuthority.Uuid

/-!
# Values, rows and replies

What goes to a database and comes back.  A reader of a row asks for its columns by name, one after
another; the first column that cannot be read is the one that is complained about.
-/

namespace AccountAuthority

/-- A value of a parameter or a column. -/
inductive SqlValue where
  | null
  | uuid (id : Uuid)
  | text (s : String)
  | time (t : Instant)
  | int (n : Int)
  | json (j : Json)
  | bytes (b : Bytes)
  | uuids (ids : List Uuid)
  /-- An array of texts, in which there may be nulls. -/
  | texts (items : List (Option String))
  deriving Repr

namespace SqlValue

def toJson : SqlValue → Json
  | null => .null
  | uuid id => id.toJson
  | text s => .str s
  | time t => t.toJson
  | int n => .int n
  | json j => j
  | bytes b => .str (Bytes.toHex b)
  | uuids ids => .arr (ids.map Uuid.toJson)
  | texts items => .arr (items.map .ofText?)

end SqlValue

/-- A type of values that columns can hold. -/
class SqlType (α : Type) where
  toSql : α → SqlValue
  ofSql : Column → SqlValue → Except DatabaseError α

export SqlType (toSql)

namespace SqlType

/-- What is wrong with a value of another type. -/
def mismatch {α : Type} (column : Column) : SqlValue → Except DatabaseError α
  | .null => .error (.unexpectedNull column)
  | _ => .error (.mismatchedType column)

instance : SqlType Uuid where
  toSql := .uuid
  ofSql
    | _, .uuid id => .ok id
    | c, v => mismatch c v

instance : SqlType String where
  toSql := .text
  ofSql
    | _, .text s => .ok s
    | c, v => mismatch c v

/-- Instants are kept in whole microseconds. -/
instance : SqlType Instant where
  toSql t := .time t.toMicroseconds
  ofSql
    | _, .time t => .ok t
    | c, v => mismatch c v

instance : SqlType Int where
  toSql := .int
  ofSql
    | _, .int n => .ok n
    | c, v => mismatch c v

instance : SqlType Json where
  toSql := .json
  ofSql
    | _, .json j => .ok j
    | c, v => mismatch c v

instance : SqlType Bytes where
  toSql := .bytes
  ofSql
    | _, .bytes b => .ok b
    | c, v => mismatch c v

instance : SqlType (List Uuid) where
  toSql := .uuids
  ofSql
    | _, .uuids ids => .ok ids
    | c, v => mismatch c v

instance : SqlType (List String) where
  toSql items := .texts (items.map some)
  ofSql
    | c, .texts items =>
      match items.mapM id with
      | some items => .ok items
      | none => .error (.unexpectedNull c)
    | c, v => mismatch c v

instance {α : Type} [SqlType α] : SqlType (Option α) where
  toSql
    | some a => toSql a
    | none => .null
  ofSql
    | _, .null => .ok none
    | c, v => some <$> ofSql c v

end SqlType

/-- The columns of a row with their names. -/
abbrev Row := List (String × SqlValue)

namespace Row

variable {α : Type} [SqlType α]

def get (row : Row) (name : String) : Except DatabaseError α :=
  match row.lookup name with
  | some v => SqlType.ofSql (.named name) v
  | none => .error (.columnNotFound name)

def first (row : Row) : Except DatabaseError α :=
  match row with
  | (_, v) :: _ => SqlType.ofSql (.numbered 0) v
  | [] => .error (.columnOutOfRange 0 0)

end Row

/-- What a database answers a statement with. -/
structure Reply where
  rows : List Row := []
  /-- How many rows were written. -/
  affected : Nat := 0
  deriving Repr

end AccountAuthority
