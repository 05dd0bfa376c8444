/-!
# Closed sets of codes

Roles, states and reasons are stored and shown as codes.  A coded type lists its values and gives
each of them a code; reading accepts exactly these codes.
-/

namespace AccountAuthority

/-- A finite type whose values have codes; `noun` names the type in messages. -/
class Coded (α : Type) where
  values : List α
  code : α → String
  noun : String

export Coded (code)

namespace Coded

variable {α : Type} [Coded α]

def ofCode? (s : String) : Option α :=
  (values (α := α)).find? fun a => code a == s

/-- What is said of a text that is not a code of the type. -/
def invalidMessage (α : Type) [Coded α] (s : String) : String :=
  "Invalid " ++ noun α ++ ": " ++ s

/-- The value with the given code, or a message. -/
def read (s : String) : Except String α :=
  match ofCode? s with
  | some a => .ok a
  | none => .error (invalidMessage α s)

end Coded

end AccountAuthority
