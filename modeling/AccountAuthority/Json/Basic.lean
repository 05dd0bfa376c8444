/-!
# JSON values

Objects keep their fields in the order in which they were written, repeated names included, so
that a reader can decide what a repetition means.  A number is an integer when it was written
with neither a fraction nor an exponent, and a decimal otherwise; `-0` is a decimal.
-/

namespace AccountAuthority

inductive Json where
  | null
  | bool (b : Bool)
  | int (n : Int)
  /-- The number `mantissa * 10 ^ exponent`. -/
  | decimal (mantissa exponent : Int)
  | str (s : String)
  | arr (items : List Json)
  | obj (fields : List (String × Json))
  deriving Inhabited, Repr, BEq

namespace Json

def text? : Json → Option String
  | str s => some s
  | _ => none

def bool? : Json → Option Bool
  | bool b => some b
  | _ => none

/-- The value as an integer between two bounds. -/
def intBetween? (lo hi : Int) : Json → Option Int
  | int n => if lo ≤ n ∧ n ≤ hi then some n else none
  | _ => none

def int64? : Json → Option Int :=
  intBetween? (-0x8000000000000000) 0x7fffffffffffffff

/-- An absent value or `null` is `none`; any other value has to be read by `f`. -/
def optional? {α : Type} (f : Json → Option α) : Option Json → Option (Option α)
  | none | some null => some none
  | some j => (f j).map some

/-- The last field of an object with the given name. -/
def get? (j : Json) (name : String) : Option Json :=
  match j with
  | obj fields => (fields.reverse.find? fun f => f.1 == name).map (·.2)
  | _ => none

/-- The members of a record: of an object, the fields with the given names, none of which may
be repeated; of an array, its items in the order of the names, as many as there are names. -/
def members? (names : List String) : Json → Option (List (Option Json))
  | arr items => if items.length = names.length then some (items.map some) else none
  | obj fields =>
    names.mapM fun name =>
      match fields.filter fun f => f.1 == name with
      | [] => some none
      | [f] => some (some f.2)
      | _ => none
  | _ => none

def ofText? : Option String → Json
  | some s => str s
  | none => null

end Json

end AccountAuthority
