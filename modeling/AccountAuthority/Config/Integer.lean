/-!
# Integers within bounds

An integer is written with decimal digits after an optional sign; a minus sign is read only where
there are numbers below zero.  The digits are read one by one, and the first thing that is wrong
is told: an integer that has left its bounds before a character that is no digit.
-/

namespace AccountAuthority

/-- Why a text is no integer within bounds. -/
inductive IntegerFault where
  | empty
  | invalidDigit
  | tooLarge
  | tooSmall
  deriving DecidableEq, Repr

namespace IntegerFault

def message : IntegerFault → String
  | empty => "cannot parse integer from empty string"
  | invalidDigit => "invalid digit found in string"
  | tooLarge => "number too large to fit in target type"
  | tooSmall => "number too small to fit in target type"

end IntegerFault

/-- The integers from `lo` to `hi`. -/
structure IntegerRange where
  lo : Int
  hi : Int
  deriving DecidableEq, Repr

namespace IntegerRange

def unsigned32 : IntegerRange := ⟨0, 0xffffffff⟩

def unsigned64 : IntegerRange := ⟨0, 0xffffffffffffffff⟩

def signed64 : IntegerRange := ⟨-0x8000000000000000, 0x7fffffffffffffff⟩

variable (r : IntegerRange)

def contains (n : Int) : Bool :=
  r.lo ≤ n ∧ n ≤ r.hi

/-- Read digits that go on after an integer, `sign` being 1 or -1. -/
def readDigits (sign : Int) : Int → List Char → Except IntegerFault Int
  | n, [] => .ok n
  | n, c :: rest =>
    if c.isDigit then
      let n := n * 10 + sign * (c.toNat - '0'.toNat : Nat)
      if r.hi < n then .error .tooLarge
      else if n < r.lo then .error .tooSmall
      else readDigits sign n rest
    else .error .invalidDigit

def read (s : String) : Except IntegerFault Int :=
  match s.toList with
  | [] => .error .empty
  | ['+'] | ['-'] => .error .invalidDigit
  | '+' :: rest => r.readDigits 1 0 rest
  | '-' :: rest => if r.lo < 0 then r.readDigits (-1) 0 rest else .error .invalidDigit
  | cs => r.readDigits 1 0 cs

end IntegerRange

end AccountAuthority
