import AccountAuthority.Json.Basic

/-!
# Decimals as doubles

Where a double is asked for, the digits of a decimal count as far as they make a whole number
of 64 bits.  This number is multiplied with a power of ten, or divided by one, and each of these
steps rounds, so that the result need not be the double that is nearest to the decimal.
-/

namespace AccountAuthority.Json

/-- The longest part at the start of a decimal number that 64 bits hold, and the number of digits
after it. -/
def leading (n : Nat) : Nat × Nat :=
  if n < UInt64.size then (n, 0)
  else
    let (m, dropped) := leading (n / 10)
    (m, dropped + 1)
termination_by n
decreasing_by
  have : 0 < UInt64.size := by decide
  omega

theorem leading_spec (n : Nat) :
    (leading n).1 < UInt64.size ∧ (leading n).1 = n / Nat.pow 10 (leading n).2 := by
  fun_induction leading n with
  | case1 n h => exact ⟨h, (Nat.div_one n).symm⟩
  | case2 n h m dropped hrest ih =>
    rw [hrest] at ih
    have hpow : 10 * Nat.pow 10 dropped = Nat.pow 10 (dropped + 1) := Nat.mul_comm ..
    rw [Nat.div_div_eq_div_mul, hpow] at ih
    exact ih

/-- The largest exponent of a power of ten that a double holds. -/
def largestPower : Nat := 308

def powerOfTen (n : Nat) : Float :=
  Float.ofScientific 1 false n

def timesPower? (x : Float) (n : Nat) : Option Float :=
  if x == 0 then some x
  else if largestPower < n then none
  else
    let y := x * powerOfTen n
    if y.isInf then none else some y

def overPower (x : Float) (n : Nat) : Float :=
  if n ≤ largestPower then x / powerOfTen n
  else if x == 0 then x
  else overPower (x / powerOfTen largestPower) (n - largestPower)
termination_by n
decreasing_by
  simp only [largestPower] at *
  omega

/-- The double that a decimal is read as, unless it is too large. -/
def double? (mantissa exponent : Int) : Option Float := do
  let (m, dropped) := leading mantissa.natAbs
  let x ← match exponent + dropped with
    | .ofNat n => timesPower? (Float.ofNat m) n
    | .negSucc n => some (overPower (Float.ofNat m) (n + 1))
  some (if mantissa < 0 then -x else x)

/-- The whole number nearest to a double between 0 and 2^64, halves rounded up. -/
def nearest (x : Float) : Nat :=
  let n := x.toUInt64.toNat
  if 0.5 ≤ x - Float.ofNat n then n + 1 else n

example : (double? 17672255394999999999999 (-13)).map nearest = some 1767225540 := by
  decide +kernel

end AccountAuthority.Json
