/-!
# Punycode

The ASCII form of a label of an international domain name: its ASCII characters, and after a
hyphen the places and values of the others as numbers of variable length.
-/

namespace AccountAuthority.Text.Punycode

/-- The bias of the next number: how far the thresholds of its digits are shifted. -/
def adapt (delta points : Nat) (first : Bool) : Nat :=
  let delta := if first then delta / 700 else delta / 2
  reduce 12 (delta + delta / points) 0
where
  /-- Divide until the value is small, counting 36 for every division. -/
  reduce : Nat → Nat → Nat → Nat
    | 0, d, k => k + 36 * d / (d + 38)
    | fuel + 1, d, k => if d > 455 then reduce fuel (d / 35) (k + 36) else k + 36 * d / (d + 38)

/-- The threshold of the digit at place `k`. -/
def threshold (bias k : Nat) : Nat :=
  if k ≤ bias then 1 else if bias + 26 ≤ k then 26 else k - bias

/-- The character of a digit below 36. -/
def digitChar (d : Nat) : Char :=
  if d < 26 then Char.ofNat ('a'.toNat + d) else Char.ofNat ('0'.toNat + d - 26)

def digit? (c : Char) : Option Nat :=
  if 'a' ≤ c ∧ c ≤ 'z' then some (c.toNat - 'a'.toNat)
  else if 'A' ≤ c ∧ c ≤ 'Z' then some (c.toNat - 'A'.toNat)
  else if '0' ≤ c ∧ c ≤ '9' then some (c.toNat - '0'.toNat + 26)
  else none

/-- The digits of one number. -/
def writeNumber (bias : Nat) : Nat → Nat → Nat → List Char
  | 0, _, q => [digitChar q]
  | fuel + 1, k, q =>
    let t := threshold bias k
    if q < t then [digitChar q]
    else digitChar (t + (q - t) % (36 - t)) :: writeNumber bias fuel (k + 36) ((q - t) / (36 - t))

/-- What is carried from one inserted character to the next. -/
structure State where
  point : Nat := 128
  delta : Nat := 0
  bias : Nat := 72
  handled : Nat

/-- Write the places of all characters equal to `m`, in the order of the label. -/
def writePoint (basic : Nat) (label : List Nat) (m : Nat) (s : State) : List Char × State :=
  let s := { s with delta := s.delta + (m - s.point) * (s.handled + 1), point := m }
  let (out, s) := label.foldl (fun (out, s) c =>
    if c < m then (out, { s with delta := s.delta + 1 })
    else if c = m then
      (out ++ writeNumber s.bias 32 36 s.delta,
        { s with bias := adapt s.delta (s.handled + 1) (s.handled = basic),
                 delta := 0, handled := s.handled + 1 })
    else (out, s)) (([] : List Char), s)
  (out, { s with delta := s.delta + 1, point := m + 1 })

/-- The ASCII form of a label. -/
def encode (label : List Char) : List Char :=
  let basic := label.filter fun c => c.toNat < 128
  let points := (label.map Char.toNat).filter (128 ≤ ·)
  let sorted := (points.mergeSort (· ≤ ·)).eraseDups
  let start : State := { handled := basic.length }
  let (out, _) := sorted.foldl (fun (out, s) m =>
    let (more, s) := writePoint basic.length (label.map Char.toNat) m s
    (out ++ more, s)) (([] : List Char), start)
  basic ++ (if basic.isEmpty then [] else ['-']) ++ out

/-- The next number, added to `i`, and what follows it. -/
def readNumber? (bias : Nat) : Nat → Nat → Nat → List Char → Option (Nat × List Char)
  | _, _, _, [] => none
  | k, weight, i, c :: rest => do
    let d ← digit? c
    let i := i + d * weight
    let t := threshold bias k
    if 4294967295 < i then none
    else if d < t then some (i, rest)
    else readNumber? bias (k + 36) (weight * (36 - t)) i rest

/-- Insert the characters that the digits describe. -/
def insertAll? : Nat → Nat → Nat → Nat → Bool → List Char → List Char → Option (List Char)
  | 0, _, _, _, _, _, _ => none
  | fuel + 1, point, i, bias, first, out, digits =>
    if digits.isEmpty then some out
    else do
      let (i', rest) ← readNumber? bias 36 1 i digits
      let size := out.length + 1
      let point := point + i' / size
      let place := i' % size
      if point < 0x110000 ∧ ¬(0xd800 ≤ point ∧ point < 0xe000) then
        insertAll? fuel point (place + 1) (adapt (i' - i) size first) false
          (out.take place ++ Char.ofNat point :: out.drop place) rest
      else none

/-- The label whose ASCII form is given. -/
def decode? (form : List Char) : Option (List Char) :=
  let tail := (form.reverse.takeWhile (· ≠ '-')).reverse
  let basic := form.take (form.length - tail.length - 1)
  let digits := if tail.length = form.length then form else tail
  if basic.all fun c => c.toNat < 128 then
    insertAll? (digits.length + 1) 128 0 72 true basic digits
  else none

end AccountAuthority.Text.Punycode
