import AccountAuthority.Crypto.Bytes

/-!
# Base64

Two alphabets that differ in their last two characters, with and without padding.  Reading is
strict: the padding is as the variant says, and the bits that no byte takes are zero.
-/

namespace AccountAuthority

/-- A way to write bytes in base 64. -/
structure Base64 where
  /-- The characters for 62 and 63. -/
  last : Char × Char
  padded : Bool

namespace Base64

/-- The usual alphabet with padding. -/
def standard : Base64 := ⟨('+', '/'), true⟩

def unpadded : Base64 := ⟨('+', '/'), false⟩

/-- The alphabet for URLs without padding. -/
def url : Base64 := ⟨('-', '_'), false⟩

/-- The character for a value below 64. -/
def charOf (v : Base64) (n : Nat) : Char :=
  if n < 26 then Char.ofNat ('A'.toNat + n)
  else if n < 52 then Char.ofNat ('a'.toNat + n - 26)
  else if n < 62 then Char.ofNat ('0'.toNat + n - 52)
  else if n = 62 then v.last.1 else v.last.2

/-- The value that a character stands for. -/
def valueOf? (v : Base64) (c : Char) : Option Nat :=
  if 'A' ≤ c ∧ c ≤ 'Z' then some (c.toNat - 'A'.toNat)
  else if 'a' ≤ c ∧ c ≤ 'z' then some (c.toNat - 'a'.toNat + 26)
  else if c.isDigit then some (c.toNat - '0'.toNat + 52)
  else if c = v.last.1 then some 62
  else if c = v.last.2 then some 63
  else none

/-- The padding after a last group of `n` characters. -/
def padding (v : Base64) (n : Nat) : List Char :=
  if v.padded then List.replicate (4 - n) '=' else []

def encodeChars (v : Base64) : Bytes → List Char
  | a :: b :: c :: rest =>
    let n := (a.toNat * 256 + b.toNat) * 256 + c.toNat
    v.charOf (n / 262144) :: v.charOf (n / 4096 % 64) :: v.charOf (n / 64 % 64) ::
      v.charOf (n % 64) :: v.encodeChars rest
  | [a, b] =>
    let n := (a.toNat * 256 + b.toNat) * 4
    [v.charOf (n / 4096), v.charOf (n / 64 % 64), v.charOf (n % 64)] ++ v.padding 3
  | [a] =>
    let n := a.toNat * 16
    [v.charOf (n / 64), v.charOf (n % 64)] ++ v.padding 2
  | [] => []

def encode (v : Base64) (bs : Bytes) : String :=
  String.ofList (v.encodeChars bs)

/-- The bytes of the values of characters, of which those of the last group may be fewer. -/
def ofValues? : List Nat → Option Bytes
  | a :: b :: c :: d :: rest => do
    let n := ((a * 64 + b) * 64 + c) * 64 + d
    let bs ← ofValues? rest
    some ((n / 65536).toUInt8 :: (n / 256 % 256).toUInt8 :: (n % 256).toUInt8 :: bs)
  | [a, b, c] =>
    if c % 4 = 0 then
      let n := ((a * 64 + b) * 64 + c) / 4
      some [(n / 256).toUInt8, (n % 256).toUInt8]
    else none
  | [a, b] => if b % 16 = 0 then some [((a * 64 + b) / 16).toUInt8] else none
  | [_] => none
  | [] => some []

/-- The bytes that characters write. -/
def decodeChars? (v : Base64) (cs : List Char) : Option Bytes := do
  let body := cs.takeWhile (· ≠ '=')
  let remainder := body.length % 4
  if cs.drop body.length = (if remainder = 0 then [] else v.padding remainder) then
    ofValues? (← body.mapM v.valueOf?)
  else none

def decode? (v : Base64) (s : String) : Option Bytes :=
  v.decodeChars? s.toList

end Base64

end AccountAuthority
