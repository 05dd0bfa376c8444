import AccountAuthority.Crypto.Bytes

/-!
# DER

The part of the distinguished encoding rules that keys need: sequences, numbers that are not
negative, strings of bits and of bytes, object identifiers and the null value.  An object
identifier is kept as its bytes, and so is the content of any other value.
-/

namespace AccountAuthority

/-- A value with a tag. -/
inductive Der where
  | sequence (items : List Der)
  | integer (n : Nat)
  | bits (unused : Nat) (content : Bytes)
  | octets (content : Bytes)
  | oid (content : Bytes)
  | null
  | other (tag : UInt8) (content : Bytes)
  deriving Inhabited, Repr

namespace Der

/-- A length, in the fewest bytes. -/
def encodeLength (n : Nat) : Bytes :=
  if n < 128 then [n.toUInt8]
  else
    let digits := Bytes.ofNatShortest n
    (128 + digits.length).toUInt8 :: digits

/-- A tag, a length and a content. -/
def element (tag : UInt8) (content : Bytes) : Bytes :=
  tag :: encodeLength content.length ++ content

/-- The content of a number: the fewest bytes, the first bit zero. -/
def integerContent (n : Nat) : Bytes :=
  match Bytes.ofNatShortest n with
  | [] => [0]
  | b :: bs => if b < 128 then b :: bs else 0 :: b :: bs

mutual

def encode : Der → Bytes
  | sequence items => element 0x30 (encodeAll items)
  | integer n => element 0x02 (integerContent n)
  | bits unused content => element 0x03 (unused.toUInt8 :: content)
  | octets content => element 0x04 content
  | oid content => element 0x06 content
  | null => element 0x05 []
  | other tag content => element tag content

def encodeAll : List Der → Bytes
  | [] => []
  | d :: ds => encode d ++ encodeAll ds

end

/-- A length and what follows it. -/
def length? : Bytes → Option (Nat × Bytes)
  | b :: rest =>
    if b < 128 then some (b.toNat, rest)
    else
      let count := b.toNat - 128
      let n := Bytes.toNat (rest.take count)
      if 0 < count ∧ count ≤ 8 ∧ count ≤ rest.length ∧ encodeLength n = b :: rest.take count then
        some (n, rest.drop count)
      else none
  | [] => none

/-- A tag with its content, and what follows them. -/
def element? : Bytes → Option (UInt8 × Bytes × Bytes)
  | tag :: rest => do
    let (n, rest) ← length? rest
    if n ≤ rest.length then some (tag, rest.take n, rest.drop n) else none
  | [] => none

/-- The number with a content. -/
def integer? : Bytes → Option Nat
  | [] => none
  | [b] => if b < 128 then some b.toNat else none
  | b :: c :: rest =>
    if b < 128 ∧ ¬(b = 0 ∧ c < 128) then some (Bytes.toNat (b :: c :: rest)) else none

mutual

/-- The value with a tag and a content. -/
def ofElement? : (fuel : Nat) → UInt8 → Bytes → Option Der
  | 0, _, _ => none
  | fuel + 1, tag, content =>
    if tag = 0x30 then (decodeAll? fuel content).map sequence
    else if tag = 0x02 then (integer? content).map integer
    else if tag = 0x03 then
      match content with
      | unused :: rest => some (bits unused.toNat rest)
      | [] => none
    else if tag = 0x04 then some (octets content)
    else if tag = 0x06 then some (oid content)
    else if tag = 0x05 then if content.isEmpty then some null else none
    else some (other tag content)

/-- All values that bytes write one after the other. -/
def decodeAll? : (fuel : Nat) → Bytes → Option (List Der)
  | 0, _ => none
  | fuel + 1, bs =>
    if bs.isEmpty then some []
    else do
      let (tag, content, rest) ← element? bs
      let d ← ofElement? fuel tag content
      some (d :: (← decodeAll? fuel rest))

end

def decode? (bs : Bytes) : Option (List Der) :=
  decodeAll? (2 * bs.length + 1) bs

mutual

/-- The content of the first string of bits or bytes inside of a value. -/
def firstString? : Der → Option Bytes
  | sequence items => firstStringOf? items
  | bits _ content => some content
  | octets content => some content
  | _ => none

def firstStringOf? : List Der → Option Bytes
  | [] => none
  | d :: ds => (firstString? d).or (firstStringOf? ds)

end

mutual

/-- The first of the given object identifiers inside of a value. -/
def firstOid? (known : List Bytes) : Der → Option Bytes
  | sequence items => firstOidOf? known items
  | oid content => if known.contains content then some content else none
  | _ => none

def firstOidOf? (known : List Bytes) : List Der → Option Bytes
  | [] => none
  | d :: ds => (firstOid? known d).or (firstOidOf? known ds)

end

end Der

end AccountAuthority
