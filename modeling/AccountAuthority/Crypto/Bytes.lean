import AccountAuthority.Json.Printer

/-!
# Bytes

Lists of bytes as numbers, as hexadecimal text and as the encoding of a text.
-/

namespace AccountAuthority

abbrev Bytes := List UInt8

namespace Bytes

def ofString (s : String) : Bytes :=
  s.toUTF8.toList

/-- The text that the bytes encode, if they encode one. -/
def toString? (bs : Bytes) : Option String :=
  String.fromUTF8? (ByteArray.mk bs.toArray)

/-- The number written by the bytes, the first byte the most significant. -/
def toNat (bs : Bytes) : Nat :=
  bs.foldl (fun n b => n * 256 + b.toNat) 0

/-- The last `length` bytes of a number, the most significant first. -/
def ofNat : (length n : Nat) → Bytes
  | 0, _ => []
  | length + 1, n => ofNat length (n / 256) ++ [(n % 256).toUInt8]

/-- The number written by the bytes, the first byte the least significant. -/
def toNatLE : Bytes → Nat
  | [] => 0
  | b :: bs => b.toNat + 256 * toNatLE bs

/-- The last `length` bytes of a number, the least significant first. -/
def ofNatLE : (length n : Nat) → Bytes
  | 0, _ => []
  | length + 1, n => (n % 256).toUInt8 :: ofNatLE length (n / 256)

/-- The fewest bytes of a number, the most significant first; none for zero. -/
def ofNatShortest (n : Nat) : Bytes :=
  ofNat ((n.log2 + 8) / 8 * (if n = 0 then 0 else 1)) n

/-- Two lowercase hexadecimal digits for each byte. -/
def toHex (bs : Bytes) : String :=
  String.ofList (bs.flatMap fun b => [Json.hexChar (b.toNat / 16), Json.hexChar (b.toNat % 16)])

/-- Consecutive chunks of `size` elements; the last may be shorter. -/
def chunks {α : Type} (size : Nat) (xs : List α) : List (List α) :=
  if h : 0 < size ∧ xs ≠ [] then
    have : xs.length - size < xs.length :=
      Nat.sub_lt (List.length_pos_iff.2 h.2) h.1
    xs.take size :: chunks size (xs.drop size)
  else []
termination_by xs.length
decreasing_by simpa only [List.length_drop] using this

end Bytes

end AccountAuthority
