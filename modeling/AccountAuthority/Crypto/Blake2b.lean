import AccountAuthority.Crypto.Sha2

/-!
# BLAKE2b

The hash over words of 64 bits without a key, for digests of up to 64 bytes.
-/

namespace AccountAuthority.Blake2b

/-- The start of the state: the first bits of the fractional parts of the square roots of the
first primes. -/
def start : Array UInt64 :=
  ((Sha2.primes.take 8).map fun p => UInt64.ofBitVec (Sha2.rootFraction 64 2 p)).toArray

/-- The order in which the words of a block are mixed in, for each of ten rounds. -/
def orders : List (Array Nat) := [
  #[0, 1, 2, 3, 4, 5, 6, 7, 8, 9, 10, 11, 12, 13, 14, 15],
  #[14, 10, 4, 8, 9, 15, 13, 6, 1, 12, 0, 2, 11, 7, 5, 3],
  #[11, 8, 12, 0, 5, 2, 15, 13, 10, 14, 3, 6, 7, 1, 9, 4],
  #[7, 9, 3, 1, 13, 12, 11, 14, 2, 6, 5, 10, 4, 0, 15, 8],
  #[9, 0, 5, 7, 2, 4, 10, 15, 14, 1, 11, 12, 6, 8, 3, 13],
  #[2, 12, 6, 10, 0, 11, 8, 3, 4, 13, 7, 5, 15, 14, 1, 9],
  #[12, 5, 1, 15, 14, 13, 4, 10, 0, 7, 6, 3, 9, 2, 8, 11],
  #[13, 11, 7, 14, 12, 1, 3, 9, 5, 0, 15, 4, 8, 6, 2, 10],
  #[6, 15, 14, 9, 11, 3, 0, 8, 12, 2, 13, 7, 1, 4, 10, 5],
  #[10, 2, 8, 4, 7, 6, 1, 5, 15, 11, 9, 14, 3, 12, 13, 0]]

/-- The places of the state that the eight mixing steps of a round work on: columns, then
diagonals. -/
def places : List (Nat × Nat × Nat × Nat) := [
  (0, 4, 8, 12), (1, 5, 9, 13), (2, 6, 10, 14), (3, 7, 11, 15),
  (0, 5, 10, 15), (1, 6, 11, 12), (2, 7, 8, 13), (3, 4, 9, 14)]

def rotateRight (x : UInt64) (n : UInt64) : UInt64 :=
  (x >>> n) ||| (x <<< (64 - n))

def word (v : Array UInt64) (i : Nat) : UInt64 :=
  v.getD i 0

/-- One mixing step: two words of the block go into four words of the state. -/
def mix (v : Array UInt64) (place : Nat × Nat × Nat × Nat) (x y : UInt64) : Array UInt64 :=
  let (i, j, k, l) := place
  let a := word v i + word v j + x
  let d := rotateRight (word v l ^^^ a) 32
  let c := word v k + d
  let b := rotateRight (word v j ^^^ c) 24
  let a := a + b + y
  let d := rotateRight (d ^^^ a) 16
  let c := c + d
  let b := rotateRight (b ^^^ c) 63
  (((v.setIfInBounds i a).setIfInBounds j b).setIfInBounds k c).setIfInBounds l d

/-- One round: eight mixing steps. -/
def round (block v : Array UInt64) (order : Array Nat) : Array UInt64 :=
  places.zipIdx.foldl (fun v (place, i) =>
    mix v place (word block (order.getD (2 * i) 0)) (word block (order.getD (2 * i + 1) 0))) v

/-- The state after a block, when `count` bytes have been taken in. -/
def compress (state block : Array UInt64) (count : Nat) (last : Bool) : Array UInt64 :=
  let v := state ++ start
  let v := v.setIfInBounds 12 (word v 12 ^^^ count.toUInt64)
  let v := if last then v.setIfInBounds 14 (~~~word v 14) else v
  let v := (orders ++ orders.take 2).foldl (round block) v
  state.mapIdx fun i x => x ^^^ word v i ^^^ word v (i + 8)

/-- The words of a block of bytes, filled up with zeros. -/
def wordsOf (n : Nat) (block : Bytes) : Array UInt64 :=
  let full := block ++ List.replicate (8 * n - block.length) 0
  ((Bytes.chunks 8 full).map fun b => (Bytes.toNatLE b).toUInt64).toArray

def bytesOf (v : Array UInt64) : Bytes :=
  v.toList.flatMap fun x => Bytes.ofNatLE 8 x.toNat

/-- Take in the blocks of a message, of which `done` bytes have been taken in before. -/
def absorb (state : Array UInt64) (done : Nat) : List Bytes → Array UInt64
  | [] => compress state (wordsOf 16 []) done true
  | [block] => compress state (wordsOf 16 block) (done + block.length) true
  | block :: rest => absorb (compress state (wordsOf 16 block) (done + 128) false) (done + 128) rest

def digest (length : Nat) (message : Bytes) : Bytes :=
  let parameters := (0x01010000 + length).toUInt64
  let state := start.setIfInBounds 0 (word start 0 ^^^ parameters)
  (bytesOf (absorb state 0 (Bytes.chunks 128 message))).take length

end AccountAuthority.Blake2b
