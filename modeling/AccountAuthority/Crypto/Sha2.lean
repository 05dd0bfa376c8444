import AccountAuthority.Crypto.Bytes

/-!
# The SHA-2 family

One construction over words of 32 and of 64 bits.  The constants are the first bits of the
fractional parts of the square and cube roots of the first primes, and are computed as such.
-/

namespace AccountAuthority

/-- The parameters of a member of the family over words of `w` bits. -/
structure Sha2 (w : Nat) where
  /-- The state before the first block. -/
  start : List (BitVec w)
  /-- The constants of the rounds, as many as there are rounds. -/
  constants : List (BitVec w)
  /-- Two rotations and a rotation or shift for each of the two schedule functions. -/
  schedule : (Nat × Nat × Nat) × (Nat × Nat × Nat)
  /-- Three rotations for each of the two round functions. -/
  rounds : (Nat × Nat × Nat) × (Nat × Nat × Nat)
  /-- The number of bytes of a digest. -/
  length : Nat

namespace Sha2

/-- The greatest number below `2 ^ bits` whose `k`-th power is at most `n`, found bit by bit on
top of `r`. -/
def root (k n : Nat) : (bits r : Nat) → Nat
  | 0, r => r
  | bits + 1, r =>
    let next := r + Nat.pow 2 bits
    root k n bits (if Nat.pow next k ≤ n then next else r)

/-- The first `w` bits of the fractional part of the `k`-th root of `n`. -/
def rootFraction (w k n : Nat) : BitVec w :=
  BitVec.ofNat w (root k (n * Nat.pow 2 (k * w)) (w + 10) 0)

/-- The first primes, up to 409, of which there are 80. -/
def primes : List Nat :=
  (List.range 410).filter fun n => 2 ≤ n && (List.range n).all fun d => d < 2 || n % d ≠ 0

variable {w : Nat}

/-- The bitwise sum of three rotations. -/
def rotations (r : Nat × Nat × Nat) (x : BitVec w) : BitVec w :=
  x.rotateRight r.1 ^^^ x.rotateRight r.2.1 ^^^ x.rotateRight r.2.2

/-- The bitwise sum of two rotations and a shift. -/
def rotationsAndShift (r : Nat × Nat × Nat) (x : BitVec w) : BitVec w :=
  x.rotateRight r.1 ^^^ x.rotateRight r.2.1 ^^^ (x >>> r.2.2)

/-- The next word of the schedule after the last sixteen words, given backwards. -/
def nextWord (h : Sha2 w) (last : List (BitVec w)) : BitVec w :=
  rotationsAndShift h.schedule.2 (last.getD 1 0) + last.getD 6 0 +
    rotationsAndShift h.schedule.1 (last.getD 14 0) + last.getD 15 0

/-- `n` more words of the schedule, given backwards in front of the words so far. -/
def extend (h : Sha2 w) : Nat → List (BitVec w) → List (BitVec w)
  | 0, words => words
  | n + 1, words => h.extend n (h.nextWord words :: words)

/-- One round on the eight words of the state with the sum of a constant and a schedule word. -/
def round (h : Sha2 w) (state : List (BitVec w)) (input : BitVec w) : List (BitVec w) :=
  match state with
  | [a, b, c, d, e, f, g, x] =>
    let choice := (e &&& f) ^^^ (~~~e &&& g)
    let majority := (a &&& b) ^^^ (a &&& c) ^^^ (b &&& c)
    let t := x + rotations h.rounds.2 e + choice + input
    [t + rotations h.rounds.1 a + majority, a, b, c, d + t, e, f, g]
  | other => other

/-- The state after a block of sixteen words. -/
def compress (h : Sha2 w) (state block : List (BitVec w)) : List (BitVec w) :=
  let words := (h.extend (h.constants.length - 16) block.reverse).reverse
  let inputs := List.zipWith (· + ·) h.constants words
  List.zipWith (· + ·) state (inputs.foldl h.round state)

/-- The bytes of the message with its padding: a one bit, zeros, and the length in bits. -/
def pad (w : Nat) (message : Bytes) : Bytes :=
  let block := 2 * w
  let lengthBytes := w / 4
  let zeros := (2 * block - 1 - lengthBytes - message.length % block) % block
  message ++ 0x80 :: List.replicate zeros 0 ++ Bytes.ofNat lengthBytes (8 * message.length)

def digest (h : Sha2 w) (message : Bytes) : Bytes :=
  let blocks := (Bytes.chunks (2 * w) (pad w message)).map fun block =>
    (Bytes.chunks (w / 8) block).map fun word => BitVec.ofNat w (Bytes.toNat word)
  let final := blocks.foldl h.compress h.start
  (final.flatMap fun word => Bytes.ofNat (w / 8) word.toNat).take h.length

/-- The member with digests of 256 bits. -/
def sha256 : Sha2 32 where
  start := (primes.take 8).map (rootFraction 32 2)
  constants := (primes.take 64).map (rootFraction 32 3)
  schedule := ((7, 18, 3), (17, 19, 10))
  rounds := ((2, 13, 22), (6, 11, 25))
  length := 32

/-- The member with digests of 384 bits. -/
def sha384 : Sha2 64 where
  start := ((primes.drop 8).take 8).map (rootFraction 64 2)
  constants := primes.map (rootFraction 64 3)
  schedule := ((1, 8, 7), (19, 61, 6))
  rounds := ((28, 34, 39), (14, 18, 41))
  length := 48

end Sha2

def sha256 (message : Bytes) : Bytes :=
  Sha2.sha256.digest message

def sha384 (message : Bytes) : Bytes :=
  Sha2.sha384.digest message

/-- The code that authenticates a message under a key, by SHA-256. -/
def hmacSha256 (key message : Bytes) : Bytes :=
  let short := if 64 < key.length then sha256 key else key
  let padded := short ++ List.replicate (64 - short.length) 0
  let inner := sha256 (padded.map (· ^^^ 0x36) ++ message)
  sha256 (padded.map (· ^^^ 0x5c) ++ inner)

end AccountAuthority
