import AccountAuthority.Crypto.Blake2b

/-!
# Argon2

The memory-hard hash of passwords in its three types and two versions.  The memory is a matrix of
blocks of 1024 bytes with a row, or lane, for each degree of parallelism.  It is filled column by
column, each block from the one before it and another that was filled earlier; the lanes are
joined at four points of every pass.
-/

namespace AccountAuthority.Argon2

/-- How the earlier block is chosen: by the memory itself, by counters, or by counters in the
first half of the first pass. -/
inductive Kind where
  | dependent
  | independent
  | mixed
  deriving DecidableEq, Repr

def Kind.code : Kind → Nat
  | dependent => 0
  | independent => 1
  | mixed => 2

def Kind.name : Kind → String
  | dependent => "argon2d"
  | independent => "argon2i"
  | mixed => "argon2id"

/-- The cost of a hash. -/
structure Cost where
  memoryKib : Nat
  iterations : Nat
  parallelism : Nat
  deriving DecidableEq, Repr

/-- Why a cost is refused. -/
inductive CostError where
  | memoryTooSmall
  | timeTooSmall
  | tooFewThreads
  | tooManyThreads
  deriving DecidableEq, Repr

def CostError.message : CostError → String
  | memoryTooSmall => "memory cost is too small"
  | timeTooSmall => "time cost is too small"
  | tooFewThreads => "not enough threads"
  | tooManyThreads => "too many threads"

/-- Whether a cost is refused; each lane needs eight blocks. -/
def Cost.check (c : Cost) : Except CostError Unit :=
  if c.memoryKib < 8 ∨ c.memoryKib < 8 * c.parallelism then .error .memoryTooSmall
  else if c.iterations < 1 then .error .timeTooSmall
  else if c.parallelism < 1 then .error .tooFewThreads
  else if 0xffffff < c.parallelism then .error .tooManyThreads
  else .ok ()

/-- What is hashed, and how. -/
structure Input where
  kind : Kind
  /-- 16 or 19. -/
  version : Nat
  cost : Cost
  password : Bytes
  salt : Bytes
  data : Bytes := []
  /-- The number of bytes of the hash. -/
  length : Nat

/-- A block of 128 words. -/
abbrev Block := Array UInt64

/-- A number of 32 bits as bytes. -/
def le32 (n : Nat) : Bytes :=
  Bytes.ofNatLE 4 n

/-- Bytes with their number in front. -/
def lengthPrefixed (bs : Bytes) : Bytes :=
  le32 bs.length ++ bs

/-- The bytes that all blocks come from. -/
def seed (i : Input) : Bytes :=
  Blake2b.digest 64 <|
    le32 i.cost.parallelism ++ le32 i.length ++ le32 i.cost.memoryKib ++ le32 i.cost.iterations ++
      le32 i.version ++ le32 i.kind.code ++ lengthPrefixed i.password ++ lengthPrefixed i.salt ++
      lengthPrefixed [] ++ lengthPrefixed i.data

/-- Halves of digests in a chain of digests, and the last digest, until there are `length`
bytes. -/
def stretch : (fuel length : Nat) → Bytes → Bytes
  | 0, _, _ => []
  | fuel + 1, length, v =>
    if length ≤ 64 then Blake2b.digest length v
    else
      let v := Blake2b.digest 64 v
      v.take 32 ++ stretch fuel (length - 32) v

/-- A hash of any length. -/
def longDigest (length : Nat) (message : Bytes) : Bytes :=
  stretch (length + 1) length (le32 length ++ message)

/-- A sum of two words and of twice the product of their lower halves. -/
def blend (x y : UInt64) : UInt64 :=
  x + y + 2 * (x &&& 0xffffffff) * (y &&& 0xffffffff)

/-- One mixing step on four words of a block. -/
def mix (v : Block) (i j k l : Nat) : Block :=
  let a := blend (v.getD i 0) (v.getD j 0)
  let d := Blake2b.rotateRight (v.getD l 0 ^^^ a) 32
  let c := blend (v.getD k 0) d
  let b := Blake2b.rotateRight (v.getD j 0 ^^^ c) 24
  let a := blend a b
  let d := Blake2b.rotateRight (d ^^^ a) 16
  let c := blend c d
  let b := Blake2b.rotateRight (b ^^^ c) 63
  (((v.setIfInBounds i a).setIfInBounds j b).setIfInBounds k c).setIfInBounds l d

/-- Eight mixing steps on the sixteen words at the given places. -/
def permute (v : Block) (place : Nat → Nat) : Block :=
  Blake2b.places.foldl (fun v (i, j, k, l) => mix v (place i) (place j) (place k) (place l)) v

/-- The block made from two blocks: their bitwise sum, permuted by rows and then by columns. -/
def combine (x y : Block) : Block :=
  let r := Array.zipWith (· ^^^ ·) x y
  let z := (List.range 8).foldl (fun v row => permute v fun i => 16 * row + i) r
  let z := (List.range 8).foldl
    (fun v column => permute v fun i => 16 * (i / 2) + 2 * column + i % 2) z
  Array.zipWith (· ^^^ ·) r z

def Input.lanes (i : Input) : Nat := i.cost.parallelism

/-- The number of blocks of a lane between two points where the lanes are joined. -/
def Input.segmentLength (i : Input) : Nat := i.cost.memoryKib / (4 * i.lanes)

def Input.laneLength (i : Input) : Nat := 4 * i.segmentLength

/-- Where the filling stands: pass, quarter of the pass, lane and place in the segment. -/
structure Position where
  pass : Nat
  slice : Nat
  lane : Nat
  index : Nat

def Position.column (i : Input) (p : Position) : Nat :=
  p.slice * i.segmentLength + p.index

/-- A block of numbers that does not depend on the memory: the counter `counter` for the addresses
of a segment. -/
def addressBlock (i : Input) (p : Position) (counter : Nat) : Block :=
  let zero : Block := Array.replicate 128 0
  let input := #[p.pass, p.lane, p.slice, i.laneLength * i.lanes, i.cost.iterations, i.kind.code,
    counter].map Nat.toUInt64 ++ Array.replicate 121 0
  combine zero (combine zero input)

/-- Whether addresses come from counters. -/
def isIndependent (i : Input) (p : Position) : Bool :=
  match i.kind with
  | .dependent => false
  | .independent => true
  | .mixed => p.pass = 0 && p.slice < 2

/-- The block chosen by a number: its lane and place. -/
def reference (i : Input) (p : Position) (random : UInt64) : Nat × Nat :=
  let low := (random &&& 0xffffffff).toNat
  let lane := if p.pass = 0 ∧ p.slice = 0 then p.lane else (random >>> 32).toNat % i.lanes
  let finished := if p.pass = 0 then p.slice * i.segmentLength else 3 * i.segmentLength
  let area :=
    if lane = p.lane then finished + p.index - 1
    else if p.index = 0 then finished - 1 else finished
  let x := low * low / UInt32.size
  let distance := area * x / UInt32.size
  let start := if p.pass = 0 ∨ p.slice = 3 then 0 else (p.slice + 1) * i.segmentLength
  (lane, (start + (area - 1 - distance)) % i.laneLength)

def fillBlock (i : Input) (addresses : Block) (m : Array Block) (p : Position) : Array Block :=
  let column := p.column i
  let at_ (lane column : Nat) : Nat := lane * i.laneLength + column
  let previous := m.getD (at_ p.lane (if column = 0 then i.laneLength - 1 else column - 1)) #[]
  let random := if isIndependent i p then addresses.getD (p.index % 128) 0 else previous.getD 0 0
  let (lane, place) := reference i p random
  let block := combine previous (m.getD (at_ lane place) #[])
  let block :=
    if p.pass = 0 ∨ i.version = 16 then block
    else Array.zipWith (· ^^^ ·) block (m.getD (at_ p.lane column) #[])
  m.setIfInBounds (at_ p.lane column) block

/-- Fill a segment of a lane.  The first two blocks of a lane are there from the start. -/
def fillSegment (i : Input) (pass slice : Nat) (m : Array Block) (lane : Nat) : Array Block :=
  let position (index : Nat) : Position := ⟨pass, slice, lane, index⟩
  let first := if pass = 0 ∧ slice = 0 then 2 else 0
  let addresses (index : Nat) : Block :=
    if isIndependent i (position 0) then addressBlock i (position 0) (index / 128 + 1) else #[]
  ((List.range i.segmentLength).foldl (fun (m, block) index =>
    let block := if index % 128 = 0 then addresses index else block
    if index < first then (m, block) else (fillBlock i block m (position index), block))
    (m, #[])).1

/-- Fill the whole memory once. -/
def fillPass (i : Input) (m : Array Block) (pass : Nat) : Array Block :=
  (List.range 4).foldl (fun m slice =>
    (List.range i.lanes).foldl (fillSegment i pass slice) m) m

/-- The memory with the first two blocks of every lane. -/
def initial (i : Input) : Array Block :=
  let s := seed i
  ((List.range i.lanes).map fun lane =>
    ((List.range i.laneLength).map fun column =>
      if column < 2 then
        Blake2b.wordsOf 128 (longDigest 1024 (s ++ le32 column ++ le32 lane))
      else Array.replicate 128 0).toArray).foldl (· ++ ·) #[]

def hash (i : Input) : Bytes :=
  let m := (List.range i.cost.iterations).foldl (fillPass i) (initial i)
  let last := (List.range i.lanes).map fun lane =>
    m.getD (lane * i.laneLength + i.laneLength - 1) #[]
  let sum := match last with
    | [] => #[]
    | b :: bs => bs.foldl (Array.zipWith (· ^^^ ·)) b
  longDigest i.length (Blake2b.bytesOf sum)

end AccountAuthority.Argon2
