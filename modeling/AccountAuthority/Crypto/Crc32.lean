import AccountAuthority.Crypto.Bytes

/-!
# Cyclic redundancy checks

The check of 32 bits with the reflected polynomial `0xedb88320`.
-/

namespace AccountAuthority

namespace Crc32

/-- Divide out one bit. -/
def shift (r : BitVec 32) : BitVec 32 :=
  if r.getLsbD 0 then (r >>> 1) ^^^ 0xedb88320 else r >>> 1

/-- The register after a byte. -/
def push (r : BitVec 32) (b : UInt8) : BitVec 32 :=
  (List.range 8).foldl (fun r _ => shift r) (r ^^^ b.toBitVec.setWidth 32)

end Crc32

/-- The check of some bytes. -/
def crc32 (bs : Bytes) : BitVec 32 :=
  ~~~(bs.foldl Crc32.push (BitVec.allOnes 32))

end AccountAuthority
