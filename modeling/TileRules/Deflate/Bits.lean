/-!
# Bits — a stream of bytes read bit by bit

Deflated data is a stream of bits, packed into bytes from the lowest bit up. A cursor holds the bits
of the current byte that were not read yet, and the bytes behind it.

- `BitCursor.bit` and `BitCursor.bits` read single bits and numbers, the lowest bit first;
- `BitCursor.align` drops the rest of the current byte.
-/

namespace TileRules
namespace Deflate

/-- Why deflated data cannot be inflated. -/
inductive Fault
  /-- The data ends before the last block does. -/
  | exhausted
  /-- The data breaks a rule of the format. -/
  | corrupt
  deriving DecidableEq, Repr

/-- A position in a stream of bits. -/
structure BitCursor where
  /-- Unread bits of the current byte. -/
  pending : List Bool
  /-- The bytes behind the current one. -/
  rest : List UInt8
  deriving Repr

namespace BitCursor

/-- The start of a stream. -/
def ofBytes (bytes : List UInt8) : BitCursor :=
  ⟨[], bytes⟩

/-- The bits of a byte above the lowest one. -/
def upperBits (byte : UInt8) : List Bool :=
  [1, 2, 3, 4, 5, 6, 7].map byte.toNat.testBit

def bit (c : BitCursor) : Except Fault (Bool × BitCursor) :=
  match c.pending, c.rest with
  | b :: pending, rest => .ok (b, ⟨pending, rest⟩)
  | [], byte :: rest => .ok (byte.toNat.testBit 0, ⟨upperBits byte, rest⟩)
  | [], [] => .error .exhausted

/-- A number of `count` bits, the lowest first. -/
def bits (c : BitCursor) : (count : Nat) → Except Fault (Nat × BitCursor)
  | 0 => .ok (0, c)
  | count + 1 => do
      let (low, c) ← c.bit
      let (high, c) ← c.bits count
      return (low.toNat + 2 * high, c)

/-- Drops the rest of the current byte. -/
def align (c : BitCursor) : BitCursor :=
  ⟨[], c.rest⟩

end BitCursor

/-! ## Writing -/

/-- The byte of up to eight bits, the lowest first. -/
def byteOfBits (bits : List Bool) : UInt8 :=
  UInt8.ofNat (bits.foldr (fun b value => b.toNat + 2 * value) 0)

/-- Packs bits into bytes, behind the bytes packed so far, last first. -/
def packBitsFrom (found : List UInt8) (bits : List Bool) : List UInt8 :=
  match bits with
  | [] => found.reverse
  | b :: rest =>
      packBitsFrom (byteOfBits ((b :: rest).take 8) :: found) (rest.drop 7)
termination_by bits.length
decreasing_by rw [List.length_drop, List.length_cons]; omega

/-- Packs bits into bytes; the last byte is filled up with zeros. -/
def packBits (bits : List Bool) : List UInt8 :=
  packBitsFrom [] bits

/-- The lowest `count` bits of a number, the lowest first. -/
def lowBits (count n : Nat) : List Bool :=
  (List.range count).map n.testBit

end Deflate
end TileRules
