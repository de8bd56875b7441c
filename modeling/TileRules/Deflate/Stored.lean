/-!
# Stored — deflated data without compression

Any bytes can be deflated as stored blocks of at most 65535 bytes. Every block starts at a full
byte: one byte with the last-block bit and the kind zero, the length, its complement, and the bytes.
-/

namespace TileRules
namespace Deflate

/-- A number of sixteen bits as two bytes, the lower first. -/
def littleEndian16 (n : Nat) : List UInt8 :=
  [UInt8.ofNat n, UInt8.ofNat (n / 256)]

/-- One stored block. -/
def storedBlock (isLast : Bool) (bytes : List UInt8) : List UInt8 :=
  (if isLast then 1 else 0) :: littleEndian16 bytes.length
    ++ littleEndian16 (65535 - bytes.length) ++ bytes

/-- The bytes as stored blocks, with `extra` blocks before the last one. -/
def storedBlocks : (extra : Nat) → List UInt8 → List UInt8
  | 0, bytes => storedBlock true bytes
  | extra + 1, bytes =>
      storedBlock false (bytes.take 65535) ++ storedBlocks extra (bytes.drop 65535)

/-- The bytes as stored blocks. -/
def stored (bytes : List UInt8) : List UInt8 :=
  storedBlocks ((bytes.length - 1) / 65535) bytes

end Deflate
end TileRules
