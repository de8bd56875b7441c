/-!
# CRC-32

The cyclic redundancy check of a message of bytes, with the reflected polynomial `0xedb88320`, as
gzip members carry it.
-/

namespace TileRules
namespace Crc32

/-- Takes one bit through the register. -/
def step (register : UInt32) : UInt32 :=
  if register &&& 1 == 1 then (register >>> 1) ^^^ 0xedb88320 else register >>> 1

/-- The register after eight bits, for each value of its low byte. -/
def table : Array UInt32 :=
  (Array.range 256).map fun n => (List.range 8).foldl (fun r _ => step r) (UInt32.ofNat n)

/-- Takes one byte through the register. -/
def update (register : UInt32) (byte : UInt8) : UInt32 :=
  table.getD ((register ^^^ byte.toUInt32) &&& 0xff).toNat 0 ^^^ (register >>> 8)

end Crc32

/-- The check value of a message. -/
def crc32 (message : List UInt8) : UInt32 :=
  message.foldl Crc32.update 0xffffffff ^^^ 0xffffffff

end TileRules
