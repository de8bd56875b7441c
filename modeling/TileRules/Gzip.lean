import TileRules.Deflate.Compact
import TileRules.Digest.Crc32

/-!
# Gzip — compressed files

A gzip member is a header, deflated data, and a trailer with the check value and the length of the
bytes. The header may carry an extra field, a name, a comment and a check value of its own; they are
passed over. Only the first member of a file is read, and what follows it is ignored.

- `Gzip.encode` writes bytes as one member, and `Gzip.decode` reads a member back;
- `Gzip.isMember` recognises a member by its first two bytes;
- `Gzip.Packer` is any way to pack bytes; where nothing else is said, packing is writing a member.
-/

namespace TileRules
namespace Gzip

/-- Why a file is not a gzip member. -/
inductive Fault
  | endOfFile
  | header
  | fieldTooLong
  | incompleteData
  | corruptData
  | checksum
  deriving DecidableEq, Repr

def Fault.message : Fault → String
  | .endOfFile => "unexpected end of file"
  | .header => "invalid gzip header"
  | .fieldTooLong => "gzip header field too long"
  | .incompleteData => "incomplete deflate stream"
  | .corruptData => "corrupt deflate stream"
  | .checksum => "corrupt gzip stream does not have a matching checksum"

def Fault.ofDeflate : Deflate.Fault → Fault
  | .exhausted => .incompleteData
  | .corrupt => .corruptData

/-! ## Writing -/

/-- A number of 32 bits as four bytes, the lowest first. -/
def littleEndian32 (n : UInt32) : List UInt8 :=
  [n.toUInt8, (n >>> 8).toUInt8, (n >>> 16).toUInt8, (n >>> 24).toUInt8]

/-- A header without optional fields; the member says nothing of time, and nothing of the system. -/
def plainHeader : List UInt8 :=
  [0x1f, 0x8b, 8, 0, 0, 0, 0, 0, 0, 255]

/-- The check value and the length of the bytes. -/
def trailer (bytes : List UInt8) : List UInt8 :=
  littleEndian32 (crc32 bytes) ++ littleEndian32 (UInt32.ofNat bytes.length)

def encode (bytes : List UInt8) : List UInt8 :=
  plainHeader ++ Deflate.deflate bytes ++ trailer bytes

/-! ## Reading -/

/-- Whether a file starts like a gzip member. -/
def isMember (file : List UInt8) : Bool :=
  [0x1f, 0x8b].isPrefixOf file

/-- The number of two bytes, the lower first. -/
def fromLittleEndian16 (low high : UInt8) : Nat :=
  low.toNat + 256 * high.toNat

/-- The longest name or comment. -/
def longestField : Nat := 65535

/-- Drops a field that ends in a zero byte, behind `length` bytes of it. -/
def skipField (length : Nat) : List UInt8 → Except Fault (List UInt8)
  | [] => .error .endOfFile
  | byte :: rest =>
      if byte = 0 then .ok rest
      else if length = longestField then .error .fieldTooLong
      else skipField (length + 1) rest

/-- Drops the extra field behind its length. -/
def skipExtra : List UInt8 → Except Fault (List UInt8)
  | low :: high :: rest =>
      let length := fromLittleEndian16 low high
      if rest.length < length then .error .endOfFile else .ok (rest.drop length)
  | _ => .error .endOfFile

/-- Checks the check value of the header that was read. -/
def checkHeader (header : List UInt8) : List UInt8 → Except Fault (List UInt8)
  | low :: high :: rest =>
      if fromLittleEndian16 low high = (crc32 header).toNat % 65536 then .ok rest
      else .error .checksum
  | _ => .error .endOfFile

/-- Applies a step where a flag is set. -/
def onFlag (flags : UInt8) (flag : UInt8) (step : List UInt8 → Except Fault (List UInt8))
    (rest : List UInt8) : Except Fault (List UInt8) :=
  if flags &&& flag = 0 then .ok rest else step rest

/-- Reads the header and gives what follows it. -/
def readHeader (file : List UInt8) : Except Fault (List UInt8) :=
  match file with
  | magic :: magic' :: method :: flags :: _ :: _ :: _ :: _ :: _ :: _ :: rest =>
      if magic ≠ 0x1f ∨ magic' ≠ 0x8b ∨ method ≠ 8 ∨ flags &&& 0xe0 ≠ 0 then
        .error .header
      else do
        let rest ← onFlag flags 4 skipExtra rest
        let rest ← onFlag flags 8 (skipField 0) rest
        let rest ← onFlag flags 16 (skipField 0) rest
        onFlag flags 2 (checkHeader (file.take (file.length - rest.length))) rest
  | _ => .error .endOfFile

/-- Checks the trailer against the bytes of the member. -/
def checkTrailer (bytes rest : List UInt8) : Except Fault Unit :=
  if rest.length < 8 then .error .endOfFile
  else if rest.take 8 = trailer bytes then .ok ()
  else .error .checksum

/-- The bytes of the first member of a file. -/
def decode (file : List UInt8) : Except Fault (List UInt8) := do
  let data ← readHeader file
  let (bytes, rest) ← (Deflate.inflate data).mapError Fault.ofDeflate
  checkTrailer bytes rest
  return bytes

/-! ## Packing -/

/-- A way to pack bytes. The format leaves it open how well bytes are packed, and which fields a
header has. -/
class Packer where
  pack : List UInt8 → List UInt8

instance packer : Packer where
  pack := encode

end Gzip
end TileRules
