/-!
# Hex — bytes as pairs of hexadecimal digits

Every byte is written as two digits in small letters; `bytes?` reads digits of either case.
-/

namespace TileRules
namespace Text

namespace Hex

/-- A digit of a number below sixteen. -/
def digit (n : Nat) : Char :=
  if n < 10 then Char.ofNat (48 + n) else Char.ofNat (87 + n)

/-- The two digits of a byte. -/
def digits (b : UInt8) : List Char :=
  [digit (b.toNat / 16), digit (b.toNat % 16)]

def encode (bytes : List UInt8) : String :=
  String.ofList (bytes.flatMap digits)

def value? (c : Char) : Option Nat :=
  if '0' ≤ c && c ≤ '9' then some (c.toNat - 48)
  else if 'a' ≤ c && c ≤ 'f' then some (c.toNat - 87)
  else if 'A' ≤ c && c ≤ 'F' then some (c.toNat - 55)
  else none

/-- Reads pairs of digits, behind the bytes read so far, last first. -/
def decodeFrom (found : List UInt8) : List Char → Option (List UInt8)
  | [] => some found.reverse
  | [_] => none
  | high :: low :: rest =>
      match value? high, value? low with
      | some high, some low => decodeFrom (UInt8.ofNat (high * 16 + low) :: found) rest
      | _, _ => none

def bytes? (text : String) : Option (List UInt8) :=
  decodeFrom [] text.toList

end Hex
end Text
end TileRules
