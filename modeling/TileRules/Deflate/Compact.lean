import TileRules.Deflate.Inflate
import TileRules.Deflate.Stored

/-!
# Compact — deflated data with repeated stretches

Bytes are deflated in two steps: `tokensOf` replaces stretches that occurred shortly before by their
length and distance, and `codedBlock` writes the tokens as one block with the fixed codes. The
search for stretches remembers the last place of every three bytes, up to a collision of their
hashes, and compares the bytes there.

`deflate` inflates the block again before it relies on it, and stores the bytes where the block does
not give them back. So whatever the search proposes, nothing is lost.
-/

namespace TileRules
namespace Deflate

inductive Token
  | literal (byte : UInt8)
  | stretch (length distance : Nat)
  deriving Repr

/-! ## Search -/

/-- Places that the search remembers. -/
def hashSize : Nat := 32768

/-- The hash of the three bytes at a position. -/
def hashAt (bytes : Array UInt8) (i : Nat) : Nat :=
  let byte (k : Nat) : Nat := (bytes.getD (i + k) 0).toNat
  (byte 0 * 4093 + byte 1 * 241 + byte 2 * 31) % hashSize

/-- Length of the common stretch at `i` and at `j`, up to `most`, behind `found` equal bytes. -/
def commonLength (bytes : Array UInt8) (i j : Nat) : (most found : Nat) → Nat
  | 0, found => found
  | most + 1, found =>
      match bytes[i + found]?, bytes[j + found]? with
      | some a, some b => if a == b then commonLength bytes i j most (found + 1) else found
      | _, _ => found

/-- Tokens from position `i` on, behind the tokens found so far, last first. -/
def searchFrom (bytes : Array UInt8) : (fuel i : Nat) → Array Nat → List Token → List Token
  | 0, _, _, found => found.reverse
  | fuel + 1, i, places, found =>
      match bytes[i]? with
      | none => found.reverse
      | some byte =>
          let place := hashAt bytes i
          let last := places.getD place 0
          let places := places.setIfInBounds place (i + 1)
          let length :=
            if last = 0 ∨ 32768 < i + 1 - last then 0 else commonLength bytes i (last - 1) 258 0
          if length < 3 then
            searchFrom bytes fuel (i + 1) places (.literal byte :: found)
          else
            searchFrom bytes fuel (i + length) places (.stretch length (i + 1 - last) :: found)

def tokensOf (bytes : List UInt8) : List Token :=
  searchFrom bytes.toArray bytes.length 0 (Array.replicate hashSize 0) []

/-! ## Writing -/

/-- The bits of each symbol in a code, in the order of reading. -/
def codeTable (lengths : List Nat) : Array (List Bool) :=
  (wordsOfLengths lengths).foldl
    (fun table (symbol, length, word) => table.setIfInBounds symbol (wordBits length word))
    (Array.replicate lengths.length [])

/-- The symbol of a number, and its extra bits. -/
def extendedBits (symbols : List (Nat × Nat)) (n : Nat) : Nat × List Bool :=
  match symbols.zipIdx.reverse.find? fun ((base, _), _) => base ≤ n with
  | some ((base, extra), index) => (index, lowBits extra (n - base))
  | none => (0, [])

def tokenBits (literals distances : Array (List Bool)) : Token → List Bool
  | .literal byte => literals.getD byte.toNat []
  | .stretch length distance =>
      let (lengthIndex, lengthExtra) := extendedBits lengthSymbols length
      let (distanceIndex, distanceExtra) := extendedBits distanceSymbols distance
      literals.getD (257 + lengthIndex) [] ++ lengthExtra
        ++ distances.getD distanceIndex [] ++ distanceExtra

/-- One last block with the fixed codes. -/
def codedBlock (tokens : List Token) : List UInt8 :=
  let literals := codeTable fixedLiteralLengths
  let distances := codeTable fixedDistanceLengths
  packBits ([true, true, false] ++ tokens.flatMap (tokenBits literals distances)
    ++ literals.getD 256 [])

/-- Whether deflated data gives back the bytes, up to its end. -/
def givesBack (data bytes : List UInt8) : Bool :=
  match inflate data with
  | .ok (out, rest) => out == bytes && rest.isEmpty
  | .error _ => false

/-- Deflates bytes: as a coded block that gives them back, or else as stored blocks. -/
def deflate (bytes : List UInt8) : List UInt8 :=
  let coded := codedBlock (tokensOf bytes)
  if givesBack coded bytes then coded else stored bytes

end Deflate
end TileRules
