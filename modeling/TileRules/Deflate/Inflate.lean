import TileRules.Deflate.Code

/-!
# Inflate — deflated data back to bytes

Deflated data is a sequence of blocks. A block is stored as it is, or it is coded: symbols of one
code stand for literal bytes, for lengths of repeated stretches and for the end of the block, and
symbols of a second code for the distance back to a stretch. The codes are the fixed ones, or the
block describes its own.

`inflate` reads all blocks and gives the bytes together with what follows the data. A stretch that
starts before the first byte repeats zeros there.
-/

namespace TileRules
namespace Deflate

/-! ## Stored blocks -/

/-- Takes exactly `count` bytes, behind the output so far. -/
def takeBytes (out : Array UInt8) : (count : Nat) → List UInt8 →
    Except Fault (Array UInt8 × List UInt8)
  | 0, rest => .ok (out, rest)
  | _ + 1, [] => .error .exhausted
  | count + 1, byte :: rest => takeBytes (out.push byte) count rest

/-- Reads a stored block: its length, the complement of the length, and the bytes. -/
def inflateStored (out : Array UInt8) (c : BitCursor) :
    Except Fault (Array UInt8 × BitCursor) := do
  let (length, c) ← c.align.bits 16
  let (complement, c) ← c.bits 16
  if length + complement = 65535 then
    let (out, rest) ← takeBytes out length c.rest
    return (out, BitCursor.ofBytes rest)
  else
    throw .corrupt

/-! ## Coded blocks -/

/-- Repeats the byte `distance` places back, `count` times. -/
def repeatBytes (distance : Nat) : (count : Nat) → Array UInt8 → Array UInt8
  | 0, out => out
  | count + 1, out =>
      let byte := if distance ≤ out.size then out.getD (out.size - distance) 0 else 0
      repeatBytes distance count (out.push byte)

/-- Reads the number behind a symbol: a base and extra bits. -/
def readExtended (symbols : List (Nat × Nat)) (index : Nat) (c : BitCursor) :
    Except Fault (Nat × BitCursor) :=
  match symbols[index]? with
  | none => .error .corrupt
  | some (base, extra) => do
      let (above, c) ← c.bits extra
      return (base + above, c)

/-- Reads symbols up to the end of the block. -/
def inflateSymbols (literals distances : CodeTree) : (fuel : Nat) → Array UInt8 → BitCursor →
    Except Fault (Array UInt8 × BitCursor)
  | 0, _, _ => .error .exhausted
  | fuel + 1, out, c => do
      let (symbol, c) ← literals.read c
      if symbol < 256 then
        inflateSymbols literals distances fuel (out.push (UInt8.ofNat symbol)) c
      else if symbol = 256 then
        return (out, c)
      else
        let (length, c) ← readExtended lengthSymbols (symbol - 257) c
        let (index, c) ← distances.read c
        let (distance, c) ← readExtended distanceSymbols index c
        inflateSymbols literals distances fuel (repeatBytes distance length out) c

/-! ## Codes of a block -/

/-- The order in which a block gives the word lengths of the code of word lengths. -/
def lengthOrder : List Nat :=
  [16, 17, 18, 0, 8, 7, 9, 6, 10, 5, 11, 4, 12, 3, 13, 2, 14, 1, 15]

/-- Reads `count` numbers of three bits. -/
def readTriples : (count : Nat) → BitCursor → Except Fault (List Nat × BitCursor)
  | 0, c => .ok ([], c)
  | count + 1, c => do
      let (length, c) ← c.bits 3
      let (lengths, c) ← readTriples count c
      return (length :: lengths, c)

/-- Reads word lengths up to `total` of them, behind the lengths read so far, last first. Symbol 16
repeats the length before it, and 17 and 18 repeat zero. -/
def readLengths (tree : CodeTree) (total : Nat) : (fuel : Nat) → List Nat → BitCursor →
    Except Fault (List Nat × BitCursor)
  | 0, _, _ => .error .exhausted
  | fuel + 1, found, c =>
      if found.length > total then .error .corrupt
      else if found.length = total then .ok (found.reverse, c)
      else do
        let (symbol, c) ← tree.read c
        match symbol, found with
        | 16, [] => throw .corrupt
        | 16, last :: _ =>
            let (extra, c) ← c.bits 2
            readLengths tree total fuel (List.replicate (3 + extra) last ++ found) c
        | 17, _ =>
            let (extra, c) ← c.bits 3
            readLengths tree total fuel (List.replicate (3 + extra) 0 ++ found) c
        | 18, _ =>
            let (extra, c) ← c.bits 7
            readLengths tree total fuel (List.replicate (11 + extra) 0 ++ found) c
        | length, _ => readLengths tree total fuel (length :: found) c

/-- The tree of a code, or the fault of lengths that describe none. -/
def orCorrupt : Option CodeTree → Except Fault CodeTree
  | some tree => .ok tree
  | none => .error .corrupt

/-- Reads the two codes that a block describes. -/
def readCodes (c : BitCursor) : Except Fault ((CodeTree × CodeTree) × BitCursor) := do
  let (literals, c) ← c.bits 5
  let (distances, c) ← c.bits 5
  let (lengths, c) ← c.bits 4
  let literals := literals + 257
  let distances := distances + 1
  if literals > 286 ∨ distances > 30 then
    throw .corrupt
  else
    let (given, c) ← readTriples (lengths + 4) c
    let pairs := lengthOrder.zip given
    let lengthTree ← orCorrupt <| CodeTree.ofLengths? <|
      (List.range 19).map fun symbol => (pairs.lookup symbol).getD 0
    let total := literals + distances
    let (all, c) ← readLengths lengthTree total (total + 1) [] c
    let literalTree ← orCorrupt (CodeTree.ofSparseLengths? (all.take literals))
    let distanceTree ← orCorrupt (CodeTree.ofSparseLengths? (all.drop literals))
    return ((literalTree, distanceTree), c)

/-- The fixed codes. -/
def fixedCodes : CodeTree × CodeTree :=
  (CodeTree.ofWords (wordsOfLengths fixedLiteralLengths),
    CodeTree.ofWords (wordsOfLengths fixedDistanceLengths))

/-! ## Blocks -/

/-- Reads the block behind its last-block bit. -/
def inflateBlock (fuel : Nat) (out : Array UInt8) (c : BitCursor) :
    Except Fault (Array UInt8 × BitCursor) := do
  let (kind, c) ← c.bits 2
  match kind with
  | 0 => inflateStored out c
  | 1 => inflateSymbols fixedCodes.1 fixedCodes.2 fuel out c
  | 2 =>
      let ((literals, distances), c) ← readCodes c
      inflateSymbols literals distances fuel out c
  | _ => throw .corrupt

/-- Reads blocks up to the last one. -/
def inflateBlocks (symbolFuel : Nat) : (fuel : Nat) → Array UInt8 → BitCursor →
    Except Fault (Array UInt8 × BitCursor)
  | 0, _, _ => .error .exhausted
  | fuel + 1, out, c => do
      let (isLast, c) ← c.bit
      let (out, c) ← inflateBlock symbolFuel out c
      if isLast then return (out, c) else inflateBlocks symbolFuel fuel out c

/-- Inflates deflated data, and gives the bytes behind it too. Every symbol takes at least one bit,
so the number of bits bounds both loops. -/
def inflate (data : List UInt8) : Except Fault (List UInt8 × List UInt8) := do
  let fuel := 8 * data.length + 1
  let (out, c) ← inflateBlocks fuel fuel #[] (BitCursor.ofBytes data)
  return (out.toList, c.rest)

end Deflate
end TileRules
