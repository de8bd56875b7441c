import TileRules.Deflate.Bits

/-!
# Code — codes of variable length

A code gives every symbol that is in use a word of bits, and no word begins another. The format
describes a code by the lengths of its words alone: shorter words come first, words of one length
follow the order of their symbols, and every word is the next number after the one before it.

- `wordsOfLengths` are the words of such a code;
- `CodeTree.ofLengths?` is the tree to read them, if the lengths fill it exactly;
- `CodeTree.ofSparseLengths?` also takes a code without any word, and one with a single word of one
  bit, which leave part of the tree empty.
-/

namespace TileRules
namespace Deflate

/-- The longest word of a code. -/
def longestWord : Nat := 15

/-- The symbols with their lengths, in the order of their words. -/
def wordOrder (lengths : List Nat) : List (Nat × Nat) :=
  (List.range' 1 longestWord).flatMap fun length =>
    (lengths.zipIdx.filter (·.1 == length))

/-- The words of symbols in word order, as numbers; `next` is the first word, `length` bits long. -/
def assignWords (next length : Nat) : List (Nat × Nat) → List (Nat × Nat × Nat)
  | [] => []
  | (wordLength, symbol) :: rest =>
      let word := next <<< (wordLength - length)
      (symbol, wordLength, word) :: assignWords (word + 1) wordLength rest

/-- The symbols in use with the length of their word and the word as a number. -/
def wordsOfLengths (lengths : List Nat) : List (Nat × Nat × Nat) :=
  assignWords 0 0 (wordOrder lengths)

/-- The bits of a word, in the order of reading: the highest first. -/
def wordBits (length word : Nat) : List Bool :=
  (lowBits length word).reverse

/-- A code as a tree that is walked bit by bit. -/
inductive CodeTree
  | gap
  | leaf (symbol : Nat)
  | branch (zero one : CodeTree)
  deriving Repr

namespace CodeTree

/-- The tree with a symbol at the end of a path. -/
def insert (symbol : Nat) : CodeTree → List Bool → CodeTree
  | _, [] => .leaf symbol
  | .branch zero one, false :: path => .branch (zero.insert symbol path) one
  | .branch zero one, true :: path => .branch zero (one.insert symbol path)
  | _, false :: path => .branch (CodeTree.gap.insert symbol path) .gap
  | _, true :: path => .branch .gap (CodeTree.gap.insert symbol path)
termination_by _ path => path.length

/-- The tree of all words. -/
def ofWords (words : List (Nat × Nat × Nat)) : CodeTree :=
  words.foldl (fun tree (symbol, length, word) => tree.insert symbol (wordBits length word))
    (.branch .gap .gap)

/-- Whether words of these lengths take every path of the tree exactly once. A word of one bit takes
half of the paths, a word of two bits a quarter, and so on. -/
def fills (lengths : List Nat) : Bool :=
  let shares := (lengths.filter (· != 0)).map fun length => 1 <<< (longestWord - length)
  shares.foldr (· + ·) 0 == 1 <<< longestWord

/-- The tree of the code with these word lengths, a zero for every symbol that is not in use. -/
def ofLengths? (lengths : List Nat) : Option CodeTree :=
  if fills lengths then some (ofWords (wordsOfLengths lengths)) else none

/-- The tree of a code that may also have no word, or a single word of one bit. -/
def ofSparseLengths? (lengths : List Nat) : Option CodeTree :=
  let used := lengths.filter (· != 0)
  if used == [] || used == [1] then some (ofWords (wordsOfLengths lengths)) else ofLengths? lengths

/-- Reads one symbol. A path that no word takes is corrupt. -/
def read : CodeTree → BitCursor → Except Fault (Nat × BitCursor)
  | .gap, _ => .error .corrupt
  | .leaf symbol, c => .ok (symbol, c)
  | .branch zero one, c => do
      let (b, c) ← c.bit
      if b then one.read c else zero.read c

end CodeTree

/-! ## The fixed codes -/

/-- Word lengths of the fixed code of literals and lengths. -/
def fixedLiteralLengths : List Nat :=
  List.replicate 144 8 ++ List.replicate 112 9 ++ List.replicate 24 7 ++ List.replicate 8 8

/-- Word lengths of the fixed code of distances. -/
def fixedDistanceLengths : List Nat :=
  List.replicate 32 5

/-! ## Lengths and distances -/

/-- Base and number of extra bits of the length symbols from 257 on. -/
def lengthSymbols : List (Nat × Nat) :=
  [(3, 0), (4, 0), (5, 0), (6, 0), (7, 0), (8, 0), (9, 0), (10, 0), (11, 1), (13, 1), (15, 1),
    (17, 1), (19, 2), (23, 2), (27, 2), (31, 2), (35, 3), (43, 3), (51, 3), (59, 3), (67, 4),
    (83, 4), (99, 4), (115, 4), (131, 5), (163, 5), (195, 5), (227, 5), (258, 0)]

/-- Base and number of extra bits of the distance symbols. -/
def distanceSymbols : List (Nat × Nat) :=
  [(1, 0), (2, 0), (3, 0), (4, 0), (5, 1), (7, 1), (9, 2), (13, 2), (17, 3), (25, 3), (33, 4),
    (49, 4), (65, 5), (97, 5), (129, 6), (193, 6), (257, 7), (385, 7), (513, 8), (769, 8),
    (1025, 9), (1537, 9), (2049, 10), (3073, 10), (4097, 11), (6145, 11), (8193, 12), (12289, 12),
    (16385, 13), (24577, 13)]

end Deflate
end TileRules
