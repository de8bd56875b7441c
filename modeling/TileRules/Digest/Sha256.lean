import TileRules.Text.Hex

/-!
# SHA-256

The digest of a message of bytes. The message is padded to blocks of 64 bytes with its length in
bits at the end, every block is spread over a schedule of 64 words, and 64 rounds mix the schedule
into a state of eight words.

`Sha256.digest` is the digest as 32 bytes, and `checksum` the same in hexadecimal.
-/

namespace TileRules
namespace Sha256

/-! ## Constants -/

/-- The first words of the fractional parts of the square roots of the first eight primes. -/
def initialState : Vector UInt32 8 :=
  #v[0x6a09e667, 0xbb67ae85, 0x3c6ef372, 0xa54ff53a, 0x510e527f, 0x9b05688c, 0x1f83d9ab,
    0x5be0cd19]

/-- The first words of the fractional parts of the cube roots of the first 64 primes. -/
def roundConstants : Vector UInt32 64 :=
  #v[0x428a2f98, 0x71374491, 0xb5c0fbcf, 0xe9b5dba5, 0x3956c25b, 0x59f111f1, 0x923f82a4,
    0xab1c5ed5, 0xd807aa98, 0x12835b01, 0x243185be, 0x550c7dc3, 0x72be5d74, 0x80deb1fe,
    0x9bdc06a7, 0xc19bf174, 0xe49b69c1, 0xefbe4786, 0x0fc19dc6, 0x240ca1cc, 0x2de92c6f,
    0x4a7484aa, 0x5cb0a9dc, 0x76f988da, 0x983e5152, 0xa831c66d, 0xb00327c8, 0xbf597fc7,
    0xc6e00bf3, 0xd5a79147, 0x06ca6351, 0x14292967, 0x27b70a85, 0x2e1b2138, 0x4d2c6dfc,
    0x53380d13, 0x650a7354, 0x766a0abb, 0x81c2c92e, 0x92722c85, 0xa2bfe8a1, 0xa81a664b,
    0xc24b8b70, 0xc76c51a3, 0xd192e819, 0xd6990624, 0xf40e3585, 0x106aa070, 0x19a4c116,
    0x1e376c08, 0x2748774c, 0x34b0bcb5, 0x391c0cb3, 0x4ed8aa4a, 0x5b9cca4f, 0x682e6ff3,
    0x748f82ee, 0x78a5636f, 0x84c87814, 0x8cc70208, 0x90befffa, 0xa4506ceb, 0xbef9a3f7,
    0xc67178f2]

/-! ## Padding -/

/-- The lowest `count` bytes of a number, the highest first. -/
def bigEndian (count n : Nat) : List UInt8 :=
  (List.range count).reverse.map fun i => UInt8.ofNat (n >>> (8 * i))

/-- The message, a set bit, zeros, and the length in bits as 64 bits. -/
def pad (message : List UInt8) : Array UInt8 :=
  let length := message.length
  let zeros := (119 - length % 64) % 64
  message.toArray.push 0x80 ++ Array.replicate zeros 0 ++ (bigEndian 8 (length * 8)).toArray

/-! ## Rounds -/

def rotateRight (x n : UInt32) : UInt32 :=
  (x >>> n) ||| (x <<< (32 - n))

/-- The word at a byte position, highest byte first. -/
def wordAt (bytes : Array UInt8) (start : Nat) : UInt32 :=
  let byte (i : Nat) : UInt32 := (bytes.getD (start + i) 0).toUInt32
  (byte 0 <<< 24) ||| (byte 1 <<< 16) ||| (byte 2 <<< 8) ||| byte 3

/-- The next word of a schedule. -/
def scheduleNext (words : Array UInt32) : UInt32 :=
  let word (back : Nat) : UInt32 := words.getD (words.size - back) 0
  let s0 := rotateRight (word 15) 7 ^^^ rotateRight (word 15) 18 ^^^ (word 15 >>> 3)
  let s1 := rotateRight (word 2) 17 ^^^ rotateRight (word 2) 19 ^^^ (word 2 >>> 10)
  word 16 + s0 + word 7 + s1

/-- The 64 words of the block at a byte position. -/
def schedule (bytes : Array UInt8) (start : Nat) : Array UInt32 :=
  let first := (Array.range 16).map fun i => wordAt bytes (start + 4 * i)
  (List.range 48).foldl (fun words _ => words.push (scheduleNext words)) first

/-- One round with one word of the schedule. -/
def round (state : Vector UInt32 8) (constant word : UInt32) : Vector UInt32 8 :=
  let a := state[0]
  let b := state[1]
  let c := state[2]
  let e := state[4]
  let f := state[5]
  let g := state[6]
  let s1 := rotateRight e 6 ^^^ rotateRight e 11 ^^^ rotateRight e 25
  let choice := (e &&& f) ^^^ ((~~~e) &&& g)
  let t1 := state[7] + s1 + choice + constant + word
  let s0 := rotateRight a 2 ^^^ rotateRight a 13 ^^^ rotateRight a 22
  let majority := (a &&& b) ^^^ (a &&& c) ^^^ (b &&& c)
  #v[t1 + (s0 + majority), a, b, c, state[3] + t1, e, f, g]

/-- Mixes the block at a byte position into the state. -/
def compress (bytes : Array UInt8) (state : Vector UInt32 8) (start : Nat) : Vector UInt32 8 :=
  let words := schedule bytes start
  let mixed := (List.finRange 64).foldl
    (fun s i => round s roundConstants[i] (words.getD i.val 0)) state
  state.zipWith (· + ·) mixed

/-- The digest of a message, as 32 bytes. -/
def digest (message : List UInt8) : List UInt8 :=
  let bytes := pad message
  let state := (List.range (bytes.size / 64)).foldl
    (fun state i => compress bytes state (64 * i)) initialState
  state.toList.flatMap fun word => bigEndian 4 word.toNat

end Sha256

/-- The SHA-256 digest in hexadecimal. -/
def checksum (message : List UInt8) : String :=
  Text.Hex.encode (Sha256.digest message)

end TileRules
