import TileRules.Flat

/-!
# Row — conditions packed into four words

A flat condition and its signed value pack into one row:

```
header   modes(14) << 5 | value + 16 (5)      mode i at bit 5 + 2 * i
lower    leaf2 << 18 | leaf1 << 9 | leaf0
middle   leaf5 << 18 | leaf4 << 9 | leaf3
upper                  leaf7 << 9 | leaf6
```

- `storeValue` and `loadValue` carry a signed value in five bits, and values outside −16 … 15 wrap;
- `Flat.pack` writes a row, and `Row.value`, `Row.modes` and `Row.leaves` read it;
- `flatten` and `flattenStrict` go from a tree to its row, under either depth policy.
-/

namespace TileRules

open Layout

/-! ## Signed values -/

/-- Stores a signed value in five bits as the value plus sixteen, modulo thirty-two. -/
def storeValue (value : Int) : UInt32 :=
  UInt32.ofNat ((value + valueOffset) % 32).toNat

/-- Reads a signed value from the low five bits. -/
def loadValue (bits : UInt32) : Int :=
  ((bits &&& valueMask).toNat : Int) - valueOffset

/-! ## Rows -/

/-- One condition and its value in packed form. -/
structure Row where
  header : UInt32
  lower : UInt32
  middle : UInt32
  upper : UInt32
  deriving DecidableEq, Repr, Inhabited

namespace Row

def words (r : Row) : Vector UInt32 4 :=
  #v[r.header, r.lower, r.middle, r.upper]

def ofWords (words : Vector UInt32 4) : Row :=
  { header := words[0], lower := words[1], middle := words[2], upper := words[3] }

def value (r : Row) : Int :=
  loadValue r.header

/-- The seven modes of a mode field. -/
def modesOf (field : UInt32) : Vector Mode 7 :=
  Vector.ofFn fun i : Fin 7 => Mode.ofBits (fieldAt 2 field i.val)

def modes (r : Row) : Vector Mode 7 :=
  modesOf (r.header >>> modeShift)

def leaves (r : Row) : Vector Leaf 8 :=
  Vector.ofFn fun i : Fin 8 =>
    let word := if i.val < 3 then r.lower else if i.val < 6 then r.middle else r.upper
    Leaf.ofBits (fieldAt leafBits word (i.val % leavesPerWord))

end Row

/-- Packs a flat condition together with its value. -/
def Flat.pack (f : Flat) (value : Int) : Row :=
  let leaf (i : Fin 8) : UInt32 := (f.leaves[i]).bits
  { header := (f.modeBits <<< modeShift) ||| storeValue value
    lower := packFields leafBits [leaf 0, leaf 1, leaf 2]
    middle := packFields leafBits [leaf 3, leaf 4, leaf 5]
    upper := packFields leafBits [leaf 6, leaf 7] }

/-! ## From a tree to its row -/

/-- Cuts and packs a tree; what stands below the third level is lost. -/
def flatten (tree : Condition) (value : Int) : Row :=
  (Flat.ofTree tree).pack value

/-- Packs a tree, and refuses one that would lose a part of itself. -/
def flattenStrict (tree : Condition) (value : Int) : Except RuleError Row :=
  let flat := Flat.ofTree tree
  if flat.truncated > 0 then
    .error (.treeTooDeep flat.truncated)
  else
    .ok (flat.pack value)

/-- Packs a tree under a depth policy. -/
def flattenWith (tree : Condition) (value : Int) : DepthPolicy → Except RuleError Row
  | .truncate => .ok (flatten tree value)
  | .reject => flattenStrict tree value

end TileRules
