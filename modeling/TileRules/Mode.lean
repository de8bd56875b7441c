import TileRules.Layout

/-!
# Mode — operators of a condition

A condition combines its two operands by AND, OR, NOR or NAND, and two bits name the operator.

- `Mode.apply` is its truth table;
- `Mode.complement` negates the result over the same operands (`apply_complement`).
-/

namespace TileRules

inductive Mode
  | and
  | or
  | nor
  | nand
  deriving DecidableEq, Repr, Inhabited

namespace Mode

def all : List Mode :=
  [.and, .or, .nor, .nand]

def bits : Mode → UInt32
  | .and => 0
  | .or => 1
  | .nor => 2
  | .nand => 3

/-- Reads the low two bits. -/
def ofBits (bits : UInt32) : Mode :=
  match (bits &&& Layout.modeMask).toNat with
  | 0 => .and
  | 1 => .or
  | 2 => .nor
  | _ => .nand

def name : Mode → String
  | .and => "And"
  | .or => "Or"
  | .nor => "Nor"
  | .nand => "Nand"

def ofName? (name : String) : Option Mode :=
  all.find? (·.name == name)

/-- The sign that stands for the operator in an inspection text. -/
def sign : Mode → String
  | .and => "&"
  | .or => "|"
  | .nor => "!|"
  | .nand => "!&"

/-! ## Meaning -/

/-- The operator that negates `self` over the same operands. -/
def complement : Mode → Mode
  | .and => .nand
  | .nand => .and
  | .or => .nor
  | .nor => .or

def apply : Mode → Bool → Bool → Bool
  | .and, a, b => a && b
  | .or, a, b => a || b
  | .nor, a, b => !(a || b)
  | .nand, a, b => !(a && b)

@[simp]
theorem complement_complement (m : Mode) : m.complement.complement = m := by
  cases m <;> rfl

@[simp]
theorem apply_complement (m : Mode) (a b : Bool) :
    m.complement.apply a b = !(m.apply a b) := by
  cases m <;> simp [complement, apply]

end Mode
end TileRules
