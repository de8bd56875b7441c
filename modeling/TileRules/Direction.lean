/-!
# Direction — the eight compass directions of a neighbouring cell

Directions are numbered clockwise from north, and three bits name one: `Direction.ofBits` reads the
low three bits of any word, so it never fails.
-/

namespace TileRules

inductive Direction
  | north
  | northEast
  | east
  | southEast
  | south
  | southWest
  | west
  | northWest
  deriving DecidableEq, Repr, Inhabited

namespace Direction

/-- Clockwise from north. -/
def all : List Direction :=
  [.north, .northEast, .east, .southEast, .south, .southWest, .west, .northWest]

def id : Direction → UInt32
  | .north => 0
  | .northEast => 1
  | .east => 2
  | .southEast => 3
  | .south => 4
  | .southWest => 5
  | .west => 6
  | .northWest => 7

def name : Direction → String
  | .north => "N"
  | .northEast => "NE"
  | .east => "E"
  | .southEast => "SE"
  | .south => "S"
  | .southWest => "SW"
  | .west => "W"
  | .northWest => "NW"

/-- Reads the low three bits. -/
def ofBits (bits : UInt32) : Direction :=
  match (bits &&& 7).toNat with
  | 0 => .north
  | 1 => .northEast
  | 2 => .east
  | 3 => .southEast
  | 4 => .south
  | 5 => .southWest
  | 6 => .west
  | _ => .northWest

def ofName? (name : String) : Option Direction :=
  all.find? (·.name == name)

end Direction
end TileRules
