/-!
# Tile — the tile types that have a name

The table addresses tiles by a raw five-bit id, so every id below 32 is a tile type; seven of them
are named. `Tile.ofId?` finds the name of an id and `describeTile` writes any id for a reader.
-/

namespace TileRules

inductive Tile
  | void
  | water
  | lava
  | magic
  | grass
  | mud
  | sand
  deriving DecidableEq, Repr, Inhabited

namespace Tile

/-- The named tiles, in the order of their ids. -/
def all : List Tile :=
  [.void, .water, .lava, .magic, .grass, .mud, .sand]

def id : Tile → UInt32
  | .void => 0
  | .water => 1
  | .lava => 2
  | .magic => 3
  | .grass => 4
  | .mud => 5
  | .sand => 20

def name : Tile → String
  | .void => "Void"
  | .water => "Water"
  | .lava => "Lava"
  | .magic => "Magic"
  | .grass => "Grass"
  | .mud => "Mud"
  | .sand => "Sand"

def ofId? (id : UInt32) : Option Tile :=
  all.find? (·.id == id)

def ofName? (name : String) : Option Tile :=
  all.find? (·.name == name)

end Tile

/-- The name of a tile id, or the id behind a hash sign where it has none. -/
def describeTile (id : UInt32) : String :=
  match Tile.ofId? id with
  | some tile => tile.name
  | none => s!"#{id}"

end TileRules
