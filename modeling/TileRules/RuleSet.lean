import TileRules.Authoring

/-!
# Rule set — the built-in rules of the world

Grass turns to mud near water and to lava beside a lava front; mud dries back to grass or floods
into water; water silts into sand or mud where it is crowded; sand is reclaimed by water or grass.

- `RuleSet` names the rule sets that can be compiled: the world's, and one without any rule;
- `worldRules` compiles the world's rules into a table, and `buildRuleSet` the selected ones.
-/

namespace TileRules

inductive RuleSet
  /-- The reactions of the world. -/
  | world
  /-- No reaction at all. -/
  | empty
  deriving DecidableEq, Repr, Inhabited

namespace RuleSet

def all : List RuleSet :=
  [.world, .empty]

/-- The name in documents and on the command line. -/
def name : RuleSet → String
  | .world => "world"
  | .empty => "empty"

/-- The name in the text behind a fingerprint. -/
def label : RuleSet → String
  | .world => "World"
  | .empty => "Empty"

/-- Reads a name in any case. -/
def ofText (text : String) : Except RuleError RuleSet :=
  let name := Text.lowercase text
  match all.find? (·.name == name) with
  | some set => .ok set
  | none => .error (.invalidArgument (.unknownRuleSet name))

end RuleSet

/-! ## Conditions of the world -/

namespace World

/-- The neighbour in this direction, at this distance, is this tile. -/
def near (tile : Tile) (direction : Direction) (distance : UInt32) : Condition :=
  .tileAt tile.id direction.id distance

def water (direction : Direction) (distance : UInt32) : Condition :=
  near .water direction distance

/-- Water one or two rings away. -/
def waterLine (direction : Direction) : Except RuleError Condition :=
  Condition.any [water direction 1, water direction 2]

def closeToWater : Condition :=
  water .north 1

def closeToMud : Condition :=
  near .mud .north 1

def closeToSand : Condition :=
  near .sand .north 1

def fairlyCloseToWater : Except RuleError Condition :=
  Condition.any [water .northEast 1, water .north 1, water .north 2]

/-- Two cells of water ahead, and none beside the first of them. -/
def waterFlow : Except RuleError Condition := do
  let beside ← Condition.any [water .northWest 1, water .northEast 1]
  Condition.all [water .north 1, water .north 2, beside.negate]

/-- Water to the north, the east and the south. -/
def waterPool : Except RuleError Condition := do
  Condition.all [← waterLine .north, ← waterLine .east, ← waterLine .south]

/-- Water on two opposite sides. -/
def surroundedByWater : Except RuleError Condition := do
  let straight ← Condition.all [← waterLine .north, ← waterLine .south]
  let diagonal ← Condition.all [water .northEast 1, water .southWest 1]
  Condition.any [straight, diagonal]

def enoughWater : Except RuleError Condition := do
  let corner ← Condition.any [water .northWest 1, water .southEast 1]
  Condition.all [water .north 1, water .east 1, water .northEast 1, corner]

def lotsOfGrass : Except RuleError Condition :=
  Condition.all [near .grass .north 1, near .grass .south 1]

/-- Three cells of lava in a row ahead. -/
def lavaRow : Except RuleError Condition := do
  let corners ← Condition.all [near .lava .northWest 1, near .lava .northEast 1]
  Condition.all [corners, near .lava .north 1]

end World

/-! ## Compilation -/

/-- A reaction with its weighted conditions. -/
def weighted (result : Tile) (bias : Int) (conditions : List (Condition × Int))
    (policy : DepthPolicy) : Authoring Reaction :=
  conditions.foldlM
    (fun r (tree, value) => Authoring.addCondition r tree value policy)
    (Reaction.new result.id bias)

/-- The reactions of the world with the tile that each belongs to, in order of registration. -/
def worldReactions (policy : DepthPolicy) : Authoring (List (Tile × Reaction)) := do
  let fairlyCloseToWater ← Authoring.ofExcept World.fairlyCloseToWater
  let waterFlow ← Authoring.ofExcept World.waterFlow
  let waterPool ← Authoring.ofExcept World.waterPool
  let surroundedByWater ← Authoring.ofExcept World.surroundedByWater
  let enoughWater ← Authoring.ofExcept World.enoughWater
  let lotsOfGrass ← Authoring.ofExcept World.lotsOfGrass
  let lavaRow ← Authoring.ofExcept World.lavaRow
  let grassToMud ← weighted .mud (-3) [(World.closeToWater, 4)] policy
  let grassToLava ← weighted .lava (-1) [(lavaRow, 2)] policy
  let grassToSand ← weighted .sand (-3) [] policy
  let mudToWater ← weighted .water (-6)
    [(waterFlow, 2), (surroundedByWater, 2), (World.closeToWater, 5), (World.closeToSand, 2)] policy
  let mudToGrass ← weighted .grass 2
    [(fairlyCloseToWater, -1), (World.closeToWater, -2), (World.closeToMud, -1)] policy
  let waterToSand ← weighted .sand (-1)
    [(waterFlow, -2), (waterPool, -2), (enoughWater, -2), (surroundedByWater, -2),
      (World.closeToMud, -2)] policy
  let waterToMud ← weighted .mud 0
    [(waterFlow, -2), (waterPool, -2), (enoughWater, -2), (surroundedByWater, -2)] policy
  let sandToWater ← weighted .water (-1) [(surroundedByWater, 2)] policy
  let sandToGrass ← weighted .grass (-2) [(lotsOfGrass, 3)] policy
  return [(.grass, grassToMud), (.grass, grassToLava), (.grass, grassToSand),
    (.mud, mudToWater), (.mud, mudToGrass), (.water, waterToSand), (.water, waterToMud),
    (.sand, sandToWater), (.sand, sandToGrass)]

/-- Compiles the reactions of the world into a table. -/
def worldRules (policy : DepthPolicy) : Authoring RuleTable := do
  let reactions ← worldReactions policy
  let table ← reactions.foldlM (fun t (tile, r) => Authoring.addReaction t tile.id r)
    RuleTable.empty
  Authoring.report [.worldCompiled table.totalReactions policy]
  return table

/-- Compiles the selected rule set; deep trees are refused where depth is strict. -/
def buildRuleSet (ruleSet : RuleSet) (strictDepth : Bool) : Authoring RuleTable :=
  match ruleSet with
  | .world => worldRules (if strictDepth then .reject else .truncate)
  | .empty => pure RuleTable.empty

end TileRules
