import TileRules.Condition.Shared
import TileRules.Event
import TileRules.Table

/-!
# Authoring — building rules and reporting it

Authors build reactions and tables step by step; every step either succeeds or fails with a
`RuleError`, and what it reports is kept also when a later step fails. The steps themselves are
`Reaction.addConditionWith` and `RuleTable.addReaction`; here they are joined with their events.

- `flattenEvents` is what flattening a tree reports: a warning if, and only if, truncation loses
  operators;
- `Authoring.addCondition` and `Authoring.addReaction` are the reporting steps.
-/

namespace TileRules

/-- What flattening a tree reports. Refusing a tree is an error and reports nothing. -/
def flattenEvents (tree : Condition) : DepthPolicy → List Event
  | .truncate =>
      let truncated := (Flat.ofTree tree).truncated
      if truncated > 0 then [.treeTruncated truncated tree.depth] else []
  | .reject => []

/-- A step of rule authoring with the events reported so far. -/
abbrev Authoring := ExceptT RuleError (StateM (Array Event))

namespace Authoring

def report (events : List Event) : Authoring Unit :=
  modify fun (log : Array Event) => log ++ events

/-- A step that reports nothing. -/
def ofExcept {α : Type} : Except RuleError α → Authoring α
  | .ok a => pure a
  | .error e => throw e

/-- The outcome of a computation without its events. -/
def outcome {α : Type} (build : Authoring α) : Except RuleError α :=
  (build.run #[]).1

/-- Packs a tree under a depth policy. -/
def flatten (tree : Condition) (value : Int) (policy : DepthPolicy) : Authoring Row := do
  let row ← ofExcept (flattenWith tree value policy)
  report (flattenEvents tree policy)
  return row

/-- Adds a weighted condition to a reaction. -/
def addCondition (r : Reaction) (tree : Condition) (value : Int) (policy : DepthPolicy) :
    Authoring Reaction := do
  let next ← ofExcept (r.addConditionWith tree value policy)
  report (flattenEvents tree policy)
  return next

/-- Registers a reaction for a tile type. -/
def addReaction (t : RuleTable) (tile : UInt32) (r : Reaction) : Authoring RuleTable := do
  let next ← ofExcept (t.addReaction tile r)
  report [.reactionRegistered tile (t.reactionCount tile) r.resultTile r.bias r.conditionCount]
  return next

end Authoring
end TileRules
