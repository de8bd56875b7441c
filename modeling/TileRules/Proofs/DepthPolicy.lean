import TileRules.Proofs.Authoring
import TileRules.Proofs.Depth

/-!
# Depth policy — what becomes of a tree that is too deep

A tree of more than three levels loses the operators at its third level when it is flattened. One
policy refuses such a tree, and the other one flattens it and warns; both name the number of the
operators, counted once for every path that leads to one. A tree that is neither refused nor warned
of is kept as it is.

- `Shared.operatorPaths` are the paths to the operators at a level of a tree whose nodes may be used
  more than once, and `Shared.length_operatorPaths` counts them;
- `Condition.cut_eq_self_iff`: cutting changes a tree exactly if it is deeper;
- `no_operator_is_lost_silently` compares the two policies with the depth of the tree.
-/

namespace TileRules

/-! ## Paths -/

/-- One of the two operands of an operator. -/
inductive Side
  | first
  | second
  deriving DecidableEq, Repr

/-- The operands on the way down from a root. -/
abbrev Path := List Side

/-- All paths of a length. -/
def Path.all : Nat → List Path
  | 0 => [[]]
  | length + 1 => (all length).map (.first :: ·) ++ (all length).map (.second :: ·)

namespace Shared

/-- The node that a path leads to. No path leads on behind a leaf. -/
def node? : Path → Shared → Option Shared
  | [], s => some s
  | _ :: _, .leaf _ _ => none
  | .first :: path, .op _ _ first _ => first.node? path
  | .second :: path, .op _ _ _ second => second.node? path

def isOperator : Shared → Bool
  | .leaf _ _ => false
  | .op _ _ _ _ => true

/-- Whether a path leads to an operator. -/
def meetsOperator (s : Shared) (path : Path) : Bool :=
  (s.node? path).any isOperator

/-- The paths to the operators `level` edges below the root. An operator that is used by several
others has several paths. -/
def operatorPaths (s : Shared) (level : Nat) : List Path :=
  (Path.all level).filter s.meetsOperator

theorem length_operatorPaths (s : Shared) (level : Nat) :
    (s.operatorPaths level).length = s.tree.operatorsAt level := by
  induction s generalizing level with
  | leaf label l =>
      have hnone : ∀ path, (leaf label l).meetsOperator path = false := by
        intro path
        cases path <;> rfl
      simp [operatorPaths, hnone, tree]
  | op label mode first second ihFirst ihSecond =>
      cases level with
      | zero =>
          rfl
      | succ level =>
          -- Each path starts on one of the two sides, and goes on in the tree on that side.
          calc ((op label mode first second).operatorPaths (level + 1)).length
              = (first.operatorPaths level).length + (second.operatorPaths level).length := by
                simp only [operatorPaths, Path.all, List.filter_append, List.filter_map,
                  List.length_append, List.length_map]
                rfl
            _ = first.tree.operatorsAt level + second.tree.operatorsAt level := by
                rw [ihFirst, ihSecond]
            _ = (op label mode first second).tree.operatorsAt (level + 1) := rfl

end Shared

namespace Condition

variable {c : Condition} {levels : Nat}

/-- A level has room for two operators below each of the level above. -/
theorem operatorsAt_le (level : Nat) (c : Condition) : c.operatorsAt level ≤ 2 ^ level := by
  induction level generalizing c with
  | zero =>
      rw [operatorsAt_zero]
      split <;> decide
  | succ level ih =>
      have hfirst := ih c.branches.1
      have hsecond := ih c.branches.2
      rw [operatorsAt_succ, Nat.pow_succ]
      omega

theorem depth_cut_le (c : Condition) (levels : Nat) : (c.cut levels).depth ≤ levels := by
  induction c generalizing levels with
  | leaf l =>
      simp [depth]
  | op mode first second ihFirst ihSecond =>
      cases levels with
      | zero =>
          simp [depth]
      | succ levels =>
          have hfirst := ihFirst levels
          have hsecond := ihSecond levels
          simp only [cut_succ_op, depth]
          omega

/-- Cutting changes a tree exactly if it is deeper. -/
theorem cut_eq_self_iff : c.cut levels = c ↔ c.depth ≤ levels := by
  constructor
  · intro hsame
    simpa [hsame] using c.depth_cut_le levels
  · exact cut_eq_self

end Condition

/-! ## Policies -/

namespace Authoring

/-- Flattening without a check of depth warns where operators are lost. -/
theorem result_flatten_truncate (tree : Condition) (value : Int) (log : Array Event) :
    (Authoring.flatten tree value .truncate).result log =
      (.ok (TileRules.flatten tree value),
        if 0 < (Flat.ofTree tree).truncated then
          log.push (.treeTruncated (Flat.ofTree tree).truncated tree.depth)
        else log) := by
  rw [result_flatten]
  by_cases hlost : 0 < (Flat.ofTree tree).truncated
  · simp [flattenWith, flattenEvents, hlost]
  · simp [flattenWith, flattenEvents, hlost]

/-- Flattening with a check of depth reports nothing. -/
theorem result_flatten_reject (tree : Condition) (value : Int) (log : Array Event) :
    (Authoring.flatten tree value .reject).result log = (flattenStrict tree value, log) := by
  rw [result_flatten, flattenWith]
  cases flattenStrict tree value with
  | ok row =>
      simp [flattenEvents]
  | error e =>
      rfl

end Authoring

/-- What is too deep for one policy is warned of under the other one, and anything else is kept.

The first parts are about the number of lost operators: it counts the paths of three edges that lead
to one, also where operators are used more than once. The middle parts are about the two policies,
and the last one says that a tree changes only where something is lost. -/
theorem no_operator_is_lost_silently (tree : Condition) (value : Int) :
    (Flat.ofTree tree).truncated = tree.operatorsAt 3 ∧
      (∀ s : Shared, s.tree = tree →
        (Flat.ofTree tree).truncated = (s.operatorPaths 3).length) ∧
      (Flat.ofTree tree).truncated ≤ 8 ∧
      (0 < (Flat.ofTree tree).truncated ↔ 3 < tree.depth) ∧
      flattenStrict tree value =
        (if 0 < (Flat.ofTree tree).truncated then
          .error (.treeTooDeep (Flat.ofTree tree).truncated)
        else .ok (flatten tree value)) ∧
      (∀ log,
        (Authoring.flatten tree value .truncate).result log =
            (.ok (flatten tree value),
              if 0 < (Flat.ofTree tree).truncated then
                log.push (.treeTruncated (Flat.ofTree tree).truncated tree.depth)
              else log) ∧
          (Authoring.flatten tree value .reject).result log = (flattenStrict tree value, log)) ∧
      (Event.treeTruncated (Flat.ofTree tree).truncated tree.depth).level = .warn ∧
      (tree.cut 3 = tree ↔ (Flat.ofTree tree).truncated = 0) := by
  have hcount := Flat.truncated_ofTree tree
  refine ⟨hcount, ?_, ?_, Flat.truncated_pos_iff, rfl, ?_, rfl, ?_⟩
  · intro s hs
    rw [hcount, Shared.length_operatorPaths, hs]
  · rw [hcount]
    exact tree.operatorsAt_le 3
  · intro log
    exact ⟨Authoring.result_flatten_truncate tree value log,
      Authoring.result_flatten_reject tree value log⟩
  · have hdeep : 0 < (Flat.ofTree tree).truncated ↔ 3 < tree.depth := Flat.truncated_pos_iff
    rw [Condition.cut_eq_self_iff]
    omega

/-- An operator with the label 2 that is used on both sides, three edges below the root. -/
def sharedTwice : Shared :=
  let twice : Shared := .op 3 .nor (.op 2 .and (.leaf 0 ⟨33⟩) (.leaf 1 ⟨34⟩))
    (.op 2 .and (.leaf 0 ⟨33⟩) (.leaf 1 ⟨34⟩))
  .op 6 .or (.op 4 .and twice (.leaf 0 ⟨33⟩)) (.leaf 5 ⟨35⟩)

theorem sharedTwice_is_lost_twice :
    (Flat.ofTree sharedTwice.tree).truncated = (sharedTwice.operatorPaths 3).length ∧
      sharedTwice.operatorPaths 3 =
        [[.first, .first, .first], [.first, .first, .second]] := by
  have hpaths := (no_operator_is_lost_silently sharedTwice.tree 5).2.1 sharedTwice rfl
  exact ⟨hpaths, by decide⟩

end TileRules
