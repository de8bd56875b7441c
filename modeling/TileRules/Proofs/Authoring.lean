import TileRules.Authoring
import TileRules.Proofs.Attempts

/-!
# Authoring — what steps of authoring do

A step of authoring takes the log of events so far and gives an outcome together with the log that
it leaves. Every kind of step has one equation for that, and a sequence of steps has `result_bind`.

What is built does not depend on the log. `Authoring.Yields` says so of a step that succeeds, and
`Yields.foldlM` of a whole run of steps, none of which is refused. `Authoring.Makes` tells what a
step builds by a property.
-/

namespace TileRules
namespace Authoring

variable {α β σ : Type}

/-- The outcome of a step behind this log, and the log that the step leaves. -/
def result (build : Authoring α) (log : Array Event) : Except RuleError α × Array Event :=
  build.run.run log

theorem result_ofExcept (r : Except RuleError α) (log : Array Event) :
    result (ofExcept r) log = (r, log) := by
  cases r <;> rfl

theorem result_bind (build : Authoring α) (next : α → Authoring β) (log : Array Event) :
    result (build >>= next) log =
      match result build log with
      | (.ok a, after) => result (next a) after
      | (.error e, after) => (.error e, after) := by
  simp only [result, ExceptT.run_bind, StateT.run_bind]
  rcases build.run.run log with ⟨r, after⟩
  cases r <;> rfl

theorem result_flatten (tree : Condition) (value : Int) (policy : DepthPolicy)
    (log : Array Event) :
    (Authoring.flatten tree value policy).result log =
      match flattenWith tree value policy with
      | .ok row => (.ok row, log ++ flattenEvents tree policy)
      | .error e => (.error e, log) := by
  rw [Authoring.flatten, result_bind, result_ofExcept]
  cases flattenWith tree value policy <;> rfl

/-! ## What a step builds -/

/-- The step succeeds with this, whatever the log. -/
def Yields (build : Authoring α) (a : α) : Prop :=
  ∀ log, ∃ after, build.result log = (.ok a, after)

theorem Yields.outcome_eq {build : Authoring α} {a : α} (h : Yields build a) :
    build.outcome = .ok a := by
  obtain ⟨after, hresult⟩ := h #[]
  exact congrArg Prod.fst hresult

theorem Yields.pure (a : α) : Yields (pure a) a :=
  fun log => ⟨log, rfl⟩

theorem Yields.ofExcept {r : Except RuleError α} {a : α} (h : r = .ok a) :
    Yields (ofExcept r) a := by
  intro log
  exact ⟨log, by rw [result_ofExcept, h]⟩

theorem Yields.report (events : List Event) : Yields (report events) () :=
  fun log => ⟨log ++ events, rfl⟩

theorem Yields.bind {build : Authoring α} {next : α → Authoring β} {a : α} {b : β}
    (hbuild : Yields build a) (hnext : Yields (next a) b) : Yields (build >>= next) b := by
  intro log
  rcases hbuild log with ⟨mid, hmid⟩
  rcases hnext mid with ⟨after, hafter⟩
  refine ⟨after, ?_⟩
  rw [result_bind, hmid]
  exact hafter

theorem yields_addCondition {r next : Reaction} {tree : Condition} {value : Int}
    {policy : DepthPolicy} (h : r.addConditionWith tree value policy = .ok next) :
    Yields (addCondition r tree value policy) next :=
  (Yields.ofExcept h).bind ((Yields.report _).bind (Yields.pure next))

theorem yields_addReaction {t next : RuleTable} {tile : UInt32} {r : Reaction}
    (h : t.addReaction tile r = .ok next) : Yields (addReaction t tile r) next :=
  (Yields.ofExcept h).bind ((Yields.report _).bind (Yields.pure next))

/-- The step succeeds with something like this, whatever the log. -/
def Makes (build : Authoring α) (P : α → Prop) : Prop :=
  ∃ a, Yields build a ∧ P a

theorem Makes.bind {build : Authoring α} {next : α → Authoring β} {P : α → Prop} {Q : β → Prop}
    (hbuild : Makes build P) (hnext : ∀ a, P a → Makes (next a) Q) : Makes (build >>= next) Q := by
  rcases hbuild with ⟨a, ha, hP⟩
  rcases hnext a hP with ⟨b, hb, hQ⟩
  exact ⟨b, ha.bind hb, hQ⟩

/-- A run of steps builds what the same run builds without a log, if none of its steps is
refused. -/
theorem Yields.foldlM {build : σ → α → Authoring σ} {step : σ → α → Except RuleError σ}
    (hstep : ∀ s a next, step s a = .ok next → Yields (build s a) next) {s : σ} {run : List α}
    (hrun : accepted step s run = run) : Yields (run.foldlM build s) (attempts step s run) := by
  induction run generalizing s with
  | nil =>
      exact Yields.pure s
  | cons a run ih =>
      rcases accepted_cons_eq_self hrun with ⟨next, hnext, hrest⟩
      rw [List.foldlM_cons, attempts_cons, attempt_of_ok hnext]
      exact (hstep s a next hnext).bind (ih hrest)

end Authoring
end TileRules
