import TileRules.Workspace

/-!
# Workspace — what single steps of a run do

A run of steps takes a workspace and gives an outcome together with the workspace that it leaves.
Every kind of step has one equation for that, and a sequence of steps has `Running.run_bind`.
-/

namespace TileRules
namespace Running

variable {α β ε δ : Type}

/-- The outcome of a step, and the workspace that it leaves. -/
def outcome (step : Running ε α) (w : Workspace) : Except ε α × Workspace :=
  step.run.run w

theorem outcome_pure (a : α) (w : Workspace) :
    outcome (pure a : Running ε α) w = (.ok a, w) :=
  rfl

theorem outcome_ofExcept (r : Except ε α) (w : Workspace) : outcome (ofExcept r) w = (r, w) := by
  cases r <;> rfl

theorem outcome_bind (step : Running ε α) (next : α → Running ε β) (w : Workspace) :
    outcome (step >>= next) w =
      match outcome step w with
      | (.ok a, after) => outcome (next a) after
      | (.error e, after) => (.error e, after) := by
  simp only [outcome, ExceptT.run_bind, StateT.run_bind]
  rcases step.run.run w with ⟨r, after⟩
  cases r <;> rfl

theorem outcome_bind_of_ok {step : Running ε α} {w mid : Workspace} {a : α}
    (h : outcome step w = (.ok a, mid)) (next : α → Running ε β) :
    outcome (step >>= next) w = outcome (next a) mid := by
  rw [outcome_bind, h]

/-- A sequence of steps succeeds when each of them does. -/
theorem outcome_bind_eq_ok {step : Running ε α} {next : α → Running ε β} {w after : Workspace}
    {b : β} :
    outcome (step >>= next) w = (.ok b, after) ↔
      ∃ a mid, outcome step w = (.ok a, mid) ∧ outcome (next a) mid = (.ok b, after) := by
  constructor
  · intro h
    rw [outcome_bind] at h
    rcases hstep : outcome step w with ⟨r, mid⟩
    cases r with
    | ok a =>
        rw [hstep] at h
        exact ⟨a, mid, rfl, h⟩
    | error e =>
        rw [hstep] at h
        cases h
  · rintro ⟨a, mid, hstep, hnext⟩
    rw [outcome_bind_of_ok hstep, hnext]

theorem outcome_mapError (f : ε → δ) (step : Running ε α) (w : Workspace) :
    outcome (step.mapError f) w = ((outcome step w).1.mapError f, (outcome step w).2) := by
  simp only [outcome, mapError, ExceptT.run_mk, StateT.run_bind]
  rcases step.run.run w with ⟨r, after⟩
  cases r <;> rfl

/-- A failure in other words says also what was being done. -/
theorem outcome_doing (what : String) (f : ε → StorageError) (step : Running ε α)
    (w : Workspace) :
    outcome ((step.mapError f).doing what) w =
      (((outcome step w).1.mapError f).mapError (.context what), (outcome step w).2) := by
  rw [doing, outcome_mapError, outcome_mapError]

theorem outcome_files (w : Workspace) :
    outcome (files : Running ε FileSystem) w = (.ok w.files, w) :=
  rfl

theorem outcome_report (e : Event) (w : Workspace) :
    outcome (report e : Running ε Unit) w = (.ok (), { w with events := w.events.push e }) :=
  rfl

/-- Reading the clock moves it on. -/
theorem outcome_now (w : Workspace) :
    outcome (now : Running ε Timestamp) w = (.ok w.clock, { w with clock := w.clock.later }) :=
  rfl

theorem outcome_contains (path : String) (w : Workspace) :
    outcome (contains path : Running ε Bool) w = (.ok (w.files.contains path), w) := by
  rw [contains, outcome_bind, outcome_files]
  rfl

theorem outcome_readBytes (path : String) (w : Workspace) :
    outcome (readBytes path) w = (w.files.readBytes path, w) := by
  rw [readBytes, outcome_bind, outcome_files]
  exact outcome_ofExcept _ w

theorem outcome_readText (path : String) (w : Workspace) :
    outcome (readText path) w = (w.files.readText path, w) := by
  rw [readText, outcome_bind, outcome_files]
  exact outcome_ofExcept _ w

theorem outcome_writeBytes (path : String) (bytes : List UInt8) (w : Workspace) :
    outcome (writeBytes path bytes) w =
      match w.files.writeBytes path bytes with
      | .ok files => (.ok (), { w with files })
      | .error fault => (.error fault, w) := by
  rw [writeBytes, outcome_bind, outcome_files]
  dsimp only
  rw [outcome_bind, outcome_ofExcept]
  cases w.files.writeBytes path bytes <;> rfl

end Running
end TileRules
