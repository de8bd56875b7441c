import TileRules.Error
import TileRules.Proofs.Attempts

/-!
# InPlace — work that changes its state as it goes

A step that may be refused gives a new state or none, so a refused step changes nothing whatever it
does. Work in place has one state only and writes to it: what it has written before it ends early
stays written. So a refusal changes nothing only if all checks come before the first write.

- `InPlace` is such work, and `InPlace.Fault` says why it ends early;
- `InPlace.Does`: the work does what a step does, and has written nothing if the step is refused;
- `InPlace.inTurn` works off a run, and `InPlace.run_inTurn` says that it leaves what the run of
  attempts leaves.
-/

namespace TileRules

/-- Why work in place ends early. -/
inductive InPlace.Fault
  /-- What was asked for is refused. -/
  | refused (cause : RuleError)
  /-- A slice reaches out of its cells, or it is not as long as what goes there. -/
  | outOfBounds
  deriving DecidableEq, Repr

/-- Work on a state that is changed in place. What was written stays written behind a fault. -/
abbrev InPlace (σ : Type) :=
  EStateM InPlace.Fault σ

namespace InPlace

variable {α σ τ : Type}

/-- A check that may refuse what was asked for. -/
def ofExcept : Except RuleError α → InPlace σ α
  | .ok a => pure a
  | .error cause => throw (.refused cause)

/-- Work on a part of the state. The part is put back however the work ends. -/
def within (part : σ → τ) (put : σ → τ → σ) (work : InPlace τ Unit) : InPlace σ Unit := fun s =>
  match work.run (part s) with
  | .ok _ t => .ok () (put s t)
  | .error fault t => .error fault (put s t)

/-- Steps one after another. One that ends early is passed over, and what it has written stays. -/
def inTurn (work : α → InPlace σ Unit) (run : List α) : InPlace σ Unit :=
  forM run fun a => tryCatch (work a) fun _ => pure ()

/-! ## Steps in place -/

/-- The end of work on `s` that does what a step does: a refused step leaves `s` as it was. -/
def ending (s : σ) : Except RuleError σ → EStateM.Result Fault σ Unit
  | .ok next => .ok () next
  | .error cause => .error (.refused cause) s

/-- The work does in place what the step does. -/
def Does (work : InPlace σ Unit) (step : σ → Except RuleError σ) : Prop :=
  ∀ s, work.run s = ending s (step s)

theorem run_within {part : σ → τ} {put : σ → τ → σ} {work : InPlace τ Unit} {s : σ} {t : τ}
    (h : work.run (part s) = .ok () t) : (within part put work).run s = .ok () (put s t) := by
  rw [EStateM.run, within, h]

theorem Does.run_eq {work : InPlace σ Unit} {step : σ → Except RuleError σ} (h : Does work step)
    {s : σ} {r : Except RuleError σ} (hstep : step s = r) : work.run s = ending s r := by
  rw [h s, hstep]

/-- A step that is passed over when it is refused is an attempt. -/
theorem Does.run_attempt {work : α → InPlace σ Unit} {step : σ → α → Except RuleError σ} {a : α}
    (h : Does (work a) fun s => step s a) (s : σ) :
    (tryCatch (work a) fun _ => pure () : InPlace σ Unit).run s = .ok () (attempt step s a) := by
  have hwork : work a s = ending s (step s a) := h s
  show EStateM.tryCatch (work a) (fun _ => pure ()) s = _
  -- The handler takes nothing back: it starts from what the fault left.
  delta EStateM.tryCatch
  rw [hwork]
  cases hstep : step s a with
  | ok next =>
      rw [attempt_of_ok hstep]
      rfl
  | error cause =>
      rw [attempt_of_error hstep]
      rfl

/-- Work that does the steps of a run leaves what the run of attempts leaves, although it takes
nothing back. -/
theorem run_inTurn {work : α → InPlace σ Unit} {step : σ → α → Except RuleError σ}
    (h : ∀ a, Does (work a) fun s => step s a) (s : σ) (run : List α) :
    (inTurn work run).run s = .ok () (attempts step s run) := by
  induction run generalizing s with
  | nil =>
      rfl
  | cons a run ih =>
      rw [inTurn, List.forM_cons, EStateM.run_bind, (h a).run_attempt s]
      exact ih (attempt step s a)

end InPlace
end TileRules
