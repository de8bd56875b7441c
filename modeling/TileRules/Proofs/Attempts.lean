/-!
# Attempts — runs in which single steps may be refused

Reactions and tables are built by steps that may fail, and a step that fails changes nothing. A run
of such steps is a fold that passes over the refused ones.

- `bind_of_ok` and `bind_eq_ok` take two steps that may fail apart;
- `attempts` is the state behind a run, and `accepted` are the steps of the run that were taken;
- `attempts_induction` carries a relation between the steps taken and the state through a run;
- `inSlot` reads numbered slots that the steps taken fill from the first one on.
-/

namespace TileRules

/-! ## Two steps -/

section

variable {α β ε : Type} {first : Except ε α} {next : α → Except ε β}

theorem bind_of_ok {a : α} (h : first = .ok a) (next : α → Except ε β) :
    first >>= next = next a := by
  rw [h]
  rfl

theorem bind_eq_ok {b : β} : first >>= next = .ok b ↔ ∃ a, first = .ok a ∧ next a = .ok b := by
  constructor
  · intro h
    cases hfirst : first with
    | error e =>
        rw [hfirst] at h
        cases h
    | ok a =>
        rw [bind_of_ok hfirst] at h
        exact ⟨a, rfl, h⟩
  · rintro ⟨a, hfirst, hnext⟩
    rw [bind_of_ok hfirst, hnext]

end

/-! ## Runs of attempts -/

section

variable {σ α ε : Type} (step : σ → α → Except ε σ)

/-- One attempt. -/
def attempt (s : σ) (a : α) : σ :=
  match step s a with
  | .ok next => next
  | .error _ => s

/-- The state behind a run of attempts. -/
def attempts (s : σ) (run : List α) : σ :=
  run.foldl (attempt step) s

/-- The attempts of a run that are not refused, in order. -/
def accepted (s : σ) : List α → List α
  | [] => []
  | a :: rest =>
      match step s a with
      | .ok next => a :: accepted next rest
      | .error _ => accepted s rest

variable {step} {s : σ}

theorem attempt_of_ok {a : α} {next : σ} (h : step s a = .ok next) : attempt step s a = next := by
  rw [attempt, h]

theorem attempt_of_error {a : α} {e : ε} (h : step s a = .error e) : attempt step s a = s := by
  rw [attempt, h]

@[simp]
theorem attempts_cons (a : α) (run : List α) :
    attempts step s (a :: run) = attempts step (attempt step s a) run :=
  rfl

theorem attempts_append (run more : List α) :
    attempts step s (run ++ more) = attempts step (attempts step s run) more :=
  List.foldl_append

theorem attempts_concat (run : List α) (a : α) :
    attempts step s (run ++ [a]) = attempt step (attempts step s run) a :=
  attempts_append run [a]

theorem accepted_cons_of_ok {a : α} {next : σ} (h : step s a = .ok next) (run : List α) :
    accepted step s (a :: run) = a :: accepted step next run := by
  rw [accepted, h]

theorem accepted_cons_of_error {a : α} {e : ε} (h : step s a = .error e) (run : List α) :
    accepted step s (a :: run) = accepted step s run := by
  rw [accepted, h]

theorem accepted_sublist (run : List α) : (accepted step s run).Sublist run := by
  induction run generalizing s with
  | nil =>
      exact List.nil_sublist []
  | cons a run ih =>
      cases hstep : step s a with
      | ok next =>
          rw [accepted_cons_of_ok hstep]
          exact ih.cons_cons a
      | error e =>
          rw [accepted_cons_of_error hstep]
          exact ih.cons a

theorem mem_of_mem_accepted {run : List α} {a : α} (h : a ∈ accepted step s run) : a ∈ run :=
  (accepted_sublist run).subset h

/-- If no step is refused, the first one is taken, and none is refused behind it. -/
theorem accepted_cons_eq_self {a : α} {run : List α} (h : accepted step s (a :: run) = a :: run) :
    ∃ next, step s a = .ok next ∧ accepted step next run = run := by
  cases hstep : step s a with
  | ok next =>
      rw [accepted_cons_of_ok hstep] at h
      exact ⟨next, rfl, (List.cons.inj h).2⟩
  | error e =>
      -- A refused step leaves one step less than there are.
      rw [accepted_cons_of_error hstep] at h
      have hlength : (accepted step s run).length ≤ run.length := (accepted_sublist run).length_le
      rw [h, List.length_cons] at hlength
      exact absurd hlength (Nat.not_succ_le_self _)

/-- Nothing else than the steps taken decides on the state behind a run. -/
theorem attempts_induction {P : List α → σ → Prop} (start : P [] s)
    (taken : ∀ done s a next, P done s → step s a = .ok next → P (done ++ [a]) next)
    (run : List α) : P (accepted step s run) (attempts step s run) := by
  -- The steps taken so far come before those of the run that is left.
  have hfrom : ∀ (run : List α) (done : List α) (s : σ), P done s →
      P (done ++ accepted step s run) (attempts step s run) := by
    intro run
    induction run with
    | nil =>
        intro done s h
        rw [accepted, List.append_nil]
        exact h
    | cons a run ih =>
        intro done s h
        rw [attempts_cons]
        cases hstep : step s a with
        | ok next =>
            rw [accepted_cons_of_ok hstep, attempt_of_ok hstep, List.append_cons]
            exact ih _ _ (taken done s a next h hstep)
        | error e =>
            rw [accepted_cons_of_error hstep, attempt_of_error hstep]
            exact ih done s h
  exact hfrom run [] s start

/-- A run of which no step is refused is the sequence of its steps. -/
theorem foldlM_eq_ok_attempts {run : List α} (h : accepted step s run = run) :
    run.foldlM step s = .ok (attempts step s run) := by
  induction run generalizing s with
  | nil =>
      rfl
  | cons a run ih =>
      obtain ⟨next, hstep, hrest⟩ := accepted_cons_eq_self h
      rw [List.foldlM_cons, bind_of_ok hstep, ih hrest, attempts_cons, attempt_of_ok hstep]

/-- Other steps lead to the same state if they do what the steps taken did. -/
theorem attempts_map_of_accepted {f : α → α} {run : List α}
    (hf : ∀ s a next, step s a = .ok next → step s (f a) = .ok next)
    (h : accepted step s run = run) : attempts step s (run.map f) = attempts step s run := by
  induction run generalizing s with
  | nil =>
      rfl
  | cons a run ih =>
      obtain ⟨next, hstep, hrest⟩ := accepted_cons_eq_self h
      rw [List.map_cons, attempts_cons, attempts_cons, attempt_of_ok hstep,
        attempt_of_ok (hf s a next hstep), ih hrest]

/-- What every step keeps holds behind a run. -/
theorem attempts_invariant {P : σ → Prop} (start : P s)
    (keep : ∀ s a next, P s → step s a = .ok next → P next) (run : List α) :
    P (attempts step s run) :=
  attempts_induction (P := fun _ s => P s) start (fun _ s a next => keep s a next) run

end

/-! ## Numbered slots -/

section

variable {α β : Type}

/-- What stands in a slot when the entries of a list fill the first slots in order, and all slots
behind them are unused. -/
def inSlot (entry : α → β) (unused : β) (list : List α) (slot : Nat) : β :=
  (list[slot]?.map entry).getD unused

variable (entry : α → β) (unused : β) {list : List α} {slot : Nat}

theorem inSlot_of_lt (h : slot < list.length) :
    inSlot entry unused list slot = entry list[slot] := by
  rw [inSlot, List.getElem?_eq_getElem h]
  rfl

theorem inSlot_of_ge (h : list.length ≤ slot) : inSlot entry unused list slot = unused := by
  rw [inSlot, List.getElem?_eq_none h]
  rfl

/-- One more entry takes the first unused slot. -/
theorem inSlot_concat (list : List α) (a : α) (slot : Nat) :
    inSlot entry unused (list ++ [a]) slot =
      if slot = list.length then entry a else inSlot entry unused list slot := by
  split
  · rename_i h
    rw [inSlot, h, List.getElem?_concat_length]
    rfl
  · rename_i h
    rcases Nat.lt_or_gt_of_ne h with hlt | hgt
    · rw [inSlot, List.getElem?_append_left hlt, inSlot]
    · have hlength : (list ++ [a]).length ≤ slot := by
        rw [List.length_append, List.length_singleton]
        exact hgt
      rw [inSlot_of_ge entry unused hlength, inSlot_of_ge entry unused (Nat.le_of_lt hgt)]

end

end TileRules
