import Iouringd.Foundation.Transition

/-! # Runs with a history

A history is kept beside the state of a system and never looked at by it: `note` extends
the history by what one step did. Runs of the system and runs with a history are the same
runs, so a property that is about the past can be stated over the history and proved as an
invariant of the pair.
-/

namespace Foundation

variable {σ α ε η : Type}

/-- A step of the system together with its note. -/
def recorded (step : σ → α → Except ε σ) (note : σ → α → σ → η → η) (state : σ × η)
    (action : α) : Except ε (σ × η) := do
  let next ← step state.1 action
  .ok (next, note state.1 action next state.2)

variable {step : σ → α → Except ε σ} {note : σ → α → σ → η → η} {state next : σ × η}

theorem recorded_ok {action : α} (taken : recorded step note state action = .ok next) :
    step state.1 action = .ok next.1 ∧ next.2 = note state.1 action next.1 state.2 := by
  obtain ⟨middle, stepped, done⟩ := bind_ok taken
  cases done
  exact ⟨stepped, rfl⟩

/-- A run with a history is a run. -/
theorem run_of_recorded {actions : List α}
    (ran : run (recorded step note) state actions = .ok next) :
    run step state.1 actions = .ok next.1 := by
  induction actions generalizing state with
  | nil =>
      cases ran
      rfl
  | cons action rest ih =>
      rw [run_cons] at ran
      obtain ⟨middle, first, last⟩ := bind_ok ran
      rw [run_cons, (recorded_ok first).1]
      exact ih last

/-- A run has a history. -/
theorem recorded_of_run {actions : List α} {before after : σ} (history : η)
    (ran : run step before actions = .ok after) :
    ∃ final, run (recorded step note) (before, history) actions = .ok (after, final) := by
  induction actions generalizing before history with
  | nil =>
      cases ran
      exact ⟨history, rfl⟩
  | cons action rest ih =>
      rw [run_cons] at ran
      obtain ⟨middle, first, last⟩ := bind_ok ran
      obtain ⟨final, later⟩ := ih (note before action middle history) last
      refine ⟨final, ?_⟩
      have taken : recorded step note (before, history) action =
          .ok (middle, note before action middle history) := by
        unfold recorded
        rw [first]
        rfl
      rw [run_cons, taken]
      exact later

end Foundation
