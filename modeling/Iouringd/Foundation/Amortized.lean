import Iouringd.Foundation.Transition

/-! # Amortized bounds on runs

What a run does is added up over its steps. If every step does no more than what comes in with
it and what it takes from a potential, then a whole run does no more than what came in and the
potential it started with.
-/

namespace Foundation

variable {σ α ε : Type}

/-- The weights of the steps of a run, each in the state it is taken in. -/
def runTotal (step : σ → α → Except ε σ) (weight : σ → α → Nat) : σ → List α → Nat
  | _, [] => 0
  | state, action :: rest =>
      weight state action + match step state action with
        | .ok next => runTotal step weight next rest
        | .error _ => 0

section Rules

variable {step : σ → α → Except ε σ} {weight cost income : σ → α → Nat}
  {state next final : σ} {action : α} {actions front back : List α}

theorem runTotal_cons_ok (taken : step state action = .ok next) :
    runTotal step weight state (action :: actions) =
      weight state action + runTotal step weight next actions := by
  rw [runTotal, taken]

/-- Counting the steps of a kind. -/
theorem runTotal_countP (kind : α → Bool) (ran : run step state actions = .ok final) :
    runTotal step (fun _ action => (kind action).toNat) state actions = actions.countP kind := by
  induction actions generalizing state with
  | nil => rfl
  | cons action rest ih =>
      rw [run_cons] at ran
      obtain ⟨middle, first, last⟩ := bind_ok ran
      rw [runTotal_cons_ok first, ih last, List.countP_cons, Nat.add_comm]
      cases kind action with
      | false => rfl
      | true => rfl

/-- The amortized bound, over the states in which an invariant holds, for runs under a
condition. -/
theorem Along.amortized {condition : σ → α → Prop} {invariant : σ → Prop} {potential : σ → Nat}
    (along : Along step condition state actions)
    (kept : ∀ state action next, condition state action → invariant state →
      step state action = .ok next → invariant next)
    (paid : ∀ state action next, condition state action → invariant state →
      step state action = .ok next →
      potential next + cost state action ≤ potential state + income state action)
    (holds : invariant state) (ran : run step state actions = .ok final) :
    potential final + runTotal step cost state actions ≤
      potential state + runTotal step income state actions := by
  induction actions generalizing state with
  | nil =>
      cases ran
      exact Nat.le_refl _
  | cons action rest ih =>
      rw [run_cons] at ran
      obtain ⟨middle, first, last⟩ := bind_ok ran
      have now := paid state action middle along.1 holds first
      have later := ih (along.2 middle first) (kept state action middle along.1 holds first) last
      rw [runTotal_cons_ok first, runTotal_cons_ok first]
      omega

/-- The amortized bound for every run. -/
theorem run_amortized {invariant : σ → Prop} {potential : σ → Nat}
    (kept : ∀ state action next, invariant state → step state action = .ok next → invariant next)
    (paid : ∀ state action next, invariant state → step state action = .ok next →
      potential next + cost state action ≤ potential state + income state action)
    (holds : invariant state) (ran : run step state actions = .ok final) :
    potential final + runTotal step cost state actions ≤
      potential state + runTotal step income state actions :=
  (along_of_forall (fun _ _ => trivial) state actions : Along step (fun _ _ => True) state
    actions).amortized (fun state action next _ => kept state action next)
    (fun state action next _ => paid state action next) holds ran

end Rules

end Foundation
