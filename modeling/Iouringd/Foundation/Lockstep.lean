import Iouringd.Foundation.Transition

/-! # Two computations in lockstep

Two computations that may fail are in lockstep when they fail with the same error or succeed
with related results. The rules below follow the way such computations are put together, so
that a statement about two runs of one program is proved by following its text.
-/

namespace Foundation

variable {σ τ α β γ δ ε : Type}

/-- Both fail alike, or both succeed with related results. -/
inductive Lockstep (related : α → β → Prop) : Except ε α → Except ε β → Prop where
  | error (failure : ε) : Lockstep related (.error failure) (.error failure)
  | ok {left : α} {right : β} (same : related left right) : Lockstep related (.ok left) (.ok right)

namespace Lockstep

variable {related : α → β → Prop} {later : γ → δ → Prop}

/-- A sequence of two steps. -/
theorem bind {left : Except ε α} {right : Except ε β} {next : α → Except ε γ}
    {nextRight : β → Except ε δ} (first : Lockstep related left right)
    (second : ∀ value valueRight, related value valueRight →
      Lockstep later (next value) (nextRight valueRight)) :
    Lockstep later (left >>= next) (right >>= nextRight) := by
  cases first with
  | error failure => exact .error failure
  | ok same => exact second _ _ same

/-- A branch that both take. -/
theorem ite {condition : Prop} [Decidable condition] {left leftElse : Except ε α}
    {right rightElse : Except ε β} (yes : condition → Lockstep related left right)
    (no : ¬ condition → Lockstep related leftElse rightElse) :
    Lockstep related (if condition then left else leftElse)
      (if condition then right else rightElse) := by
  by_cases holds : condition
  · rw [if_pos holds, if_pos holds]
    exact yes holds
  · rw [if_neg holds, if_neg holds]
    exact no holds

theorem mono {weaker : α → β → Prop} {left : Except ε α} {right : Except ε β}
    (implies : ∀ value valueRight, related value valueRight → weaker value valueRight)
    (both : Lockstep related left right) : Lockstep weaker left right := by
  cases both with
  | error failure => exact .error failure
  | ok same => exact .ok (implies _ _ same)

/-- What the first result is known to satisfy. -/
theorem and_left {holds : α → Prop} {left : Except ε α} {right : Except ε β}
    (both : Lockstep related left right) (known : ∀ value, left = .ok value → holds value) :
    Lockstep (fun value valueRight => holds value ∧ related value valueRight) left right := by
  cases both with
  | error failure => exact .error failure
  | ok same => exact .ok ⟨known _ rfl, same⟩

/-- A loop over a list. -/
theorem foldlM {items : List γ} {body : α → γ → Except ε α} {bodyRight : β → γ → Except ε β}
    {state : α} {stateRight : β} (start : related state stateRight)
    (step : ∀ value valueRight item, related value valueRight →
      Lockstep related (body value item) (bodyRight valueRight item)) :
    Lockstep related (items.foldlM body state) (items.foldlM bodyRight stateRight) := by
  induction items generalizing state stateRight with
  | nil => exact .ok start
  | cons item rest ih =>
      rw [List.foldlM_cons, List.foldlM_cons]
      exact (step _ _ item start).bind fun _ _ same => ih same

/-- If the first succeeds, so does the second. -/
theorem succeeds {left : Except ε α} {right : Except ε β} {value : α}
    (both : Lockstep related left right) (succeeded : left = .ok value) :
    ∃ valueRight, right = .ok valueRight ∧ related value valueRight := by
  cases both with
  | error failure => cases succeeded
  | ok same =>
      cases succeeded
      exact ⟨_, rfl, same⟩

end Lockstep

/-- What every step of one system does under the condition, a step of another does too; so
does every run. -/
theorem run_simulated {step : σ → γ → Except ε σ} {twinStep : τ → γ → Except ε τ}
    {condition : σ → γ → Prop} {related : σ → τ → Prop} {state next : σ} {twin : τ}
    {actions : List γ} (along : Along step condition state actions)
    (simulates : ∀ state twin action next, condition state action → related state twin →
      step state action = .ok next →
        ∃ nextTwin, twinStep twin action = .ok nextTwin ∧ related next nextTwin)
    (start : related state twin) (ran : run step state actions = .ok next) :
    ∃ nextTwin, run twinStep twin actions = .ok nextTwin ∧ related next nextTwin := by
  induction actions generalizing state twin with
  | nil =>
      cases ran
      exact ⟨twin, rfl, start⟩
  | cons action rest ih =>
      rw [run_cons] at ran
      obtain ⟨middle, first, last⟩ := bind_ok ran
      obtain ⟨middleTwin, taken, middleRelated⟩ :=
        simulates state twin action middle along.1 start first
      obtain ⟨nextTwin, later, nextRelated⟩ := ih (along.2 middle first) middleRelated last
      refine ⟨nextTwin, ?_, nextRelated⟩
      rw [run_cons, taken]
      exact later

end Foundation
