import Mathlib.Data.List.Basic
import Mathlib.Data.List.Induction

/-! # Runs of a partial step function

A step function may fail, and a run fails with its first step that does. The rules
below turn a fact about every step into a fact about every run.
-/

namespace Foundation

variable {σ α β ε : Type}

/-- The two halves of a computation that succeeded. -/
theorem bind_ok {first : Except ε α} {next : α → Except ε β} {result : β}
    (succeeded : first >>= next = .ok result) :
    ∃ value, first = .ok value ∧ next value = .ok result := by
  cases first with
  | error failure => cases succeeded
  | ok value => exact ⟨value, rfl, succeeded⟩

/-- A computation whose result was looked at succeeded. -/
theorem exists_of_toOption_map {computed : Except ε α} {view : α → β} {seen : β}
    (looked : computed.toOption.map view = some seen) :
    ∃ value, computed = .ok value ∧ view value = seen := by
  cases computed with
  | error failure => cases looked
  | ok value => exact ⟨value, rfl, Option.some.inj looked⟩

/-- A computation that has a result succeeded. -/
theorem ok_of_toOption {computed : Except ε α} {value : α}
    (looked : computed.toOption = some value) : computed = .ok value := by
  cases computed with
  | error failure => cases looked
  | ok found => exact congrArg Except.ok (Option.some.inj looked)

/-- A step that succeeded goes on. -/
theorem ok_bind (value : α) (next : α → Except ε β) : (Except.ok value >>= next) = next value :=
  rfl

/-- What a computation fails with. -/
def failure : Except ε α → Option ε
  | .error error => some error
  | .ok _ => none

/-- What fails has failed. -/
theorem eq_error_of_failure {computed : Except ε α} {error : ε}
    (failed : failure computed = some error) : computed = .error error := by
  cases computed with
  | error other => rw [Option.some.inj failed]
  | ok value => cases failed

/-- Take the steps of a list in order. -/
def run (step : σ → α → Except ε σ) (state : σ) (actions : List α) : Except ε σ :=
  actions.foldlM step state

section Rules

variable {step : σ → α → Except ε σ} {state next : σ} {action : α} {actions : List α}

theorem run_cons :
    run step state (action :: actions) = step state action >>= (run step · actions) := rfl

theorem run_append (front back : List α) :
    run step state (front ++ back) = run step state front >>= (run step · back) := by
  unfold run
  rw [List.foldlM_append]

/-- A run that succeeds and ends with one more step. -/
theorem run_concat_ok (ran : run step state (actions ++ [action]) = .ok next) :
    ∃ middle, run step state actions = .ok middle ∧ step middle action = .ok next := by
  rw [run_append] at ran
  obtain ⟨middle, before, last⟩ := bind_ok ran
  rw [run_cons] at last
  obtain ⟨final, taken, done⟩ := bind_ok last
  cases done
  exact ⟨middle, before, taken⟩

/-- What every step relates, every run relates. -/
theorem run_related {related : σ → σ → Prop} (refl : ∀ state, related state state)
    (trans : ∀ first second third, related first second → related second third →
      related first third)
    (stepRelated : ∀ state action next, action ∈ actions → step state action = .ok next →
      related state next)
    (ran : run step state actions = .ok next) : related state next := by
  induction actions generalizing state with
  | nil =>
      cases ran
      exact refl next
  | cons action rest ih =>
      rw [run_cons] at ran
      obtain ⟨middle, first, last⟩ := bind_ok ran
      refine trans state middle next (stepRelated state action middle List.mem_cons_self first)
        (ih ?_ last)
      intro before other after member taken
      exact stepRelated before other after (List.mem_cons_of_mem action member) taken

/-- What every allowed step preserves, every run of allowed steps preserves. -/
theorem run_preserves {invariant : σ → Prop}
    (preserved : ∀ state action next, action ∈ actions → invariant state →
      step state action = .ok next → invariant next)
    (holds : invariant state) (ran : run step state actions = .ok next) : invariant next := by
  induction actions generalizing state with
  | nil =>
      cases ran
      exact holds
  | cons action rest ih =>
      rw [run_cons] at ran
      obtain ⟨middle, first, last⟩ := bind_ok ran
      refine ih ?_ (preserved state action middle List.mem_cons_self holds first) last
      intro before other after member
      exact preserved before other after (List.mem_cons_of_mem action member)

end Rules

/-- A condition on the state before each step and on the step, for a whole run. -/
def Along (step : σ → α → Except ε σ) (condition : σ → α → Prop) : σ → List α → Prop
  | _, [] => True
  | state, action :: rest =>
      condition state action ∧ ∀ next, step state action = .ok next → Along step condition next rest

/-- `Along` for a condition that can be evaluated. -/
def checkAlong (step : σ → α → Except ε σ) (condition : σ → α → Bool) : σ → List α → Bool
  | _, [] => true
  | state, action :: rest =>
      condition state action && match step state action with
        | .ok next => checkAlong step condition next rest
        | .error _ => true

section Conditions

variable {step : σ → α → Except ε σ} {condition : σ → α → Prop} {state next : σ}
  {actions : List α}

theorem along_of_checkAlong {test : σ → α → Bool}
    (checked : checkAlong step test state actions = true) :
    Along step (fun state action => test state action = true) state actions := by
  induction actions generalizing state with
  | nil => trivial
  | cons action rest ih =>
      rw [checkAlong, Bool.and_eq_true] at checked
      refine ⟨checked.1, ?_⟩
      intro next taken
      have later := checked.2
      rw [taken] at later
      exact ih later

/-- What always holds, holds along every run. -/
theorem along_of_forall (holds : ∀ state action, condition state action) (state : σ)
    (actions : List α) : Along step condition state actions := by
  induction actions generalizing state with
  | nil => trivial
  | cons action rest ih => exact ⟨holds state action, fun next _ => ih next⟩

/-- A condition on the steps alone can be added. -/
theorem Along.with_mem {allowed : α → Prop} (along : Along step condition state actions)
    (each : ∀ action ∈ actions, allowed action) :
    Along step (fun state action => condition state action ∧ allowed action) state actions := by
  induction actions generalizing state with
  | nil => trivial
  | cons action rest ih =>
      refine ⟨⟨along.1, each action List.mem_cons_self⟩, ?_⟩
      intro next taken
      exact ih (along.2 next taken) fun other member => each other (List.mem_cons_of_mem _ member)

/-- Two conditions along a run are one. -/
theorem Along.and {other : σ → α → Prop} (first : Along step condition state actions)
    (second : Along step other state actions) :
    Along step (fun state action => condition state action ∧ other state action) state actions := by
  induction actions generalizing state with
  | nil => trivial
  | cons action rest ih =>
      refine ⟨⟨first.1, second.1⟩, ?_⟩
      intro next taken
      exact ih (first.2 next taken) (second.2 next taken)

/-- What every step under the condition preserves, every run under it preserves. -/
theorem Along.preserves {invariant : σ → Prop} (along : Along step condition state actions)
    (preserved : ∀ state action next, condition state action → invariant state →
      step state action = .ok next → invariant next)
    (holds : invariant state) (ran : run step state actions = .ok next) : invariant next := by
  induction actions generalizing state with
  | nil =>
      cases ran
      exact holds
  | cons action rest ih =>
      rw [run_cons] at ran
      obtain ⟨middle, first, last⟩ := bind_ok ran
      exact ih (along.2 middle first) (preserved state action middle along.1 holds first) last

/-- What every step under the condition preserves while it counts the steps, up to a limit, every
run under it preserves that stays within the limit. -/
theorem Along.counts {invariant : Nat → σ → Prop} {start limit : Nat}
    (along : Along step condition state actions)
    (preserved : ∀ count state action next, count < limit → condition state action →
      invariant count state → step state action = .ok next → invariant (count + 1) next)
    (short : start + actions.length ≤ limit) (holds : invariant start state)
    (ran : run step state actions = .ok next) : invariant (start + actions.length) next := by
  induction actions generalizing state start with
  | nil =>
      cases ran
      exact holds
  | cons action rest ih =>
      rw [run_cons] at ran
      obtain ⟨middle, first, last⟩ := bind_ok ran
      rw [List.length_cons, ← Nat.succ_add_eq_add_succ] at short ⊢
      refine ih (along.2 middle first) short ?_ last
      exact preserved start state action middle (by omega) along.1 holds first

/-- When no step under the condition fails in a good state, no run under it fails. -/
theorem Along.succeeds {invariant : σ → Prop} (along : Along step condition state actions)
    (progress : ∀ state action, condition state action → invariant state →
      ∃ next, step state action = .ok next ∧ invariant next)
    (holds : invariant state) : ∃ next, run step state actions = .ok next ∧ invariant next := by
  induction actions generalizing state with
  | nil => exact ⟨state, rfl, holds⟩
  | cons action rest ih =>
      obtain ⟨middle, first, good⟩ := progress state action along.1 holds
      obtain ⟨next, last, final⟩ := ih (along.2 middle first) good
      refine ⟨next, ?_, final⟩
      rw [run_cons, first]
      exact last

/-- When every step succeeds behind those before it, with an invariant that knows them, the run
succeeds up to every point. -/
theorem run_knowing {invariant : List α → σ → Prop}
    (turn : ∀ before action after state, actions = before ++ action :: after →
      invariant before state →
      ∃ next, step state action = .ok next ∧ invariant (before ++ [action]) next)
    (holds : invariant [] state) {before after : List α} (split : actions = before ++ after) :
    ∃ next, run step state before = .ok next ∧ invariant before next := by
  induction before using List.reverseRecOn generalizing after with
  | nil => exact ⟨state, rfl, holds⟩
  | append_singleton front action ih =>
      have here : actions = front ++ action :: after := by
        rw [split, List.append_assoc]
        rfl
      obtain ⟨middle, first, good⟩ := ih here
      obtain ⟨next, last, final⟩ := turn front action after middle here good
      refine ⟨next, ?_, final⟩
      rw [run_append, first, ok_bind, run_cons, last]
      rfl

end Conditions

/-! ## Passes over a table -/

section Passes

variable {step : σ → α → Except ε σ} {state final : σ} {items : List α}

/-- A pass succeeds when every turn does in the states the pass goes through. -/
theorem run_total {invariant : σ → Prop}
    (turn : ∀ state item, item ∈ items → invariant state →
      ∃ next, step state item = .ok next ∧ invariant next)
    (holds : invariant state) : ∃ next, run step state items = .ok next ∧ invariant next := by
  induction items generalizing state with
  | nil => exact ⟨state, rfl, holds⟩
  | cons item rest ih =>
      obtain ⟨middle, first, good⟩ := turn state item List.mem_cons_self holds
      obtain ⟨next, last, done⟩ :=
        ih (fun state other member => turn state other (List.mem_cons_of_mem item member)) good
      refine ⟨next, ?_, done⟩
      rw [run_cons, first]
      exact last

variable [DecidableEq α] {cells : σ → α → β} {change : α → β → β} {flag : σ → Bool}
  {due : α → β → Bool}

/-- A pass over different items, each of whose turns changes the cell of its item and raises
the flag when that cell calls for it, changes every cell once, from what it was before the
pass. -/
theorem run_cells (different : items.Nodup)
    (turn : ∀ state item next, item ∈ items → step state item = .ok next →
      cells next item = change item (cells state item) ∧
        (∀ other, other ≠ item → cells next other = cells state other) ∧
        flag next = (flag state || due item (cells state item)))
    (ran : run step state items = .ok final) :
    (∀ item, cells final item =
      if item ∈ items then change item (cells state item) else cells state item) ∧
      flag final = (flag state || items.any fun item => due item (cells state item)) := by
  induction items generalizing state with
  | nil =>
      cases ran
      refine ⟨fun item => ?_, ?_⟩
      · rw [if_neg List.not_mem_nil]
      · rw [List.any_nil, Bool.or_false]
  | cons item rest ih =>
      rw [run_cons] at ran
      obtain ⟨middle, first, last⟩ := bind_ok ran
      obtain ⟨fresh, different⟩ := List.nodup_cons.mp different
      obtain ⟨own, others, raised⟩ := turn state item middle List.mem_cons_self first
      obtain ⟨changed, flagged⟩ := ih different
        (fun state other next member => turn state other next (List.mem_cons_of_mem item member))
        last
      constructor
      · intro other
        rw [changed other]
        by_cases same : other = item
        · subst same
          rw [if_neg fresh, if_pos List.mem_cons_self, own]
        · rw [others other same]
          simp only [List.mem_cons, same, false_or]
      · have later : (rest.any fun item => due item (cells middle item)) =
            rest.any fun item => due item (cells state item) := by
          rw [Bool.eq_iff_iff, List.any_eq_true, List.any_eq_true]
          refine exists_congr fun other => and_congr_right fun member => ?_
          have apart : other ≠ item := fun same => fresh (same ▸ member)
          rw [others other apart]
        rw [flagged, raised, later, List.any_cons, Bool.or_assoc]

end Passes

/-! ## Projections -/

section Projections

variable {τ β : Type} {step : σ → α → Except ε σ} {lower : τ → β → Except ε τ} {project : σ → τ}
  {translate : σ → α → β} {state final : σ} {actions : List α}

/-- When every step is one step of a system below, so is every run. What holds along the run holds
along the run below. -/
theorem run_projects (each : ∀ state action next, step state action = .ok next →
      lower (project state) (translate state action) = .ok (project next))
    (ran : run step state actions = .ok final) :
    ∃ below, run lower (project state) below = .ok (project final) ∧
      below.length = actions.length ∧
      (∀ allowed : β → Prop, (∀ action ∈ actions, ∀ state, allowed (translate state action)) →
        ∀ action ∈ below, allowed action) ∧
      ∀ condition : τ → β → Prop,
        Along step (fun state action => condition (project state) (translate state action)) state
          actions → Along lower condition (project state) below := by
  induction actions generalizing state with
  | nil =>
      cases ran
      exact ⟨[], rfl, rfl, fun _ _ => nofun, fun _ _ => trivial⟩
  | cons action rest ih =>
      rw [run_cons] at ran
      obtain ⟨middle, first, last⟩ := bind_ok ran
      have moved := each state action middle first
      obtain ⟨below, lowered, length, allowed, along⟩ := ih last
      refine ⟨translate state action :: below, ?_, congrArg Nat.succ length, ?_, ?_⟩
      · rw [run_cons, moved]
        exact lowered
      · intro allows every other member
        rcases List.mem_cons.mp member with rfl | later
        · exact every action List.mem_cons_self state
        · exact allowed allows (fun action member =>
            every action (List.mem_cons_of_mem _ member)) other later
      · rintro condition ⟨now, later⟩
        refine ⟨now, ?_⟩
        intro next taken
        rw [moved] at taken
        cases taken
        exact along condition (later middle first)

end Projections

end Foundation
