import Iouringd.Daemon.CompletionEffects
import Iouringd.Daemon.InputEffects
import Iouringd.Daemon.Inversion
import Iouringd.Daemon.System

/-! # The call behind a step

`StepCase` says once which call an action made and what it returned. Whatever is proved about
every step goes by its cases and does not look into `step`.
-/

namespace Iouringd

open Foundation

/-- The completion a `complete` or `reap` action is about, and the ring without it. -/
def CompletionSource (rt : Runtime) (taskIndex : Nat) (res : Int32) (ring : Ring) :
    Action → Prop
  | .complete index result _ => index = taskIndex ∧ result = res ∧ ring = rt.ring
  | .reap _ => ∃ cqe, ringPeekCompletion rt.ring = (ring, some cqe) ∧
      findTaskSlot rt cqe.userData = some taskIndex ∧ cqe.res = res
  | _ => False

/-- An action that neither reads nor posts a completion. -/
def Action.keepsCompletions : Action → Bool
  | .reap _ | .post _ _ => false
  | _ => true

/-- The call behind an action and how it returned. -/
inductive StepCase (rt : Runtime) : Action → Runtime → Prop where
  | idle (action : Action)
      (unread : ∀ env, action = .reap env → (ringPeekCompletion rt.ring).2 = none)
      (unposted : ∀ position res, action ≠ .post position res) :
      StepCase rt action rt
  | accepted (fd : Fd) (env : OpenEnv) (valid : 0 ≤ fd) :
      StepCase rt (.connect fd env) (openClient rt fd env)
  | served (index : Nat) (incoming : List RecvOutcome) (next : Runtime)
      (connected : rt.connected index = true) (only : OnlyClient rt index next)
      (served : Served (rt.clients index) (next.clients index)) :
      StepCase rt (.input index incoming) next
  | dispatched (index : Nat) (env : DispatchEnv) (middle : Runtime) (bytes : List UInt8)
      (next : Runtime) (connected : rt.connected index = true)
      (ready : (rt.clients index).requestReady = true)
      (change : Dispatched rt index env middle bytes)
      (answered : Answered middle index bytes next)
      (recorded : Traces rt next fun args => args.About (rt.clients index)) :
      StepCase rt (.dispatch index env) next
  | completed {env : CompleteEnv} (action : Action) (taskIndex : Nat) (res : Int32) (ring : Ring)
      (next : Runtime) (occupied : rt.occupied taskIndex = true)
      (source : CompletionSource rt taskIndex res ring action)
      (completed : completeTask { rt with ring } taskIndex res env = .ok next)
      (calls : ∀ other, action = .reap other → other = env) : StepCase rt action next
  | swept (updates : Nat → Nat → UpdateOutcome) (result : Runtime × Bool)
      (swept : sweepClosingResources rt updates = .ok result) :
      StepCase rt (.sweep updates) result.1
  | flushed (index : Nat) (writes : List WriteOutcome)
      (connected : rt.connected index = true) :
      StepCase rt (.flush index writes) (flushOrClose rt index writes).1
  | disconnected (index : Nat) (connected : rt.connected index = true) :
      StepCase rt (.disconnect index) (closeClient rt index)
  | cursorMoved (cursor : Nat) :
      StepCase rt (.moveCursor cursor) { rt with dispatchCursor := cursor }
  | posted (position : Nat) (res : Int32) :
      StepCase rt (.post position res) { rt with ring := kernelPost rt.ring position res }
  | stored (store : KernelStore) : StepCase rt (.store store) (rt.stored store)

section Cases

variable {rt next : Runtime}

theorem Action.not_reap {action : Action} (keeps : action.keepsCompletions = true)
    (env : CompleteEnv) : action ≠ .reap env := by
  rintro rfl
  cases keeps

theorem Action.not_post {action : Action} (keeps : action.keepsCompletions = true)
    (position : Nat) (res : Int32) : action ≠ .post position res := by
  rintro rfl
  cases keeps

theorem StepCase.kept {action : Action} (keeps : action.keepsCompletions = true) :
    StepCase rt action rt :=
  .idle action (fun env same => absurd same (Action.not_reap keeps env)) (Action.not_post keeps)

/-- A completion that is read only moves the head of the completion queue. -/
theorem CompletionSource.frame {action : Action} {taskIndex : Nat} {res : Int32} {ring : Ring}
    (source : CompletionSource rt taskIndex res ring action) :
    ring = { rt.ring with cqHead := ring.cqHead } := by
  cases action with
  | complete index result env =>
      obtain ⟨-, -, same⟩ := source
      rw [same]
  | reap env =>
      obtain ⟨cqe, peeked, -⟩ := source
      rw [ringPeekCompletion_frame peeked]
  | _ => cases source

/-- One turn of the reaping loop completes the task that the oldest posted completion
names, or finds none posted. -/
theorem reapCompletion_cases {env : CompleteEnv} {result : Option Runtime}
    (reaped : reapCompletion rt env = .ok result) :
    (result = none ∧ (ringPeekCompletion rt.ring).2 = none) ∨
      ∃ ring cqe taskIndex, ringPeekCompletion rt.ring = (ring, some cqe) ∧
      findTaskSlot rt cqe.userData = some taskIndex ∧ rt.occupied taskIndex = true ∧
      ∃ next, completeTask { rt with ring } taskIndex cqe.res env = .ok next ∧
        result = some next := by
  unfold reapCompletion at reaped
  split at reaped
  · rename_i ring nothing
    cases reaped
    exact Or.inl ⟨rfl, by rw [nothing]⟩
  · rename_i ring cqe peeked
    split at reaped
    · cases reaped
    · rename_i taskIndex found
      have located : findTaskSlot rt cqe.userData = some taskIndex := found
      obtain ⟨below, matching⟩ := firstBelow_some located
      simp only [Bool.and_eq_true] at matching
      have occupied : rt.occupied taskIndex = true := by
        simp only [Runtime.occupied, Bool.and_eq_true, decide_eq_true_eq]
        exact ⟨below, matching.1⟩
      obtain ⟨completed, taken, done⟩ := bind_ok reaped
      cases done
      exact Or.inr ⟨ring, cqe, taskIndex, peeked, located, occupied, completed, taken, rfl⟩

/-- Every step is one of these calls. -/
theorem step_cases {action : Action} (taken : step rt action = .ok next) :
    StepCase rt action next := by
  cases action with
  | connect fd env =>
      simp only [step] at taken
      split at taken
      · rename_i valid
        cases taken
        exact .accepted fd env valid
      · cases taken
        exact .kept rfl
  | input index incoming =>
      simp only [step] at taken
      split at taken
      · rename_i connected
        obtain ⟨result, serviced, done⟩ := bind_ok taken
        cases done
        obtain ⟨only, served⟩ := serviceClientReadable_served serviced
        exact .served index incoming _ connected only served
      · cases taken
        exact .kept rfl
  | dispatch index env =>
      simp only [step] at taken
      split at taken
      · rename_i connected
        obtain ⟨result, dispatched, done⟩ := bind_ok taken
        cases done
        rcases dispatchClientRequest_explained dispatched with ⟨-, same⟩ | ⟨ready, -, explained⟩
        · subst same
          exact .kept rfl
        · obtain ⟨middle, bytes, change, answered, recorded⟩ := explained
          exact .dispatched index env middle bytes _ connected ready change answered recorded
      · cases taken
        exact .kept rfl
  | complete taskIndex res env =>
      simp only [step] at taken
      split at taken
      · rename_i occupied
        exact .completed _ taskIndex res rt.ring next occupied ⟨rfl, rfl, rfl⟩ taken
          (by rintro _ ⟨⟩)
      · cases taken
        exact .kept rfl
  | reap env =>
      obtain ⟨result, reaped, done⟩ := bind_ok taken
      cases done
      rcases reapCompletion_cases reaped with
        ⟨none, unread⟩ | ⟨ring, cqe, taskIndex, peeked, found, occupied, after, completed, same⟩
      · subst none
        exact .idle _ (fun _ _ => unread) (by rintro _ _ ⟨⟩)
      · subst same
        refine .completed _ taskIndex cqe.res ring after occupied ⟨cqe, peeked, found, rfl⟩
          completed ?_
        intro other same
        cases same
        rfl
  | sweep updates =>
      obtain ⟨result, swept, done⟩ := bind_ok taken
      cases done
      exact .swept updates result swept
  | flush index writes =>
      simp only [step] at taken
      split at taken
      · rename_i connected
        cases taken
        exact .flushed index writes connected
      · cases taken
        exact .kept rfl
  | disconnect index =>
      simp only [step] at taken
      split at taken
      · rename_i connected
        cases taken
        exact .disconnected index connected
      · cases taken
        exact .kept rfl
  | moveCursor cursor =>
      cases taken
      exact .cursorMoved cursor
  | post position res =>
      cases taken
      exact .posted position res
  | store store =>
      cases taken
      exact .stored store

end Cases

end Iouringd
