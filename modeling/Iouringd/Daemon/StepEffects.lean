import Iouringd.Daemon.Connection

/-! # Everything a step can do

The shapes of a step and the view of one client leave out the ring, the buffer storage
and the generation counter. `StepEffect` keeps them: one constructor for each way an
action can go, with the state afterwards as an equation or a frame.
-/

namespace Iouringd

open Foundation

/-- The clients, the table of registered files and the closed descriptors may differ. -/
structure Swept (rt next : Runtime) : Prop where
  frame : next = { rt with ring := next.ring, clients := next.clients }
  ring : next.ring = { rt.ring with kernel := { rt.ring.kernel with
    registeredFiles := next.ring.kernel.registeredFiles
    closed := next.ring.kernel.closed } }

/-- The ways an action can go. -/
inductive StepEffect (rt : Runtime) : Action → Runtime → Prop where
  | idle (action : Action)
      (unread : ∀ env, action = .reap env → (ringPeekCompletion rt.ring).2 = none)
      (unposted : ∀ position res, action ≠ .post position res) :
      StepEffect rt action rt
  | turnedAway (fd : Fd) (env : OpenEnv) : StepEffect rt (.connect fd env) (rt.close fd)
  | opened (index : Nat) (fd : Fd) (env : OpenEnv) (valid : 0 ≤ fd)
      (found : reusableClient rt = some index) :
      StepEffect rt (.connect fd env) { rt.setClient index (openedClient rt index fd) with
        nextClientGeneration := rt.nextClientGeneration + 1 }
  | served (index : Nat) (incoming : List RecvOutcome) (next : Runtime)
      (connected : rt.connected index = true) (only : OnlyClient rt index next)
      (served : Served (rt.clients index) (next.clients index)) :
      StepEffect rt (.input index incoming) next
  | dispatched (index : Nat) (env : DispatchEnv) (middle : Runtime) (bytes : List UInt8)
      (next : Runtime) (connected : rt.connected index = true)
      (ready : (rt.clients index).requestReady = true)
      (change : Dispatched rt index env middle bytes)
      (answered : Answered middle index bytes next)
      (recorded : Traces rt next fun args => args.About (rt.clients index)) :
      StepEffect rt (.dispatch index env) next
  | completed {env : CompleteEnv} (action : Action) (taskIndex : Nat) (res : Int32) (ring : Ring)
      (next : Runtime) (occupied : rt.occupied taskIndex = true)
      (source : CompletionSource rt taskIndex res ring action)
      (completed : Completed { rt with ring } taskIndex res env next)
      (calls : ∀ other, action = .reap other → other = env) : StepEffect rt action next
  | swept (updates : Nat → Nat → UpdateOutcome) (next : Runtime) (swept : Swept rt next)
      (slots : OnlySlots rt next) : StepEffect rt (.sweep updates) next
  | flushed (index : Nat) (writes : List WriteOutcome) (next : Runtime)
      (connected : rt.connected index = true) (only : OnlyClient rt index next)
      (flushed : Flushed (rt.clients index) (next.clients index)) :
      StepEffect rt (.flush index writes) next
  | disconnected (index : Nat) (connected : rt.connected index = true) :
      StepEffect rt (.disconnect index) (closeClient rt index)
  | cursorMoved (cursor : Nat) :
      StepEffect rt (.moveCursor cursor) { rt with dispatchCursor := cursor }
  | posted (position : Nat) (res : Int32) :
      StepEffect rt (.post position res) { rt with ring := kernelPost rt.ring position res }
  | stored (store : KernelStore) : StepEffect rt (.store store) (rt.stored store)

section Parts

variable {rt next : Runtime}

/-- Changes to one client and the table of files. -/
theorem Touches.swept {index : Nat} (touches : Touches rt index next) : Swept rt next := by
  have clients := congrArg Runtime.clients touches.frame
  have same := congrArg (fun clients => { rt with ring := next.ring, clients }) clients
  exact ⟨touches.frame.trans same.symm, touches.ring⟩

/-- Swept is reflexive and transitive. -/
theorem Swept.refl (rt : Runtime) : Swept rt rt := ⟨rfl, rfl⟩

@[inherit_doc Swept.refl]
theorem Swept.trans {middle : Runtime} (first : Swept rt middle) (second : Swept middle next) :
    Swept rt next := by
  constructor
  · conv_lhs => rw [second.frame]
    conv_lhs => rw [first.frame]
  · conv_lhs => rw [second.ring]
    conv_lhs => rw [first.ring]

/-- The sweep changes clients, the table of files and what was closed. -/
theorem sweepClosingResources_swept {updates : Nat → Nat → UpdateOutcome}
    {result : Runtime × Bool} (swept : sweepClosingResources rt updates = .ok result) :
    Swept rt result.1 :=
  sweepClosingResources_related .refl (fun _ _ _ => .trans)
    (fun _ _ _ _ _ _ released => (tryReleaseFileSlot_ok released).1.swept)
    (fun _ _ _ _ _ released => (tryReleaseBufferSlot_ok released).1.swept) swept

/-- A connection is turned away or opened. -/
theorem openClient_effect (fd : Fd) (env : OpenEnv) (valid : 0 ≤ fd) :
    StepEffect rt (.connect fd env) (openClient rt fd env) := by
  unfold openClient
  split
  · exact .turnedAway fd env
  · split
    · exact .turnedAway fd env
    · rename_i index found
      split
      · exact .turnedAway fd env
      · exact .opened index fd env valid found

/-- A completion of an active task, on a ring that may have lost its oldest entry. -/
theorem completeTask_effect {action : Action} {taskIndex : Nat} {res : Int32}
    {env : CompleteEnv} {ring : Ring} (grounded : Grounded rt)
    (occupied : rt.occupied taskIndex = true)
    (source : CompletionSource rt taskIndex res ring action)
    (completed : completeTask { rt with ring } taskIndex res env = .ok next)
    (calls : ∀ other, action = .reap other → other = env) : StepEffect rt action next := by
  have held := grounded.placed taskIndex occupied
  have placed : Placed { rt with ring } (rt.tasks taskIndex) :=
    ⟨held.client, held.file, held.result, held.buffer, held.fixed⟩
  exact .completed action taskIndex res ring next occupied source
    (completeTask_completed placed completed) calls

end Parts

/-- Every step that succeeds goes one of these ways. -/
theorem step_effect {rt next : Runtime} {action : Action} (grounded : Grounded rt)
    (taken : step rt action = .ok next) : StepEffect rt action next := by
  cases step_cases taken with
  | idle _ unread unposted => exact .idle _ unread unposted
  | accepted fd env valid => exact openClient_effect fd env valid
  | served index incoming _ connected only served =>
      exact .served index incoming _ connected only served
  | dispatched index env middle bytes _ connected ready change answered recorded =>
      exact .dispatched index env middle bytes _ connected ready change answered recorded
  | completed _ taskIndex res ring _ occupied source completed calls =>
      exact completeTask_effect grounded occupied source completed calls
  | swept updates result swept =>
      exact .swept updates _ (sweepClosingResources_swept swept)
        (sweepClosingResources_onlySlots swept)
  | flushed index writes connected =>
      exact .flushed index writes _ connected (flushOrClose_only rt index writes)
        (flushOrClose_flushed rt index writes)
  | disconnected index connected => exact .disconnected index connected
  | cursorMoved cursor => exact .cursorMoved cursor
  | posted position res => exact .posted position res
  | stored store => exact .stored store

end Iouringd
