import Iouringd.Foundation.Transition
import Iouringd.Daemon.Loop

/-! # The daemon as a transition system

One action is one call that the loop makes for one client, task or completion, or
something the kernel does on its own. The loop only ever makes these calls, in some
order, so what holds after every list of actions holds in every run of the loop.
-/

namespace Iouringd

open Foundation

/-- What the kernel may write into the daemon's memory while an operation runs. -/
inductive KernelStore where
  | ioBuffer (taskIndex : Nat) (bytes : List UInt8)
  | sockaddrLength (taskIndex : Nat) (length : UInt32)
  | storage (offset : Nat) (bytes : List UInt8)
  deriving DecidableEq, Repr

/-- The steps of the system. `complete` is `iouringd_complete_task` on any active task
with any result; `reap` is one turn of `iouringd_reap_completions`. -/
inductive Action where
  | connect (fd : Fd) (env : OpenEnv)
  | input (index : Nat) (incoming : List RecvOutcome)
  | dispatch (index : Nat) (env : DispatchEnv)
  | complete (taskIndex : Nat) (res : Int32) (env : CompleteEnv)
  | reap (env : CompleteEnv)
  | sweep (updates : Nat → Nat → UpdateOutcome)
  | flush (index : Nat) (writes : List WriteOutcome)
  | disconnect (index : Nat)
  | moveCursor (cursor : Nat)
  | post (position : Nat) (res : Int32)
  | store (store : KernelStore)

/-- A step the loop takes: tasks are completed by reading the ring. -/
def Action.looped : Action → Bool
  | .complete _ _ _ => false
  | _ => true

/-- The client at `index` exists and is connected. -/
def Runtime.connected (rt : Runtime) (index : Nat) : Bool :=
  decide (index < rt.limits.maxClients) && (rt.clients index).isActive

/-- The task slot at `taskIndex` exists and is in use. -/
def Runtime.occupied (rt : Runtime) (taskIndex : Nat) : Bool :=
  decide (taskIndex < rt.taskCapacity) && (rt.tasks taskIndex).active

/-- The memory after a write by the kernel. -/
def Runtime.stored (rt : Runtime) : KernelStore → Runtime
  | .ioBuffer taskIndex bytes =>
      let task := rt.tasks taskIndex
      rt.setTask taskIndex { task with ioBuffer := task.ioBuffer.write 0 bytes }
  | .sockaddrLength taskIndex length =>
      rt.setTask taskIndex { rt.tasks taskIndex with sockaddrLength := length }
  | .storage offset bytes =>
      { rt with registeredBufferStorage := rt.registeredBufferStorage.write offset bytes }

/-- One step. A call the loop does not make in the state at hand does nothing. -/
def step (rt : Runtime) : Action → Except Errno Runtime
  | .connect fd env => if 0 ≤ fd then .ok (openClient rt fd env) else .ok rt
  | .input index incoming =>
      if rt.connected index then do
        let result ← serviceClientReadable rt index incoming
        .ok result.1
      else .ok rt
  | .dispatch index env =>
      if rt.connected index then do
        let result ← dispatchClientRequest rt index env
        .ok result.1
      else .ok rt
  | .complete taskIndex res env =>
      if rt.occupied taskIndex then completeTask rt taskIndex res env else .ok rt
  | .reap env => do
      let result ← reapCompletion rt env
      .ok (result.getD rt)
  | .sweep updates => do
      let result ← sweepClosingResources rt updates
      .ok result.1
  | .flush index writes =>
      if rt.connected index then .ok (flushOrClose rt index writes).1 else .ok rt
  | .disconnect index => if rt.connected index then .ok (closeClient rt index) else .ok rt
  | .moveCursor cursor => .ok { rt with dispatchCursor := cursor }
  | .post position res => .ok { rt with ring := kernelPost rt.ring position res }
  | .store store => .ok (rt.stored store)

/-- A state that some list of actions, none of which failed, leads to. -/
def Reachable (config : Config) (rt : Runtime) : Prop :=
  ∃ actions, run step (Runtime.initial config) actions = .ok rt

namespace Reachable

variable {config : Config} {rt : Runtime}

/-- A property of the initial state that every step keeps holds in every reachable
state. -/
theorem induct {invariant : Runtime → Prop} (reachable : Reachable config rt)
    (initially : invariant (Runtime.initial config))
    (preserved : ∀ rt action next, invariant rt → step rt action = .ok next → invariant next) :
    invariant rt := by
  obtain ⟨actions, ran⟩ := reachable
  refine run_preserves ?_ initially ran
  intro before action after _ holds taken
  exact preserved before action after holds taken

/-- A run from a reachable state leads to one. -/
theorem ran {actions : List Action} {next : Runtime} (reachable : Reachable config rt)
    (more : run step rt actions = .ok next) : Reachable config next := by
  obtain ⟨first, before⟩ := reachable
  refine ⟨first ++ actions, ?_⟩
  rw [run_append, before]
  exact more

/-- So does one step. -/
theorem stepped {action : Action} {next : Runtime} (reachable : Reachable config rt)
    (taken : step rt action = .ok next) : Reachable config next := by
  have more : run step rt [action] = .ok next := by
    rw [run_cons, taken]
    rfl
  exact reachable.ran more

end Reachable

/-! ## Runs without failures

The smallest daemon and the steps of a client that joins it and sends one request. -/

/-- Small limits: two clients, one file and one buffer each. -/
def Limits.small : Limits := ⟨2, 1, 1, 64, 16, 2⟩

/-- A daemon with small limits on a ring of `2 ^ order` entries. -/
def Config.small (order : Nat) (positive : 1 ≤ order) (bounded : order ≤ 6) : Config :=
  .fresh .small (by decide) order positive bounded

/-- The daemon with small limits on the smallest ring. -/
def Config.smallest : Config := .small 1 (by decide) (by decide)

/-- Every system call of the dispatch succeeds and the kernel takes the submission. -/
def DispatchEnv.smooth : DispatchEnv := ⟨.updated 1, .consumed 1, .updated 1, false, 0⟩

/-- Every system call of the completion succeeds. -/
def CompleteEnv.smooth : CompleteEnv := ⟨.updated 1, .updated 1, .updated 1, 0⟩

/-- A connection is accepted and sends the handshake of this version. -/
def joining (index : Nat) (fd : Fd) : List Action :=
  [.connect fd ⟨true, true⟩,
    .input index [.data (HandshakeRequest.encode
      ⟨wireMagic, protocolMajor, protocolMinor, abiMajor, abiMinor, 0⟩) [] false]]

/-- The header of a request of this version. -/
def requestHeader (kind : RequestKind) : SubmitRequest :=
  ⟨wireMagic, protocolMajor, protocolMinor, kind, .normal, 0⟩

/-- A request arrives in one piece and is dispatched. -/
def requesting (index : Nat) (bytes : List UInt8) (env : DispatchEnv) : List Action :=
  [.input index [.data bytes [] false], .dispatch index env]

end Iouringd
