import Iouringd.Daemon.Ledger

/-! # What a step does to one connection

Seen from one client entry a step opens it, closes it, reads from it, answers its
request, delivers a completion to it, flushes it, or leaves it alone. `core` is the
entry without its output, slots and counters, so that most of these are one equation
about the core and one about the bytes waiting to be written.
-/

namespace Iouringd

open Foundation

/-- The entry without its output, its slots and its counters. -/
def Client.core (client : Client) : Client :=
  { client with
    output := []
    outputSent := 0
    outstandingTasks := 0
    outstandingCreditTasks := 0
    nextResourceId := 0
    fileResources := fun _ => .cleared
    bufferResources := fun _ => .cleared }

/-- The step as the entry at `index` sees it. -/
inductive ClientStep (rt next : Runtime) (index : Nat) : Prop where
  | kept (core : (next.clients index).core = (rt.clients index).core)
      (pending : (next.clients index).pendingOutput = (rt.clients index).pendingOutput)
  | opened (fd : Fd) (valid : 0 ≤ fd) (found : reusableClient rt = some index)
      (entry : next.clients index = openedClient rt index fd)
  | served (connected : rt.connected index = true)
      (served : Served (rt.clients index) (next.clients index))
  | answered (env : DispatchEnv) (middle : Runtime) (bytes : List UInt8)
      (connected : rt.connected index = true) (ready : (rt.clients index).requestReady = true)
      (dispatched : Dispatched rt index env middle bytes)
      (core : (next.clients index).core =
        ({ (rt.clients index).finishRequest with
          receivedFd := (next.clients index).receivedFd } : Client).core)
      (descriptor : (next.clients index).receivedFd < 0 ∨
        (rt.clients index).controlOp ≠ some .registerFd ∧
          (next.clients index).receivedFd = (rt.clients index).receivedFd)
      (pending : (next.clients index).pendingOutput = (rt.clients index).pendingOutput ++ bytes)
  | delivered (taskIndex : Nat) (record : CompletionRecord) (payload : List UInt8)
      (occupied : rt.occupied taskIndex = true)
      (own : (rt.tasks taskIndex).clientIndex = index)
      (connected : taskConnected rt (rt.tasks taskIndex) = true)
      (taskId : record.taskId = (rt.tasks taskIndex).taskId)
      (length : payload.length = record.payloadLength.toNat)
      (core : (next.clients index).core = (rt.clients index).core)
      (pending : (next.clients index).pendingOutput =
        (rt.clients index).pendingOutput ++ (record.encode ++ payload))
  | flushed (count : Nat) (connected : rt.connected index = true)
      (core : (next.clients index).core = (rt.clients index).core)
      (pending : (next.clients index).pendingOutput =
        (rt.clients index).pendingOutput.drop count)
  | closed (last : Client) (connected : rt.connected index = true)
      (same : last.core = (rt.clients index).core)
      (entry : next.clients index = closedClient last)

section Operations

variable {rt next : Runtime} {index : Nat}

/-- The entry is the same. -/
theorem ClientStep.of_eq (same : next.clients index = rt.clients index) :
    ClientStep rt next index := .kept (by rw [same]) (by rw [same])

/-- A flush takes bytes off the front. -/
theorem flushClientOutput_pending (client : Client) (writes : List WriteOutcome) :
    ∃ count, (flushClientOutput client writes).1.pendingOutput =
      client.pendingOutput.drop count := by
  have drained : ∀ base : Client, ¬ base.outputSent < base.output.length →
      ({ base with output := [], outputSent := 0 } : Client).pendingOutput =
        base.pendingOutput.drop 0 := by
    intro base sent
    simp only [Client.pendingOutput, List.drop_zero, List.drop_nil]
    exact (List.drop_eq_nil_of_le (Nat.not_lt.mp sent)).symm
  induction writes generalizing client with
  | nil =>
      unfold flushClientOutput
      split
      · exact ⟨0, rfl⟩
      · rename_i sent
        exact ⟨0, drained client sent⟩
  | cons outcome rest ih =>
      unfold flushClientOutput
      split
      · cases outcome with
        | wrote count =>
            dsimp only
            split
            · exact ⟨0, rfl⟩
            · obtain ⟨more, same⟩ := ih { client with
                outputSent := client.outputSent +
                  min count (client.output.length - client.outputSent) }
              refine ⟨min count (client.output.length - client.outputSent) + more, ?_⟩
              rw [same]
              simp only [Client.pendingOutput, List.drop_drop, Nat.add_assoc]
        | again => exact ⟨0, rfl⟩
        | interrupted => exact ih client
        | failed errno => exact ⟨0, rfl⟩
      · rename_i sent
        exact ⟨0, drained client sent⟩

/-- A sweep changes slots only. -/
structure OnlySlots (rt next : Runtime) : Prop where
  core : ∀ index, (next.clients index).core = (rt.clients index).core
  pending : ∀ index, (next.clients index).pendingOutput = (rt.clients index).pendingOutput

/-- Nothing changed. -/
theorem OnlySlots.refl (rt : Runtime) : OnlySlots rt rt := ⟨fun _ => rfl, fun _ => rfl⟩

/-- Two such changes are one. -/
theorem OnlySlots.trans {middle : Runtime} (first : OnlySlots rt middle)
    (second : OnlySlots middle next) : OnlySlots rt next :=
  ⟨fun index => (second.core index).trans (first.core index),
    fun index => (second.pending index).trans (first.pending index)⟩

/-- One slot of one client changed. -/
theorem Touches.onlySlots (touches : Touches rt index next)
    (client : ∃ slot, (∃ file, next.clients index = (rt.clients index).setFileSlot slot file) ∨
      (∃ buffer, next.clients index = (rt.clients index).setBufferSlot slot buffer) ∨
      next.clients index = rt.clients index) : OnlySlots rt next := by
  have others : ∀ other, other ≠ index → next.clients other = rt.clients other := by
    intro other apart
    rw [touches.frame]
    exact Function.update_of_ne apart _ _
  constructor
  · intro other
    by_cases same : other = index
    · subst same
      rcases client with ⟨slot, ⟨file, entry⟩ | ⟨buffer, entry⟩ | entry⟩ <;> rw [entry] <;> rfl
    · rw [others other same]
  · intro other
    by_cases same : other = index
    · subst same
      rcases client with ⟨slot, ⟨file, entry⟩ | ⟨buffer, entry⟩ | entry⟩ <;> rw [entry] <;> rfl
    · rw [others other same]

/-- A release of a file changes its slot. -/
theorem tryReleaseFileSlot_onlySlots {slot : Nat} {update : UpdateOutcome}
    (released : tryReleaseFileSlot rt index slot update = .ok next) : OnlySlots rt next := by
  obtain ⟨touches, client⟩ := tryReleaseFileSlot_ok released
  refine touches.onlySlots ⟨slot, ?_⟩
  split at client
  · exact Or.inl ⟨_, client⟩
  · exact Or.inr (Or.inr client)

/-- A release of a buffer changes its slot. -/
theorem tryReleaseBufferSlot_onlySlots {slot : Nat}
    (released : tryReleaseBufferSlot rt index slot = .ok next) : OnlySlots rt next := by
  obtain ⟨touches, client⟩ := tryReleaseBufferSlot_ok released
  refine touches.onlySlots ⟨slot, ?_⟩
  split at client
  · exact Or.inr (Or.inl ⟨_, client⟩)
  · exact Or.inr (Or.inr client)

/-- The sweep changes slots. -/
theorem sweepClosingResources_onlySlots {updates : Nat → Nat → UpdateOutcome}
    {result : Runtime × Bool} (swept : sweepClosingResources rt updates = .ok result) :
    OnlySlots rt result.1 :=
  sweepClosingResources_related .refl (fun _ _ _ => .trans)
    (fun _ _ _ _ _ _ => tryReleaseFileSlot_onlySlots)
    (fun _ _ _ _ _ => tryReleaseBufferSlot_onlySlots) swept

/-- What a dispatch leaves of the core before it answers. -/
theorem Dispatched.core {env : DispatchEnv} {middle : Runtime} {bytes : List UInt8}
    (dispatched : Dispatched rt index env middle bytes) :
    (middle.clients index).core = ({ rt.clients index with
      receivedFd := (middle.clients index).receivedFd } : Client).core ∧
    (middle.clients index).pendingOutput = (rt.clients index).pendingOutput ∧
    ((middle.clients index).receivedFd < 0 ∨ (rt.clients index).controlOp ≠ some .registerFd ∧
      (middle.clients index).receivedFd = (rt.clients index).receivedFd) := by
  have none : (-1 : Fd) < 0 := by decide
  cases dispatched with
  | resourceRefused nextId result type unheld =>
      rw [Runtime.clients_setClient]
      refine ⟨rfl, rfl, ?_⟩
      by_cases operation : (rt.clients index).controlOp = some .registerFd
      · exact Or.inl (unheld operation)
      · exact Or.inr ⟨operation, rfl⟩
  | descriptorDropped nextId result operation held =>
      unfold dropReceivedFd
      rw [Runtime.clients_setClient]
      dsimp only
      rw [Runtime.clients_setClient]
      exact ⟨rfl, rfl, Or.inl none⟩
  | fileRegistered slot resourceId nextId ring result operation held found allocated valid
      updated =>
      rw [Runtime.clients_setClient]
      exact ⟨rfl, rfl, Or.inl none⟩
  | bufferRegistered slot resourceId nextId result operation found allocated valid =>
      rw [Runtime.clients_setClient]
      exact ⟨rfl, rfl, Or.inr ⟨by rw [operation]; decide, rfl⟩⟩
  | fileReleased slot ring result operation found idle updated =>
      rw [clearFileSlot_client]
      exact ⟨rfl, rfl, Or.inr ⟨by rw [operation]; decide, rfl⟩⟩
  | bufferReleased slot result operation found idle =>
      rw [clearBufferSlot, Runtime.clients_setClient]
      exact ⟨rfl, rfl, Or.inr ⟨by rw [operation]; decide, rfl⟩⟩
  | stats operation =>
      exact ⟨rfl, rfl, Or.inr ⟨by rw [operation]; decide, rfl⟩⟩
  | trace result events operation counted =>
      exact ⟨rfl, rfl, Or.inr ⟨by rw [operation]; decide, rfl⟩⟩
  | refused _ errno credits type rolledBack =>
      have operation : (rt.clients index).controlOp ≠ some .registerFd := by
        intro register
        simp only [Client.replyType, register, reduceCtorEq] at type
      have client : middle.clients index = { rt.clients index with
          nextResourceId := (middle.clients index).nextResourceId
          fileResources := (middle.clients index).fileResources } := by
        conv_lhs => rw [rolledBack.frame]
        simp only [Function.update_self]
      rw [client]
      exact ⟨rfl, rfl, Or.inr ⟨operation, rfl⟩⟩
  | accepted taskIndex started credits type admitted start =>
      have operation : (rt.clients index).controlOp ≠ some .registerFd := by
        intro register
        simp only [Client.replyType, register, reduceCtorEq] at type
      rw [start.client_self]
      exact ⟨rfl, rfl, Or.inr ⟨operation, rfl⟩⟩

/-- A dispatch leaves the other entries alone. -/
theorem Dispatched.client_other {env : DispatchEnv} {middle : Runtime} {bytes : List UInt8}
    (dispatched : Dispatched rt index env middle bytes) {other : Nat} (apart : other ≠ index) :
    middle.clients other = rt.clients other := by
  cases dispatched with
  | resourceRefused nextId result type unheld => exact Function.update_of_ne apart _ _
  | descriptorDropped nextId result operation held =>
      unfold dropReceivedFd
      refine (Function.update_of_ne apart _ _).trans ?_
      exact Function.update_of_ne apart _ _
  | fileRegistered slot resourceId nextId ring result operation held found allocated valid
      updated =>
      exact Function.update_of_ne apart _ _
  | bufferRegistered slot resourceId nextId result operation found allocated valid =>
      exact Function.update_of_ne apart _ _
  | fileReleased slot ring result operation found idle updated =>
      have touches : Touches { rt with ring } index (clearFileSlot { rt with ring } index slot) :=
        clearFileSlot_touches
      rw [touches.frame]
      exact Function.update_of_ne apart _ _
  | bufferReleased slot result operation found idle => exact Function.update_of_ne apart _ _
  | stats operation => rfl
  | trace result events operation counted => rfl
  | refused _ errno credits type rolledBack =>
      rw [rolledBack.frame]
      exact Function.update_of_ne apart _ _
  | accepted taskIndex started credits type admitted start => exact start.client_other _ apart

/-- An answered client has the bytes behind its output. -/
theorem Answered.client {bytes : List UInt8} (answered : Answered rt index bytes next) :
    next.clients index = ((rt.clients index).appendOutput bytes).finishRequest := by
  rw [answered]
  exact Function.update_self _ _ _

/-- No other is touched. -/
theorem Answered.client_other {bytes : List UInt8} (answered : Answered rt index bytes next)
    {other : Nat} (apart : other ≠ index) : next.clients other = rt.clients other := by
  rw [answered]
  exact Function.update_of_ne apart _ _

/-- A dispatch that is answered, as every entry sees it. -/
theorem Dispatched.clients {env : DispatchEnv} {middle : Runtime} {bytes : List UInt8}
    (connected : rt.connected index = true) (ready : (rt.clients index).requestReady = true)
    (change : Dispatched rt index env middle bytes) (answered : Answered middle index bytes next)
    (other : Nat) : ClientStep rt next other := by
  by_cases same : other = index
  · subst same
    obtain ⟨core, pending, descriptor⟩ := change.core
    have entry := answered.client
    refine .answered env middle bytes connected ready change ?_ ?_ ?_
    · have finished : ∀ client : Client,
          ((client.appendOutput bytes).finishRequest).core = client.core.finishRequest :=
        fun _ => rfl
      rw [entry, finished, core]
      rfl
    · rw [entry]
      exact descriptor
    · rw [entry]
      change (middle.clients other).pendingOutput ++ bytes = _
      rw [pending]
  · exact .of_eq ((answered.client_other same).trans (change.client_other same))

/-- A completion is delivered to the connection of its task, or to none. -/
theorem completeTask_clients {taskIndex : Nat} {res : Int32} {env : CompleteEnv} {ring : Ring}
    (grounded : Grounded rt) (occupied : rt.occupied taskIndex = true)
    (completed : completeTask { rt with ring } taskIndex res env = .ok next) (other : Nat) :
    ClientStep rt next other := by
  have held := grounded.placed taskIndex occupied
  have placed : Placed { rt with ring } (rt.tasks taskIndex) :=
    ⟨held.client, held.file, held.result, held.buffer, held.fixed⟩
  have effect := completeTask_completed placed completed
  by_cases own : other = (rt.tasks taskIndex).clientIndex
  · subst own
    have core : (next.clients (rt.tasks taskIndex).clientIndex).core =
        (rt.clients (rt.tasks taskIndex).clientIndex).core := by
      rw [effect.frame]
      dsimp only
      rw [Function.update_self]
      rfl
    cases connected : taskConnected rt (rt.tasks taskIndex) with
    | true =>
        obtain ⟨record, payload, taskId, -, length, pending, -⟩ :=
          effect.delivers.connected connected
        exact .delivered taskIndex record payload occupied rfl connected taskId length core pending
    | false =>
        obtain ⟨output, sent⟩ := effect.delivers.apart connected
        refine .kept core ?_
        unfold Client.pendingOutput
        dsimp only at output sent ⊢
        rw [output, sent]
  · refine .of_eq ?_
    rw [effect.frame]
    exact Function.update_of_ne own _ _

end Operations

section Step

variable {rt next : Runtime}

/-- Closing is a step of one connection. -/
theorem closeClient_step {index other : Nat} (connected : rt.connected index = true) :
    ClientStep rt (closeClient rt index) other := by
  by_cases same : other = index
  · subst same
    exact .closed _ connected rfl (closeClient_client rt other)
  · have only : OnlyClient rt index (closeClient rt index) := .closeClient
    refine .of_eq ?_
    rw [only.frame]
    exact Function.update_of_ne same _ _

/-- What a flush makes of the entry: some of its output is gone, or it is closed. -/
inductive Flushed (client next : Client) : Prop where
  | sent (count : Nat) (core : next.core = client.core)
      (pending : next.pendingOutput = client.pendingOutput.drop count)
  | closed (last : Client) (same : last.core = client.core) (entry : next = closedClient last)

/-- The bytes written are off the front, or the connection is closed. -/
theorem flushOrClose_flushed (rt : Runtime) (index : Nat) (writes : List WriteOutcome) :
    Flushed (rt.clients index) ((flushOrClose rt index writes).1.clients index) := by
  obtain ⟨output, sent, flushed⟩ := flushClientOutput_client (rt.clients index) writes
  have core : (flushClientOutput (rt.clients index) writes).1.core = (rt.clients index).core := by
    rw [flushed]
    rfl
  unfold flushOrClose
  dsimp only
  split
  · refine .closed (flushClientOutput (rt.clients index) writes).1 core ?_
    rw [closeClient_client, Runtime.clients_setClient]
  · obtain ⟨count, pending⟩ := flushClientOutput_pending (rt.clients index) writes
    refine .sent count ?_ ?_
    · rw [Runtime.clients_setClient]
      exact core
    · rw [Runtime.clients_setClient]
      exact pending

/-- No other client is touched. -/
theorem flushOrClose_only (rt : Runtime) (index : Nat) (writes : List WriteOutcome) :
    OnlyClient rt index (flushOrClose rt index writes).1 := by
  unfold flushOrClose
  dsimp only
  split
  · exact (OnlyClient.setClient _).trans .closeClient
  · exact .setClient _

/-- Flushing is a step of one connection. -/
theorem flushOrClose_step {index other : Nat} {writes : List WriteOutcome}
    (connected : rt.connected index = true) :
    ClientStep rt (flushOrClose rt index writes).1 other := by
  by_cases same : other = index
  · subst same
    cases flushOrClose_flushed rt other writes with
    | sent count core pending => exact .flushed count connected core pending
    | closed last same entry => exact .closed last connected same entry
  · refine .of_eq ?_
    rw [(flushOrClose_only rt index writes).frame]
    exact Function.update_of_ne same _ _

/-- Opening is a step of one connection. -/
theorem openClient_step {fd : Fd} {env : OpenEnv} (valid : 0 ≤ fd) (other : Nat) :
    ClientStep rt (openClient rt fd env) other := by
  unfold openClient
  split
  · exact .of_eq rfl
  · split
    · exact .of_eq rfl
    · rename_i index found
      split
      · exact .of_eq rfl
      · by_cases same : other = index
        · subst same
          exact .opened fd valid found (Function.update_self _ _ _)
        · exact .of_eq (Function.update_of_ne same _ _)

/-- Every step, as every entry sees it. -/
theorem step_clients {action : Action} (grounded : Grounded rt)
    (taken : step rt action = .ok next) (other : Nat) : ClientStep rt next other := by
  cases step_cases taken with
  | idle => exact .of_eq rfl
  | accepted fd env valid => exact openClient_step valid other
  | served index incoming _ connected only served =>
      by_cases same : other = index
      · subst same
        exact .served connected served
      · refine .of_eq ?_
        rw [only.frame]
        exact Function.update_of_ne same _ _
  | dispatched index env middle bytes _ connected ready change answered =>
      exact change.clients connected ready answered other
  | completed _ taskIndex res ring _ occupied source completed =>
      exact completeTask_clients grounded occupied completed other
  | swept updates result swept =>
      have only := sweepClosingResources_onlySlots swept
      exact .kept (only.core other) (only.pending other)
  | flushed index writes connected => exact flushOrClose_step connected
  | disconnected index connected => exact closeClient_step connected
  | cursorMoved cursor => exact .of_eq rfl
  | posted position res => exact .of_eq rfl
  | stored store =>
      refine .of_eq ?_
      cases store <;> rfl

end Step

end Iouringd
