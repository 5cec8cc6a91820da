import Iouringd.Daemon.Reads
import Iouringd.Daemon.World
import Iouringd.Daemon.Sweeping

/-! # Where the bytes of the storage come from

The storage of the registered buffers is never wiped, so a slot starts with what earlier
registrations left in it. The history of a run keeps for every byte of the storage who wrote
it last and when, and for every slot when it was registered. A byte of a slot is its own when
it was written since then, by the payload of the registration or by a fixed read of the client.
-/

namespace Iouringd

open Foundation

/-! ## The history -/

/-- Who writes into the storage: a REGISTER_BUFFER request with its payload, or the kernel for
a fixed read of a connection. -/
inductive Writer where
  | payload (index slot : Nat)
  | read (index : Nat) (generation : UInt32)
  deriving DecidableEq, Repr

/-- A write to a byte of the storage. -/
structure Mark where
  time : Nat
  writer : Writer
  deriving DecidableEq, Repr

/-- The moves so far, the move that registered each slot, the last write to each byte and how
many bytes the kernel has stored for each fixed read. -/
structure Provenance where
  clock : Nat
  since : Nat → Nat → Nat
  mark : Nat → Option Mark
  stored : TaskId → Nat

namespace Provenance

/-- At the start nothing has been written. -/
def initial : Provenance := ⟨0, fun _ _ => 0, fun _ => none, fun _ => 0⟩

/-- A write of `length` bytes by `writer`. -/
def written (provenance : Provenance) (offset length : Nat) (writer : Option Writer) :
    Provenance :=
  { provenance with
    mark := fun address =>
      if offset ≤ address ∧ address < offset + length then
        writer.map fun writer => ⟨provenance.clock, writer⟩
      else provenance.mark address }

/-- The last write to the byte at `address` belongs to the registration of the slot. -/
def Own (provenance : Provenance) (rt : Runtime) (index slot address : Nat) : Prop :=
  ∃ mark, provenance.mark address = some mark ∧ provenance.since index slot ≤ mark.time ∧
    (mark.writer = .payload index slot ∨
      mark.writer = .read index (rt.clients index).generation)

end Provenance

/-- The slot a dispatch registered. -/
def registeredSlot (rt next : Runtime) (index : Nat) : Option Nat :=
  (findFreeBufferSlot (rt.clients index)).filter fun slot =>
    ((next.clients index).bufferResources slot).registered

/-- The connection an operation was submitted for. -/
def readerOf (rt : Runtime) (id : TaskId) : Option Writer :=
  (findTaskSlot rt id).map fun taskIndex =>
    .read (rt.tasks taskIndex).clientIndex (rt.tasks taskIndex).clientGeneration

/-- What a move adds to the history. -/
def Provenance.note (rt : Runtime) (move : ReadMove) (next : Runtime) (provenance : Provenance) :
    Provenance :=
  let later := match move with
    | .act (.dispatch index _) =>
        match registeredSlot rt next index with
        | some slot =>
            { provenance.written (bufferStorageAt rt index slot)
                (rt.clients index).ioLength.toNat (some (.payload index slot)) with
              since := Function.update provenance.since index
                (Function.update (provenance.since index) slot provenance.clock) }
        | none => provenance
    | .act (.store (.storage offset bytes)) => provenance.written offset bytes.length none
    | .fetch position data =>
        match fetchAt rt position data with
        | some (sqe, .storage offset _) =>
            { provenance.written offset data.length (readerOf rt sqe.userData) with
              stored := Function.update provenance.stored sqe.userData
                (max (provenance.stored sqe.userData) data.length) }
        | _ => provenance
    | _ => provenance
  { later with clock := provenance.clock + 1 }

section Fetches

variable {rt next : Runtime} {position : Nat} {data : List UInt8}

/-- A fetch that stores nothing only takes its turn. -/
theorem Provenance.note_fetch_none (provenance : Provenance)
    (nothing : fetchAt rt position data = none) :
    provenance.note rt (.fetch position data) next =
      { provenance with clock := provenance.clock + 1 } := by
  simp only [note, nothing]

/-- So does one that stores into a task. -/
theorem Provenance.note_fetch_task {sqe : Sqe} {store : KernelStore} (provenance : Provenance)
    (fetches : fetchAt rt position data = some (sqe, store))
    (task : ∀ offset bytes, store ≠ .storage offset bytes) :
    provenance.note rt (.fetch position data) next =
      { provenance with clock := provenance.clock + 1 } := by
  cases store with
  | storage offset bytes => exact absurd rfl (task offset bytes)
  | ioBuffer taskIndex bytes => simp only [note, fetches]
  | sockaddrLength taskIndex length => simp only [note, fetches]

end Fetches

/-- What the kernel does: it stores no more for a read than was asked for, a fixed read that
it completes without an error has stored as many bytes as its result says, and nothing else
it does writes into the storage. -/
def kernelFills (state : Runtime × Provenance) : ReadMove → Bool
  | .fetch position data =>
      match fetchAt state.1 position data with
      | some (sqe, _) => decide (data.length ≤ sqe.wanted state.1)
      | none => true
  | .act (.post position res) =>
      match state.1.ring.kernel.executing[position]? with
      | some sqe => !(sqe.opcode == .readFixed && decide (0 ≤ res)) ||
          decide (res.toInt.toNat ≤ state.2.stored sqe.userData)
      | none => true
  | .act (.store (.storage _ _)) => false
  | .act action => action.looped

/-- No `io_uring_enter` that a dispatch makes fails. -/
def ReadMove.enters : ReadMove → Bool
  | .act (.dispatch index env) => (Action.dispatch index env).clean
  | _ => true

/-! ## What a step does to a registered slot -/

/-- The slot was registered before, for the same connection and with the same valid length. -/
structure SlotKept (client next : Client) (slot : Nat) : Prop where
  registered : (client.bufferResources slot).registered = true
  generation : next.generation = client.generation
  validLength : (next.bufferResources slot).validLength =
    (client.bufferResources slot).validLength

/-- Nothing is registered that was not. -/
def KeepsBuffers (client next : Client) : Prop :=
  ∀ slot, (next.bufferResources slot).registered = true → SlotKept client next slot

namespace KeepsBuffers

variable {client middle next : Client}

theorem of_eq (buffers : next.bufferResources = client.bufferResources)
    (generation : next.generation = client.generation) : KeepsBuffers client next := by
  intro slot registered
  rw [buffers] at registered
  exact ⟨registered, generation, by rw [buffers]⟩

theorem trans (first : KeepsBuffers client middle) (second : KeepsBuffers middle next) :
    KeepsBuffers client next := by
  intro slot registered
  have later := second slot registered
  have earlier := first slot later.registered
  exact ⟨earlier.registered, later.generation.trans earlier.generation,
    later.validLength.trans earlier.validLength⟩

/-- One slot is cleared, or only what is in flight on it changes. -/
theorem setBufferSlot {slot : Nat} {buffer : BufferSlot}
    (same : buffer.registered = true →
      (client.bufferResources slot).registered = true ∧
        buffer.validLength = (client.bufferResources slot).validLength) :
    KeepsBuffers client (client.setBufferSlot slot buffer) := by
  intro other registered
  change (Function.update client.bufferResources slot buffer other).registered = true at registered
  by_cases here : other = slot
  · subst here
    rw [Function.update_self] at registered
    refine ⟨(same registered).1, rfl, ?_⟩
    change (Function.update client.bufferResources other buffer other).validLength = _
    rw [Function.update_self]
    exact (same registered).2
  · rw [Function.update_of_ne here] at registered
    refine ⟨registered, rfl, ?_⟩
    change (Function.update client.bufferResources slot buffer other).validLength = _
    rw [Function.update_of_ne here]

theorem closed (client : Client) : KeepsBuffers client (closedClient client) := by
  intro slot registered
  change (if (client.bufferResources slot).registered then
    { client.bufferResources slot with closing := true } else
    client.bufferResources slot).registered = true at registered
  have before : (client.bufferResources slot).registered = true := by
    split at registered
    · assumption
    · exact registered
  refine ⟨before, rfl, ?_⟩
  change (if (client.bufferResources slot).registered then
    { client.bufferResources slot with closing := true } else
    client.bufferResources slot).validLength = _
  rw [if_pos before]

theorem served (served : Served client next) : KeepsBuffers client next := by
  cases served with
  | reading _ same busy ready =>
      have buffers := congrArg Client.bufferResources same
      have generation := congrArg Client.generation same
      exact .of_eq buffers generation
  | greeted result _ phase ready answer =>
      rcases answer with ⟨-, same⟩ | ⟨-, same⟩
      · have buffers := congrArg Client.bufferResources same
        have generation := congrArg Client.generation same
        exact .of_eq buffers generation
      · have buffers := congrArg Client.bufferResources same
        have generation := congrArg Client.generation same
        exact .of_eq buffers generation
  | closed last same =>
      have buffers := congrArg Client.bufferResources same
      have generation := congrArg Client.generation same
      exact (@of_eq client last buffers generation).trans (.closed last)

end KeepsBuffers

section Steps

variable {config : Config} {rt next : Runtime} {action : Action} {index slot : Nat}

/-- A flush touches no slot, unless it closes the client. -/
theorem flushOrClose_buffers (rt : Runtime) (index : Nat) (writes : List WriteOutcome) :
    KeepsBuffers (rt.clients index) ((flushOrClose rt index writes).1.clients index) := by
  obtain ⟨output, sent, flushed⟩ := flushClientOutput_client (rt.clients index) writes
  have kept : KeepsBuffers (rt.clients index) (flushClientOutput (rt.clients index) writes).1 := by
    rw [flushed]
    exact .of_eq rfl rfl
  unfold flushOrClose
  dsimp only
  split
  · rw [closeClient_client, Runtime.clients_setClient]
    exact kept.trans (.closed _)
  · rw [Runtime.clients_setClient]
    exact kept

theorem sweepClosingResources_buffers {updates : Nat → Nat → UpdateOutcome}
    {result : Runtime × Bool} (swept : sweepClosingResources rt updates = .ok result) :
    KeepsBuffers (rt.clients index) (result.1.clients index) := by
  rw [(sweepClosingResources_ok swept).1 index]
  split
  · intro slot registered
    unfold Client.swept at registered ⊢
    dsimp only at registered
    refine ⟨?_, rfl, ?_⟩
    · split at registered
      · split at registered
        · cases registered
        · exact registered
      · exact registered
    · dsimp only
      split
      · rename_i member
        rw [if_pos member] at registered
        split
        · rename_i due
          rw [if_pos due] at registered
          cases registered
        · rfl
      · rfl
  · exact .of_eq rfl rfl

/-- Only a REGISTER_BUFFER request registers a slot, and its payload is what counts there. -/
theorem Dispatched.buffers {env : DispatchEnv} {middle : Runtime} {bytes : List UInt8}
    (dispatched : Dispatched rt index env middle bytes)
    (registered : ((middle.clients index).bufferResources slot).registered = true) :
    SlotKept (rt.clients index) (middle.clients index) slot ∨
      ((rt.clients index).controlOp = some .registerBuffer ∧
        findFreeBufferSlot (rt.clients index) = some slot ∧
        ((middle.clients index).bufferResources slot).validLength =
          (rt.clients index).ioLength) := by
  have same : (middle.clients index).bufferResources = (rt.clients index).bufferResources →
      (middle.clients index).generation = (rt.clients index).generation →
      SlotKept (rt.clients index) (middle.clients index) slot := fun buffers generation =>
    KeepsBuffers.of_eq buffers generation slot registered
  cases dispatched with
  | resourceRefused nextId result type unheld =>
      exact .inl (same (by rw [Runtime.clients_setClient]) (by rw [Runtime.clients_setClient]))
  | descriptorDropped nextId result operation held =>
      have entry : (dropReceivedFd (rt.setClient index
          { rt.clients index with nextResourceId := nextId }) index).clients index =
          { rt.clients index with nextResourceId := nextId, receivedFd := -1 } := by
        unfold dropReceivedFd
        simp only [Runtime.clients_setClient]
      rw [entry] at same ⊢
      exact .inl (same rfl rfl)
  | fileRegistered file resourceId nextId ring result operation held found allocated valid
      updated =>
      exact .inl (same (by rw [Runtime.clients_setClient]; rfl)
        (by rw [Runtime.clients_setClient]; rfl))
  | bufferRegistered free resourceId nextId result operation found allocated valid =>
      have entry := Runtime.clients_setClient { rt with
        registeredBufferStorage := rt.registeredBufferStorage.write (bufferStorageAt rt index free)
          ((rt.clients index).ioPayload.read 0 (rt.clients index).ioLength.toNat) } index
        { (rt.clients index).setBufferSlot free
            { resourceId
              registered := true
              closing := false
              inFlight := 0
              validLength := (rt.clients index).ioLength } with
          nextResourceId := nextId }
      rw [entry] at registered ⊢
      by_cases here : slot = free
      · subst here
        refine .inr ⟨operation, found, ?_⟩
        simp only [Client.setBufferSlot, Function.update_self]
      · simp only [Client.setBufferSlot, Function.update_of_ne here] at registered
        refine .inl ⟨registered, rfl, ?_⟩
        simp only [Client.setBufferSlot, Function.update_of_ne here]
  | fileReleased file ring result operation found idle updated =>
      have entry : (clearFileSlot { rt with ring } index file).clients index =
          (rt.clients index).setFileSlot file .cleared := by
        unfold clearFileSlot
        dsimp only
        split
        · rw [Runtime.clients_setClient]
        · rw [Runtime.clients_setClient]
      rw [entry] at same ⊢
      exact .inl (same rfl rfl)
  | bufferReleased held result operation found idle =>
      left
      unfold clearBufferSlot at registered ⊢
      rw [Runtime.clients_setClient] at registered ⊢
      exact KeepsBuffers.setBufferSlot (fun cleared => by cases cleared) slot registered
  | stats => exact .inl (same rfl rfl)
  | trace => exact .inl (same rfl rfl)
  | refused _ errno credits type rolledBack =>
      refine .inl (same ?_ ?_)
      · rw [rolledBack.frame]
        simp only [Function.update_self]
      · rw [rolledBack.frame]
        simp only [Function.update_self]
  | accepted taskIndex started credits type admitted start =>
      left
      rw [start.client_self] at registered ⊢
      dsimp only at registered
      refine ⟨?_, rfl, ?_⟩
      · rcases Holds.buffer_kept_of_started start slot with same | same
        · rw [same] at registered
          exact registered
        · rw [same] at registered
          exact registered
      · dsimp only
        rcases Holds.buffer_kept_of_started start slot with same | same
        · rw [same]
        · rw [same]

/-- Looking for the payload sets the valid length of the buffer of a fixed read that succeeded
to its result. -/
theorem readPayload_buffers (task : TaskSlot) (res : Int32) (prepared : Preparation) (slot : Nat) :
    ((readPayload task res prepared).rt.clients task.clientIndex).bufferResources slot =
      (prepared.rt.clients task.clientIndex).bufferResources slot ∨
    (task.taskKind = .sockReadFixed ∧ task.bufferSlotIndex = some slot ∧ 0 ≤ res ∧
      ((readPayload task res prepared).rt.clients task.clientIndex).bufferResources slot =
        { (prepared.rt.clients task.clientIndex).bufferResources slot with
          validLength := res.toUInt32 }) := by
  cases kind : task.taskKind with
  | sockReadFixed =>
      cases named : task.bufferSlotIndex with
      | none =>
          left
          simp only [readPayload, kind, named]
      | some held =>
          by_cases filled : held < (prepared.rt.clients task.clientIndex).bufferSlotLimit ∧ 0 ≤ res
          · have entry : (readPayload task res prepared).rt.clients task.clientIndex =
                (prepared.rt.clients task.clientIndex).setBufferSlot held
                  { (prepared.rt.clients task.clientIndex).bufferResources held with
                    validLength := res.toUInt32 } := by
              simp only [readPayload, kind, named, filled, ↓reduceIte]
              split
              · rw [Runtime.clients_setClient]
              · rw [Runtime.clients_setClient]
            rw [entry]
            by_cases here : slot = held
            · subst here
              exact .inr ⟨rfl, rfl, filled.2, Function.update_self ..⟩
            · exact .inl (Function.update_of_ne here ..)
          · left
            rw [not_and_or] at filled
            rcases filled with outside | negative
            · simp only [readPayload, kind, named, outside, ↓reduceIte]
            · simp only [readPayload, kind, named, negative, ↓reduceIte]
              split
              · split <;> rfl
              · rfl
  | sockRead | fileRead =>
      left
      simp only [readPayload, kind]
      split <;> rfl
  | _ =>
      left
      simp only [readPayload, kind]

/-- A completion registers nothing, and sets no other valid length. -/
theorem completeTask_buffers {taskIndex : Nat} {res : Int32} {env : CompleteEnv}
    (placed : Placed rt (rt.tasks taskIndex))
    (completed : completeTask rt taskIndex res env = .ok next)
    (registered : ((next.clients (rt.tasks taskIndex).clientIndex).bufferResources
      slot).registered = true) :
    ((rt.clients (rt.tasks taskIndex).clientIndex).bufferResources slot).registered = true ∧
      (((next.clients (rt.tasks taskIndex).clientIndex).bufferResources slot).validLength =
        ((rt.clients (rt.tasks taskIndex).clientIndex).bufferResources slot).validLength ∨
      ((rt.tasks taskIndex).taskKind = .sockReadFixed ∧
        (rt.tasks taskIndex).bufferSlotIndex = some slot ∧ 0 ≤ res ∧
        ((next.clients (rt.tasks taskIndex).clientIndex).bufferResources slot).validLength =
          res.toUInt32)) := by
  obtain ⟨prepared, delivered, first, second, final, -, queued, file, result, buffer, same,
    prepares⟩ := completeTask_parts placed.client completed
  have preparing := prepareCompletion_prepares rt (rt.tasks taskIndex) res env
  rw [← prepares] at preparing
  have locating := readPayload_locates (rt.tasks taskIndex) res prepared
  obtain ⟨touched, entry⟩ := deliverCompletion_ok queued
  obtain ⟨-, released⟩ := releaseTask_ok
    (placed.touches ((preparing.touches.trans locating.touches).trans touched)) file result buffer
  have kept : (delivered.clients (rt.tasks taskIndex).clientIndex).bufferResources =
      ((readPayload (rt.tasks taskIndex) res prepared).rt.clients
        (rt.tasks taskIndex).clientIndex).bufferResources := by
    rw [entry]
    split <;> rfl
  have settled : (next.clients (rt.tasks taskIndex).clientIndex).bufferResources =
      (final.clients (rt.tasks taskIndex).clientIndex).bufferResources := by
    rw [same]
    unfold settle countCompletion
    dsimp only
    split
    · change ((Runtime.setClient _ _ _).clients _).bufferResources = _
      rw [Runtime.clients_setClient]
    · rfl
  -- what the release leaves registered it leaves alone
  have last : ((delivered.clients (rt.tasks taskIndex).clientIndex).bufferResources
          slot).registered = true ∧
        ((next.clients (rt.tasks taskIndex).clientIndex).bufferResources slot).validLength =
      ((delivered.clients (rt.tasks taskIndex).clientIndex).bufferResources slot).validLength := by
    rw [settled, released] at registered ⊢
    dsimp only [releasedBuffers] at registered ⊢
    split at registered
    · rename_i named
      rw [if_pos named]
      unfold BufferSlot.released at registered ⊢
      dsimp only at registered ⊢
      split at registered
      · cases registered
      · rename_i stays
        rw [if_neg stays]
        exact ⟨registered, rfl⟩
    · rename_i other
      rw [if_neg other]
      exact ⟨registered, rfl⟩
  rw [last.2, kept]
  rw [kept] at last
  have before : (prepared.rt.clients (rt.tasks taskIndex).clientIndex).bufferResources =
      (rt.clients (rt.tasks taskIndex).clientIndex).bufferResources := preparing.buffers
  rcases readPayload_buffers (rt.tasks taskIndex) res prepared slot with
    unchanged | ⟨kind, named, success, filled⟩
  · rw [unchanged, before] at last ⊢
    exact ⟨last.1, .inl rfl⟩
  · rw [filled, before] at last ⊢
    exact ⟨last.1, .inr ⟨kind, named, success, rfl⟩⟩

/-- How a slot comes to be registered after a step. -/
inductive BufferFate (rt : Runtime) (action : Action) (next : Runtime) (index slot : Nat) :
    Prop where
  | kept (kept : SlotKept (rt.clients index) (next.clients index) slot)
  | registered (env : DispatchEnv) (dispatch : action = .dispatch index env)
      (connected : rt.connected index = true) (ready : (rt.clients index).requestReady = true)
      (operation : (rt.clients index).controlOp = some .registerBuffer)
      (found : findFreeBufferSlot (rt.clients index) = some slot)
      (length : ((next.clients index).bufferResources slot).validLength =
        (rt.clients index).ioLength)
  | filled (taskIndex : Nat) (res : Int32) (ring : Ring) (occupied : rt.occupied taskIndex = true)
      (source : CompletionSource rt taskIndex res ring action)
      (kind : (rt.tasks taskIndex).taskKind = .sockReadFixed)
      (own : (rt.tasks taskIndex).clientIndex = index)
      (named : (rt.tasks taskIndex).bufferSlotIndex = some slot) (success : 0 ≤ res)
      (registered : ((rt.clients index).bufferResources slot).registered = true)
      (generation : (next.clients index).generation = (rt.clients index).generation)
      (length : ((next.clients index).bufferResources slot).validLength = res.toUInt32)

/-- A completion of an active task, on a ring that may have lost its oldest entry. -/
theorem completeTask_fate {taskIndex : Nat} {res : Int32} {env : CompleteEnv} {ring : Ring}
    (grounded : Grounded rt) (occupied : rt.occupied taskIndex = true)
    (source : CompletionSource rt taskIndex res ring action)
    (completed : completeTask { rt with ring } taskIndex res env = .ok next)
    (registered : ((next.clients index).bufferResources slot).registered = true) :
    BufferFate rt action next index slot := by
  have held := grounded.placed taskIndex occupied
  have placed : Placed { rt with ring } (rt.tasks taskIndex) :=
    ⟨held.client, held.file, held.result, held.buffer, held.fixed⟩
  have effect := completeTask_completed placed completed
  by_cases own : (rt.tasks taskIndex).clientIndex = index
  · subst own
    have generation : (next.clients (rt.tasks taskIndex).clientIndex).generation =
        (rt.clients (rt.tasks taskIndex).clientIndex).generation := by
      rw [effect.frame]
      simp only [Function.update_self]
    obtain ⟨before, length⟩ := completeTask_buffers placed completed registered
    rcases length with same | ⟨kind, named, success, length⟩
    · exact .kept ⟨before, generation, same⟩
    · exact .filled taskIndex res ring occupied source kind rfl named success before generation
        length
  · have same : next.clients index = rt.clients index := by
      rw [effect.frame]
      exact Function.update_of_ne (Ne.symm own) _ _
    exact .kept (KeepsBuffers.of_eq (by rw [same]) (by rw [same]) slot registered)

/-- Every step that succeeds. -/
theorem step_buffers (grounded : Grounded rt) (taken : step rt action = .ok next)
    (registered : ((next.clients index).bufferResources slot).registered = true) :
    BufferFate rt action next index slot := by
  have same : next.clients index = rt.clients index → BufferFate rt action next index slot := by
    intro same
    exact .kept (KeepsBuffers.of_eq (by rw [same]) (by rw [same]) slot registered)
  have only : ∀ {client : Nat}, OnlyClient rt client next →
      KeepsBuffers (rt.clients client) (next.clients client) →
      BufferFate rt action next index slot := by
    intro client only keeps
    by_cases own : index = client
    · subst own
      exact .kept (keeps slot registered)
    · exact same (only.client_other own)
  cases step_cases taken with
  | idle => exact same rfl
  | accepted fd env valid =>
      have effect := @openClient_effect rt fd env valid
      generalize openClient rt fd env = next at effect registered same only ⊢
      cases effect with
      | idle => exact same rfl
      | turnedAway => exact same rfl
      | opened client _ _ _ found =>
          by_cases own : index = client
          · subst own
            -- no slot of a new connection is registered
            change ((Runtime.clients (rt.setClient index _) index).bufferResources
              slot).registered = true at registered
            rw [Runtime.clients_setClient] at registered
            cases registered
          · exact same (Function.update_of_ne own _ _)
      | completed _ _ _ _ _ _ source => cases source
  | served client incoming _ connected frame served => exact only frame (.served served)
  | dispatched client env middle bytes _ connected ready change answered =>
      by_cases own : index = client
      · subst own
        have entry := answered.client
        have answering : KeepsBuffers (middle.clients index) (next.clients index) := by
          rw [entry]
          exact .of_eq rfl rfl
        have before := (answering slot registered).registered
        rcases change.buffers before with kept | ⟨operation, found, length⟩
        · have later := answering slot registered
          exact .kept ⟨kept.registered, later.generation.trans kept.generation,
            later.validLength.trans kept.validLength⟩
        · exact .registered env rfl connected ready operation found
            ((answering slot registered).validLength.trans length)
      · exact same ((answered.client_other own).trans (change.client_other own))
  | completed _ taskIndex res ring _ occupied source completed =>
      exact completeTask_fate grounded occupied source completed registered
  | swept updates result swept =>
      exact .kept (sweepClosingResources_buffers swept slot registered)
  | flushed client writes connected =>
      exact only (flushOrClose_only rt client writes) (flushOrClose_buffers rt client writes)
  | disconnected client connected =>
      apply only .closeClient
      rw [closeClient_client]
      exact .closed _
  | cursorMoved cursor => exact same rfl
  | posted position res => exact same rfl
  | stored store =>
      apply same
      cases store <;> rfl

end Steps

end Iouringd
