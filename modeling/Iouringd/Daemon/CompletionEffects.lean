import Iouringd.Daemon.CompletionCases

/-! # What a completion can do

`iouringd_complete_task` runs through half a dozen helpers. Each of them only
touches the output and the slots of the task's client and the kernel's tables, so
the whole call is described by what it does to these.
-/

namespace Iouringd

open Foundation

/-! ## Changes of one client's output and slots -/

/-- Only the output and the slots of one client, the table of registered files and
the list of closed descriptors may differ. -/
structure Touches (rt : Runtime) (index : Nat) (next : Runtime) : Prop where
  frame : next = { rt with
    ring := next.ring
    clients := Function.update rt.clients index { rt.clients index with
      output := (next.clients index).output
      outputSent := (next.clients index).outputSent
      fileResources := (next.clients index).fileResources
      bufferResources := (next.clients index).bufferResources } }
  ring : next.ring = { rt.ring with kernel := { rt.ring.kernel with
    registeredFiles := next.ring.kernel.registeredFiles
    closed := next.ring.kernel.closed } }

namespace Touches

variable {rt middle next : Runtime} {index : Nat}

/-- What touches only one client is reflexive and transitive. -/
theorem refl (rt : Runtime) (index : Nat) : Touches rt index rt :=
  ⟨by simp only [Function.update_eq_self], rfl⟩

/-- The client keeps everything but its output and slots. -/
theorem client (touches : Touches rt index next) :
    next.clients index = { rt.clients index with
      output := (next.clients index).output
      outputSent := (next.clients index).outputSent
      fileResources := (next.clients index).fileResources
      bufferResources := (next.clients index).bufferResources } := by
  conv_lhs => rw [touches.frame]
  simp only [Function.update_self]

@[inherit_doc Touches.refl]
theorem trans (first : Touches rt index middle) (second : Touches middle index next) :
    Touches rt index next := by
  refine ⟨?_, ?_⟩
  · conv_lhs => rw [second.frame]
    rw [first.client]
    conv_lhs => rw [first.frame]
    simp only [Function.update_idem]
  · conv_lhs => rw [second.ring]
    conv_lhs => rw [first.ring]

/-- Closing a descriptor touches no other client. -/
theorem close (fd : Fd) : Touches rt index (rt.close fd) :=
  ⟨by simp only [Runtime.close, Function.update_eq_self], rfl⟩

/-- Changing the table of files touches no client. -/
theorem withFiles (table : Nat → Fd) :
    Touches rt index { rt with ring := rt.ring.withFiles table } :=
  ⟨by simp only [Function.update_eq_self], rfl⟩

/-- Setting a file slot touches its client only. -/
theorem setFileSlot (slot : Nat) (file : FileSlot) :
    Touches rt index (rt.setClient index ((rt.clients index).setFileSlot slot file)) :=
  ⟨by simp only [Runtime.setClient, Client.setFileSlot, Function.update_self], rfl⟩

/-- Setting a buffer slot touches its client only. -/
theorem setBufferSlot (slot : Nat) (buffer : BufferSlot) :
    Touches rt index (rt.setClient index ((rt.clients index).setBufferSlot slot buffer)) :=
  ⟨by simp only [Runtime.setClient, Client.setBufferSlot, Function.update_self], rfl⟩

/-- Queueing a message touches its client only. -/
theorem queue {bytes : List UInt8} (queued : rt.queue index bytes = .ok next) :
    Touches rt index next := by
  cases Runtime.queue_ok queued
  exact ⟨by simp only [Runtime.setClient, Client.appendOutput, Function.update_self], rfl⟩

end Touches

/-! ## Releasing slots -/

variable {rt next : Runtime} {index slot : Nat}

/-- Clearing a file slot touches its client only. -/
theorem clearFileSlot_touches : Touches rt index (clearFileSlot rt index slot) := by
  unfold clearFileSlot
  dsimp only
  split
  · exact Touches.trans (Touches.close _) (Touches.setFileSlot slot .cleared)
  · exact Touches.setFileSlot slot .cleared

/-- Clearing changes the one slot only. -/
theorem clearFileSlot_client :
    (clearFileSlot rt index slot).clients index =
      (rt.clients index).setFileSlot slot .cleared := by
  unfold clearFileSlot
  dsimp only
  split <;> exact Runtime.clients_setClient ..

/-- A release clears the slot when nothing is in flight on it and it is unregistered or
closing, and does nothing otherwise. -/
theorem tryReleaseFileSlot_ok {update : UpdateOutcome}
    (released : tryReleaseFileSlot rt index slot update = .ok next) :
    Touches rt index next ∧
      next.clients index = if ((rt.clients index).fileResources slot).inFlight = 0 ∧
          (((rt.clients index).fileResources slot).registered = false ∨
            ((rt.clients index).fileResources slot).closing = true)
        then (rt.clients index).setFileSlot slot .cleared else rt.clients index := by
  unfold tryReleaseFileSlot at released
  dsimp only at released
  split at released
  · cases released
  · split at released
    · rename_i unregistered
      rw [Bool.not_eq_true'] at unregistered
      split at released
      · rename_i idle
        cases released
        refine ⟨clearFileSlot_touches, ?_⟩
        simp only [idle, unregistered, true_or, and_self, ↓reduceIte, clearFileSlot_client]
      · rename_i busy
        cases released
        refine ⟨Touches.refl _ _, ?_⟩
        simp only [busy, false_and, ↓reduceIte]
    · rename_i registered
      rw [Bool.not_eq_true', Bool.not_eq_false] at registered
      split at released
      · rename_i kept
        cases released
        refine ⟨Touches.refl _ _, ?_⟩
        rw [if_neg]
        rintro ⟨idle, unregistered | closing⟩
        · rw [registered] at unregistered
          cases unregistered
        · simp only [idle, closing, ne_eq, not_true_eq_false, decide_false, Bool.not_true,
            Bool.or_self, Bool.false_eq_true] at kept
      · rename_i due
        obtain ⟨updated, update, done⟩ := bind_ok released
        cases done
        cases updateRegisteredFile_ok update
        simp only [ne_eq, decide_not, Bool.or_eq_true, Bool.not_eq_eq_eq_not, Bool.not_true,
          decide_eq_false_iff_not, not_or, not_not, Bool.not_eq_false] at due
        refine ⟨Touches.trans (Touches.withFiles _) clearFileSlot_touches, ?_⟩
        simp only [due.1, due.2, or_true, and_self, ↓reduceIte, clearFileSlot_client]

/-- When a buffer slot is cleared and when it is kept. -/
theorem tryReleaseBufferSlot_ok (released : tryReleaseBufferSlot rt index slot = .ok next) :
    Touches rt index next ∧
      next.clients index = if ((rt.clients index).bufferResources slot).inFlight = 0 ∧
          (((rt.clients index).bufferResources slot).registered = false ∨
            ((rt.clients index).bufferResources slot).closing = true)
        then (rt.clients index).setBufferSlot slot .cleared else rt.clients index := by
  have cleared : (clearBufferSlot rt index slot).clients index =
      (rt.clients index).setBufferSlot slot .cleared := Runtime.clients_setClient ..
  unfold tryReleaseBufferSlot at released
  dsimp only at released
  split at released
  · cases released
  · split at released
    · rename_i unregistered
      rw [Bool.not_eq_true'] at unregistered
      split at released
      · rename_i idle
        cases released
        refine ⟨Touches.setBufferSlot slot .cleared, ?_⟩
        simp only [idle, unregistered, true_or, and_self, ↓reduceIte, cleared]
      · rename_i busy
        cases released
        refine ⟨Touches.refl _ _, ?_⟩
        simp only [busy, false_and, ↓reduceIte]
    · rename_i registered
      rw [Bool.not_eq_true', Bool.not_eq_false] at registered
      split at released
      · rename_i kept
        cases released
        refine ⟨Touches.refl _ _, ?_⟩
        rw [if_neg]
        rintro ⟨idle, unregistered | closing⟩
        · rw [registered] at unregistered
          cases unregistered
        · simp only [idle, closing, ne_eq, not_true_eq_false, decide_false, Bool.not_true,
            Bool.or_self, Bool.false_eq_true] at kept
      · rename_i due
        cases released
        simp only [ne_eq, decide_not, Bool.or_eq_true, Bool.not_eq_eq_eq_not, Bool.not_true,
          decide_eq_false_iff_not, not_or, not_not, Bool.not_eq_false] at due
        refine ⟨Touches.setBufferSlot slot .cleared, ?_⟩
        simp only [due.1, due.2, or_true, and_self, ↓reduceIte, cleared]

/-- A file slot when one task lets go of it; `frees` says when it is then given up. -/
def FileSlot.released (file : FileSlot) (frees : FileSlot → Bool) : FileSlot :=
  let held := { file with inFlight := file.inFlight - 1 }
  if frees held = true ∧ held.inFlight = 0 then .cleared else held

/-- A buffer slot when one task lets go of it. -/
def BufferSlot.released (buffer : BufferSlot) : BufferSlot :=
  let held := { buffer with inFlight := buffer.inFlight - 1 }
  if held.closing = true ∧ held.inFlight = 0 then .cleared else held

/-- The file slots when a task lets go of the one it names. -/
def releasedFiles (files : Nat → FileSlot) (held : Option Nat) (frees : FileSlot → Bool) :
    Nat → FileSlot :=
  fun slot => if held = some slot then (files slot).released frees else files slot

/-- The buffer slots when a task lets go of the one it names. -/
def releasedBuffers (buffers : Nat → BufferSlot) (held : Option Nat) : Nat → BufferSlot :=
  fun slot => if held = some slot then (buffers slot).released else buffers slot

/-- A task that holds a file slot gives back that one. -/
theorem releasedFiles_some (files : Nat → FileSlot) (slot : Nat) (frees : FileSlot → Bool) :
    releasedFiles files (some slot) frees =
      Function.update files slot ((files slot).released frees) := by
  funext other
  by_cases same : other = slot
  · subst same
    simp only [releasedFiles, ↓reduceIte, Function.update_self]
  · simp only [releasedFiles, Option.some.injEq, Ne.symm same, ↓reduceIte,
      Function.update_of_ne same]

/-- A task that holds a buffer slot gives back that one. -/
theorem releasedBuffers_some (buffers : Nat → BufferSlot) (slot : Nat) :
    releasedBuffers buffers (some slot) =
      Function.update buffers slot (buffers slot).released := by
  funext other
  by_cases same : other = slot
  · subst same
    simp only [releasedBuffers, ↓reduceIte, Function.update_self]
  · simp only [releasedBuffers, Option.some.injEq, Ne.symm same, ↓reduceIte,
      Function.update_of_ne same]

/-- What a task does when it gives its file back. -/
theorem releaseTaskFile_ok {held : Option Nat} {frees : FileSlot → Bool} {update : UpdateOutcome}
    (within : ∀ slot, held = some slot → slot < (rt.clients index).fileSlotLimit)
    (given : ∀ file, frees file = true → file.registered = false ∨ file.closing = true)
    (released : releaseTaskFile rt index held frees update = .ok next) :
    Touches rt index next ∧ next.clients index = { rt.clients index with
      fileResources := releasedFiles (rt.clients index).fileResources held frees } := by
  cases held with
  | none =>
      cases released
      exact ⟨Touches.refl _ _, rfl⟩
  | some slot =>
      rw [releasedFiles_some]
      unfold releaseTaskFile at released
      simp only [within slot rfl, ↓reduceIte] at released
      unfold FileSlot.released
      dsimp only
      split at released
      · rename_i freed
        obtain ⟨touches, client⟩ := tryReleaseFileSlot_ok released
        refine ⟨Touches.trans (Touches.setFileSlot slot _) touches, ?_⟩
        rw [client]
        have due := given _ freed
        simp only [Runtime.clients_setClient, Client.setFileSlot, Function.update_self, freed, due,
          and_true, true_and, Function.update_idem]
        split <;> rfl
      · rename_i kept
        cases released
        refine ⟨Touches.setFileSlot slot _, ?_⟩
        simp only [Runtime.clients_setClient, Client.setFileSlot, kept, Bool.false_eq_true,
          false_and, ↓reduceIte]

/-- What a task does when it gives its buffer back. -/
theorem releaseTaskBuffer_ok {held : Option Nat}
    (within : ∀ slot, held = some slot → slot < (rt.clients index).bufferSlotLimit)
    (released : releaseTaskBuffer rt index held = .ok next) :
    Touches rt index next ∧ next.clients index = { rt.clients index with
      bufferResources := releasedBuffers (rt.clients index).bufferResources held } := by
  cases held with
  | none =>
      cases released
      exact ⟨Touches.refl _ _, rfl⟩
  | some slot =>
      rw [releasedBuffers_some]
      unfold releaseTaskBuffer at released
      simp only [within slot rfl, ↓reduceIte] at released
      unfold BufferSlot.released
      dsimp only
      split at released
      · rename_i closing
        obtain ⟨touches, client⟩ := tryReleaseBufferSlot_ok released
        refine ⟨Touches.trans (Touches.setBufferSlot slot _) touches, ?_⟩
        rw [client]
        simp only [Runtime.clients_setClient, Client.setBufferSlot, Function.update_self, closing,
          or_true, and_true, true_and, Function.update_idem]
        split <;> rfl
      · rename_i kept
        cases released
        refine ⟨Touches.setBufferSlot slot _, ?_⟩
        simp only [Runtime.clients_setClient, Client.setBufferSlot, kept, Bool.false_eq_true,
          false_and, ↓reduceIte]

/-! ## Preparing and delivering the record -/

/-- The payload of a completion. -/
def Preparation.payloadBytes (prepared : Preparation) : List UInt8 :=
  match prepared.payload with
  | some (memory, offset) => memory.read offset prepared.record.payloadLength.toNat
  | none => []

/-- The bytes of a completion: the record and its payload. -/
def Preparation.bytes (prepared : Preparation) : List UInt8 :=
  prepared.record.encode ++ prepared.payloadBytes

/-- The payload is as long as the record says. -/
theorem Preparation.length_payloadBytes {prepared : Preparation}
    (located : prepared.payload = none → prepared.record.payloadLength = 0) :
    prepared.payloadBytes.length = prepared.record.payloadLength.toNat := by
  unfold payloadBytes
  split
  · exact Memory.length_read _ _ _
  · rename_i missing
    rw [located missing]
    rfl

/-- What preparing a completion changes: at most the reserved slot becomes a resource. -/
structure Prepares (task : TaskSlot) (prepared next : Preparation) : Prop where
  touches : Touches prepared.rt task.clientIndex next.rt
  output : (next.rt.clients task.clientIndex).output =
    (prepared.rt.clients task.clientIndex).output
  outputSent : (next.rt.clients task.clientIndex).outputSent =
    (prepared.rt.clients task.clientIndex).outputSent
  buffers : (next.rt.clients task.clientIndex).bufferResources =
    (prepared.rt.clients task.clientIndex).bufferResources
  files : ∀ slot, (next.rt.clients task.clientIndex).fileResources slot =
      (prepared.rt.clients task.clientIndex).fileResources slot ∨
    (task.resultFileSlotIndex = some slot ∧ taskConnected prepared.rt task = true ∧
      (next.rt.clients task.clientIndex).fileResources slot =
        { (prepared.rt.clients task.clientIndex).fileResources slot with
          resourceId := task.resultResourceId
          daemonFd := prepared.record.res
          registered := true
          closing := false })
  taskId : next.record.taskId = prepared.record.taskId
  taskKind : next.record.taskKind = prepared.record.taskKind
  payload : (next.payload = prepared.payload ∧
      next.record.payloadLength = prepared.record.payloadLength) ∨ next.payload.isSome = true

namespace Prepares

variable {task : TaskSlot} {prepared : Preparation}

/-- Nothing was prepared. -/
theorem refl (task : TaskSlot) (prepared : Preparation) : Prepares task prepared prepared :=
  ⟨Touches.refl _ _, rfl, rfl, rfl, fun _ => Or.inl rfl, rfl, rfl, Or.inl ⟨rfl, rfl⟩⟩

/-- The result is replaced by an error and the descriptor closed. -/
theorem abandon (fd : Fd) (res : Int32) : Prepares task prepared (prepared.abandon fd res) :=
  ⟨Touches.close fd, rfl, rfl, rfl, fun _ => Or.inl rfl, rfl, rfl, Or.inl ⟨rfl, rfl⟩⟩

/-- Registering the descriptor, or closing it when the table cannot be updated. -/
theorem registerResult {slot : Nat} {update : UpdateOutcome} {attach : Preparation → Preparation}
    (reserved : task.resultFileSlotIndex = some slot)
    (connected : taskConnected prepared.rt task = true)
    (attaches : ∀ registered : Preparation, (attach registered).rt = registered.rt ∧
      (attach registered).record.taskId = registered.record.taskId ∧
      (attach registered).record.taskKind = registered.record.taskKind ∧
      (((attach registered).payload = registered.payload ∧
        (attach registered).record.payloadLength = registered.record.payloadLength) ∨
        (attach registered).payload.isSome = true)) :
    Prepares task prepared
      (prepared.registerResult task slot prepared.record.res update attach) := by
  unfold Preparation.registerResult
  dsimp only
  split
  · rename_i ring errno failed
    cases ringUpdateRegisteredFile_failed failed
    exact abandon prepared.record.res (-errno)
  · rename_i ring updated
    cases ringUpdateRegisteredFile_ok updated
    generalize shape : ({ prepared with
      rt := _, record := { prepared.record with res := task.resultResourceId.toInt32 } } :
        Preparation) = registered
    obtain ⟨sameRt, sameId, sameKind, payload⟩ := attaches registered
    subst shape
    refine ⟨?_, ?_, ?_, ?_, ?_, sameId, sameKind, payload⟩
    · rw [sameRt]
      exact Touches.trans (Touches.withFiles _) (Touches.setFileSlot slot _)
    · rw [sameRt]
      dsimp only
      rw [Runtime.clients_setClient]
      rfl
    · rw [sameRt]
      dsimp only
      rw [Runtime.clients_setClient]
      rfl
    · rw [sameRt]
      dsimp only
      rw [Runtime.clients_setClient]
      rfl
    · intro other
      rw [sameRt]
      dsimp only
      rw [Runtime.clients_setClient]
      by_cases same : other = slot
      · subst same
        exact Or.inr ⟨reserved, connected, Function.update_self ..⟩
      · exact Or.inl (Function.update_of_ne same ..)

end Prepares

/-- An address that is attached changes the payload only. -/
theorem attachSockaddr_keeps (task : TaskSlot) (registered : Preparation) :
    (registered.attachSockaddr task).rt = registered.rt ∧
      (registered.attachSockaddr task).record.taskId = registered.record.taskId ∧
      (registered.attachSockaddr task).record.taskKind = registered.record.taskKind ∧
      (((registered.attachSockaddr task).payload = registered.payload ∧
        (registered.attachSockaddr task).record.payloadLength =
          registered.record.payloadLength) ∨
        (registered.attachSockaddr task).payload.isSome = true) := by
  unfold Preparation.attachSockaddr
  split
  · exact ⟨rfl, rfl, rfl, Or.inr rfl⟩
  · exact ⟨rfl, rfl, rfl, Or.inl ⟨rfl, rfl⟩⟩

/-- What is prepared for ACCEPT. -/
theorem prepareAcceptCompletion_prepares (task : TaskSlot) (update : UpdateOutcome)
    (prepared : Preparation) :
    Prepares task prepared (prepareAcceptCompletion task update prepared) := by
  unfold prepareAcceptCompletion
  dsimp only
  split
  · exact Prepares.refl task prepared
  · split
    · exact Prepares.abandon _ _
    · rename_i slot reserved
      split
      · exact Prepares.abandon _ _
      · split
        · exact Prepares.abandon _ _
        · split
          · exact Prepares.abandon _ _
          · split
            · exact Prepares.abandon _ _
            · rename_i connected
              rw [Bool.not_eq_true', Bool.not_eq_false] at connected
              exact Prepares.registerResult reserved connected (attachSockaddr_keeps task)

/-- What is prepared for OPENAT. -/
theorem prepareOpenatCompletion_prepares (task : TaskSlot) (update : UpdateOutcome)
    (prepared : Preparation) :
    Prepares task prepared (prepareOpenatCompletion task update prepared) := by
  unfold prepareOpenatCompletion
  dsimp only
  split
  · exact Prepares.refl task prepared
  · split
    · exact Prepares.abandon _ _
    · rename_i slot reserved
      split
      · exact Prepares.abandon _ _
      · split
        · exact Prepares.abandon _ _
        · split
          · exact Prepares.abandon _ _
          · rename_i connected
            rw [Bool.not_eq_true', Bool.not_eq_false] at connected
            exact Prepares.registerResult reserved connected
              (fun _ => ⟨rfl, rfl, rfl, Or.inl ⟨rfl, rfl⟩⟩)

/-- A task is an ACCEPT or an OPENAT, so at most one of the two functions does
anything. -/
theorem prepareCompletion_prepares (rt : Runtime) (task : TaskSlot) (res : Int32)
    (env : CompleteEnv) :
    Prepares task ⟨rt, completionRecord task res, none⟩ (prepareCompletion rt task res env) := by
  unfold prepareCompletion
  by_cases accept : task.taskKind = .accept
  · have skipped : ∀ prepared, prepareOpenatCompletion task env.register prepared = prepared := by
      intro prepared
      unfold prepareOpenatCompletion
      simp only [accept, reduceCtorEq, ne_eq, not_false_eq_true, true_or, ↓reduceIte]
    rw [skipped]
    exact prepareAcceptCompletion_prepares task env.register _
  · have skipped : ∀ prepared, prepareAcceptCompletion task env.register prepared = prepared := by
      intro prepared
      unfold prepareAcceptCompletion
      simp only [accept, ne_eq, not_false_eq_true, true_or, ↓reduceIte]
    rw [skipped]
    exact prepareOpenatCompletion_prepares task env.register _

/-- A fixed read also sets the valid length of its buffer; nothing else changes. -/
structure Locates (task : TaskSlot) (prepared next : Preparation) : Prop where
  touches : Touches prepared.rt task.clientIndex next.rt
  output : (next.rt.clients task.clientIndex).output =
    (prepared.rt.clients task.clientIndex).output
  outputSent : (next.rt.clients task.clientIndex).outputSent =
    (prepared.rt.clients task.clientIndex).outputSent
  files : (next.rt.clients task.clientIndex).fileResources =
    (prepared.rt.clients task.clientIndex).fileResources
  buffers : ∀ slot, (next.rt.clients task.clientIndex).bufferResources slot =
      (prepared.rt.clients task.clientIndex).bufferResources slot ∨
    (task.bufferSlotIndex = some slot ∧ ∃ length,
      (next.rt.clients task.clientIndex).bufferResources slot =
        { (prepared.rt.clients task.clientIndex).bufferResources slot with
          validLength := length })
  record : next.record = prepared.record

/-- Where the payload of a read is. -/
theorem readPayload_locates (task : TaskSlot) (res : Int32) (prepared : Preparation) :
    Locates task prepared (readPayload task res prepared) := by
  have same : Locates task prepared prepared :=
    ⟨Touches.refl _ _, rfl, rfl, rfl, fun _ => Or.inl rfl, rfl⟩
  have filled : ∀ (slot : Nat) (length : UInt32) (payload : Option (Memory × Nat)),
      task.bufferSlotIndex = some slot → Locates task prepared { prepared with
        rt := prepared.rt.setClient task.clientIndex
          ((prepared.rt.clients task.clientIndex).setBufferSlot slot
            { (prepared.rt.clients task.clientIndex).bufferResources slot with
              validLength := length })
        payload } := by
    intro slot length payload held
    refine ⟨Touches.setBufferSlot slot _, ?_, ?_, ?_, ?_, rfl⟩
    · simp only [Runtime.clients_setClient, Client.setBufferSlot]
    · simp only [Runtime.clients_setClient, Client.setBufferSlot]
    · simp only [Runtime.clients_setClient, Client.setBufferSlot]
    · intro other
      rw [Runtime.clients_setClient]
      by_cases this : other = slot
      · subst this
        exact Or.inr ⟨held, length, Function.update_self ..⟩
      · exact Or.inl (Function.update_of_ne this ..)
  unfold readPayload
  dsimp only
  split
  · split
    · exact ⟨Touches.refl _ _, rfl, rfl, rfl, fun _ => Or.inl rfl, rfl⟩
    · exact same
  · split
    · exact ⟨Touches.refl _ _, rfl, rfl, rfl, fun _ => Or.inl rfl, rfl⟩
    · exact same
  · split
    · exact same
    · rename_i slot held
      split
      · by_cases nonnegative : 0 ≤ res
        · simp only [nonnegative, ↓reduceIte]
          split
          · exact filled slot _ _ held
          · exact filled slot _ _ held
        · simp only [nonnegative, ↓reduceIte]
          split
          · exact ⟨Touches.refl _ _, rfl, rfl, rfl, fun _ => Or.inl rfl, rfl⟩
          · exact same
      · exact same
  · exact same

/-- A read with a payload length has its payload located, provided that a fixed read
names a buffer slot of its client. -/
theorem readPayload_payload {task : TaskSlot} {res : Int32} {prepared : Preparation}
    (fixed : task.taskKind = .sockReadFixed → ∃ slot, task.bufferSlotIndex = some slot ∧
      slot < (prepared.rt.clients task.clientIndex).bufferSlotLimit)
    (length : prepared.record.payloadLength = (completionRecord task res).payloadLength ∨
      prepared.payload.isSome = true) :
    (readPayload task res prepared).payload = none →
      (readPayload task res prepared).record.payloadLength = 0 := by
  intro missing
  have zero : ¬0 < res → (completionRecord task res).payloadLength = 0 := by
    intro none
    unfold completionRecord
    dsimp only
    split <;> simp only [none, ↓reduceIte]
  rw [(readPayload_locates task res prepared).record]
  unfold readPayload at missing
  dsimp only at missing
  rcases length with same | located
  · rw [same]
    split at missing
    · split at missing
      · cases missing
      · exact zero ‹_›
    · split at missing
      · cases missing
      · exact zero ‹_›
    · rename_i kind
      obtain ⟨slot, held, within⟩ := fixed kind
      simp only [held, within, ↓reduceIte] at missing
      split at missing
      · cases missing
      · exact zero ‹_›
    · unfold completionRecord
      dsimp only
      split <;> simp_all only [imp_false, not_true_eq_false]
  · have kept : prepared.payload ≠ none := Option.isSome_iff_ne_none.mp located
    split at missing
    · split at missing
      · cases missing
      · exact absurd missing kept
    · split at missing
      · cases missing
      · exact absurd missing kept
    · split at missing
      · exact absurd missing kept
      · split at missing
        · split at missing
          · cases missing
          · exact absurd missing kept
        · exact absurd missing kept
    · exact absurd missing kept

/-- The record and its payload are queued together, on a connection that is still
there and on no other. -/
theorem deliverCompletion_ok {task : TaskSlot} {prepared : Preparation}
    (delivered : deliverCompletion task prepared = .ok next) :
    Touches prepared.rt task.clientIndex next ∧
      next.clients task.clientIndex = if taskConnected prepared.rt task = true then
        (prepared.rt.clients task.clientIndex).appendOutput prepared.bytes
        else prepared.rt.clients task.clientIndex := by
  unfold deliverCompletion at delivered
  split at delivered
  · rename_i connected
    rw [if_pos connected]
    obtain ⟨queued, taken, rest⟩ := bind_ok delivered
    have touches := Touches.queue taken
    have client : queued.clients task.clientIndex =
        (prepared.rt.clients task.clientIndex).appendOutput prepared.record.encode := by
      rw [Runtime.queue_ok taken, Runtime.clients_setClient]
    unfold Preparation.bytes Preparation.payloadBytes
    rcases payload : prepared.payload with - | ⟨memory, offset⟩
    · simp only [payload] at rest
      cases rest
      exact ⟨touches, by rw [client, List.append_nil]⟩
    · simp only [payload] at rest
      dsimp only
      split at rest
      · refine ⟨touches.trans (Touches.queue rest), ?_⟩
        rw [Runtime.queue_ok rest, Runtime.clients_setClient, client, Client.appendOutput_append]
      · rename_i empty
        cases rest
        refine ⟨touches, ?_⟩
        rw [not_not.mp empty, client]
        exact congrArg _ (List.append_nil _).symm
  · rename_i apart
    cases delivered
    exact ⟨Touches.refl _ _, by rw [if_neg apart]⟩

/-! ## The whole completion -/

/-- A task names a client and slots that exist, its two file slots apart. -/
structure Placed (rt : Runtime) (task : TaskSlot) : Prop where
  client : task.clientIndex < rt.limits.maxClients
  file : ∀ slot, task.fileSlotIndex = some slot →
    slot < (rt.clients task.clientIndex).fileSlotLimit
  result : ∀ slot, task.resultFileSlotIndex = some slot →
    slot < (rt.clients task.clientIndex).fileSlotLimit ∧ task.fileSlotIndex ≠ some slot
  buffer : ∀ slot, task.bufferSlotIndex = some slot →
    slot < (rt.clients task.clientIndex).bufferSlotLimit
  fixed : task.taskKind = .sockReadFixed → task.bufferSlotIndex ≠ none

/-- The slots of a client when a task of it has completed. -/
structure Releases (rt : Runtime) (task : TaskSlot) (res : Int32) (next : Client) : Prop where
  file_other : ∀ slot, task.fileSlotIndex ≠ some slot → task.resultFileSlotIndex ≠ some slot →
    next.fileResources slot = (rt.clients task.clientIndex).fileResources slot
  file : ∀ slot, task.fileSlotIndex = some slot → next.fileResources slot =
    ((rt.clients task.clientIndex).fileResources slot).released FileSlot.closing
  result : ∀ slot, task.resultFileSlotIndex = some slot →
    next.fileResources slot =
      ((rt.clients task.clientIndex).fileResources slot).released FileSlot.unused ∨
    (taskConnected rt task = true ∧ next.fileResources slot =
      { (rt.clients task.clientIndex).fileResources slot with
        resourceId := task.resultResourceId
        daemonFd := res
        registered := true
        closing := false
        inFlight := ((rt.clients task.clientIndex).fileResources slot).inFlight - 1 })
  buffer_other : ∀ slot, task.bufferSlotIndex ≠ some slot →
    next.bufferResources slot = (rt.clients task.clientIndex).bufferResources slot
  buffer : ∀ slot, task.bufferSlotIndex = some slot → ∃ length, next.bufferResources slot =
    ({ (rt.clients task.clientIndex).bufferResources slot with validLength := length } :
      BufferSlot).released

/-- The three releases at the end of a completion. -/
theorem releaseTask_ok {task : TaskSlot} {env : CompleteEnv} {first second : Runtime}
    (placed : Placed rt task)
    (file : releaseTaskFile rt task.clientIndex task.fileSlotIndex FileSlot.closing
      env.releaseFile = .ok first)
    (result : releaseTaskFile first task.clientIndex task.resultFileSlotIndex FileSlot.unused
      env.releaseResult = .ok second)
    (buffer : releaseTaskBuffer second task.clientIndex task.bufferSlotIndex = .ok next) :
    Touches rt task.clientIndex next ∧
      next.clients task.clientIndex = { rt.clients task.clientIndex with
        fileResources := releasedFiles (releasedFiles (rt.clients task.clientIndex).fileResources
          task.fileSlotIndex FileSlot.closing) task.resultFileSlotIndex FileSlot.unused
        bufferResources := releasedBuffers (rt.clients task.clientIndex).bufferResources
          task.bufferSlotIndex } := by
  obtain ⟨fileTouches, fileClient⟩ :=
    releaseTaskFile_ok placed.file (fun _ closing => Or.inr closing) file
  have resultWithin : ∀ slot, task.resultFileSlotIndex = some slot →
      slot < (first.clients task.clientIndex).fileSlotLimit := by
    intro slot held
    rw [fileClient]
    exact (placed.result slot held).1
  have unused : ∀ slot : FileSlot, slot.unused = true →
      slot.registered = false ∨ slot.closing = true := by
    intro slot given
    simpa only [FileSlot.unused, Bool.or_eq_true, Bool.not_eq_true'] using given
  obtain ⟨resultTouches, resultClient⟩ := releaseTaskFile_ok resultWithin unused result
  have bufferWithin : ∀ slot, task.bufferSlotIndex = some slot →
      slot < (second.clients task.clientIndex).bufferSlotLimit := by
    intro slot held
    rw [resultClient, fileClient]
    exact placed.buffer slot held
  obtain ⟨bufferTouches, bufferClient⟩ := releaseTaskBuffer_ok bufferWithin buffer
  refine ⟨(fileTouches.trans resultTouches).trans bufferTouches, ?_⟩
  rw [bufferClient, resultClient, fileClient]

/-- The record and payload a completion queues on a connection that is still there. -/
structure Delivers (rt : Runtime) (task : TaskSlot) (res : Int32) (env : CompleteEnv)
    (next : Client) : Prop where
  connected : taskConnected rt task = true → ∃ (record : CompletionRecord) (payload : List UInt8),
    record.taskId = task.taskId ∧ record.taskKind = task.taskKind.toWire ∧
    payload.length = record.payloadLength.toNat ∧
    next.pendingOutput =
      (rt.clients task.clientIndex).pendingOutput ++ (record.encode ++ payload) ∧
    ∃ prepared, Prepared rt task res env.register prepared ∧ record = prepared.record ∧
      payload = (readPayload task res prepared).payloadBytes
  apart : taskConnected rt task = false →
    next.output = (rt.clients task.clientIndex).output ∧
      next.outputSent = (rt.clients task.clientIndex).outputSent

/-- Whether a task still has its connection does not depend on slots and output. -/
theorem taskConnected_touches {task : TaskSlot} (touches : Touches rt task.clientIndex next) :
    taskConnected next task = taskConnected rt task := by
  unfold taskConnected Client.isActive
  rw [touches.client]

/-- A task stays placed. -/
theorem Placed.touches {task : TaskSlot} (placed : Placed rt task)
    (touches : Touches rt task.clientIndex next) : Placed next task := by
  refine ⟨?_, ?_, ?_, ?_, placed.fixed⟩
  · rw [touches.frame]
    exact placed.client
  · rw [touches.client]
    exact placed.file
  · rw [touches.client]
    exact placed.result
  · rw [touches.client]
    exact placed.buffer

/-- The part of a completion that concerns its client. -/
theorem completeForClient_ok {task : TaskSlot} {res : Int32} {env : CompleteEnv}
    (placed : Placed rt task)
    (completed : completeForClient task res env (prepareCompletion rt task res env) = .ok next) :
    Touches rt task.clientIndex next ∧ Delivers rt task res env (next.clients task.clientIndex) ∧
      Releases rt task res (next.clients task.clientIndex) := by
  have prepares := prepareCompletion_prepares rt task res env
  have cases := prepareCompletion_prepared rt task res env
  generalize prepareCompletion rt task res env = prepared at prepares cases completed
  unfold completeForClient at completed
  obtain ⟨queued, delivered, rest⟩ := bind_ok completed
  obtain ⟨first, file, rest⟩ := bind_ok rest
  obtain ⟨second, result, buffer⟩ := bind_ok rest
  have locates := readPayload_locates task res prepared
  have fixed : task.taskKind = .sockReadFixed → ∃ slot, task.bufferSlotIndex = some slot ∧
      slot < (prepared.rt.clients task.clientIndex).bufferSlotLimit := by
    intro kind
    obtain ⟨slot, held⟩ := Option.ne_none_iff_exists'.mp (placed.fixed kind)
    exact ⟨slot, held, (placed.touches prepares.touches).buffer slot held⟩
  have payload := @readPayload_payload task res prepared fixed
    (prepares.payload.imp (fun same => same.2) id)
  generalize found : readPayload task res prepared = located at locates payload delivered
  have touchesLocated := prepares.touches.trans locates.touches
  obtain ⟨touchesQueued, clientQueued⟩ := deliverCompletion_ok delivered
  have touches := touchesLocated.trans touchesQueued
  obtain ⟨touchesReleased, clientNext⟩ := releaseTask_ok (placed.touches touches) file result buffer
  have connection := taskConnected_touches touchesLocated
  -- up to the release, only the result slot may have changed
  have files : (queued.clients task.clientIndex).fileResources =
      (prepared.rt.clients task.clientIndex).fileResources := by
    rw [clientQueued, ← locates.files]
    split <;> rfl
  have buffers : (queued.clients task.clientIndex).bufferResources =
      (located.rt.clients task.clientIndex).bufferResources := by
    rw [clientQueued]
    split <;> rfl
  refine ⟨touches.trans touchesReleased, ⟨?_, ?_⟩, ?_⟩
  · intro connected
    rw [connection, if_pos connected] at clientQueued
    refine ⟨located.record, located.payloadBytes, ?_, ?_,
      Preparation.length_payloadBytes payload, ?_, prepared, cases, locates.record, by rw [found]⟩
    · rw [locates.record, prepares.taskId]
      rfl
    · rw [locates.record, prepares.taskKind]
      rfl
    · have unsent : (located.rt.clients task.clientIndex).pendingOutput =
          (rt.clients task.clientIndex).pendingOutput := by
        unfold Client.pendingOutput
        rw [locates.output, locates.outputSent, prepares.output, prepares.outputSent]
      rw [← unsent, clientNext]
      change (queued.clients task.clientIndex).pendingOutput = _
      rw [clientQueued, Client.pendingOutput_appendOutput]
      rfl
  · intro apart
    rw [connection, apart, if_neg Bool.false_ne_true] at clientQueued
    rw [clientNext, clientQueued]
    exact ⟨locates.output.trans prepares.output, locates.outputSent.trans prepares.outputSent⟩
  · rw [clientNext]
    refine ⟨?_, ?_, ?_, ?_, ?_⟩
    · intro slot notFile notResult
      simp only [releasedFiles, notFile, notResult, ↓reduceIte, files]
      rcases prepares.files slot with same | ⟨reserved, -, -⟩
      · exact same
      · exact absurd reserved notResult
    · intro slot held
      have notResult : task.resultFileSlotIndex ≠ some slot := fun reserved =>
        (placed.result slot reserved).2 held
      simp only [releasedFiles, held, notResult, ↓reduceIte, files]
      rcases prepares.files slot with same | ⟨reserved, -, -⟩
      · rw [same]
      · exact absurd reserved notResult
    · intro slot reserved
      simp only [releasedFiles, reserved, (placed.result slot reserved).2, ↓reduceIte, files]
      rcases prepares.files slot with same | ⟨-, connected, registered⟩
      · exact Or.inl (by rw [same])
      · refine Or.inr ⟨connected, ?_⟩
        rw [registered]
        simp only [FileSlot.released, FileSlot.unused, Bool.not_true, Bool.or_self,
          Bool.false_eq_true, false_and, ↓reduceIte]
        rfl
    · intro slot notBuffer
      simp only [releasedBuffers, notBuffer, ↓reduceIte, buffers]
      rcases locates.buffers slot with same | ⟨held, -⟩
      · rw [same, prepares.buffers]
      · exact absurd held notBuffer
    · intro slot held
      simp only [releasedBuffers, held, ↓reduceIte, buffers]
      rcases locates.buffers slot with same | ⟨-, length, filled⟩
      · refine ⟨((rt.clients task.clientIndex).bufferResources slot).validLength, ?_⟩
        rw [same, prepares.buffers]
      · refine ⟨length, ?_⟩
        rw [filled, prepares.buffers]

/-- The state after a completion. -/
structure Completed (rt : Runtime) (taskIndex : Nat) (res : Int32) (env : CompleteEnv)
    (next : Runtime) : Prop where
  frame : next = { rt with
    ring := next.ring
    outstandingTasks := sizeSub rt.outstandingTasks 1
    outstandingCreditTasks := sizeSub rt.outstandingCreditTasks
      (if (rt.tasks taskIndex).consumesCredit then 1 else 0)
    completions := rt.completions + 1
    nextTraceSequence := next.nextTraceSequence
    traceEvents := next.traceEvents
    traceCount := next.traceCount
    tasks := Function.update rt.tasks taskIndex .cleared
    clients := Function.update rt.clients (rt.tasks taskIndex).clientIndex
      { rt.clients (rt.tasks taskIndex).clientIndex with
        output := (next.clients (rt.tasks taskIndex).clientIndex).output
        outputSent := (next.clients (rt.tasks taskIndex).clientIndex).outputSent
        fileResources := (next.clients (rt.tasks taskIndex).clientIndex).fileResources
        bufferResources := (next.clients (rt.tasks taskIndex).clientIndex).bufferResources
        outstandingTasks := (rt.clients (rt.tasks taskIndex).clientIndex).outstandingTasks - 1
        outstandingCreditTasks :=
          (rt.clients (rt.tasks taskIndex).clientIndex).outstandingCreditTasks -
            (if (rt.tasks taskIndex).consumesCredit then 1 else 0) } }
  ring : next.ring = { rt.ring with kernel := { rt.ring.kernel with
    registeredFiles := next.ring.kernel.registeredFiles
    closed := next.ring.kernel.closed } }
  delivers : Delivers rt (rt.tasks taskIndex) res env
    (next.clients (rt.tasks taskIndex).clientIndex)
  releases : Releases rt (rt.tasks taskIndex) res
    (next.clients (rt.tasks taskIndex).clientIndex)
  recorded : Traces rt next fun args =>
    args.taskKind = (rt.tasks taskIndex).taskKind.toWire ∧
      args.submitPriority = (rt.tasks taskIndex).submitPriority

/-- Every completion of a task that names existing slots is of that form. -/
theorem completeTask_completed {taskIndex : Nat} {res : Int32} {env : CompleteEnv}
    (placed : Placed rt (rt.tasks taskIndex))
    (completed : completeTask rt taskIndex res env = .ok next) :
    Completed rt taskIndex res env next := by
  unfold completeTask at completed
  simp only [placed.client, ↓reduceIte] at completed
  obtain ⟨released, done, final⟩ := bind_ok completed
  obtain ⟨touches, delivers, releases⟩ := completeForClient_ok placed done
  have clientBound : (rt.tasks taskIndex).clientIndex < released.limits.maxClients := by
    rw [touches.frame]
    exact placed.client
  have counted : countCompletion released (rt.tasks taskIndex) = { rt with
      ring := released.ring
      outstandingTasks := sizeSub rt.outstandingTasks 1
      outstandingCreditTasks := sizeSub rt.outstandingCreditTasks
        (if (rt.tasks taskIndex).consumesCredit then 1 else 0)
      completions := rt.completions + 1
      clients := Function.update rt.clients (rt.tasks taskIndex).clientIndex
        { rt.clients (rt.tasks taskIndex).clientIndex with
          output := (released.clients (rt.tasks taskIndex).clientIndex).output
          outputSent := (released.clients (rt.tasks taskIndex).clientIndex).outputSent
          fileResources := (released.clients (rt.tasks taskIndex).clientIndex).fileResources
          bufferResources := (released.clients (rt.tasks taskIndex).clientIndex).bufferResources
          outstandingTasks := (rt.clients (rt.tasks taskIndex).clientIndex).outstandingTasks - 1
          outstandingCreditTasks :=
            (rt.clients (rt.tasks taskIndex).clientIndex).outstandingCreditTasks -
              (if (rt.tasks taskIndex).consumesCredit then 1 else 0) } } := by
    simp only [countCompletion, clientBound, ↓reduceIte, Runtime.setClient]
    conv_lhs => rw [touches.frame]
    simp only [Function.update_self, Function.update_idem]
  have recorded : Traces rt next fun args =>
      args.taskKind = (rt.tasks taskIndex).taskKind.toWire ∧
        args.submitPriority = (rt.tasks taskIndex).submitPriority := by
    have same : SameTrace rt (countCompletion released (rt.tasks taskIndex)) := by
      rw [counted]
      exact ⟨rfl, rfl, rfl⟩
    have settled : ∀ args, SameTrace (emitTraceEvent rt env.now args)
        ((emitTraceEvent (countCompletion released (rt.tasks taskIndex)) env.now args).setTask
          taskIndex .cleared) := fun args => (same.emit env.now args).trans ⟨rfl, rfl, rfl⟩
    cases final
    refine Or.inr ⟨env.now, _, ?_, settled _⟩
    exact ⟨rfl, rfl⟩
  cases final
  rw [counted] at recorded ⊢
  simp only [emitTraceEvent, Runtime.setTask] at recorded ⊢
  refine ⟨?_, touches.ring, ?_, ?_, recorded⟩
  · simp only [Function.update_self]
  · simp only [Function.update_self]
    exact ⟨delivers.connected, delivers.apart⟩
  · simp only [Function.update_self]
    exact ⟨releases.file_other, releases.file, releases.result, releases.buffer_other,
      releases.buffer⟩

end Iouringd
