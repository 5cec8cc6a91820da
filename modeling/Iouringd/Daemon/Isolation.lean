import Iouringd.Daemon.FileTable

/-! # Clients are kept apart

A step that is taken for one client leaves the records of the others alone, and what it
writes in the two shared arrays, the table of registered files and the buffer storage,
lies in the range of its client. So do the operands of the operation it publishes, if it
publishes one.
-/

namespace Iouringd

open Foundation

/-- The file an operation names belongs to the client: a fixed file in its range of the
table, the descriptor of one of its slots, or the current directory. -/
def FileOperand (rt : Runtime) (index : Nat) (sqe : Sqe) : Prop :=
  match sqe.opcode with
  | .readv | .writev | .readFixed | .writeFixed | .pollAdd =>
      sqe.fixedFile = true ∧
        ((index * rt.limits.registeredFdsPerClient : Nat) : Int) ≤ sqe.fd.toInt ∧
        sqe.fd.toInt < (((index + 1) * rt.limits.registeredFdsPerClient : Nat) : Int)
  | .connect | .accept | .close =>
      sqe.fixedFile = false ∧ ∃ slot, slot < rt.limits.registeredFdsPerClient ∧
        (rt.file index slot).registered = true ∧ sqe.fd = (rt.file index slot).daemonFd
  | .openat => sqe.fixedFile = false ∧ sqe.fd = atFdcwd
  | .nop | .timeout | .asyncCancel => sqe.fixedFile = false ∧ sqe.fd = 0

/-- The buffer an operation names belongs to the client, and the bytes it asks for lie in
it; the other operations do not point into the storage. -/
def BufferOperand (rt : Runtime) (index : Nat) (sqe : Sqe) : Prop :=
  match sqe.opcode with
  | .readFixed | .writeFixed =>
      ∃ slot, slot < rt.limits.registeredBuffersPerClient ∧
        sqe.bufIndex.toNat = globalBufferIndex rt index slot ∧
        index * rt.limits.registeredBuffersPerClient ≤ sqe.bufIndex.toNat ∧
        sqe.bufIndex.toNat < (index + 1) * rt.limits.registeredBuffersPerClient ∧
        sqe.addr = .storage (bufferStorageAt rt index slot) ∧
        sqe.len.toNat ≤ rt.limits.ioBytesMax
  | _ => sqe.bufIndex = 0 ∧ ∀ offset, sqe.addr ≠ .storage offset ∧ sqe.off ≠ .storage offset

/-- Everything outside the ranges of one client is left alone, and an operation that is
published names nothing outside them. -/
structure Isolated (rt : Runtime) (index : Nat) (next : Runtime) : Prop where
  clients : ∀ other, other ≠ index → next.clients other = rt.clients other
  files : ∀ position, position < index * rt.limits.registeredFdsPerClient ∨
      (index + 1) * rt.limits.registeredFdsPerClient ≤ position →
    next.ring.kernel.registeredFiles position = rt.ring.kernel.registeredFiles position
  storage : ∀ offset,
      offset < index * rt.limits.registeredBuffersPerClient * rt.limits.ioBytesMax ∨
        (index + 1) * rt.limits.registeredBuffersPerClient * rt.limits.ioBytesMax ≤ offset →
    next.registeredBufferStorage offset = rt.registeredBufferStorage offset
  operands : next.ring.sqTail = rt.ring.sqTail ∨
    next.ring.sqTail = rt.ring.sqTail + 1 ∧ ∃ sqe, rt.ring.published next.ring = some sqe ∧
      FileOperand rt index sqe ∧ BufferOperand rt index sqe

section Frames

variable {config : Config} {rt next : Runtime} {action : Action} {index : Nat}

/-- A step for one client leaves the records of the others alone. -/
theorem StepEffect.client_other (effect : StepEffect rt action next)
    (actor : rt.actor action = some index) {other : Nat} (apart : other ≠ index) :
    next.clients other = rt.clients other := by
  cases effect with
  | idle => rfl
  | turnedAway | opened | swept | cursorMoved | posted | stored => cases actor
  | served client incoming next connected only served =>
      cases actor
      rw [only.frame]
      exact Function.update_of_ne apart _ _
  | dispatched client env middle bytes next connected ready change answered =>
      cases actor
      exact (answered.client_other apart).trans (change.client_other apart)
  | completed action taskIndex res ring next occupied source completed =>
      have own : index = (rt.tasks taskIndex).clientIndex := by
        cases action with
        | complete slot result env =>
            obtain ⟨same, -, -⟩ := source
            subst same
            exact (Option.some.inj actor).symm
        | reap env =>
            obtain ⟨cqe, peeked, found, -⟩ := source
            simp only [Runtime.actor, peeked, Option.bind_some, found, Option.map_some,
              Option.some.injEq] at actor
            exact actor.symm
        | _ => cases source
      rw [completed.frame]
      exact Function.update_of_ne (own ▸ apart) _ _
  | flushed client writes next connected only flushed =>
      cases actor
      rw [only.frame]
      exact Function.update_of_ne apart _ _
  | disconnected client connected =>
      cases actor
      have only : OnlyClient rt index (closeClient rt index) := .closeClient
      rw [only.frame]
      exact Function.update_of_ne apart _ _

/-- The positions of a client's slots. -/
theorem globalFileIndex_range {slot : Nat} (below : slot < rt.limits.registeredFdsPerClient) :
    index * rt.limits.registeredFdsPerClient ≤ globalFileIndex rt index slot ∧
      globalFileIndex rt index slot < (index + 1) * rt.limits.registeredFdsPerClient := by
  unfold globalFileIndex
  rw [Nat.add_mul, Nat.one_mul]
  omega

/-- A move for one client writes the table in the range of that client. -/
theorem FileMove.table_other (move : FileMove index rt next) (mirrored : Mirrored rt)
    {position : Nat} (outside : position < index * rt.limits.registeredFdsPerClient ∨
      (index + 1) * rt.limits.registeredFdsPerClient ≤ position) :
    next.limits = rt.limits ∧
      next.ring.kernel.registeredFiles position = rt.ring.kernel.registeredFiles position := by
  have written : ∀ {slot : Nat} {fd : Fd}, slot < rt.limits.registeredFdsPerClient →
      SetsFile rt index slot fd next → next.limits = rt.limits ∧
        next.ring.kernel.registeredFiles position = rt.ring.kernel.registeredFiles position := by
    intro slot fd below sets
    refine ⟨sets.limits, ?_⟩
    obtain ⟨lower, upper⟩ := @globalFileIndex_range rt index slot below
    rw [sets.table, Function.update_of_ne]
    omega
  cases move with
  | kept same =>
      refine ⟨same.limits, ?_⟩
      rw [same.table]
  | opened fd found limits table clients =>
      refine ⟨limits, ?_⟩
      rw [table]
  | registered slot fd client below vacant valid sets after => exact written below sets
  | vacated slot held sets after => exact written (mirrored.within index slot held).2 sets
  | refreshed slot held sets after => exact written (mirrored.within index slot held).2 sets

theorem FileMoves.table_other {who : Nat → Prop} (moves : FileMoves who rt next)
    (only : ∀ client, who client → client = index) (mirrored : Mirrored rt)
    {position : Nat} (outside : position < index * rt.limits.registeredFdsPerClient ∨
      (index + 1) * rt.limits.registeredFdsPerClient ≤ position) :
    next.limits = rt.limits ∧
      next.ring.kernel.registeredFiles position = rt.ring.kernel.registeredFiles position := by
  induction moves with
  | refl => exact ⟨rfl, rfl⟩
  | tail earlier last ih =>
      obtain ⟨client, one, move⟩ := last
      cases only client one
      obtain ⟨limits, same⟩ := ih
      rw [← limits] at outside
      obtain ⟨limits', same'⟩ := move.table_other (FileMoves.mirrored earlier mirrored) outside
      exact ⟨limits'.trans limits, same'.trans same⟩

/-- The positions of a client's buffers. -/
theorem globalBufferIndex_range {slot : Nat}
    (below : slot < rt.limits.registeredBuffersPerClient) :
    index * rt.limits.registeredBuffersPerClient ≤ globalBufferIndex rt index slot ∧
      globalBufferIndex rt index slot < (index + 1) * rt.limits.registeredBuffersPerClient := by
  unfold globalBufferIndex
  rw [Nat.add_mul, Nat.one_mul]
  omega

/-- The storage of a client's buffer lies in the range of the client. -/
theorem bufferStorageAt_range {slot : Nat} (below : slot < rt.limits.registeredBuffersPerClient) :
    index * rt.limits.registeredBuffersPerClient * rt.limits.ioBytesMax ≤
        bufferStorageAt rt index slot ∧
      bufferStorageAt rt index slot + rt.limits.ioBytesMax ≤
        (index + 1) * rt.limits.registeredBuffersPerClient * rt.limits.ioBytesMax := by
  obtain ⟨lower, upper⟩ := @globalBufferIndex_range rt index slot below
  unfold bufferStorageAt
  refine ⟨Nat.mul_le_mul_right _ lower, ?_⟩
  rw [← Nat.succ_mul]
  exact Nat.mul_le_mul_right _ upper

/-- A step for one client writes the storage in the range of that client. -/
theorem Invariant.storage_other (invariant : Invariant config rt)
    (taken : step rt action = .ok next) (actor : rt.actor action = some index) {offset : Nat}
    (outside : offset < index * rt.limits.registeredBuffersPerClient * rt.limits.ioBytesMax ∨
      (index + 1) * rt.limits.registeredBuffersPerClient * rt.limits.ioBytesMax ≤ offset) :
    next.registeredBufferStorage offset = rt.registeredBufferStorage offset := by
  rcases (step_effect invariant.grounded taken).storage with
    ⟨store, kernel⟩ | same | ⟨client, slot, env, own, connected, ready, operation, found, written⟩
  · subst kernel
    cases actor
  · rw [same]
  · subst own
    cases actor
    simp only [Runtime.connected, Bool.and_eq_true] at connected
    have sized := (invariant.entries index).sized (Or.inl connected.2)
    obtain ⟨-, -, grammatical⟩ := (invariant.entries index).ready ready
    obtain ⟨below, -⟩ := firstBelow_some found
    rw [sized.2.1, ← invariant.limits] at below
    have length := grammatical.ioLength_le operation
    rw [sized.2.2, ← invariant.limits] at length
    obtain ⟨lower, upper⟩ := @bufferStorageAt_range rt index slot below
    rw [written]
    apply Memory.write_outside _ _ _ _
    rw [Memory.length_read]
    omega

end Frames

section Operands

variable {config : Config} {rt attempt next : Runtime} {action : Action} {index taskIndex : Nat}

/-- A fixed-buffer request that passes the checks asks for no more than a buffer holds. -/
theorem admitted_ioLength {client : Client} (admitted : admissionRefusal rt client = none)
    (kind : client.request.taskKind = .sockReadFixed ∨ client.request.taskKind = .sockWriteFixed) :
    client.ioLength.toNat ≤ client.ioBytesMax := by
  unfold admissionRefusal at admitted
  split_ifs at admitted with first second third fourth invalid
  rcases kind with kind | kind
  · simp only [argumentsInvalid, kind, Bool.or_eq_true, decide_eq_true_eq, not_or] at invalid
    omega
  · simp only [argumentsInvalid, kind, Bool.or_eq_true, decide_eq_true_eq, not_or] at invalid
    omega

/-- The slot a request works on, with its position in the table. -/
theorem Attempt.file_slot (made : Attempt rt index taskIndex attempt)
    (sized : (rt.clients index).fileSlotLimit = rt.limits.registeredFdsPerClient)
    (uses : (attempt.tasks taskIndex).taskKind.usesFile = true ∨
      (attempt.tasks taskIndex).taskKind = .close) :
    ∃ slot, (attempt.tasks taskIndex).fileSlotIndex = some slot ∧
      slot < rt.limits.registeredFdsPerClient ∧ (rt.file index slot).registered = true := by
  obtain ⟨slot, named⟩ := Option.ne_none_iff_exists'.mp (made.carries.file uses)
  obtain ⟨below, held, -, -⟩ := made.acquires.file_found slot named
  rw [sized] at below
  exact ⟨slot, named, below, held⟩

/-- A fixed file of a request is in the range of its client. -/
theorem Attempt.fixed_file (invariant : Invariant config rt)
    (made : Attempt rt index taskIndex attempt) (client : index < rt.limits.maxClients)
    (sized : (rt.clients index).fileSlotLimit = rt.limits.registeredFdsPerClient)
    (fixed : (taskSqe attempt taskIndex).opcode.onFixedFile = true) :
    (taskSqe attempt taskIndex).fixedFile = true ∧
      ((index * rt.limits.registeredFdsPerClient : Nat) : Int) ≤
        (taskSqe attempt taskIndex).fd.toInt ∧
      (taskSqe attempt taskIndex).fd.toInt <
        (((index + 1) * rt.limits.registeredFdsPerClient : Nat) : Int) := by
  obtain ⟨uses, -, flag, fd⟩ := taskSqe_onFixedFile fixed
  obtain ⟨slot, named, below, -⟩ := made.file_slot sized (Or.inl uses)
  have limits : attempt.limits = rt.limits := by rw [made.frame]
  rw [named, Option.getD_some, made.identifies.clientIndex, globalFileIndex_congr limits] at fd
  obtain ⟨lower, upper⟩ := @globalFileIndex_range rt index slot below
  rw [fd, Int32.toInt_ofNat_of_lt (invariant.position_small client below)]
  exact ⟨flag, Int.ofNat_le.mpr lower, Int.ofNat_lt.mpr upper⟩

/-- A raw descriptor of a request is that of its slot. -/
theorem Attempt.raw_file (made : Attempt rt index taskIndex attempt)
    (sized : (rt.clients index).fileSlotLimit = rt.limits.registeredFdsPerClient)
    (uses : (attempt.tasks taskIndex).taskKind.usesFile = true)
    (notClose : (attempt.tasks taskIndex).taskKind ≠ .close) :
    ∃ slot, slot < rt.limits.registeredFdsPerClient ∧ (rt.file index slot).registered = true ∧
      ((attempt.tasks taskIndex).fileSlotIndex.map fun slot =>
        ((attempt.clients (attempt.tasks taskIndex).clientIndex).fileResources slot).daemonFd).getD
        (-1) = (rt.file index slot).daemonFd := by
  obtain ⟨slot, named, below, held⟩ := made.file_slot sized (Or.inl uses)
  refine ⟨slot, below, held, ?_⟩
  rw [named, Option.map_some, Option.getD_some, made.identifies.clientIndex,
    made.acquires.file slot named notClose]
  rfl

/-- The file a request names. -/
theorem Attempt.fileOperand (invariant : Invariant config rt)
    (made : Attempt rt index taskIndex attempt) (client : index < rt.limits.maxClients)
    (sized : (rt.clients index).fileSlotLimit = rt.limits.registeredFdsPerClient) :
    FileOperand rt index (taskSqe attempt taskIndex) := by
  have fixed := made.fixed_file invariant client sized
  have raw := made.raw_file sized
  have closed := made.file_slot sized
  unfold FileOperand
  unfold taskSqe at fixed ⊢
  dsimp only at fixed ⊢
  cases kind : (attempt.tasks taskIndex).taskKind with
  | sockRead | sockWrite | fileRead | fileWrite | poll | sockReadFixed | sockWriteFixed =>
      simp only [kind] at fixed ⊢
      exact fixed rfl
  | connect | accept =>
      rw [kind] at raw
      exact ⟨rfl, raw rfl nofun⟩
  | openat => exact ⟨rfl, rfl⟩
  | close =>
      rw [kind] at closed
      obtain ⟨slot, named, below, held⟩ := closed (Or.inr rfl)
      exact ⟨rfl, slot, below, held, (made.acquires.file_close slot named kind).2.1⟩
  | _ => exact ⟨rfl, rfl⟩

/-- The buffer a fixed-buffer request names. -/
theorem Attempt.fixed_buffer (invariant : Invariant config rt)
    (made : Attempt rt index taskIndex attempt) (client : index < rt.limits.maxClients)
    (active : (rt.clients index).isActive = true)
    (kind : (attempt.tasks taskIndex).taskKind = .sockReadFixed ∨
      (attempt.tasks taskIndex).taskKind = .sockWriteFixed) :
    ∃ slot, (attempt.tasks taskIndex).bufferSlotIndex = some slot ∧
      slot < rt.limits.registeredBuffersPerClient ∧
      (UInt16.ofNat (globalBufferIndex rt index slot)).toNat = globalBufferIndex rt index slot ∧
      (attempt.tasks taskIndex).ioLength.toNat ≤ rt.limits.ioBytesMax := by
  obtain ⟨slot, named⟩ := Option.ne_none_iff_exists'.mp (made.acquires.fixed kind)
  obtain ⟨-, buffers, bytes⟩ := (invariant.entries index).sized (Or.inl active)
  rw [← invariant.limits] at buffers bytes
  obtain ⟨below, -⟩ := made.acquires.buffer slot named
  rw [buffers] at below
  refine ⟨slot, named, below, ?_, ?_⟩
  · obtain ⟨lower, upper⟩ := @globalBufferIndex_range rt index slot below
    obtain ⟨clients, -, slots⟩ := config.slots_le
    rw [← invariant.limits] at clients slots
    have product : (index + 1) * rt.limits.registeredBuffersPerClient ≤
        maxClientsLimit * maxRegisteredBuffers := Nat.mul_le_mul (by omega) slots
    have small : maxClientsLimit * maxRegisteredBuffers < 2 ^ 16 := by decide
    rw [UInt16.toNat_ofNat', Nat.mod_eq_of_lt (by omega)]
  · have uses : (attempt.tasks taskIndex).taskKind.usesFile = true := by
      rcases kind with kind | kind <;> rw [kind] <;> rfl
    have request := made.identifies.taskKind
    rw [made.carries.ioLength uses, ← bytes]
    apply admitted_ioLength made.admitted
    rw [← request]
    exact kind

/-- The buffer a request names. -/
theorem Attempt.bufferOperand (invariant : Invariant config rt)
    (made : Attempt rt index taskIndex attempt) (client : index < rt.limits.maxClients)
    (active : (rt.clients index).isActive = true) :
    BufferOperand rt index (taskSqe attempt taskIndex) := by
  have buffer := made.fixed_buffer invariant client active
  have limits : attempt.limits = rt.limits := by rw [made.frame]
  have fixed : (attempt.tasks taskIndex).taskKind = .sockReadFixed ∨
      (attempt.tasks taskIndex).taskKind = .sockWriteFixed →
      ∃ slot, slot < rt.limits.registeredBuffersPerClient ∧
        (UInt16.ofNat (globalBufferIndex attempt (attempt.tasks taskIndex).clientIndex
          ((attempt.tasks taskIndex).bufferSlotIndex.getD 0))).toNat =
          globalBufferIndex rt index slot ∧
        index * rt.limits.registeredBuffersPerClient ≤
          (UInt16.ofNat (globalBufferIndex attempt (attempt.tasks taskIndex).clientIndex
            ((attempt.tasks taskIndex).bufferSlotIndex.getD 0))).toNat ∧
        (UInt16.ofNat (globalBufferIndex attempt (attempt.tasks taskIndex).clientIndex
          ((attempt.tasks taskIndex).bufferSlotIndex.getD 0))).toNat <
          (index + 1) * rt.limits.registeredBuffersPerClient ∧
        Addr.storage (bufferStorageAt attempt (attempt.tasks taskIndex).clientIndex
          ((attempt.tasks taskIndex).bufferSlotIndex.getD 0)) =
          .storage (bufferStorageAt rt index slot) ∧
        (attempt.tasks taskIndex).ioLength.toNat ≤ rt.limits.ioBytesMax := by
    intro kind
    obtain ⟨slot, named, below, small, length⟩ := buffer kind
    obtain ⟨lower, upper⟩ := @globalBufferIndex_range rt index slot below
    have place : globalBufferIndex attempt index slot = globalBufferIndex rt index slot := by
      rw [globalBufferIndex, limits, globalBufferIndex]
    rw [named, Option.getD_some, made.identifies.clientIndex, bufferStorageAt, place, limits, small]
    exact ⟨slot, below, rfl, lower, upper, rfl, length⟩
  unfold BufferOperand taskSqe
  dsimp only
  cases kind : (attempt.tasks taskIndex).taskKind with
  | sockReadFixed => exact fixed (Or.inl kind)
  | sockWriteFixed => exact fixed (Or.inr kind)
  | accept =>
      refine ⟨rfl, fun offset => ⟨?_, ?_⟩⟩
      · dsimp only
        split <;> rintro ⟨⟩
      · dsimp only
        split <;> rintro ⟨⟩
  | _ => exact ⟨rfl, fun offset => ⟨by rintro ⟨⟩, by rintro ⟨⟩⟩⟩

end Operands

section Steps

variable {config : Config} {rt next : Runtime} {action : Action} {index : Nat}

theorem Dispatched.tail {env : DispatchEnv} {middle : Runtime} {bytes : List UInt8}
    (dispatched : Dispatched rt index env middle bytes) :
    middle.ring.sqTail = rt.ring.sqTail ∨ middle.ring.sqTail = rt.ring.sqTail + 1 := by
  cases dispatched with
  | fileRegistered slot resourceId nextId ring result operation held found allocated valid
      updated =>
      cases ringUpdateRegisteredFile_ok updated
      exact Or.inl rfl
  | fileReleased slot ring result operation found idle updated =>
      cases ringUpdateRegisteredFile_ok updated
      unfold clearFileSlot
      dsimp only
      split
      · exact Or.inl rfl
      · exact Or.inl rfl
  | refused middle errno credits type rolledBack =>
      obtain ⟨table, -, same | ⟨sqe, failure, -, same⟩⟩ := rolledBack.ring
      · rw [same]
        exact Or.inl rfl
      · rw [same]
        exact Or.inr rfl
  | accepted taskIndex started credits type admitted start =>
      obtain ⟨table, -, -, count, -, same⟩ := start.submitted
      apply Or.inr
      change started.ring.sqTail = _
      rw [same]
      rfl
  | _ => exact Or.inl rfl

/-- Only dispatches publish. -/
theorem StepEffect.tail (effect : StepEffect rt action next) :
    next.ring.sqTail = rt.ring.sqTail ∨
      ∃ client env middle bytes, action = .dispatch client env ∧ rt.connected client = true ∧
        Dispatched rt client env middle bytes ∧ next.ring = middle.ring := by
  cases effect with
  | served client incoming next connected only served =>
      left
      rw [only.ring]
  | dispatched client env middle bytes next connected ready change answered =>
      refine Or.inr ⟨client, env, middle, bytes, rfl, connected, change, ?_⟩
      rw [answered]
  | completed action taskIndex res ring next occupied source completed =>
      left
      rw [completed.ring, source.frame]
  | swept updates next swept slots =>
      left
      rw [swept.ring]
  | flushed client writes next connected only flushed =>
      left
      rw [only.ring]
  | disconnected client connected =>
      have only : OnlyClient rt client (closeClient rt client) := .closeClient
      left
      rw [only.ring]
  | posted position res =>
      left
      change (kernelPost rt.ring position res).sqTail = _
      rw [kernelPost_frame]
  | stored store =>
      left
      cases store <;> rfl
  | _ => exact Or.inl rfl

theorem Reachable.mirrored (reachable : Reachable config rt) : Mirrored rt := by
  obtain ⟨actions, ran⟩ := reachable
  obtain ⟨last, noted⟩ := @recorded_of_run _ _ _ _ _ noteRegistered _ _ _ (fun _ _ => none) ran
  exact (run_noted noted).mirrored

/-- What a step for one client publishes names files and buffers of that client. -/
theorem Invariant.operands (invariant : Invariant config rt)
    (taken : step rt action = .ok next) (actor : rt.actor action = some index) :
    next.ring.sqTail = rt.ring.sqTail ∨
      next.ring.sqTail = rt.ring.sqTail + 1 ∧ ∃ sqe, rt.ring.published next.ring = some sqe ∧
        FileOperand rt index sqe ∧ BufferOperand rt index sqe := by
  by_cases unmoved : next.ring.sqTail = rt.ring.sqTail
  · exact Or.inl unmoved
  · rcases (step_effect invariant.grounded taken).tail with
      same | ⟨client, env, middle, bytes, own, connected, change, ring⟩
    · exact absurd same unmoved
    · subst own
      cases actor
      right
      simp only [Runtime.connected, Bool.and_eq_true, decide_eq_true_eq] at connected
      obtain ⟨bound, active⟩ := connected
      have sized := ((invariant.entries index).sized (Or.inl active)).1
      rw [← invariant.limits] at sized
      rw [ring] at unmoved ⊢
      refine ⟨change.tail.resolve_left unmoved, ?_⟩
      have published : rt.ring.published middle.ring = some
          (middle.ring.sqeAt (cell rt.ring.sqRingMask rt.ring.sqTail)) := if_neg unmoved
      obtain ⟨taskIndex, attempt, made, same⟩ := change.offered _ published
      refine ⟨_, published, ?_, ?_⟩
      · rw [same]
        exact made.fileOperand invariant bound sized
      · rw [same]
        exact made.bufferOperand invariant bound active

/-- In every reachable state, a step taken for a client (its input, the dispatch of its
request, the completion of one of its tasks, a flush, its disconnect) leaves the records,
the table entries and the storage of everyone else alone, and the operation it publishes,
if any, names only files and buffers of the client. -/
theorem clients_isolated (reachable : Reachable config rt) (taken : step rt action = .ok next)
    (actor : rt.actor action = some index) : Isolated rt index next := by
  have invariant := reachable.invariant
  refine ⟨?_, ?_, ?_, invariant.operands taken actor⟩
  · intro other apart
    exact (step_effect invariant.grounded taken).client_other actor apart
  · intro position outside
    refine ((invariant.step_moves taken).table_other ?_ reachable.mirrored outside).2
    rintro client (same | none)
    · rw [actor] at same
      exact (Option.some.inj same).symm
    · rw [actor] at none
      cases none
  · intro offset outside
    exact invariant.storage_other taken actor outside

end Steps

/-- Two clients have registered a descriptor under the same id 1; a read of the second
works on its own fixed file. -/
theorem clients_isolated_second_read :
    ∃ rt next, Reachable (.small 2 (by decide) (by decide)) rt ∧
      step rt (.dispatch 1 .smooth) = .ok next ∧
      (rt.clients 0).fileResources 0 = ⟨1, 9, 0, true, false⟩ ∧
      (rt.clients 1).fileResources 0 = ⟨1, 10, 0, true, false⟩ ∧
      (rt.ring.published next.ring).map (fun sqe => sqe.fd.toInt) = some 1 ∧
      Isolated rt 1 next := by
  have seen : ((run step (Runtime.initial (.small 2 (by decide) (by decide)))
      (joining 0 7 ++ registering 0 9 ++ joining 1 8 ++ registering 1 10 ++
        [.input 1 [.data (IoRequest.encode ⟨requestHeader .sockRead, 1, 8⟩) []
          false]])).toOption.map fun rt =>
        (decide ((rt.clients 0).fileResources 0 = ⟨1, 9, 0, true, false⟩ ∧
          (rt.clients 1).fileResources 0 = ⟨1, 10, 0, true, false⟩),
        (step rt (.dispatch 1 .smooth)).toOption.map fun next =>
          decide ((rt.ring.published next.ring).map (fun sqe => sqe.fd.toInt) = some 1))) =
      some (true, some true) := by decide +kernel
  obtain ⟨rt, ran, view⟩ := exists_of_toOption_map seen
  obtain ⟨slots, dispatched⟩ := Prod.mk.inj view
  obtain ⟨next, taken, position⟩ := exists_of_toOption_map dispatched
  obtain ⟨first, second⟩ := of_decide_eq_true slots
  have reachable : Reachable (.small 2 (by decide) (by decide)) rt := ⟨_, ran⟩
  exact ⟨rt, next, reachable, taken, first, second, of_decide_eq_true position,
    clients_isolated reachable taken rfl⟩

end Iouringd
