import Iouringd.Ring.Submit

/-! # What the ring holds

Seen from outside the ring is three queues: entries published and not yet consumed,
operations the kernel consumed and has not completed, completions the daemon has not
read. Accepting a submission appends to the first two together, posting moves an
operation from the second to the third, and reading a completion takes it off the
third. The submit functions of the source are one family, and a failed one leaves the
queues alone unless `io_uring_enter` failed behind the published entry.
-/

namespace Iouringd

open Foundation

namespace Ring

/-- The operations the kernel has or will be given, oldest first. -/
def submitted (ring : Ring) : List Sqe := ring.kernel.executing ++ ring.pending

/-- The ids of everything that was submitted and whose completion was not read. -/
def tokens (ring : Ring) : List TaskId :=
  ring.submitted.map Sqe.userData ++ ring.posted.map Cqe.userData

end Ring

/-- Both rings have a power-of-two number of cells, and the index array leads every
unconsumed position to its own entry. -/
structure RingSound (ring : Ring) : Prop where
  sq : RingGeometry ring.sqRingEntries ring.sqRingMask
  cq : RingGeometry (ring.cqRingMask + 1) ring.cqRingMask
  identity : ∀ index < occupied ring.sqHead ring.sqTail,
    (ring.sqArray (cell ring.sqRingMask (ring.sqHead + UInt32.ofNat index))).toNat =
      cell ring.sqRingMask (ring.sqHead + UInt32.ofNat index)

/-- The three queues and the geometry are the same. -/
structure SameQueues (ring next : Ring) : Prop where
  pending : next.pending = ring.pending
  executing : next.kernel.executing = ring.kernel.executing
  posted : next.posted = ring.posted
  sound : RingSound ring → RingSound next

section Queues

variable {ring next : Ring}

theorem SameQueues.submitted (same : SameQueues ring next) : next.submitted = ring.submitted := by
  rw [Ring.submitted, same.executing, same.pending, Ring.submitted]

theorem SameQueues.tokens (same : SameQueues ring next) : next.tokens = ring.tokens := by
  rw [Ring.tokens, same.submitted, same.posted, Ring.tokens]

/-- The table of registered files and the closed descriptors are no part of a queue. -/
theorem SameQueues.of_kernel {table : Nat → Fd} {closed : List Fd}
    (kernel : next = { ring with kernel := { ring.kernel with
      registeredFiles := table, closed := closed } }) : SameQueues ring next := by
  subst kernel
  exact ⟨rfl, rfl, rfl, fun sound => ⟨sound.sq, sound.cq, sound.identity⟩⟩

theorem SameQueues.trans {middle : Ring} (first : SameQueues ring middle)
    (second : SameQueues middle next) : SameQueues ring next where
  pending := second.pending.trans first.pending
  executing := second.executing.trans first.executing
  posted := second.posted.trans first.posted
  sound := fun sound => second.sound (first.sound sound)

/-- The unconsumed entries, read without the index array. -/
theorem RingSound.pending_eq (sound : RingSound ring) :
    ring.pending = window ring.sqes ring.sqRingMask ring.sqHead ring.sqTail := by
  apply window_congr
  intro index within
  rw [Ring.sqeAt, sound.identity index within]

theorem Ring.publish_sound (sound : RingSound ring) (sqe : Sqe)
    (room : occupied ring.sqHead ring.sqTail < ring.sqRingEntries.toNat) :
    RingSound (ring.publish sqe) := by
  refine ⟨sound.sq, sound.cq, ?_⟩
  intro index within
  have moved : occupied ring.sqHead (ring.sqTail + 1) = occupied ring.sqHead ring.sqTail + 1 :=
    occupied_push room
  change index < occupied ring.sqHead (ring.sqTail + 1) at within
  change (Function.update ring.sqArray (cell ring.sqRingMask ring.sqTail) _
    (cell ring.sqRingMask (ring.sqHead + UInt32.ofNat index))).toNat =
      cell ring.sqRingMask (ring.sqHead + UInt32.ofNat index)
  rw [RingGeometry.tail_cell ring.sqRingMask ring.sqHead ring.sqTail]
  by_cases last : index = occupied ring.sqHead ring.sqTail
  · have small : cell ring.sqRingMask (ring.sqHead + UInt32.ofNat index) < 2 ^ 32 :=
      ((ring.sqHead + UInt32.ofNat index) &&& ring.sqRingMask).toNat_lt
    rw [← last, Function.update_self, UInt32.toNat_ofNat', Nat.mod_eq_of_lt small]
  · rw [Function.update_of_ne (sound.sq.cell_ne ring.sqHead (by omega) room last)]
    exact sound.identity index (by omega)

/-- Publishing appends to the unconsumed entries. -/
theorem Ring.pending_publish (sound : RingSound ring) (sqe : Sqe)
    (room : occupied ring.sqHead ring.sqTail < ring.sqRingEntries.toNat) :
    (ring.publish sqe).pending = ring.pending ++ [sqe] := by
  rw [(Ring.publish_sound sound sqe room).pending_eq, sound.pending_eq]
  exact sound.sq.window_push ring.sqes sqe room

theorem Ring.consume_sound (sound : RingSound ring) (count : Nat) :
    RingSound (ring.consume count) := by
  have taken : min count ring.pending.length ≤ occupied ring.sqHead ring.sqTail := by
    rw [Ring.pending, length_window]
    exact Nat.min_le_right _ _
  refine ⟨sound.sq, sound.cq, ?_⟩
  intro index within
  change index < occupied (ring.sqHead + UInt32.ofNat (min count ring.pending.length))
    ring.sqTail at within
  rw [occupied_pop taken] at within
  change (ring.sqArray (cell ring.sqRingMask (ring.sqHead +
    UInt32.ofNat (min count ring.pending.length) + UInt32.ofNat index))).toNat =
      cell ring.sqRingMask (ring.sqHead + UInt32.ofNat (min count ring.pending.length) +
        UInt32.ofNat index)
  rw [UInt32.add_assoc, ← UInt32.ofNat_add]
  exact sound.identity _ (by omega)

/-- Consuming moves entries to the kernel and keeps their order. -/
theorem Ring.submitted_consume (count : Nat) : (ring.consume count).submitted = ring.submitted := by
  have taken : min count ring.pending.length ≤ occupied ring.sqHead ring.sqTail := by
    rw [Ring.pending, length_window]
    exact Nat.min_le_right _ _
  have left : (ring.consume count).pending =
      ring.pending.drop (min count ring.pending.length) :=
    window_pop ring.sqeAt ring.sqRingMask taken
  rw [Ring.submitted, left]
  change (ring.kernel.executing ++ ring.pending.take _) ++ _ = _
  rw [List.append_assoc, List.take_append_drop, Ring.submitted]

/-- A submission the ring takes joins what was submitted before. -/
theorem RingAccepts.submitted {sqe : Sqe} {enter : EnterOutcome} (sound : RingSound ring)
    (accepts : RingAccepts sqe enter ring next) :
    RingSound next ∧ next.submitted = ring.submitted ++ [sqe] ∧ next.posted = ring.posted := by
  obtain ⟨room, count, -, same⟩ := accepts
  have below : occupied ring.sqHead ring.sqTail < ring.sqRingEntries.toNat :=
    UInt32.lt_iff_toNat_lt.mp room
  subst same
  refine ⟨Ring.consume_sound (Ring.publish_sound sound sqe below) _, ?_, rfl⟩
  rw [Ring.submitted_consume]
  change ring.kernel.executing ++ (ring.publish sqe).pending = _
  rw [Ring.pending_publish sound sqe below, ← List.append_assoc, Ring.submitted]

/-- The kernel completes one of the operations it executes, or has no room to say so. -/
theorem kernelPost_cases (sound : RingSound ring) (position : Nat) (res : Int32) :
    kernelPost ring position res = ring ∨
      ∃ sqe, ring.kernel.executing[position]? = some sqe ∧
        RingSound (kernelPost ring position res) ∧
        (kernelPost ring position res).pending = ring.pending ∧
        (kernelPost ring position res).kernel.executing =
          ring.kernel.executing.eraseIdx position ∧
        (kernelPost ring position res).posted = ring.posted ++ [⟨sqe.userData, res⟩] := by
  unfold kernelPost
  split
  · exact Or.inl rfl
  · rename_i sqe executing
    split
    · rename_i space
      have below : occupied ring.cqHead ring.cqTail < (ring.cqRingMask + 1).toNat := by
        obtain ⟨order, small, entries, mask⟩ := sound.cq.exists_order
        have bound := UInt32.le_iff_toNat_le.mp space
        unfold occupied
        have positive : 0 < 2 ^ order := Nat.two_pow_pos order
        omega
      refine Or.inr ⟨sqe, executing, ⟨sound.sq, sound.cq, sound.identity⟩, rfl, rfl, ?_⟩
      exact sound.cq.window_push ring.cqes _ below
    · exact Or.inl rfl

/-- Reading a completion takes the oldest one. -/
theorem ringPeekCompletion_some {cqe : Cqe}
    (peeked : ringPeekCompletion ring = (next, some cqe)) :
    (RingSound ring → RingSound next) ∧ next.submitted = ring.submitted ∧
      ring.posted = cqe :: next.posted := by
  unfold ringPeekCompletion at peeked
  split at peeked
  · cases peeked
  · rename_i available
    cases peeked
    refine ⟨fun sound => ⟨sound.sq, sound.cq, sound.identity⟩, rfl, ?_⟩
    exact window_eq_cons ring.cqes ring.cqRingMask available

end Queues

/-! ## The submit functions as one family -/

/-- A call of one of the `iouringd_ring_submit_*` functions. -/
inductive SubmitCall where
  | nop (taskId : TaskId)
  | timeout (taskId : TaskId) (timespec : Addr)
  | cancel (taskId targetTaskId : TaskId)
  | readv (taskId : TaskId) (fileIndex : Nat) (iov : Addr) (iovcnt : UInt32) (priority : Priority)
  | writev (taskId : TaskId) (fileIndex : Nat) (iov : Addr) (iovcnt : UInt32) (priority : Priority)
  | poll (taskId : TaskId) (fileIndex : Nat) (pollMask : UInt16)
  | connect (taskId : TaskId) (fd : Fd) (sockaddrBuf : Addr) (sockaddrLength : UInt32)
  | accept (testFault : Bool) (taskId : TaskId) (fd : Fd) (sockaddrBuf sockaddrLength : Addr)
      (acceptFlags : UInt32)
  | openat (taskId : TaskId) (dirfd : Fd) (path : Addr) (openFlags : Int32) (openMode : UInt32)
      (priority : Priority)
  | close (taskId : TaskId) (fd : Fd) (priority : Priority)
  | readFixed (taskId : TaskId) (fileIndex bufferIndex : Nat) (buf : Addr) (len : UInt32)
      (priority : Priority)
  | writeFixed (taskId : TaskId) (fileIndex bufferIndex : Nat) (buf : Addr) (len : UInt32)
      (priority : Priority)
  deriving DecidableEq, Repr

namespace SubmitCall

/-- Make the call. -/
def submit : SubmitCall → Ring → EnterOutcome → Ring × Option Errno
  | nop taskId => ringSubmitNop taskId
  | timeout taskId timespec => ringSubmitTimeout taskId timespec
  | cancel taskId target => ringSubmitCancel taskId target
  | readv taskId fileIndex iov iovcnt priority =>
      ringSubmitReadv taskId fileIndex iov iovcnt priority
  | writev taskId fileIndex iov iovcnt priority =>
      ringSubmitWritev taskId fileIndex iov iovcnt priority
  | poll taskId fileIndex pollMask => ringSubmitPoll taskId fileIndex pollMask
  | connect taskId fd buf length => ringSubmitConnect taskId fd buf length
  | accept testFault taskId fd buf length flags =>
      ringSubmitAccept testFault taskId fd buf length flags
  | openat taskId dirfd path flags mode priority =>
      ringSubmitOpenat taskId dirfd path flags mode priority
  | close taskId fd priority => ringSubmitClose taskId fd priority
  | readFixed taskId fileIndex bufferIndex buf len priority =>
      ringSubmitReadFixed taskId fileIndex bufferIndex buf len priority
  | writeFixed taskId fileIndex bufferIndex buf len priority =>
      ringSubmitWriteFixed taskId fileIndex bufferIndex buf len priority

/-- The argument checks of the call. -/
def accepts (ring : Ring) : SubmitCall → Bool
  | nop _ => true
  | timeout _ timespec => timespec != .null
  | cancel _ target => target != taskIdInvalid && decide (target < taskIdReservedMin)
  | readv _ fileIndex iov iovcnt _ | writev _ fileIndex iov iovcnt _ =>
      iov != .null && iovcnt != 0 && decide (fileIndex < ring.registeredFilesCount)
  | poll _ fileIndex pollMask => pollMask != 0 && decide (fileIndex < ring.registeredFilesCount)
  | connect _ fd buf length =>
      buf != .null && length != 0 && decide (length ≤ 65535) && decide (0 ≤ fd)
  | accept testFault _ fd buf length _ =>
      !testFault && (decide (0 ≤ fd) && ((buf == .null) == (length == .null)))
  | openat _ _ path _ _ _ => path != .null
  | close _ fd _ => decide (0 ≤ fd)
  | readFixed _ fileIndex bufferIndex buf _ _ | writeFixed _ fileIndex bufferIndex buf _ _ =>
      buf != .null && decide (fileIndex < ring.registeredFilesCount) &&
        decide (bufferIndex < ring.registeredBuffersCount)

/-- The call gets as far as `io_uring_enter`: the ring is open, the arguments pass and
there is room. -/
def entersKernel (call : SubmitCall) (ring : Ring) : Bool :=
  decide (0 ≤ ring.ringFd) && call.accepts ring &&
    decide (ring.sqTail - ring.sqHead < ring.sqRingEntries)

end SubmitCall

/-- The end of a queueing function: the entry is published and `io_uring_enter` called. -/
def Ring.enter (ring : Ring) (sqe : Sqe) : EnterOutcome → Ring × Option Errno
  | .failed errno => (ring.publish sqe, some errno)
  | .consumed count => ((ring.publish sqe).consume (min count 1), none)

/-- A queueing function whose checks fail leaves the ring alone; otherwise it enters the
kernel. -/
theorem ringQueue_eq (accepts : Bool) (sqe : Sqe) (ring : Ring) (enter : EnterOutcome) :
    (∃ errno, ringQueue accepts sqe ring enter = (ring, some errno)) ∧
        (decide (0 ≤ ring.ringFd) && accepts &&
          decide (ring.sqTail - ring.sqHead < ring.sqRingEntries)) = false ∨
      ((decide (0 ≤ ring.ringFd) && accepts &&
          decide (ring.sqTail - ring.sqHead < ring.sqRingEntries)) = true ∧
        ringQueue accepts sqe ring enter = ring.enter sqe enter) := by
  unfold ringQueue
  split
  · rename_i invalid
    refine Or.inl ⟨⟨EINVAL, rfl⟩, ?_⟩
    simp only [Bool.or_eq_true, decide_eq_true_eq, Bool.not_eq_true'] at invalid
    rcases invalid with closed | refused
    · simp only [Int32.not_le.mpr closed, decide_false, Bool.false_and]
    · simp only [refused, Bool.and_false, Bool.false_and]
  · rename_i valid
    simp only [Bool.or_eq_true, decide_eq_true_eq, Bool.not_eq_true', not_or, Int32.not_lt,
      Bool.not_eq_false] at valid
    split
    · rename_i full
      refine Or.inl ⟨⟨EBUSY, rfl⟩, ?_⟩
      simp only [UInt32.not_lt.mpr full, decide_false, Bool.and_false]
    · rename_i room
      refine Or.inr ⟨?_, ?_⟩
      · simp only [valid.1, valid.2, UInt32.not_le.mp room, decide_true, Bool.and_self]
      · cases enter <;> rfl

/-- Every call is a queueing function with its own checks and entry. -/
theorem SubmitCall.submit_eq (call : SubmitCall) (ring : Ring) (enter : EnterOutcome) :
    ∃ sqe, (∃ errno, call.submit ring enter = (ring, some errno)) ∧
        call.entersKernel ring = false ∨
      (call.entersKernel ring = true ∧ call.submit ring enter = ring.enter sqe enter) := by
  cases call with
  | timeout taskId timespec =>
      by_cases null : timespec = .null
      · refine ⟨{ opcode := .nop, userData := 0 }, Or.inl ⟨⟨EINVAL, ?_⟩, ?_⟩⟩
        · simp only [submit, ringSubmitTimeout, null, ↓reduceIte]
        · simp only [entersKernel, accepts, null, bne_self_eq_false, Bool.and_false,
            Bool.false_and]
      · have checks : (timespec != Addr.null) = true := bne_iff_ne.mpr null
        refine ⟨{ opcode := .timeout, userData := taskId, addr := timespec, len := 1 }, ?_⟩
        simp only [submit, ringSubmitTimeout, null, ↓reduceIte, entersKernel, accepts, checks]
        exact ringQueue_eq _ _ _ _
  | accept testFault taskId fd buf length flags =>
      cases testFault with
      | true =>
          refine ⟨{ opcode := .nop, userData := 0 }, Or.inl ⟨⟨EINVAL, rfl⟩, ?_⟩⟩
          simp only [entersKernel, accepts, Bool.not_true, Bool.false_and, Bool.and_false]
      | false =>
          refine ⟨{ opcode := .accept, userData := taskId, fd, addr := buf, off := length
                    opFlags := flags }, ?_⟩
          simp only [submit, ringSubmitAccept, Bool.false_eq_true, ↓reduceIte, entersKernel,
            accepts, Bool.not_false, Bool.true_and]
          exact ringQueue_eq _ _ _ _
  | _ => exact ⟨_, ringQueue_eq _ _ _ _⟩

/-- A call that fails leaves the unconsumed entries alone unless it published its entry
and `io_uring_enter` failed; then the entry stays behind. -/
theorem SubmitCall.failure_leaves_pending_iff (call : SubmitCall) (ring : Ring)
    (enter : EnterOutcome) :
    (∀ errno, (call.submit ring enter).2 = some errno →
        (call.submit ring enter).1.pending = ring.pending) ↔
      ¬ (call.entersKernel ring = true ∧ ∃ errno, enter = .failed errno) := by
  obtain ⟨sqe, ⟨⟨errno, refused⟩, stopped⟩ | ⟨entered, result⟩⟩ := call.submit_eq ring enter
  · rw [refused, stopped]
    exact ⟨fun _ reached => Bool.false_ne_true reached.1, fun _ _ _ => rfl⟩
  · rw [result, entered]
    cases enter with
    | consumed count =>
        refine ⟨fun _ reached => ?_, fun _ errno reported => nomatch reported⟩
        obtain ⟨-, errno, impossible⟩ := reached
        cases impossible
    | failed errno =>
        refine ⟨fun same => ?_, fun never => absurd ⟨rfl, errno, rfl⟩ never⟩
        have grown : occupied ring.sqHead (ring.sqTail + 1) =
          occupied ring.sqHead ring.sqTail + 1 := by
          simp only [entersKernel, Bool.and_eq_true, decide_eq_true_eq] at entered
          exact occupied_push (UInt32.lt_iff_toNat_lt.mp entered.2)
        have lengths := congrArg List.length (same errno rfl)
        simp only [Ring.pending, length_window] at lengths
        change occupied ring.sqHead (ring.sqTail + 1) = _ at lengths
        omega

end Iouringd
