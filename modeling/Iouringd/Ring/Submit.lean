import Iouringd.Foundation.RingBuffer
import Iouringd.Wire.Protocol

/-! # The ring between the daemon and the kernel

`src/daemon/submit.c`. A submission is published at the tail of the submission
ring and `io_uring_enter(fd, 1, 0, 0)` is called for it; completions are read at
the head of the completion ring. What the kernel holds behind the ring is part of
the model: the registered-file table and the operations it has taken from the
ring and not yet completed. Addresses are symbolic, because the daemon only ever
submits addresses of its own task slots and of the registered-buffer storage.
-/

namespace Iouringd

open Foundation

/-- The `IORING_OP_*` codes the daemon submits. -/
inductive Opcode where
  | nop | timeout | readv | writev | asyncCancel | readFixed | writeFixed | pollAdd | connect
  | accept | openat | close
  deriving DecidableEq, Repr

/-- What a 64-bit address or offset field of a submission holds. -/
inductive Addr where
  | value (number : UInt64)
  | timeout (taskSlot : Nat)
  | ioVector (taskSlot : Nat)
  | ioBuffer (taskSlot : Nat)
  | sockaddrLength (taskSlot : Nat)
  | storage (offset : Nat)
  deriving DecidableEq, Repr

def Addr.null : Addr := .value 0

/-- `struct io_uring_sqe`, as far as the daemon sets it. The operation flags are
one union in the kernel's struct. -/
structure Sqe where
  opcode : Opcode
  userData : TaskId
  fd : Fd := 0
  fixedFile : Bool := false
  addr : Addr := .null
  off : Addr := .null
  len : UInt32 := 0
  opFlags : UInt32 := 0
  bufIndex : UInt16 := 0
  ioprio : UInt16 := 0
  deriving DecidableEq, Repr

/-- `struct io_uring_cqe`. -/
structure Cqe where
  userData : TaskId
  res : Int32
  deriving DecidableEq, Repr

/-- What the kernel keeps for the ring: the registered-file table, the operations
it consumed and has not completed, and the descriptors the daemon closed. -/
structure Kernel where
  registeredFiles : Nat → Fd
  executing : List Sqe
  closed : List Fd

/-- `struct iouringd_ring` with the shared memory its pointers lead to. -/
structure Ring where
  ringFd : Fd
  registeredFilesCount : Nat
  registeredBuffersCount : Nat
  sqHead : UInt32
  sqTail : UInt32
  sqRingMask : UInt32
  sqRingEntries : UInt32
  sqArray : Nat → UInt32
  sqes : Nat → Sqe
  cqHead : UInt32
  cqTail : UInt32
  cqRingMask : UInt32
  cqes : Nat → Cqe
  kernel : Kernel

/-- The result of `io_uring_enter(fd, 1, 0, 0)`: the number of entries the kernel
consumed, or an error. The system call reports an error only when it consumed
nothing. -/
inductive EnterOutcome where
  | consumed (count : Nat)
  | failed (errno : Errno)
  deriving DecidableEq, Repr

/-- The result of an `IORING_REGISTER_FILES_UPDATE` of one entry. -/
inductive UpdateOutcome where
  | updated (count : Nat)
  | failed (errno : Errno)
  deriving DecidableEq, Repr

/-- A failure comes with a positive error number. -/
def EnterOutcome.sane : EnterOutcome → Bool
  | .failed errno => decide (0 < errno)
  | .consumed _ => true

/-- A failure comes with a positive error number. -/
def UpdateOutcome.sane : UpdateOutcome → Bool
  | .failed errno => decide (0 < errno)
  | .updated _ => true

namespace Ring

/-- The submission a position of the submission ring leads to. -/
def sqeAt (ring : Ring) (position : Nat) : Sqe := ring.sqes (ring.sqArray position).toNat

/-- The unconsumed entries between `sq_head` and `sq_tail`, oldest first. -/
def pending (ring : Ring) : List Sqe :=
  window ring.sqeAt ring.sqRingMask ring.sqHead ring.sqTail

/-- The posted completions the daemon has not read, oldest first. -/
def posted (ring : Ring) : List Cqe :=
  window ring.cqes ring.cqRingMask ring.cqHead ring.cqTail

/-- Fill the entry at the tail and publish it. -/
def publish (ring : Ring) (sqe : Sqe) : Ring :=
  let index := cell ring.sqRingMask ring.sqTail
  { ring with
    sqes := Function.update ring.sqes index sqe
    sqArray := Function.update ring.sqArray index (UInt32.ofNat index)
    sqTail := ring.sqTail + 1 }

/-- The kernel takes the oldest `count` entries. -/
def consume (ring : Ring) (count : Nat) : Ring :=
  let taken := min count ring.pending.length
  { ring with
    sqHead := ring.sqHead + UInt32.ofNat taken
    kernel := { ring.kernel with executing := ring.kernel.executing ++ ring.pending.take taken } }

/-- The entry published between two states of the ring: the one at the old tail, when the
tail has moved. -/
def published (ring next : Ring) : Option Sqe :=
  if next.sqTail = ring.sqTail then none
  else some (next.sqeAt (cell ring.sqRingMask ring.sqTail))

/-- Publishing shows as such, whatever else happens to the rest of the ring. -/
theorem published_publish {ring next : Ring} {sqe : Sqe} (tail : next.sqTail = ring.sqTail + 1)
    (entries : next.sqes = (ring.publish sqe).sqes)
    (places : next.sqArray = (ring.publish sqe).sqArray) : ring.published next = some sqe := by
  have moved : ring.sqTail + 1 ≠ ring.sqTail := by
    intro same
    simp at same
  have small : cell ring.sqRingMask ring.sqTail < 2 ^ 32 := UInt32.toNat_lt _
  simp only [published, tail, moved, ↓reduceIte, sqeAt, entries, places, publish,
    Function.update_self, UInt32.toNat_ofNat', Nat.mod_eq_of_lt small]

end Ring

/-- The common body of the `ring_queue_*` functions: `accepts` is the argument
check each of them starts with. The entry is published before `io_uring_enter`
is called, and nothing takes it back when the call fails. -/
def ringQueue (accepts : Bool) (sqe : Sqe) (ring : Ring) (enter : EnterOutcome) :
    Ring × Option Errno :=
  if ring.ringFd < 0 || !accepts then (ring, some EINVAL)
  else if ring.sqTail - ring.sqHead ≥ ring.sqRingEntries then (ring, some EBUSY)
  else
    match enter with
    | .failed errno => (ring.publish sqe, some errno)
    | .consumed count => ((ring.publish sqe).consume (min count 1), none)

/-- `sqe_ioprio_from_submit_priority`: best-effort class, level 0 or 7. -/
def sqeIoprioFromSubmitPriority : Priority → UInt16
  | .high => 16384
  | .low => 16391
  | _ => 0

def ringQueueSqe (opcode : Opcode) (taskId : TaskId) (addr : Addr) (len : UInt32) :
    Ring → EnterOutcome → Ring × Option Errno :=
  ringQueue true { opcode, userData := taskId, addr, len }

def ringQueueRwSqe (opcode : Opcode) (taskId : TaskId) (fileIndex : Nat) (iov : Addr)
    (iovcnt : UInt32) (priority : Priority) (ring : Ring) (enter : EnterOutcome) :
    Ring × Option Errno :=
  ringQueue (iov != .null && iovcnt != 0 && decide (fileIndex < ring.registeredFilesCount))
    { opcode, userData := taskId, fd := Int32.ofNat fileIndex, fixedFile := true, addr := iov,
      len := iovcnt, ioprio := sqeIoprioFromSubmitPriority priority } ring enter

def ringQueueFixedBufferSqe (opcode : Opcode) (taskId : TaskId) (fileIndex bufferIndex : Nat)
    (buf : Addr) (len : UInt32) (priority : Priority) (ring : Ring) (enter : EnterOutcome) :
    Ring × Option Errno :=
  ringQueue (buf != .null && decide (fileIndex < ring.registeredFilesCount) &&
      decide (bufferIndex < ring.registeredBuffersCount))
    { opcode, userData := taskId, fd := Int32.ofNat fileIndex, fixedFile := true, addr := buf,
      len, bufIndex := UInt16.ofNat bufferIndex,
      ioprio := sqeIoprioFromSubmitPriority priority } ring enter

def ringQueuePollSqe (taskId : TaskId) (fileIndex : Nat) (pollMask : UInt16) (ring : Ring)
    (enter : EnterOutcome) : Ring × Option Errno :=
  ringQueue (pollMask != 0 && decide (fileIndex < ring.registeredFilesCount))
    { opcode := .pollAdd, userData := taskId, fd := Int32.ofNat fileIndex, fixedFile := true,
      opFlags := pollMask.toUInt32 } ring enter

def ringQueueConnectSqe (taskId : TaskId) (fd : Fd) (sockaddrBuf : Addr)
    (sockaddrLength : UInt32) : Ring → EnterOutcome → Ring × Option Errno :=
  ringQueue (sockaddrBuf != .null && sockaddrLength != 0 && decide (sockaddrLength ≤ 65535) &&
      decide (0 ≤ fd))
    { opcode := .connect, userData := taskId, fd, addr := sockaddrBuf,
      off := .value sockaddrLength.toUInt64 }

def ringQueueAcceptSqe (taskId : TaskId) (fd : Fd) (sockaddrBuf sockaddrLength : Addr)
    (acceptFlags : UInt32) : Ring → EnterOutcome → Ring × Option Errno :=
  ringQueue (decide (0 ≤ fd) && ((sockaddrBuf == .null) == (sockaddrLength == .null)))
    { opcode := .accept, userData := taskId, fd, addr := sockaddrBuf, off := sockaddrLength,
      opFlags := acceptFlags }

def ringQueueOpenatSqe (taskId : TaskId) (dirfd : Fd) (path : Addr) (openFlags : Int32)
    (openMode : UInt32) (priority : Priority) : Ring → EnterOutcome → Ring × Option Errno :=
  ringQueue (path != .null)
    { opcode := .openat, userData := taskId, fd := dirfd, addr := path, len := openMode,
      opFlags := openFlags.toUInt32, ioprio := sqeIoprioFromSubmitPriority priority }

def ringQueueCloseSqe (taskId : TaskId) (fd : Fd) (priority : Priority) :
    Ring → EnterOutcome → Ring × Option Errno :=
  ringQueue (decide (0 ≤ fd))
    { opcode := .close, userData := taskId, fd,
      ioprio := sqeIoprioFromSubmitPriority priority }

/-! ## The submit functions the dispatcher calls -/

def ringSubmitNop (taskId : TaskId) : Ring → EnterOutcome → Ring × Option Errno :=
  ringQueueSqe .nop taskId .null 0

def ringSubmitTimeout (taskId : TaskId) (timeout : Addr) (ring : Ring) (enter : EnterOutcome) :
    Ring × Option Errno :=
  if timeout = .null then (ring, some EINVAL)
  else ringQueueSqe .timeout taskId timeout 1 ring enter

/-- `iouringd_ring_submit_cancel` fills its entry itself; `IORING_ASYNC_CANCEL_USERDATA`
is `1 << 4`. -/
def ringSubmitCancel (taskId targetTaskId : TaskId) : Ring → EnterOutcome → Ring × Option Errno :=
  ringQueue (targetTaskId != taskIdInvalid && decide (targetTaskId < taskIdReservedMin))
    { opcode := .asyncCancel, userData := taskId, addr := .value targetTaskId, opFlags := 16 }

def ringSubmitReadv : TaskId → Nat → Addr → UInt32 → Priority → Ring → EnterOutcome →
    Ring × Option Errno :=
  ringQueueRwSqe .readv

def ringSubmitWritev : TaskId → Nat → Addr → UInt32 → Priority → Ring → EnterOutcome →
    Ring × Option Errno :=
  ringQueueRwSqe .writev

def ringSubmitPoll : TaskId → Nat → UInt16 → Ring → EnterOutcome → Ring × Option Errno :=
  ringQueuePollSqe

def ringSubmitConnect : TaskId → Fd → Addr → UInt32 → Ring → EnterOutcome →
    Ring × Option Errno :=
  ringQueueConnectSqe

/-- `testFault` is the `submit_accept_einval` fault of the test environment. -/
def ringSubmitAccept (testFault : Bool) (taskId : TaskId) (fd : Fd)
    (sockaddrBuf sockaddrLength : Addr) (acceptFlags : UInt32) (ring : Ring)
    (enter : EnterOutcome) : Ring × Option Errno :=
  if testFault then (ring, some EINVAL)
  else ringQueueAcceptSqe taskId fd sockaddrBuf sockaddrLength acceptFlags ring enter

def ringSubmitOpenat : TaskId → Fd → Addr → Int32 → UInt32 → Priority → Ring → EnterOutcome →
    Ring × Option Errno :=
  ringQueueOpenatSqe

def ringSubmitClose : TaskId → Fd → Priority → Ring → EnterOutcome → Ring × Option Errno :=
  ringQueueCloseSqe

def ringSubmitReadFixed : TaskId → Nat → Nat → Addr → UInt32 → Priority → Ring → EnterOutcome →
    Ring × Option Errno :=
  ringQueueFixedBufferSqe .readFixed

def ringSubmitWriteFixed : TaskId → Nat → Nat → Addr → UInt32 → Priority → Ring →
    EnterOutcome → Ring × Option Errno :=
  ringQueueFixedBufferSqe .writeFixed

/-! ## Registered files and completions -/

/-- `iouringd_ring_update_registered_file`: one entry of the registered-file table. -/
def ringUpdateRegisteredFile (ring : Ring) (index : Nat) (fd : Fd) (outcome : UpdateOutcome) :
    Ring × Option Errno :=
  if ring.ringFd < 0 || decide (ring.registeredFilesCount ≤ index) || decide (fd < -1) then
    (ring, some EINVAL)
  else
    match outcome with
    | .failed errno => (ring, some errno)
    | .updated count =>
        if count = 1 then
          ({ ring with kernel := { ring.kernel with
              registeredFiles := Function.update ring.kernel.registeredFiles index fd } }, none)
        else (ring, some EIO)

/-- `iouringd_ring_capacity`. -/
def ringCapacity (ring : Ring) : Nat := ring.sqRingEntries.toNat

/-- `iouringd_ring_peek_completion`: the oldest completion, which is taken. -/
def ringPeekCompletion (ring : Ring) : Ring × Option Cqe :=
  if ring.cqHead = ring.cqTail then (ring, none)
  else ({ ring with cqHead := ring.cqHead + 1 },
    some (ring.cqes (cell ring.cqRingMask ring.cqHead)))

/-- The kernel completes the executing operation at `position` and posts its
completion, when the completion ring has room. -/
def kernelPost (ring : Ring) (position : Nat) (res : Int32) : Ring :=
  match ring.kernel.executing[position]? with
  | none => ring
  | some sqe =>
      if ring.cqTail - ring.cqHead ≤ ring.cqRingMask then
        { ring with
          cqes := Function.update ring.cqes (cell ring.cqRingMask ring.cqTail)
            { userData := sqe.userData, res }
          cqTail := ring.cqTail + 1
          kernel := { ring.kernel with executing := ring.kernel.executing.eraseIdx position } }
      else ring

/-- Reading a completion only moves the head. -/
theorem ringPeekCompletion_frame {ring next : Ring} {cqe : Cqe}
    (peeked : ringPeekCompletion ring = (next, some cqe)) :
    next = { ring with cqHead := ring.cqHead + 1 } := by
  unfold ringPeekCompletion at peeked
  split at peeked
  · cases peeked
  · cases peeked
    rfl

/-- Posting one leaves the submission queue and the registered files alone. -/
theorem kernelPost_frame (ring : Ring) (position : Nat) (res : Int32) :
    kernelPost ring position res =
      { ring with
        cqes := (kernelPost ring position res).cqes
        cqTail := (kernelPost ring position res).cqTail
        kernel := { ring.kernel with
          executing := (kernelPost ring position res).kernel.executing } } := by
  unfold kernelPost
  split
  · rfl
  · split <;> rfl

/-! ## What a submission does to the ring -/

/-- The ring took the submission: there was room, and the entry was published and
offered to the kernel. -/
def RingAccepts (sqe : Sqe) (enter : EnterOutcome) (ring next : Ring) : Prop :=
  ring.sqTail - ring.sqHead < ring.sqRingEntries ∧
    ∃ count, enter = .consumed count ∧ next = (ring.publish sqe).consume (min count 1)

/-- The ring refused the submission: it is untouched, or the entry was published and
`io_uring_enter` failed. -/
def RingRefuses (enter : EnterOutcome) (ring next : Ring) : Prop :=
  next = ring ∨ ∃ sqe errno, enter = .failed errno ∧ next = ring.publish sqe

/-- The ring refused the given submission. -/
def RingDeclines (sqe : Sqe) (enter : EnterOutcome) (ring next : Ring) : Prop :=
  next = ring ∨ ∃ errno, enter = .failed errno ∧ next = ring.publish sqe

theorem RingDeclines.refuses {sqe : Sqe} {enter : EnterOutcome} {ring next : Ring}
    (declines : RingDeclines sqe enter ring next) : RingRefuses enter ring next := by
  rcases declines with same | ⟨errno, failed, published⟩
  · exact Or.inl same
  · exact Or.inr ⟨sqe, errno, failed, published⟩

/-- A submission fails with an error of its own or with that of `io_uring_enter`. -/
theorem ringQueue_errno {accepts : Bool} {sqe : Sqe} {ring next : Ring} {enter : EnterOutcome}
    {errno : Errno} (queued : ringQueue accepts sqe ring enter = (next, some errno)) :
    errno = EINVAL ∨ errno = EBUSY ∨ enter = .failed errno := by
  unfold ringQueue at queued
  split at queued
  · cases queued
    exact Or.inl rfl
  · split at queued
    · cases queued
      exact Or.inr (Or.inl rfl)
    · cases enter with
      | failed error =>
          cases queued
          exact Or.inr (Or.inr rfl)
      | consumed count => cases queued

/-- So does an update of the registered files. -/
theorem ringUpdateRegisteredFile_errno {ring next : Ring} {index : Nat} {fd : Fd}
    {outcome : UpdateOutcome} {errno : Errno}
    (failed : ringUpdateRegisteredFile ring index fd outcome = (next, some errno)) :
    errno = EINVAL ∨ errno = EIO ∨ outcome = .failed errno := by
  unfold ringUpdateRegisteredFile at failed
  split at failed
  · cases failed
    exact Or.inl rfl
  · cases outcome with
    | failed error =>
        cases failed
        exact Or.inr (Or.inr rfl)
    | updated count =>
        dsimp only at failed
        split at failed
        · cases failed
        · cases failed
          exact Or.inr (Or.inl rfl)

/-- A submission fails with a positive error number when `io_uring_enter` does. -/
theorem ringQueue_positive {accepts : Bool} {sqe : Sqe} {ring next : Ring} {enter : EnterOutcome}
    {errno : Errno} (sane : enter.sane = true)
    (queued : ringQueue accepts sqe ring enter = (next, some errno)) : 0 < errno := by
  rcases ringQueue_errno queued with invalid | busy | failed
  · rw [invalid]
    decide
  · rw [busy]
    decide
  · rw [failed] at sane
    exact of_decide_eq_true sane

/-- So does an update of the registered files. -/
theorem ringUpdateRegisteredFile_positive {ring next : Ring} {index : Nat} {fd : Fd}
    {outcome : UpdateOutcome} {errno : Errno} (sane : outcome.sane = true)
    (failed : ringUpdateRegisteredFile ring index fd outcome = (next, some errno)) :
    0 < errno := by
  rcases ringUpdateRegisteredFile_errno failed with invalid | short | refused
  · rw [invalid]
    decide
  · rw [short]
    decide
  · rw [refused] at sane
    exact of_decide_eq_true sane

/-- A submission that returns 0. -/
theorem ringQueue_accepts {accepts : Bool} {sqe : Sqe} {ring next : Ring} {enter : EnterOutcome}
    (queued : ringQueue accepts sqe ring enter = (next, none)) :
    RingAccepts sqe enter ring next := by
  unfold ringQueue at queued
  split at queued
  · cases queued
  · split at queued
    · cases queued
    · rename_i room
      refine ⟨UInt32.not_le.mp room, ?_⟩
      cases enter with
      | failed errno => cases queued
      | consumed count =>
          cases queued
          exact ⟨count, rfl, rfl⟩

/-- A submission that returns -1. -/
theorem ringQueue_declines {accepts : Bool} {sqe : Sqe} {ring next : Ring} {enter : EnterOutcome}
    {errno : Errno} (queued : ringQueue accepts sqe ring enter = (next, some errno)) :
    RingDeclines sqe enter ring next := by
  unfold ringQueue at queued
  split at queued
  · cases queued
    exact Or.inl rfl
  · split at queued
    · cases queued
      exact Or.inl rfl
    · cases enter with
      | failed error =>
          cases queued
          exact Or.inr ⟨errno, rfl, rfl⟩
      | consumed count => cases queued

/-- An update that returns 0 writes the entry. -/
theorem ringUpdateRegisteredFile_ok {ring next : Ring} {index : Nat} {fd : Fd}
    {outcome : UpdateOutcome}
    (updated : ringUpdateRegisteredFile ring index fd outcome = (next, none)) :
    next = { ring with kernel := { ring.kernel with
      registeredFiles := Function.update ring.kernel.registeredFiles index fd } } := by
  unfold ringUpdateRegisteredFile at updated
  split at updated
  · cases updated
  · cases outcome with
    | failed errno => cases updated
    | updated count =>
        dsimp only at updated
        split at updated
        · cases updated
          rfl
        · cases updated

/-- An update that returns -1 leaves the table alone. -/
theorem ringUpdateRegisteredFile_failed {ring next : Ring} {index : Nat} {fd : Fd}
    {outcome : UpdateOutcome} {errno : Errno}
    (failed : ringUpdateRegisteredFile ring index fd outcome = (next, some errno)) :
    next = ring := by
  unfold ringUpdateRegisteredFile at failed
  split at failed
  · cases failed
    rfl
  · cases outcome with
    | failed error =>
        cases failed
        rfl
    | updated count =>
        dsimp only at failed
        split at failed
        · cases failed
        · cases failed
          rfl

end Iouringd
