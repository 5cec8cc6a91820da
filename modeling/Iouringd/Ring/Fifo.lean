import Iouringd.Foundation.Transition
import Iouringd.Ring.Queues

/-! # The two rings are queues

The daemon pushes submissions with one of nine functions that spell the same steps out, and the
kernel consumes them; the kernel posts completions and the daemon takes them with
`iouringd_ring_peek_completion`. All four move free-running 32-bit indices. What was pushed,
read, posted and taken is noted beside the ring, and seen through these notes both rings are
unbounded queues of which at most as many entries wait as the ring has cells.
-/

namespace Iouringd

open Foundation

/-- A call of one of the functions that fill an entry and publish it. -/
inductive QueueCall where
  | sqe (opcode : Opcode) (taskId : TaskId) (addr : Addr) (len : UInt32)
  | rw (opcode : Opcode) (taskId : TaskId) (fileIndex : Nat) (iov : Addr) (iovcnt : UInt32)
      (priority : Priority)
  | fixedBuffer (opcode : Opcode) (taskId : TaskId) (fileIndex bufferIndex : Nat) (buf : Addr)
      (len : UInt32) (priority : Priority)
  | poll (taskId : TaskId) (fileIndex : Nat) (pollMask : UInt16)
  | connect (taskId : TaskId) (fd : Fd) (sockaddrBuf : Addr) (sockaddrLength : UInt32)
  | accept (taskId : TaskId) (fd : Fd) (sockaddrBuf sockaddrLength : Addr) (acceptFlags : UInt32)
  | openat (taskId : TaskId) (dirfd : Fd) (path : Addr) (openFlags : Int32) (openMode : UInt32)
      (priority : Priority)
  | close (taskId : TaskId) (fd : Fd) (priority : Priority)
  | cancel (taskId targetTaskId : TaskId)
  deriving DecidableEq, Repr

namespace QueueCall

/-- Make the call. -/
def queue : QueueCall → Ring → EnterOutcome → Ring × Option Errno
  | sqe opcode taskId addr len => ringQueueSqe opcode taskId addr len
  | rw opcode taskId fileIndex iov iovcnt priority =>
      ringQueueRwSqe opcode taskId fileIndex iov iovcnt priority
  | fixedBuffer opcode taskId fileIndex bufferIndex buf len priority =>
      ringQueueFixedBufferSqe opcode taskId fileIndex bufferIndex buf len priority
  | poll taskId fileIndex pollMask => ringQueuePollSqe taskId fileIndex pollMask
  | connect taskId fd buf length => ringQueueConnectSqe taskId fd buf length
  | accept taskId fd buf length flags => ringQueueAcceptSqe taskId fd buf length flags
  | openat taskId dirfd path flags mode priority =>
      ringQueueOpenatSqe taskId dirfd path flags mode priority
  | close taskId fd priority => ringQueueCloseSqe taskId fd priority
  | cancel taskId target => ringSubmitCancel taskId target

/-- The check of the arguments at its start. -/
def accepts (ring : Ring) : QueueCall → Bool
  | sqe _ _ _ _ => true
  | rw _ _ fileIndex iov iovcnt _ =>
      iov != .null && iovcnt != 0 && decide (fileIndex < ring.registeredFilesCount)
  | fixedBuffer _ _ fileIndex bufferIndex buf _ _ =>
      buf != .null && decide (fileIndex < ring.registeredFilesCount) &&
        decide (bufferIndex < ring.registeredBuffersCount)
  | poll _ fileIndex pollMask => pollMask != 0 && decide (fileIndex < ring.registeredFilesCount)
  | connect _ fd buf length =>
      buf != .null && length != 0 && decide (length ≤ 65535) && decide (0 ≤ fd)
  | accept _ fd buf length _ => decide (0 ≤ fd) && ((buf == .null) == (length == .null))
  | openat _ _ path _ _ _ => path != .null
  | close _ fd _ => decide (0 ≤ fd)
  | cancel _ target => target != taskIdInvalid && decide (target < taskIdReservedMin)

/-- The entry it fills. -/
def entry : QueueCall → Sqe
  | sqe opcode taskId addr len => { opcode, userData := taskId, addr, len }
  | rw opcode taskId fileIndex iov iovcnt priority =>
      { opcode, userData := taskId, fd := Int32.ofNat fileIndex, fixedFile := true, addr := iov
        len := iovcnt, ioprio := sqeIoprioFromSubmitPriority priority }
  | fixedBuffer opcode taskId fileIndex bufferIndex buf len priority =>
      { opcode, userData := taskId, fd := Int32.ofNat fileIndex, fixedFile := true, addr := buf
        len, bufIndex := UInt16.ofNat bufferIndex
        ioprio := sqeIoprioFromSubmitPriority priority }
  | poll taskId fileIndex pollMask =>
      { opcode := .pollAdd, userData := taskId, fd := Int32.ofNat fileIndex, fixedFile := true
        opFlags := pollMask.toUInt32 }
  | connect taskId fd buf length =>
      { opcode := .connect, userData := taskId, fd, addr := buf, off := .value length.toUInt64 }
  | accept taskId fd buf length flags =>
      { opcode := .accept, userData := taskId, fd, addr := buf, off := length, opFlags := flags }
  | openat taskId dirfd path flags mode priority =>
      { opcode := .openat, userData := taskId, fd := dirfd, addr := path, len := mode
        opFlags := flags.toUInt32, ioprio := sqeIoprioFromSubmitPriority priority }
  | close taskId fd priority =>
      { opcode := .close, userData := taskId, fd, ioprio := sqeIoprioFromSubmitPriority priority }
  | cancel taskId target =>
      { opcode := .asyncCancel, userData := taskId, addr := .value target, opFlags := 16 }

/-- The nine functions differ in their checks and in the entry. -/
theorem queue_eq (call : QueueCall) (ring : Ring) (enter : EnterOutcome) :
    call.queue ring enter = ringQueue (call.accepts ring) call.entry ring enter := by
  cases call with
  | _ => rfl

end QueueCall

/-- The kernel writes a completion at the tail of the completion ring. -/
def Ring.post (ring : Ring) (cqe : Cqe) : Ring :=
  { ring with
    cqes := Function.update ring.cqes (cell ring.cqRingMask ring.cqTail) cqe
    cqTail := ring.cqTail + 1 }

/-- A ring with notes: the entries that were pushed, those the kernel read, the completions that
were posted and those the daemon took. -/
structure Traffic where
  ring : Ring
  pushed : List Sqe
  read : List Sqe
  posted : List Cqe
  taken : List Cqe

/-- Notes begin. -/
def Traffic.start (ring : Ring) : Traffic := ⟨ring, [], [], [], []⟩

/-- A push, with what its `io_uring_enter` does, the kernel consuming at any other time, the
kernel posting a completion, and the daemon looking for one. -/
inductive RingAction where
  | push (call : QueueCall) (enter : EnterOutcome)
  | consume (count : Nat)
  | post (cqe : Cqe)
  | peek
  deriving DecidableEq, Repr

/-- One action. What the kernel read is what it has been executing since; a push is noted when
it moved the tail. The kernel does not consume past the tail and does not post into a full
ring: a step on which it would fails. -/
def Traffic.step (traffic : Traffic) : RingAction → Except Unit Traffic
  | .push call enter =>
      let next := (call.queue traffic.ring enter).1
      .ok { traffic with
        ring := next
        pushed := traffic.pushed ++ if next.sqTail = traffic.ring.sqTail then [] else [call.entry]
        read := traffic.read ++
          next.kernel.executing.drop traffic.ring.kernel.executing.length }
  | .consume count =>
      let next := traffic.ring.consume count
      if count ≤ occupied traffic.ring.sqHead traffic.ring.sqTail then
        .ok { traffic with
          ring := next
          read := traffic.read ++
            next.kernel.executing.drop traffic.ring.kernel.executing.length }
      else .error ()
  | .post cqe =>
      if occupied traffic.ring.cqHead traffic.ring.cqTail <
          (traffic.ring.cqRingMask + 1).toNat then
        .ok { traffic with ring := traffic.ring.post cqe, posted := traffic.posted ++ [cqe] }
      else .error ()
  | .peek =>
      let (next, found) := ringPeekCompletion traffic.ring
      .ok { traffic with ring := next, taken := traffic.taken ++ found.toList }

/-- The rings that started as `start`, seen as queues: what waits in each is, in order, what was
put into it less what was taken out. -/
structure Traffic.Queued (start : Ring) (traffic : Traffic) : Prop where
  sound : RingSound traffic.ring
  geometry : traffic.ring.sqRingEntries = start.sqRingEntries ∧
    traffic.ring.cqRingMask = start.cqRingMask
  sqWithin : traffic.ring.pending.length ≤ start.sqRingEntries.toNat
  cqWithin : traffic.ring.posted.length ≤ (start.cqRingMask + 1).toNat
  submissions : traffic.read ++ traffic.ring.pending = start.pending ++ traffic.pushed
  completions : traffic.taken ++ traffic.ring.posted = start.posted ++ traffic.posted

section Steps

variable {start ring : Ring} {traffic next : Traffic} {action : RingAction}

/-- What the kernel takes it takes from the front of what waits. -/
theorem Ring.read_consume (ring : Ring) (count : Nat) :
    (ring.consume count).kernel.executing.drop ring.kernel.executing.length ++
      (ring.consume count).pending = ring.pending := by
  have whole := @Ring.submitted_consume ring count
  unfold Ring.submitted at whole
  have taken : (ring.consume count).kernel.executing =
      ring.kernel.executing ++ ring.pending.take (min count ring.pending.length) := rfl
  rw [taken, List.append_assoc, List.append_cancel_left_eq] at whole
  rw [taken, List.drop_left]
  exact whole

/-- What an entry that was published and offered to the kernel does to the ring: it waits behind
the others, or was taken with those in front of it. -/
structure Ring.Pushed (ring : Ring) (sqe : Sqe) (next : Ring) : Prop where
  sound : RingSound next
  geometry : next.sqRingEntries = ring.sqRingEntries ∧ next.cqRingMask = ring.cqRingMask
  tail : next.sqTail = ring.sqTail + 1
  submissions : next.kernel.executing.drop ring.kernel.executing.length ++ next.pending =
    ring.pending ++ [sqe]
  completions : next.posted = ring.posted

theorem Ring.enter_pushed (sound : RingSound ring)
    (room : occupied ring.sqHead ring.sqTail < ring.sqRingEntries.toNat) (sqe : Sqe)
    (enter : EnterOutcome) : ring.Pushed sqe (ring.enter sqe enter).1 := by
  have published := Ring.publish_sound sound sqe room
  have waits := Ring.pending_publish sound sqe room
  cases enter with
  | failed errno =>
      refine ⟨published, ⟨rfl, rfl⟩, rfl, ?_, rfl⟩
      change (ring.publish sqe).kernel.executing.drop ring.kernel.executing.length ++
        (ring.publish sqe).pending = _
      rw [waits]
      change ring.kernel.executing.drop ring.kernel.executing.length ++ _ = _
      rw [List.drop_length, List.nil_append]
  | consumed count =>
      refine ⟨Ring.consume_sound published _, ⟨rfl, rfl⟩, rfl, ?_, rfl⟩
      exact (Ring.read_consume (ring.publish sqe) (min count 1)).trans waits

/-- A push whose arguments pass is queued when there is room. -/
theorem QueueCall.queue_room {call : QueueCall} (accepted : call.accepts ring = true)
    (isOpen : 0 ≤ ring.ringFd)
    (room : occupied ring.sqHead ring.sqTail < ring.sqRingEntries.toNat) (enter : EnterOutcome) :
    call.queue ring enter = ring.enter call.entry enter := by
  rw [call.queue_eq]
  have space : ring.sqTail - ring.sqHead < ring.sqRingEntries := UInt32.lt_iff_toNat_lt.mpr room
  rcases ringQueue_eq (call.accepts ring) call.entry ring enter with ⟨-, stopped⟩ | ⟨-, entered⟩
  · simp only [isOpen, accepted, space, decide_true, Bool.and_self, Bool.true_eq_false] at stopped
  · exact entered

/-- Otherwise it fails with `EBUSY` and leaves the ring alone. -/
theorem QueueCall.queue_full {call : QueueCall} (accepted : call.accepts ring = true)
    (isOpen : 0 ≤ ring.ringFd)
    (full : ¬ occupied ring.sqHead ring.sqTail < ring.sqRingEntries.toNat)
    (enter : EnterOutcome) : call.queue ring enter = (ring, some EBUSY) := by
  rw [call.queue_eq]
  have none : ring.sqTail - ring.sqHead ≥ ring.sqRingEntries :=
    UInt32.le_iff_toNat_le.mpr (Nat.not_lt.mp full)
  unfold ringQueue
  simp only [Int32.not_lt.mpr isOpen, accepted, none, decide_false, Bool.not_true, Bool.or_self,
    Bool.false_eq_true, ↓reduceIte]

/-- A push with refused arguments leaves the ring alone. -/
theorem QueueCall.queue_refused {call : QueueCall}
    (refused : ¬ (call.accepts ring = true ∧ 0 ≤ ring.ringFd)) (enter : EnterOutcome) :
    call.queue ring enter = (ring, some EINVAL) := by
  rw [call.queue_eq]
  unfold ringQueue
  rw [if_pos]
  rw [Bool.or_eq_true, decide_eq_true_eq, Bool.not_eq_true']
  by_contra passes
  rw [not_or, Int32.not_lt, Bool.not_eq_false] at passes
  exact refused ⟨passes.2, passes.1⟩

/-- A peek takes the oldest completion that waits, if one does. -/
theorem ringPeekCompletion_cases (ring : Ring) :
    ring.posted = [] ∧ ringPeekCompletion ring = (ring, none) ∨
      ∃ cqe rest, ring.posted = cqe :: rest ∧
        ringPeekCompletion ring = ({ ring with cqHead := ring.cqHead + 1 }, some cqe) ∧
        ({ ring with cqHead := ring.cqHead + 1 } : Ring).posted = rest := by
  unfold ringPeekCompletion
  split
  · rename_i empty
    refine Or.inl ⟨?_, rfl⟩
    have none : ring.posted.length = 0 := by
      rw [Ring.posted, length_window, empty, occupied, UInt32.sub_self, UInt32.toNat_zero]
    exact List.eq_nil_of_length_eq_zero none
  · rename_i available
    exact Or.inr ⟨_, _, window_eq_cons ring.cqes ring.cqRingMask available, rfl, rfl⟩

namespace Traffic

theorem queued_start (sound : RingSound start)
    (sqWithin : start.pending.length ≤ start.sqRingEntries.toNat)
    (cqWithin : start.posted.length ≤ (start.cqRingMask + 1).toNat) :
    Queued start (Traffic.start start) where
  sound := sound
  geometry := ⟨rfl, rfl⟩
  sqWithin := sqWithin
  cqWithin := cqWithin
  submissions := (List.append_nil _).symm
  completions := (List.append_nil _).symm

/-- A push that leaves the ring alone is not noted. -/
theorem Queued.untouched {call : QueueCall} {enter : EnterOutcome} {error : Option Errno}
    (queued : Queued start traffic)
    (same : call.queue traffic.ring enter = (traffic.ring, error))
    (taken : traffic.step (.push call enter) = .ok next) : Queued start next := by
  unfold Traffic.step at taken
  simp only [same, ↓reduceIte, List.append_nil, List.drop_length] at taken
  cases taken
  exact queued

/-- What one action does to the queues. -/
theorem Queued.step (queued : Queued start traffic)
    (taken : traffic.step action = .ok next) : Queued start next := by
  obtain ⟨entries, mask⟩ := queued.geometry
  cases action with
  | push call enter =>
      by_cases accepted : call.accepts traffic.ring = true ∧ 0 ≤ traffic.ring.ringFd
      · by_cases room : occupied traffic.ring.sqHead traffic.ring.sqTail <
            traffic.ring.sqRingEntries.toNat
        · have pushed := Ring.enter_pushed queued.sound room call.entry enter
          have waits : traffic.ring.pending.length < start.sqRingEntries.toNat := by
            rw [Ring.pending, length_window, ← entries]
            exact room
          have moved : ¬ traffic.ring.sqTail + 1 = traffic.ring.sqTail := by
            intro same
            simp at same
          unfold Traffic.step at taken
          simp only [QueueCall.queue_room accepted.1 accepted.2 room, pushed.tail, moved,
            ↓reduceIte] at taken
          cases taken
          refine ⟨pushed.sound, ⟨pushed.geometry.1.trans entries, pushed.geometry.2.trans mask⟩,
            ?_, ?_, ?_, ?_⟩
          · have lengths := congrArg List.length pushed.submissions
            rw [List.length_append, List.length_append, List.length_singleton] at lengths
            dsimp only
            omega
          · dsimp only
            rw [pushed.completions]
            exact queued.cqWithin
          · dsimp only
            rw [List.append_assoc, pushed.submissions, ← List.append_assoc, queued.submissions,
              List.append_assoc]
          · dsimp only
            rw [pushed.completions]
            exact queued.completions
        · exact queued.untouched (QueueCall.queue_full accepted.1 accepted.2 room enter) taken
      · exact queued.untouched (QueueCall.queue_refused accepted enter) taken
  | consume count =>
      unfold Traffic.step at taken
      dsimp only at taken
      split at taken
      · cases taken
        have read := traffic.ring.read_consume count
        refine ⟨Ring.consume_sound queued.sound count, ⟨entries, mask⟩, ?_, queued.cqWithin, ?_,
          queued.completions⟩
        · have lengths := congrArg List.length read
          have within := queued.sqWithin
          rw [List.length_append] at lengths
          dsimp only
          omega
        · dsimp only
          rw [List.append_assoc, read]
          exact queued.submissions
      · cases taken
  | post cqe =>
      simp only [Traffic.step] at taken
      split at taken
      · rename_i room
        cases taken
        have sound := queued.sound
        have grown : (traffic.ring.post cqe).posted = traffic.ring.posted ++ [cqe] :=
          sound.cq.window_push traffic.ring.cqes cqe room
        refine ⟨⟨sound.sq, sound.cq, sound.identity⟩, ⟨entries, mask⟩, queued.sqWithin, ?_,
          queued.submissions, ?_⟩
        · dsimp only
          rw [grown, List.length_append, List.length_singleton, Ring.posted, length_window, ← mask]
          exact room
        · dsimp only
          rw [grown, ← List.append_assoc, queued.completions, List.append_assoc]
      · cases taken
  | peek =>
      simp only [Traffic.step] at taken
      cases taken
      rcases ringPeekCompletion_cases traffic.ring with
        ⟨-, same⟩ | ⟨cqe, rest, posted, same, left⟩
      · rw [same]
        refine ⟨queued.sound, ⟨entries, mask⟩, queued.sqWithin, queued.cqWithin,
          queued.submissions, ?_⟩
        exact (congrArg (· ++ _) (List.append_nil _)).trans queued.completions
      · rw [same]
        have sound := queued.sound
        have within := queued.cqWithin
        have whole := queued.completions
        rw [posted] at within whole
        refine ⟨⟨sound.sq, sound.cq, sound.identity⟩, ⟨entries, mask⟩, queued.sqWithin, ?_,
          queued.submissions, ?_⟩
        · dsimp only
          rw [left]
          exact Nat.le_of_succ_le within
        · dsimp only
          rw [left, ← whole, List.append_assoc]
          rfl

theorem Queued.run {actions : List RingAction} (queued : Queued start traffic)
    (ran : Foundation.run Traffic.step traffic actions = .ok next) : Queued start next :=
  run_preserves (fun _ _ _ _ holds taken => holds.step taken) queued ran

/-- A push into a queue with room appends its entry behind everything that was submitted, and
into a full one it fails with `EBUSY`. -/
theorem Queued.push (queued : Queued start traffic) {call : QueueCall}
    (accepted : call.accepts traffic.ring = true) (isOpen : 0 ≤ traffic.ring.ringFd)
    (enter : EnterOutcome) :
    if traffic.ring.pending.length < start.sqRingEntries.toNat then
      (call.queue traffic.ring enter).1.submitted = traffic.ring.submitted ++ [call.entry]
    else call.queue traffic.ring enter = (traffic.ring, some EBUSY) := by
  rw [Ring.pending, length_window, ← queued.geometry.1]
  split
  · rename_i room
    rw [QueueCall.queue_room accepted isOpen room]
    have published := Ring.pending_publish queued.sound call.entry room
    have waits : (traffic.ring.publish call.entry).submitted =
        traffic.ring.submitted ++ [call.entry] := by
      rw [Ring.submitted, published, Ring.submitted, List.append_assoc]
      rfl
    cases enter with
    | failed errno => exact waits
    | consumed count => exact (Ring.submitted_consume (min count 1)).trans waits
  · rename_i full
    exact QueueCall.queue_full accepted isOpen full enter

end Traffic

end Steps

/-- For every position of the four indices and every order of pushes, consumption, postings and
peeks: what the kernel read and what waits for it are in order what was pushed, what the daemon
took and what waits for it are in order what was posted, a push is queued exactly when fewer
than `entries` submissions wait, and a peek returns the oldest completion that waits. -/
theorem rings_are_queues {start : Ring} {actions : List RingAction} {traffic : Traffic}
    (sound : RingSound start) (sqWithin : start.pending.length ≤ start.sqRingEntries.toNat)
    (cqWithin : start.posted.length ≤ (start.cqRingMask + 1).toNat)
    (ran : run Traffic.step (Traffic.start start) actions = .ok traffic) :
    traffic.read ++ traffic.ring.pending = start.pending ++ traffic.pushed ∧
      traffic.taken ++ traffic.ring.posted = start.posted ++ traffic.posted ∧
      traffic.ring.pending.length ≤ start.sqRingEntries.toNat ∧
      (∀ call : QueueCall, call.accepts traffic.ring = true → 0 ≤ traffic.ring.ringFd → ∀ enter,
        if traffic.ring.pending.length < start.sqRingEntries.toNat then
          (call.queue traffic.ring enter).1.submitted = traffic.ring.submitted ++ [call.entry]
        else call.queue traffic.ring enter = (traffic.ring, some EBUSY)) ∧
      (ringPeekCompletion traffic.ring).2 = traffic.ring.posted.head? := by
  have queued := (Traffic.queued_start sound sqWithin cqWithin).run ran
  refine ⟨queued.submissions, queued.completions, queued.sqWithin,
    fun call accepted isOpen enter => queued.push accepted isOpen enter, ?_⟩
  rcases ringPeekCompletion_cases traffic.ring with ⟨none, same⟩ | ⟨cqe, rest, posted, same, -⟩
  · rw [none, same]
    rfl
  · rw [posted, same]
    rfl

/-- Two cells each, both submission indices one short of the wrap. -/
def wrappingRing : Ring where
  ringFd := 5
  registeredFilesCount := 1
  registeredBuffersCount := 0
  sqHead := 4294967295
  sqTail := 4294967295
  sqRingMask := 1
  sqRingEntries := 2
  sqArray := fun _ => 0
  sqes := fun _ => { opcode := .nop, userData := 0 }
  cqHead := 4294967295
  cqTail := 4294967295
  cqRingMask := 1
  cqes := fun _ => ⟨0, 0⟩
  kernel := ⟨fun _ => -1, [], []⟩

/-- Three pushes across the wrap, the second one with an `io_uring_enter` that fails, and two
completions. -/
def acrossTheWrap : List RingAction :=
  [.push (.sqe .nop 1 .null 0) (.consumed 0), .push (.close 2 9 .normal) (.failed EAGAIN),
    .consume 1, .push (.cancel 3 1) (.consumed 0), .post ⟨1, 0⟩, .peek, .post ⟨2, -125⟩]

theorem rings_are_queues_across_the_wrap :
    ∃ traffic, run Traffic.step (Traffic.start wrappingRing) acrossTheWrap = .ok traffic ∧
      traffic.ring.sqTail = 2 ∧ traffic.ring.cqTail = 1 ∧
      traffic.read ++ traffic.ring.pending = traffic.pushed ∧ traffic.pushed.length = 3 ∧
      (ringPeekCompletion traffic.ring).2 = some ⟨2, -125⟩ := by
  have seen : ((run Traffic.step (Traffic.start wrappingRing) acrossTheWrap).toOption.map
      fun traffic => decide (traffic.ring.sqTail = 2 ∧ traffic.ring.cqTail = 1 ∧
        traffic.pushed.length = 3 ∧ traffic.ring.posted.head? = some ⟨2, -125⟩)) = some true := by
    decide +kernel
  obtain ⟨traffic, ran, all⟩ := exists_of_toOption_map seen
  obtain ⟨sqTail, cqTail, three, oldest⟩ := of_decide_eq_true all
  have sound : RingSound wrappingRing :=
    ⟨⟨1, by decide, rfl, rfl⟩, ⟨1, by decide, rfl, rfl⟩,
      fun index within => absurd within (Nat.not_lt_zero _)⟩
  obtain ⟨read, -, -, -, peeked⟩ := rings_are_queues sound (Nat.zero_le _) (Nat.zero_le _) ran
  exact ⟨traffic, ran, sqTail, cqTail, read, three, peeked.trans oldest⟩

end Iouringd
