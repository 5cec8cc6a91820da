import Iouringd.Foundation.Transition
import Iouringd.Daemon.Dispatch

/-! # What a dispatch can do

The dispatcher has about forty paths that return 1. Each of them first changes the
state in one of a few ways and then answers: `Answered` is the answer, `Dispatched`
lists the changes. Every later argument about a dispatched request is a case
analysis on `Dispatched` and never unfolds the dispatcher.
-/

namespace Iouringd

open Foundation

/-! ## Answers -/

/-- `bytes` are queued on the client and its request is finished. Besides that only
the trace ring and the count of rejections may differ. -/
def Answered (rt : Runtime) (index : Nat) (bytes : List UInt8) (next : Runtime) : Prop :=
  next = { rt with
    rejectedSubmits := next.rejectedSubmits
    nextTraceSequence := next.nextTraceSequence
    traceEvents := next.traceEvents
    traceCount := next.traceCount
    clients := Function.update rt.clients index
      ((rt.clients index).appendOutput bytes).finishRequest }

/-- Queueing and finishing is an answer. -/
theorem answered_of_queue {rt queued : Runtime} {index : Nat} {bytes : List UInt8}
    (taken : rt.queue index bytes = .ok queued) :
    Answered rt index bytes (finishClientRequest queued index) := by
  cases Runtime.queue_ok taken
  simp only [Answered, finishClientRequest, Runtime.setClient, Function.update_self,
    Function.update_idem]

/-- So is queueing, recording a trace event and finishing. -/
theorem answered_of_queue_trace {rt queued : Runtime} {index : Nat} {bytes : List UInt8}
    {now : UInt64} {args : TraceArgs} (taken : rt.queue index bytes = .ok queued) :
    Answered rt index bytes (finishClientRequest (emitTraceEvent queued now args) index) := by
  cases Runtime.queue_ok taken
  simp only [Answered, finishClientRequest, emitTraceEvent, Runtime.setClient,
    Function.update_self, Function.update_idem]

theorem answerResource_ok {rt next : Runtime} {index : Nat} {resourceId : ResourceId}
    {res : Int32} {available : UInt32}
    (answered : answerResource rt index resourceId res available = .ok next) :
    Answered rt index (ResourceResult.encode ⟨resourceId, res, available, 0⟩) next := by
  obtain ⟨queued, taken, done⟩ := bind_ok answered
  cases done
  exact answered_of_queue taken

theorem answerResourceChange_ok {rt next : Runtime} {index : Nat} {eventKind : TraceEventKind}
    {resourceId : ResourceId} {available : UInt32} {now : UInt64}
    (answered : answerResourceChange rt index eventKind resourceId available now = .ok next) :
    Answered rt index (ResourceResult.encode ⟨resourceId, 0, available, 0⟩) next := by
  obtain ⟨queued, taken, done⟩ := bind_ok answered
  cases done
  exact answered_of_queue_trace taken

/-- A rejection is answered with task id 0 and the negated error. -/
theorem refuse_ok {rt next : Runtime} {index : Nat} {errno : Errno} {now : UInt64}
    (refused : refuse rt index errno now = .ok next) :
    Answered rt index
      (SubmitResult.encode ⟨taskIdInvalid, -errno, rt.availableCredits⟩) next := by
  obtain ⟨rejected, rejection, done⟩ := bind_ok refused
  cases done
  obtain ⟨queued, taken, recorded⟩ := bind_ok rejection
  cases recorded
  have answered : ∀ args, Answered { rt with rejectedSubmits := rt.rejectedSubmits + 1 } index _
      (finishClientRequest (emitTraceEvent queued now args) index) :=
    fun _ => answered_of_queue_trace taken
  exact answered _

/-! ## Trace events -/

/-- The trace ring is the same. -/
structure SameTrace (rt next : Runtime) : Prop where
  sequence : next.nextTraceSequence = rt.nextTraceSequence
  events : next.traceEvents = rt.traceEvents
  count : next.traceCount = rt.traceCount

theorem SameTrace.refl (rt : Runtime) : SameTrace rt rt := ⟨rfl, rfl, rfl⟩

theorem SameTrace.trans {rt middle next : Runtime} (first : SameTrace rt middle)
    (second : SameTrace middle next) : SameTrace rt next :=
  ⟨second.sequence.trans first.sequence, second.events.trans first.events,
    second.count.trans first.count⟩

/-- What an event does to the trace ring only depends on the trace ring. -/
theorem SameTrace.emit {rt next : Runtime} (same : SameTrace rt next) (now : UInt64)
    (args : TraceArgs) : SameTrace (emitTraceEvent rt now args) (emitTraceEvent next now args) := by
  unfold emitTraceEvent
  refine ⟨?_, ?_, ?_⟩
  · rw [same.sequence]
  · rw [same.sequence, same.events]
  · rw [same.count]

theorem SameTrace.queue {rt queued : Runtime} {index : Nat} {bytes : List UInt8}
    (taken : rt.queue index bytes = .ok queued) : SameTrace rt queued := by
  cases Runtime.queue_ok taken
  exact ⟨rfl, rfl, rfl⟩

/-- A step records one event of the given sort, or none. -/
def Traces (rt next : Runtime) (sort : TraceArgs → Prop) : Prop :=
  SameTrace rt next ∨ ∃ now args, sort args ∧ SameTrace (emitTraceEvent rt now args) next

/-- Queueing, recording an event and finishing. -/
theorem SameTrace.answer {rt middle queued : Runtime} {index : Nat} {bytes : List UInt8}
    (same : SameTrace rt middle) (taken : middle.queue index bytes = .ok queued) (now : UInt64)
    (args : TraceArgs) : SameTrace (emitTraceEvent rt now args)
      (finishClientRequest (emitTraceEvent queued now args) index) :=
  ((same.trans (.queue taken)).emit now args).trans ⟨rfl, rfl, rfl⟩

theorem answerResource_trace {rt next : Runtime} {index : Nat} {resourceId : ResourceId}
    {res : Int32} {available : UInt32}
    (answered : answerResource rt index resourceId res available = .ok next) :
    SameTrace rt next := by
  obtain ⟨queued, taken, done⟩ := bind_ok answered
  cases done
  exact (SameTrace.queue taken).trans ⟨rfl, rfl, rfl⟩

theorem answerResourceChange_trace {rt next : Runtime} {index : Nat} {eventKind : TraceEventKind}
    {resourceId : ResourceId} {available : UInt32} {now : UInt64}
    (answered : answerResourceChange rt index eventKind resourceId available now = .ok next) :
    ∃ args : TraceArgs, args.taskKind = 0 ∧ args.submitPriority = .normal ∧
      SameTrace (emitTraceEvent rt now args) next := by
  obtain ⟨queued, taken, done⟩ := bind_ok answered
  cases done
  exact ⟨_, rfl, rfl, (SameTrace.refl rt).answer taken now _⟩

/-- A rejection is recorded with the kind and the priority of the request. -/
theorem refuse_trace {rt next : Runtime} {index : Nat} {errno : Errno} {now : UInt64}
    (refused : refuse rt index errno now = .ok next) :
    ∃ args : TraceArgs, args.taskKind = (rt.clients index).request.taskKind.toWire ∧
      args.submitPriority = (rt.clients index).request.priority ∧
      SameTrace (emitTraceEvent rt now args) next := by
  obtain ⟨rejected, rejection, done⟩ := bind_ok refused
  cases done
  obtain ⟨queued, taken, recorded⟩ := bind_ok rejection
  cases recorded
  have client : (queued.clients index).request = (rt.clients index).request := by
    rw [Runtime.queue_ok taken, Runtime.clients_setClient]
    rfl
  have same : SameTrace rt { rt with rejectedSubmits := rt.rejectedSubmits + 1 } := ⟨rfl, rfl, rfl⟩
  refine ⟨_, ?_, ?_, same.answer taken now _⟩
  · exact congrArg (·.taskKind.toWire) client
  · exact congrArg (·.priority) client

/-- Moving the id counter is all that allocation changes in the client. -/
theorem allocateAttempts_snd (attempts : Nat) (client : Client) :
    ∃ nextId, (allocateAttempts attempts client).2 = { client with nextResourceId := nextId } := by
  induction attempts generalizing client with
  | zero => exact ⟨client.nextResourceId, rfl⟩
  | succ attempts ih =>
      unfold allocateAttempts
      dsimp only
      split
      · obtain ⟨nextId, same⟩ := ih { client with nextResourceId := client.nextResourceId + 1 }
        exact ⟨nextId, same⟩
      · split
        · obtain ⟨nextId, same⟩ := ih { client with nextResourceId := client.nextResourceId + 1 }
          exact ⟨nextId, same⟩
        · exact ⟨client.nextResourceId + 1, rfl⟩

/-- The draw depends on the counter and on the ids in use. -/
theorem allocateAttempts_congr (attempts : Nat) {client other : Client}
    (inUse : ∀ id, resourceIdInUse other id = resourceIdInUse client id)
    (counter : other.nextResourceId = client.nextResourceId) :
    (allocateAttempts attempts other).1 = (allocateAttempts attempts client).1 ∧
      (allocateAttempts attempts other).2.nextResourceId =
        (allocateAttempts attempts client).2.nextResourceId := by
  induction attempts generalizing client other with
  | zero => exact ⟨rfl, counter⟩
  | succ attempts ih =>
      have later := @ih { client with nextResourceId := client.nextResourceId + 1 }
        { other with nextResourceId := other.nextResourceId + 1 } inUse (by rw [counter])
      have taken : resourceIdInUse
          { other with nextResourceId := other.nextResourceId + 1 } other.nextResourceId =
          resourceIdInUse { client with nextResourceId := client.nextResourceId + 1 }
            client.nextResourceId := by
        rw [counter]
        exact inUse _
      unfold allocateAttempts
      dsimp only
      rw [taken]
      simp only [counter] at later ⊢
      split
      · exact later
      · split
        · exact later
        · exact ⟨rfl, rfl⟩

theorem allocateResourceId_snd (client : Client) :
    ∃ nextId, (allocateResourceId client).2 = { client with nextResourceId := nextId } :=
  allocateAttempts_snd _ client

/-- An id that was drawn is not in use. -/
theorem allocateAttempts_unused (attempts : Nat) (client : Client)
    (valid : (allocateAttempts attempts client).1 ≠ resourceIdInvalid) :
    resourceIdInUse client (allocateAttempts attempts client).1 = false := by
  induction attempts generalizing client with
  | zero => exact absurd rfl valid
  | succ attempts ih =>
      unfold allocateAttempts at valid ⊢
      dsimp only at valid ⊢
      split at valid
      · rename_i skipped
        rw [if_pos skipped]
        exact ih { client with nextResourceId := client.nextResourceId + 1 } valid
      · rename_i drawn
        rw [if_neg drawn]
        split at valid
        · rename_i taken
          rw [if_pos taken]
          exact ih { client with nextResourceId := client.nextResourceId + 1 } valid
        · rename_i unused
          rw [if_neg unused]
          exact Bool.eq_false_iff.mpr unused

theorem allocateResourceId_unused {client : Client}
    (valid : (allocateResourceId client).1 ≠ resourceIdInvalid) :
    resourceIdInUse client (allocateResourceId client).1 = false :=
  allocateAttempts_unused _ client valid

/-! ## The submission of a task -/

/-- The ring operation a task stands for, read off the task slot and, for the kinds
that use a raw descriptor, the slot of the resource. -/
def taskSqe (rt : Runtime) (taskIndex : Nat) : Sqe :=
  let task := rt.tasks taskIndex
  let slotIndex := task.fileSlotIndex.getD 0
  let bufferSlot := task.bufferSlotIndex.getD 0
  let fileIndex := Int32.ofNat (globalFileIndex rt task.clientIndex slotIndex)
  let daemonFd := (task.fileSlotIndex.map fun slot =>
    ((rt.clients task.clientIndex).fileResources slot).daemonFd).getD (-1)
  let ioprio := sqeIoprioFromSubmitPriority task.submitPriority
  let fixed (opcode : Opcode) : Sqe :=
    { opcode, userData := task.taskId, fd := fileIndex, fixedFile := true
      addr := .storage (bufferStorageAt rt task.clientIndex bufferSlot), len := task.ioLength
      bufIndex := UInt16.ofNat (globalBufferIndex rt task.clientIndex bufferSlot), ioprio }
  match task.taskKind with
  | .timeout =>
      { opcode := .timeout, userData := task.taskId, addr := .timeout taskIndex, len := 1 }
  | .cancel =>
      { opcode := .asyncCancel, userData := task.taskId, addr := .value task.cancelTargetId
        opFlags := 16 }
  | .sockRead | .fileRead =>
      { opcode := .readv, userData := task.taskId, fd := fileIndex, fixedFile := true
        addr := .ioVector taskIndex, len := 1, ioprio }
  | .sockWrite | .fileWrite =>
      { opcode := .writev, userData := task.taskId, fd := fileIndex, fixedFile := true
        addr := .ioVector taskIndex, len := 1, ioprio }
  | .sockReadFixed => fixed .readFixed
  | .sockWriteFixed => fixed .writeFixed
  | .poll =>
      { opcode := .pollAdd, userData := task.taskId, fd := fileIndex, fixedFile := true
        opFlags := task.pollMask.toUInt32 }
  | .connect =>
      { opcode := .connect, userData := task.taskId, fd := daemonFd, addr := .ioBuffer taskIndex
        off := .value task.ioLength.toUInt64 }
  | .accept =>
      { opcode := .accept, userData := task.taskId, fd := daemonFd
        addr := if task.ioLength ≠ 0 then .ioBuffer taskIndex else .null
        off := if task.ioLength ≠ 0 then .sockaddrLength taskIndex else .null
        opFlags := 0x80800 }
  | .openat =>
      { opcode := .openat, userData := task.taskId, fd := atFdcwd, addr := .ioBuffer taskIndex
        len := task.openMode, opFlags := task.openFlags.toUInt32, ioprio }
  | .close => { opcode := .close, userData := task.taskId, fd := task.closeFd, ioprio }
  | _ => { opcode := .nop, userData := task.taskId }

/-- A submission carries the id of its task. -/
theorem taskSqe_userData (rt : Runtime) (taskIndex : Nat) :
    (taskSqe rt taskIndex).userData = (rt.tasks taskIndex).taskId := by
  unfold taskSqe
  dsimp only
  split <;> rfl

/-- What a started task takes hold of in its client: the file slot it works on, the
slot reserved for its result, the buffer slot. -/
structure Acquires (client next : Client) (task : TaskSlot) : Prop where
  file_other : ∀ slot, task.fileSlotIndex ≠ some slot → task.resultFileSlotIndex ≠ some slot →
    next.fileResources slot = client.fileResources slot
  file : ∀ slot, task.fileSlotIndex = some slot → task.taskKind ≠ .close →
    next.fileResources slot = { client.fileResources slot with
      inFlight := (client.fileResources slot).inFlight + 1 }
  file_close : ∀ slot, task.fileSlotIndex = some slot → task.taskKind = .close →
    (client.fileResources slot).inFlight = 0 ∧
      task.closeFd = (client.fileResources slot).daemonFd ∧ 0 ≤ task.closeFd ∧
      next.fileResources slot = { client.fileResources slot with
        daemonFd := -1, registered := false, closing := true, inFlight := 1 }
  file_found : ∀ slot, task.fileSlotIndex = some slot → slot < client.fileSlotLimit ∧
    (client.fileResources slot).registered = true ∧
    (client.fileResources slot).closing = false ∧
    (client.fileResources slot).resourceId = task.resourceId
  result : ∀ slot, task.resultFileSlotIndex = some slot → slot < client.fileSlotLimit ∧
    (client.fileResources slot).isFree = true ∧ task.resultResourceId ≠ resourceIdInvalid ∧
    task.fileSlotIndex ≠ some slot ∧ next.fileResources slot = .reserved task.resultResourceId
  buffer_other : ∀ slot, task.bufferSlotIndex ≠ some slot →
    next.bufferResources slot = client.bufferResources slot
  buffer : ∀ slot, task.bufferSlotIndex = some slot → slot < client.bufferSlotLimit ∧
    (client.bufferResources slot).registered = true ∧
    (client.bufferResources slot).closing = false ∧
    (client.bufferResources slot).resourceId = task.bufferResourceId ∧
    next.bufferResources slot = { client.bufferResources slot with
      inFlight := (client.bufferResources slot).inFlight + 1 }
  fixed : task.taskKind = .sockReadFixed ∨ task.taskKind = .sockWriteFixed →
    task.bufferSlotIndex ≠ none
  unused : task.resultFileSlotIndex ≠ none →
    resourceIdInUse client task.resultResourceId = false
  filled : task.taskKind = .sockWriteFixed → ∀ slot, task.bufferSlotIndex = some slot →
    task.ioLength ≤ (client.bufferResources slot).validLength

/-- The kinds that work on a file resource. -/
def RequestKind.usesFile : RequestKind → Bool
  | .sockRead | .sockWrite | .fileRead | .fileWrite | .poll | .connect | .accept
  | .sockReadFixed | .sockWriteFixed => true
  | _ => false

/-- The resource and the length a task has from its request. -/
structure Carries (client : Client) (task : TaskSlot) : Prop where
  file : task.taskKind.usesFile = true ∨ task.taskKind = .close → task.fileSlotIndex ≠ none
  resourceId : task.fileSlotIndex ≠ none → task.resourceId = client.resourceId
  bufferResourceId : task.bufferSlotIndex ≠ none →
    task.bufferResourceId = client.bufferResourceId
  ioLength : task.taskKind.usesFile = true → task.ioLength = client.ioLength
  ioVectorLen : task.taskKind.usesFile = true → task.ioVectorLen = client.ioLength
  result : task.taskKind = .accept ∨ task.taskKind = .openat → task.resultFileSlotIndex ≠ none

/-- The fields a task has from the request it stands for. -/
structure Identifies (rt : Runtime) (index : Nat) (task : TaskSlot) : Prop where
  active : task.active = true
  consumesCredit : task.consumesCredit = (rt.clients index).usesCredit
  taskId : task.taskId = rt.nextTaskId
  taskKind : task.taskKind = (rt.clients index).request.taskKind
  submitPriority : task.submitPriority = (rt.clients index).request.priority
  clientIndex : task.clientIndex = index
  clientGeneration : task.clientGeneration = (rt.clients index).generation

/-- The kernel's table of registered files while a task is started: a CLOSE takes its
entry out. -/
def TableAfterStart (rt : Runtime) (index : Nat) (task : TaskSlot) (table : Nat → Fd) : Prop :=
  (task.taskKind ≠ .close ∧ table = rt.ring.kernel.registeredFiles) ∨
    (task.taskKind = .close ∧ ∃ slot, task.fileSlotIndex = some slot ∧
      table = Function.update rt.ring.kernel.registeredFiles (globalFileIndex rt index slot) (-1))

/-- A ring with another table of registered files. -/
def Ring.withFiles (ring : Ring) (table : Nat → Fd) : Ring :=
  { ring with kernel := { ring.kernel with registeredFiles := table } }

/-- An update that succeeds writes the table and nothing else. -/
theorem updateRegisteredFile_ok {rt next : Runtime} {entry : Nat} {fd : Fd}
    {outcome : UpdateOutcome}
    (updated : updateRegisteredFile rt entry fd outcome = .ok next) :
    next = { rt with
      ring := rt.ring.withFiles (Function.update rt.ring.kernel.registeredFiles entry fd) } := by
  unfold updateRegisteredFile at updated
  split at updated
  · rename_i ring update
    cases updated
    rw [ringUpdateRegisteredFile_ok update, Ring.withFiles]
  · cases updated

/-- The id counter behind a dispatch: as it was, moved on by an allocation, or back at the
id that the allocation drew. -/
inductive CounterAfter (client : Client) (nextId : UInt32) : Prop where
  | kept (same : nextId = client.nextResourceId)
  | moved (same : nextId = (allocateResourceId client).2.nextResourceId)
  | returned (valid : (allocateResourceId client).1 ≠ resourceIdInvalid)
      (same : nextId = (allocateResourceId client).1)

/-- A task that reserves a slot has the id the allocation drew. -/
def Numbered (client : Client) (task : TaskSlot) (nextId : UInt32) : Prop :=
  (task.resultFileSlotIndex = none ∧ nextId = client.nextResourceId) ∨
    (task.resultResourceId = (allocateResourceId client).1 ∧
      nextId = (allocateResourceId client).2.nextResourceId)

/-- The state when a request has passed the checks and is set up for the ring. -/
structure Attempt (rt : Runtime) (index taskIndex : Nat) (attempt : Runtime) : Prop where
  admitted : admissionRefusal rt (rt.clients index) = none
  frame : attempt = { rt with
    ring := attempt.ring
    tasks := Function.update rt.tasks taskIndex (attempt.tasks taskIndex)
    clients := Function.update rt.clients index { rt.clients index with
      nextResourceId := (attempt.clients index).nextResourceId
      fileResources := (attempt.clients index).fileResources
      bufferResources := (attempt.clients index).bufferResources } }
  identifies : Identifies rt index (attempt.tasks taskIndex)
  carries : Carries (rt.clients index) (attempt.tasks taskIndex)
  acquires : Acquires (rt.clients index) (attempt.clients index) (attempt.tasks taskIndex)
  numbered : Numbered (rt.clients index) (attempt.tasks taskIndex)
    (attempt.clients index).nextResourceId

/-- What the ring shows as published is the operation of a request set up like that. -/
def Offered (rt : Runtime) (index : Nat) (ring : Ring) : Prop :=
  ∀ sqe, rt.ring.published ring = some sqe →
    ∃ taskIndex attempt, Attempt rt index taskIndex attempt ∧ sqe = taskSqe attempt taskIndex

/-- The tail has not moved. -/
theorem offered_of_tail {rt : Runtime} {index : Nat} {ring : Ring}
    (tail : ring.sqTail = rt.ring.sqTail) : Offered rt index ring := by
  intro sqe published
  rw [Ring.published, if_pos tail] at published
  cases published

/-- A ring that declined an attempt shows at most that attempt. -/
theorem Attempt.offered {rt attempt : Runtime} {index taskIndex : Nat} {table : Nat → Fd}
    {enter : EnterOutcome} {ring : Ring} (made : Attempt rt index taskIndex attempt)
    (declines : RingDeclines (taskSqe attempt taskIndex) enter (rt.ring.withFiles table) ring) :
    Offered rt index ring := by
  rcases declines with same | ⟨errno, -, same⟩
  · apply offered_of_tail
    rw [same]
    rfl
  · intro sqe published
    have shown : rt.ring.published ring = some (taskSqe attempt taskIndex) := by
      rw [same]
      exact Ring.published_publish rfl rfl rfl
    rw [shown] at published
    exact ⟨taskIndex, attempt, made, (Option.some.inj published).symm⟩

/-- The state when the ring has taken the submission of a request and the counters are
still to be moved. -/
structure Started (rt : Runtime) (index taskIndex : Nat) (env : DispatchEnv)
    (started : Runtime) : Prop where
  free : findFreeTaskSlot rt = some taskIndex
  fresh : rt.nextTaskId < taskIdReservedMin
  frame : started = { rt with
    ring := started.ring
    tasks := Function.update rt.tasks taskIndex (started.tasks taskIndex)
    clients := Function.update rt.clients index { rt.clients index with
      nextResourceId := (started.clients index).nextResourceId
      fileResources := (started.clients index).fileResources
      bufferResources := (started.clients index).bufferResources } }
  identifies : Identifies rt index (started.tasks taskIndex)
  carries : Carries (rt.clients index) (started.tasks taskIndex)
  acquires : Acquires (rt.clients index) (started.clients index) (started.tasks taskIndex)
  submitted : ∃ table, TableAfterStart rt index (started.tasks taskIndex) table ∧
    RingAccepts (taskSqe started taskIndex) env.enter (rt.ring.withFiles table) started.ring
  numbered : Numbered (rt.clients index) (started.tasks taskIndex)
    (started.clients index).nextResourceId

/-- The counters of an accepted submission. -/
def Runtime.countAccepted (rt : Runtime) (index : Nat) (usesCredit : Bool) : Runtime :=
  let client := rt.clients index
  let credit := if usesCredit then 1 else 0
  { rt.setClient index { client with
      outstandingTasks := client.outstandingTasks + 1
      outstandingCreditTasks := client.outstandingCreditTasks + credit } with
    nextTaskId := rt.nextTaskId + 1
    outstandingTasks := rt.outstandingTasks + 1
    outstandingCreditTasks := rt.outstandingCreditTasks + credit
    acceptedSubmits := rt.acceptedSubmits + 1 }

/-- An accepted submission is answered with its task id and 0. -/
theorem acceptSubmit_ok {rt next : Runtime} {index taskIndex : Nat} {usesCredit : Bool}
    {now : UInt64} (accepted : acceptSubmit rt index taskIndex usesCredit now = .ok next) :
    ∃ credits, Answered (rt.countAccepted index usesCredit) index
      (SubmitResult.encode ⟨(rt.tasks taskIndex).taskId, completionResOk, credits⟩) next := by
  unfold acceptSubmit at accepted
  obtain ⟨queued, taken, done⟩ := bind_ok accepted
  cases done
  exact ⟨_, answered_of_queue_trace taken⟩

/-- It is recorded with the kind and the priority of the task. -/
theorem acceptSubmit_trace {rt next : Runtime} {index taskIndex : Nat} {usesCredit : Bool}
    {now : UInt64} (accepted : acceptSubmit rt index taskIndex usesCredit now = .ok next) :
    ∃ args : TraceArgs, args.taskKind = (rt.tasks taskIndex).taskKind.toWire ∧
      args.submitPriority = (rt.tasks taskIndex).submitPriority ∧
      SameTrace (emitTraceEvent rt now args) next := by
  unfold acceptSubmit at accepted
  obtain ⟨queued, taken, done⟩ := bind_ok accepted
  cases done
  have same : SameTrace rt (rt.countAccepted index usesCredit) := ⟨rfl, rfl, rfl⟩
  refine ⟨_, ?_, ?_, same.answer taken now _⟩
  · rfl
  · rfl

/-! ## Refusals -/

/-- What the attempts behind a refused submission may leave: the id counter, a cleared
entry where a free slot or an inactive task was, the table entry of a CLOSE put back,
and a ring that refused. -/
structure RolledBack (rt : Runtime) (index : Nat) (env : DispatchEnv) (middle : Runtime) :
    Prop where
  frame : middle = { rt with
    ring := middle.ring
    tasks := middle.tasks
    clients := Function.update rt.clients index { rt.clients index with
      nextResourceId := (middle.clients index).nextResourceId
      fileResources := (middle.clients index).fileResources } }
  tasks : ∀ task, middle.tasks task = rt.tasks task ∨
    (rt.tasks task).active = false ∧ middle.tasks task = .cleared
  files : ∀ slot, (middle.clients index).fileResources slot =
      (rt.clients index).fileResources slot ∨
    ((rt.clients index).fileResources slot).isFree = true ∧
      (middle.clients index).fileResources slot = .cleared
  ring : ∃ table, (table = rt.ring.kernel.registeredFiles ∨
      ∃ slot, ((rt.clients index).fileResources slot).registered = true ∧
        table = Function.update rt.ring.kernel.registeredFiles (globalFileIndex rt index slot)
          ((rt.clients index).fileResources slot).daemonFd) ∧
    RingRefuses env.enter (rt.ring.withFiles table) middle.ring
  offered : Offered rt index middle.ring
  counter : CounterAfter (rt.clients index) (middle.clients index).nextResourceId

section RolledBack

variable (rt : Runtime) (index : Nat) (env : DispatchEnv)

/-- Only the id counter moved. -/
theorem rolledBack_setNextId {nextId : UInt32}
    (counter : CounterAfter (rt.clients index) nextId) :
    RolledBack rt index env
      (rt.setClient index { rt.clients index with nextResourceId := nextId }) where
  frame := by
    simp only [Runtime.setClient, Function.update_self]
  tasks := fun _ => Or.inl rfl
  files := fun _ => Or.inl (by simp only [Runtime.setClient, Function.update_self])
  ring := ⟨rt.ring.kernel.registeredFiles, Or.inl rfl, Or.inl rfl⟩
  offered := offered_of_tail rfl
  counter := by
    rw [Runtime.clients_setClient]
    exact counter

theorem rolledBack_refl : RolledBack rt index env rt := by
  have moved := rolledBack_setNextId rt index env
    (.kept (Eq.refl (rt.clients index).nextResourceId))
  have same : rt.setClient index { rt.clients index with
      nextResourceId := (rt.clients index).nextResourceId } = rt := by
    simp only [Runtime.setClient, Function.update_eq_self]
  rwa [same] at moved

end RolledBack

/-! ## Everything a dispatch can do -/

/-- The type of reply a ready request calls for. -/
inductive ReplyType where
  | submit | resource | stats | trace
  deriving DecidableEq, Repr

/-- The reply type by control operation, in the order of the dispatcher's branches. -/
def Client.replyType (client : Client) : ReplyType :=
  match client.controlOp with
  | some .registerFd | some .registerBuffer | some .releaseResource => .resource
  | some .getStats => .stats
  | some .getTrace => .trace
  | _ => .submit

/-- The system calls of a dispatch fail with positive error numbers. -/
def DispatchEnv.sane (env : DispatchEnv) : Bool :=
  env.update.sane && env.enter.sane && env.restore.sane

/-- A resource result that refuses the request. -/
structure ResourceResult.Refuses (result : ResourceResult) (env : DispatchEnv) : Prop where
  resourceId : result.resourceId = resourceIdInvalid
  res : ∃ errno, result.res = -errno ∧ (env.sane = true → 0 < errno)
  reserved : result.reserved = 0

/-- A resource result that names the resource made or released. -/
structure ResourceResult.Grants (result : ResourceResult) : Prop where
  resourceId : result.resourceId ≠ resourceIdInvalid
  res : result.res = completionResOk
  reserved : result.reserved = 0

/-- The events of a trace reply, taken from the ring. -/
def traceEventsFrom (ring : Nat → TraceEvent) (latest : UInt64) : Nat → UInt64 → List TraceEvent
  | 0, _ => []
  | remaining + 1, sequence =>
      if sequence ≤ latest then
        ring ((sequence - 1) % 256).toNat :: traceEventsFrom ring latest remaining (sequence + 1)
      else []

/-- The events the daemon sends in a trace reply. -/
def traceReplyEvents (rt : Runtime) (client : Client) : List TraceEvent :=
  traceEventsFrom rt.traceEvents (traceLatestSequence rt) (traceReplyCount rt client)
    (traceStart rt client)

/-- The change a dispatch makes before it answers, and the bytes of the answer. -/
inductive Dispatched (rt : Runtime) (index : Nat) (env : DispatchEnv) :
    Runtime → List UInt8 → Prop where
  | resourceRefused (nextId : UInt32) (result : ResourceResult)
      (type : (rt.clients index).replyType = .resource)
      (unheld : (rt.clients index).controlOp = some .registerFd →
        (rt.clients index).receivedFd < 0)
      (refuses : result.Refuses env) (counter : CounterAfter (rt.clients index) nextId) :
      Dispatched rt index env
        (rt.setClient index { rt.clients index with nextResourceId := nextId }) result.encode
  | descriptorDropped (nextId : UInt32) (result : ResourceResult)
      (operation : (rt.clients index).controlOp = some .registerFd)
      (held : 0 ≤ (rt.clients index).receivedFd) (refuses : result.Refuses env)
      (counter : CounterAfter (rt.clients index) nextId) :
      Dispatched rt index env (dropReceivedFd
        (rt.setClient index { rt.clients index with nextResourceId := nextId }) index)
        result.encode
  | fileRegistered (slot : Nat) (resourceId : ResourceId) (nextId : UInt32) (ring : Ring)
      (result : ResourceResult)
      (operation : (rt.clients index).controlOp = some .registerFd)
      (held : 0 ≤ (rt.clients index).receivedFd)
      (found : findFreeFileSlot (rt.clients index) = some slot)
      (allocated : allocateResourceId (rt.clients index) =
        (resourceId, { rt.clients index with nextResourceId := nextId }))
      (valid : resourceId ≠ resourceIdInvalid)
      (updated : ringUpdateRegisteredFile rt.ring (globalFileIndex rt index slot)
        (rt.clients index).receivedFd env.update = (ring, none))
      (grants : result.Grants) :
      Dispatched rt index env
        ({ rt with ring }.setClient index { (rt.clients index).setFileSlot slot
            { resourceId
              daemonFd := (rt.clients index).receivedFd
              registered := true
              closing := false
              inFlight := 0 } with
          nextResourceId := nextId
          receivedFd := -1 }) result.encode
  | bufferRegistered (slot : Nat) (resourceId : ResourceId) (nextId : UInt32)
      (result : ResourceResult)
      (operation : (rt.clients index).controlOp = some .registerBuffer)
      (found : findFreeBufferSlot (rt.clients index) = some slot)
      (allocated : allocateResourceId (rt.clients index) =
        (resourceId, { rt.clients index with nextResourceId := nextId }))
      (valid : resourceId ≠ resourceIdInvalid) (grants : result.Grants) :
      Dispatched rt index env
        ({ rt with
            registeredBufferStorage := rt.registeredBufferStorage.write
              (bufferStorageAt rt index slot)
              ((rt.clients index).ioPayload.read 0 (rt.clients index).ioLength.toNat)
            }.setClient index { (rt.clients index).setBufferSlot slot
            { resourceId
              registered := true
              closing := false
              inFlight := 0
              validLength := (rt.clients index).ioLength } with
          nextResourceId := nextId }) result.encode
  | fileReleased (slot : Nat) (ring : Ring) (result : ResourceResult)
      (operation : (rt.clients index).controlOp = some .releaseResource)
      (found : findFileSlot (rt.clients index) (rt.clients index).resourceId = some slot)
      (idle : ((rt.clients index).fileResources slot).inFlight = 0)
      (updated : ringUpdateRegisteredFile rt.ring (globalFileIndex rt index slot) (-1)
        env.update = (ring, none))
      (grants : result.Grants) :
      Dispatched rt index env (clearFileSlot { rt with ring } index slot) result.encode
  | bufferReleased (slot : Nat) (result : ResourceResult)
      (operation : (rt.clients index).controlOp = some .releaseResource)
      (found : findBufferSlot (rt.clients index) (rt.clients index).resourceId = some slot)
      (idle : ((rt.clients index).bufferResources slot).inFlight = 0)
      (grants : result.Grants) :
      Dispatched rt index env (clearBufferSlot rt index slot) result.encode
  | stats (operation : (rt.clients index).controlOp = some .getStats) :
      Dispatched rt index env rt (statsResult rt).encode
  | trace (result : TraceResult) (events : List TraceEvent)
      (operation : (rt.clients index).controlOp = some .getTrace)
      (counted : result.count.toNat = events.length)
      (head : result = traceResult rt (rt.clients index))
      (listed : events = traceReplyEvents rt (rt.clients index)) :
      Dispatched rt index env rt (result.encode ++ events.flatMap TraceEvent.encode)
  | refused (middle : Runtime) (errno : Errno) (credits : UInt32)
      (type : (rt.clients index).replyType = .submit)
      (rolledBack : RolledBack rt index env middle)
      (positive : env.sane = true → 0 < errno) :
      Dispatched rt index env middle (SubmitResult.encode ⟨taskIdInvalid, -errno, credits⟩)
  | accepted (taskIndex : Nat) (started : Runtime) (credits : UInt32)
      (type : (rt.clients index).replyType = .submit)
      (admitted : admissionRefusal rt (rt.clients index) = none)
      (start : Started rt index taskIndex env started) :
      Dispatched rt index env
        (started.countAccepted index (rt.clients index).usesCredit)
        (SubmitResult.encode ⟨rt.nextTaskId, completionResOk, credits⟩)

end Iouringd
