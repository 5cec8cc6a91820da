import Iouringd.Daemon.Replies

/-! # Dispatching requests

`iouringd_dispatch_client_request`, split at its branches. Every path of the source
either returns -1, which ends the daemon, or queues one reply, finishes the request
and returns 1; a path that returns -1 is `Except.error`, and the state it leaves is
not kept.
-/

namespace Iouringd

open Foundation

/-- What the system calls of one dispatch return: the registered-file update, the
`io_uring_enter` of the submission, and the update that puts the descriptor of a
failed CLOSE back. `acceptFault` is the fault the test environment injects, `now`
the monotonic clock. -/
structure DispatchEnv where
  update : UpdateOutcome
  enter : EnterOutcome
  restore : UpdateOutcome
  acceptFault : Bool
  now : UInt64
  deriving DecidableEq, Repr

/-- `iouringd_find_free_task_slot`. -/
def findFreeTaskSlot (rt : Runtime) : Option Nat :=
  firstBelow rt.taskCapacity fun index => !(rt.tasks index).active

/-- `iouringd_find_task_slot`. -/
def findTaskSlot (rt : Runtime) (taskId : TaskId) : Option Nat :=
  firstBelow rt.taskCapacity fun index =>
    (rt.tasks index).active && (rt.tasks index).taskId == taskId

/-- What `iouringd_finish_client_request` does to a client. -/
def Client.finishRequest (client : Client) : Client :=
  { client with
    requestReady := false
    controlOp := none
    timeoutNsec := 0
    cancelTargetId := taskIdInvalid
    resourceId := resourceIdInvalid
    bufferResourceId := resourceIdInvalid
    openFlags := 0
    closeFd := -1
    openMode := 0
    ioLength := 0
    traceAfterSequence := 0
    traceMaxEvents := 0
    pollMask := 0 }

/-- `iouringd_finish_client_request`. -/
def finishClientRequest (rt : Runtime) (index : Nat) : Runtime :=
  rt.setClient index (rt.clients index).finishRequest

/-! ## Control requests -/

/-- Queue a resource result and finish the request. -/
def answerResource (rt : Runtime) (index : Nat) (resourceId : ResourceId) (res : Int32)
    (available : UInt32) : Except Errno Runtime := do
  let rt ← queueResourceResult rt index resourceId res available
  .ok (finishClientRequest rt index)

/-- Queue the result of a registration or a release, record it and finish the
request. -/
def answerResourceChange (rt : Runtime) (index : Nat) (eventKind : TraceEventKind)
    (resourceId : ResourceId) (available : UInt32) (now : UInt64) : Except Errno Runtime := do
  let rt ← queueResourceResult rt index resourceId 0 available
  .ok (finishClientRequest (emitTraceEvent rt now
    { clientIndex := index
      eventKind
      taskKind := 0
      submitPriority := .normal
      taskId := taskIdInvalid
      resourceId
      res := 0
      credits := rt.availableCredits }) index)

/-- Close the descriptor a REGISTER_FD request came with. -/
def dropReceivedFd (rt : Runtime) (index : Nat) : Runtime :=
  let client := rt.clients index
  (rt.close client.receivedFd).setClient index { client with receivedFd := -1 }

/-- The REGISTER_FD branch. -/
def dispatchRegisterFd (rt : Runtime) (index : Nat) (env : DispatchEnv) : Except Errno Runtime :=
  let client := rt.clients index
  if client.receivedFd < 0 then
    answerResource rt index resourceIdInvalid (-EINVAL) (availableFileResources client)
  else
    match findFreeFileSlot client with
    | none => do
        let rt ← queueResourceResult rt index resourceIdInvalid (-EAGAIN)
          (availableFileResources client)
        .ok (finishClientRequest (dropReceivedFd rt index) index)
    | some slotIndex =>
        let allocated := allocateResourceId client
        let rt := rt.setClient index allocated.2
        if allocated.1 = resourceIdInvalid then do
          let rt ← queueResourceResult rt index resourceIdInvalid (-EOVERFLOW)
            (availableFileResources allocated.2)
          .ok (finishClientRequest (dropReceivedFd rt index) index)
        else
          match ringUpdateRegisteredFile rt.ring (globalFileIndex rt index slotIndex)
              client.receivedFd env.update with
          | (ring, some errno) =>
              answerResource (dropReceivedFd { rt with ring } index) index resourceIdInvalid
                (-errno) (availableFileResources allocated.2)
          | (ring, none) =>
              let registered := { allocated.2.setFileSlot slotIndex
                  { resourceId := allocated.1
                    daemonFd := client.receivedFd
                    registered := true
                    closing := false
                    inFlight := 0 } with
                receivedFd := -1 }
              answerResourceChange ({ rt with ring }.setClient index registered) index
                .resourceRegister allocated.1 (availableFileResources registered) env.now

/-- The REGISTER_BUFFER branch. -/
def dispatchRegisterBuffer (rt : Runtime) (index : Nat) (env : DispatchEnv) :
    Except Errno Runtime :=
  let client := rt.clients index
  match findFreeBufferSlot client with
  | none =>
      answerResource rt index resourceIdInvalid (-EAGAIN) (availableBufferResources client)
  | some slotIndex =>
      let allocated := allocateResourceId client
      let rt := rt.setClient index allocated.2
      if allocated.1 = resourceIdInvalid then
        answerResource rt index resourceIdInvalid (-EOVERFLOW)
          (availableBufferResources allocated.2)
      else
        let storage := if client.ioLength ≠ 0 then
          rt.registeredBufferStorage.write (bufferStorageAt rt index slotIndex)
            (client.ioPayload.read 0 client.ioLength.toNat)
          else rt.registeredBufferStorage
        let registered := allocated.2.setBufferSlot slotIndex
          { resourceId := allocated.1
            registered := true
            closing := false
            inFlight := 0
            validLength := client.ioLength }
        answerResourceChange
          ({ rt with registeredBufferStorage := storage }.setClient index registered) index
          .resourceRegister allocated.1 (availableBufferResources registered) env.now

/-- The RELEASE_RESOURCE branch: file slots are searched before buffer slots. -/
def dispatchReleaseResource (rt : Runtime) (index : Nat) (env : DispatchEnv) :
    Except Errno Runtime :=
  let client := rt.clients index
  if client.resourceId = resourceIdInvalid then
    answerResource rt index resourceIdInvalid (-EINVAL) 0
  else
    match findFileSlot client client.resourceId with
    | some slotIndex =>
        let slot := client.fileResources slotIndex
        if slot.inFlight ≠ 0 then
          answerResource rt index resourceIdInvalid (-EBUSY) (availableFileResources client)
        else do
          let rt ← tryReleaseFileSlot
            (rt.setClient index (client.setFileSlot slotIndex { slot with closing := true }))
            index slotIndex env.update
          answerResourceChange rt index .resourceRelease slot.resourceId
            (availableFileResources (rt.clients index)) env.now
    | none =>
        match findBufferSlot client client.resourceId with
        | some slotIndex =>
            let slot := client.bufferResources slotIndex
            if slot.inFlight ≠ 0 then
              answerResource rt index resourceIdInvalid (-EBUSY) (availableBufferResources client)
            else do
              let rt ← tryReleaseBufferSlot
                (rt.setClient index (client.setBufferSlot slotIndex { slot with closing := true }))
                index slotIndex
              answerResourceChange rt index .resourceRelease slot.resourceId
                (availableBufferResources (rt.clients index)) env.now
        | none => answerResource rt index resourceIdInvalid (-ENOENT) 0

/-- The GET_STATS branch. -/
def dispatchGetStats (rt : Runtime) (index : Nat) : Except Errno Runtime := do
  let rt ← queueStatsResult rt index
  .ok (finishClientRequest rt index)

/-- The GET_TRACE branch. -/
def dispatchGetTrace (rt : Runtime) (index : Nat) : Except Errno Runtime := do
  let rt ← queueTraceResult rt index
  .ok (finishClientRequest rt index)

/-! ## Admission of a submission -/

/-- Reject a submission and finish the request. -/
def refuse (rt : Runtime) (index : Nat) (errno : Errno) (now : UInt64) : Except Errno Runtime := do
  let rt ← rejectSubmit rt index (-errno) now
  .ok (finishClientRequest rt index)

/-- `uses_credit`: everything but CANCEL consumes a credit. -/
def Client.usesCredit (client : Client) : Bool := client.request.taskKind != .cancel

/-- The kernel lacks the operation the request needs. -/
def unsupported (rt : Runtime) (kind : RequestKind) : Bool :=
  match kind.capabilityBit with
  | some bit => rt.capabilities.opMask &&& bit == 0
  | none => false

/-- The argument checks that are made before any slot is looked up. -/
def argumentsInvalid (client : Client) : Bool :=
  match client.request.taskKind with
  | .cancel =>
      client.cancelTargetId == taskIdInvalid || decide (taskIdReservedMin ≤ client.cancelTargetId)
  | .sockRead | .sockWrite | .fileRead | .fileWrite =>
      client.resourceId == resourceIdInvalid || client.ioLength == 0 ||
        decide (client.ioBytesMax < client.ioLength.toNat)
  | .poll => client.resourceId == resourceIdInvalid || client.pollMask == 0
  | .connect =>
      client.resourceId == resourceIdInvalid || client.ioLength == 0 ||
        decide (client.ioBytesMax < client.ioLength.toNat) || decide (65535 < client.ioLength)
  | .accept =>
      client.resourceId == resourceIdInvalid ||
        decide (client.ioBytesMax < client.ioLength.toNat) || decide (65535 < client.ioLength)
  | .openat =>
      decide (client.ioLength < 2) || decide (client.ioBytesMax < client.ioLength.toNat) ||
        client.ioPayload (client.ioLength.toNat - 1) != 0
  | .close => client.resourceId == resourceIdInvalid
  | .sockReadFixed | .sockWriteFixed =>
      client.resourceId == resourceIdInvalid || client.bufferResourceId == resourceIdInvalid ||
        client.ioLength == 0 || decide (client.ioBytesMax < client.ioLength.toNat)
  | _ => false

/-- The checks a submission passes before its branch is entered: credits for the
kinds that use them, room in the ring for CANCEL, the kernel's support, the
arguments. -/
def admissionRefusal (rt : Runtime) (client : Client) : Option Errno :=
  if client.usesCredit && decide (rt.taskCapacity ≤ rt.outstandingCreditTasks) then some EAGAIN
  else if client.usesCredit &&
      decide (rt.perClientCreditLimit ≤ client.outstandingCreditTasks) then some EAGAIN
  else if !client.usesCredit && decide (rt.ringCapacity ≤ rt.outstandingTasks) then some EAGAIN
  else if unsupported rt client.request.taskKind then some ENOTSUP
  else if argumentsInvalid client then some EINVAL
  else none

/-- The fields every branch sets in the cleared task slot. -/
def newTask (rt : Runtime) (index : Nat) : TaskSlot :=
  let client := rt.clients index
  { TaskSlot.cleared with
    active := true
    consumesCredit := client.usesCredit
    taskId := rt.nextTaskId
    taskKind := client.request.taskKind
    submitPriority := client.request.priority
    clientIndex := index
    clientGeneration := client.generation }

/-- The end of a submission the ring took: the counters, the submit result, the
trace event. -/
def acceptSubmit (rt : Runtime) (index taskIndex : Nat) (usesCredit : Bool) (now : UInt64) :
    Except Errno Runtime :=
  let client := rt.clients index
  let task := rt.tasks taskIndex
  let credit := if usesCredit then 1 else 0
  let counted := { rt.setClient index { client with
      outstandingTasks := client.outstandingTasks + 1
      outstandingCreditTasks := client.outstandingCreditTasks + credit } with
    nextTaskId := rt.nextTaskId + 1
    outstandingTasks := rt.outstandingTasks + 1
    outstandingCreditTasks := rt.outstandingCreditTasks + credit
    acceptedSubmits := rt.acceptedSubmits + 1 }
  do
    let rt ← queueSubmitResult counted index task.taskId completionResOk
    .ok (finishClientRequest (emitTraceEvent rt now
      { clientIndex := index
        eventKind := .submitAccept
        taskKind := task.taskKind.toWire
        submitPriority := task.submitPriority
        taskId := task.taskId
        resourceId := task.resourceId
        res := completionResOk
        credits := rt.availableCredits }) index)

/-! ## Submissions without a resource -/

/-- The ring operation of TIMEOUT, CANCEL and NOP. -/
def plainSubmission (taskIndex : Nat) (task : TaskSlot) : Ring → EnterOutcome →
    Ring × Option Errno :=
  match task.taskKind with
  | .timeout => ringSubmitTimeout task.taskId (.timeout taskIndex)
  | .cancel => ringSubmitCancel task.taskId task.cancelTargetId
  | _ => ringSubmitNop task.taskId

/-- The task of TIMEOUT, CANCEL and NOP. -/
def plainTask (rt : Runtime) (index : Nat) : TaskSlot :=
  let client := rt.clients index
  let task := newTask rt index
  match task.taskKind with
  | .timeout =>
      { task with
        timeoutSec := client.timeoutNsec / 1000000000
        timeoutNsec := client.timeoutNsec % 1000000000 }
  | .cancel => { task with cancelTargetId := client.cancelTargetId }
  | _ => task

/-- The last branch: TIMEOUT, CANCEL and NOP. -/
def dispatchPlain (rt : Runtime) (index : Nat) (env : DispatchEnv) : Except Errno Runtime :=
  if taskIdReservedMin ≤ rt.nextTaskId then refuse rt index EOVERFLOW env.now
  else
    match findFreeTaskSlot rt with
    | none => refuse rt index EAGAIN env.now
    | some taskIndex =>
        let task := plainTask rt index
        let rt := rt.setTask taskIndex task
        match plainSubmission taskIndex task rt.ring env.enter with
        | (ring, some errno) =>
            refuse ({ rt with ring }.setTask taskIndex .cleared) index errno env.now
        | (ring, none) =>
            acceptSubmit { rt with ring } index taskIndex (rt.clients index).usesCredit env.now

/-! ## OPENAT -/

/-- `AT_FDCWD`. -/
def atFdcwd : Fd := -100

/-- The slot reserved for the descriptor that OPENAT or ACCEPT will produce. -/
def FileSlot.reserved (resourceId : ResourceId) : FileSlot := ⟨resourceId, -1, 1, false, false⟩

/-- Give up a reserved slot and its id. The source decrements `in_flight` first, which
the clearing overwrites. -/
def releaseReservation (rt : Runtime) (index resultIndex : Nat) (resourceId : ResourceId) :
    Runtime :=
  let rt := clearFileSlot rt index resultIndex
  rt.setClient index (unallocateResourceId (rt.clients index) resourceId)

/-- The task of OPENAT. -/
def openatTask (rt : Runtime) (index resultIndex : Nat) (resourceId : ResourceId) : TaskSlot :=
  let client := rt.clients index
  { newTask rt index with
    resultFileSlotIndex := some resultIndex
    resultResourceId := resourceId
    openFlags := client.openFlags
    openMode := client.openMode
    ioLength := client.ioLength
    ioBuffer := Memory.zero.write 0 (client.ioPayload.read 0 client.ioLength.toNat) }

/-- The OPENAT branch. -/
def dispatchOpenat (rt : Runtime) (index : Nat) (env : DispatchEnv) : Except Errno Runtime :=
  let client := rt.clients index
  if taskIdReservedMin ≤ rt.nextTaskId then refuse rt index EOVERFLOW env.now
  else
    match findFreeFileSlot client with
    | none => refuse rt index EAGAIN env.now
    | some resultIndex =>
        let allocated := allocateResourceId client
        let rt := rt.setClient index allocated.2
        if allocated.1 = resourceIdInvalid then refuse rt index EOVERFLOW env.now
        else
          match findFreeTaskSlot rt with
          | none => refuse rt index EAGAIN env.now
          | some taskIndex =>
              let task := openatTask rt index resultIndex allocated.1
              let rt := (rt.setTask taskIndex task).setClient index
                (allocated.2.setFileSlot resultIndex (.reserved allocated.1))
              match ringSubmitOpenat task.taskId atFdcwd (.ioBuffer taskIndex) task.openFlags
                  task.openMode task.submitPriority rt.ring env.enter with
              | (ring, some errno) =>
                  refuse ((releaseReservation { rt with ring } index resultIndex
                    allocated.1).setTask taskIndex .cleared) index errno env.now
              | (ring, none) => acceptSubmit { rt with ring } index taskIndex true env.now

/-! ## CLOSE -/

/-- The task of CLOSE. -/
def closeTask (rt : Runtime) (index slotIndex : Nat) (fd : Fd) : TaskSlot :=
  { newTask rt index with
    fileSlotIndex := some slotIndex
    resourceId := (rt.clients index).resourceId
    closeFd := fd }

/-- The CLOSE branch: the descriptor leaves the registered-file table before the ring
is asked to close it, and is put back when the ring refuses. -/
def dispatchClose (rt : Runtime) (index : Nat) (env : DispatchEnv) : Except Errno Runtime :=
  let client := rt.clients index
  match findFileSlot client client.resourceId with
  | none => refuse rt index ENOENT env.now
  | some slotIndex =>
      let file := client.fileResources slotIndex
      if file.closing then refuse rt index ENOENT env.now
      else if file.inFlight ≠ 0 || decide (file.daemonFd < 0) then refuse rt index EBUSY env.now
      else if taskIdReservedMin ≤ rt.nextTaskId then refuse rt index EOVERFLOW env.now
      else
        match findFreeTaskSlot rt with
        | none => refuse rt index EAGAIN env.now
        | some taskIndex => do
            let rt ← updateRegisteredFile rt (globalFileIndex rt index slotIndex) (-1) env.update
            let task := closeTask rt index slotIndex file.daemonFd
            let rt := (rt.setTask taskIndex task).setClient index (client.setFileSlot slotIndex
              { file with daemonFd := -1, registered := false, closing := true, inFlight := 1 })
            match ringSubmitClose task.taskId file.daemonFd task.submitPriority rt.ring
                env.enter with
            | (ring, some errno) => do
                let restored := client.setFileSlot slotIndex
                  { file with registered := true, closing := false, inFlight := 0 }
                let rt ← updateRegisteredFile ({ rt with ring }.setClient index restored)
                  (globalFileIndex rt index slotIndex) file.daemonFd env.restore
                refuse (rt.setTask taskIndex .cleared) index errno env.now
            | (ring, none) => acceptSubmit { rt with ring } index taskIndex true env.now

/-! ## Submissions on a file resource -/

/-- The buffer slot of a fixed-buffer request; other kinds use none. -/
def taskBuffer (client : Client) : Except Errno (Option Nat) :=
  match client.request.taskKind with
  | .sockReadFixed | .sockWriteFixed =>
      match findBufferSlot client client.bufferResourceId with
      | none => .error ENOENT
      | some slotIndex =>
          let slot := client.bufferResources slotIndex
          if slot.closing then .error ENOENT
          else if client.request.taskKind == .sockWriteFixed &&
              decide (slot.validLength < client.ioLength) then .error EINVAL
          else .ok (some slotIndex)
  | _ => .ok none

/-- Add one to the `in_flight` of the slots a task uses. -/
def acquireSlots (client : Client) (slotIndex : Nat) (bufferIndex : Option Nat) : Client :=
  let file := client.fileResources slotIndex
  let client := client.setFileSlot slotIndex { file with inFlight := file.inFlight + 1 }
  match bufferIndex with
  | none => client
  | some bufferIndex =>
      let buffer := client.bufferResources bufferIndex
      client.setBufferSlot bufferIndex { buffer with inFlight := buffer.inFlight + 1 }

/-- Take it back. -/
def releaseSlots (client : Client) (slotIndex : Nat) (bufferIndex : Option Nat) : Client :=
  let file := client.fileResources slotIndex
  let client := client.setFileSlot slotIndex { file with inFlight := file.inFlight - 1 }
  match bufferIndex with
  | none => client
  | some bufferIndex =>
      let buffer := client.bufferResources bufferIndex
      client.setBufferSlot bufferIndex { buffer with inFlight := buffer.inFlight - 1 }

/-- The task of a request on a file resource. -/
def resourceTask (rt : Runtime) (index slotIndex : Nat) (bufferIndex : Option Nat) : TaskSlot :=
  let client := rt.clients index
  let copies := match client.request.taskKind with
    | .sockWrite | .fileWrite | .connect => true
    | _ => false
  { newTask rt index with
    fileSlotIndex := some slotIndex
    bufferSlotIndex := bufferIndex
    resourceId := client.resourceId
    bufferResourceId := client.bufferResourceId
    ioLength := client.ioLength
    pollMask := client.pollMask
    sockaddrLength := client.ioLength
    ioVectorLen := client.ioLength
    ioBuffer := if copies then
      Memory.zero.write 0 (client.ioPayload.read 0 client.ioLength.toNat) else .zero }

/-- The ring operation of a request on a file resource. -/
def resourceSubmission (rt : Runtime) (index taskIndex slotIndex : Nat) (task : TaskSlot)
    (env : DispatchEnv) : Ring → EnterOutcome → Ring × Option Errno :=
  let fileIndex := globalFileIndex rt index slotIndex
  let daemonFd := ((rt.clients index).fileResources slotIndex).daemonFd
  let bufferSlot := task.bufferSlotIndex.getD 0
  match task.taskKind with
  | .sockWrite | .fileWrite =>
      ringSubmitWritev task.taskId fileIndex (.ioVector taskIndex) 1 task.submitPriority
  | .sockRead | .fileRead =>
      ringSubmitReadv task.taskId fileIndex (.ioVector taskIndex) 1 task.submitPriority
  | .connect => ringSubmitConnect task.taskId daemonFd (.ioBuffer taskIndex) task.ioLength
  | .accept =>
      -- `SOCK_CLOEXEC | SOCK_NONBLOCK`
      ringSubmitAccept env.acceptFault task.taskId daemonFd
        (if task.ioLength ≠ 0 then .ioBuffer taskIndex else .null)
        (if task.ioLength ≠ 0 then .sockaddrLength taskIndex else .null) 0x80800
  | .poll => ringSubmitPoll task.taskId fileIndex task.pollMask
  | .sockWriteFixed =>
      ringSubmitWriteFixed task.taskId fileIndex (globalBufferIndex rt index bufferSlot)
        (.storage (bufferStorageAt rt index bufferSlot)) task.ioLength task.submitPriority
  | _ =>
      ringSubmitReadFixed task.taskId fileIndex (globalBufferIndex rt index bufferSlot)
        (.storage (bufferStorageAt rt index bufferSlot)) task.ioLength task.submitPriority

/-- Submit a task that is set up, or roll it back. `reservation` is the slot and the id
an ACCEPT holds for its result. -/
def submitResourceTask (rt : Runtime) (index taskIndex slotIndex : Nat)
    (reservation : Option (Nat × ResourceId)) (env : DispatchEnv) : Except Errno Runtime :=
  let task := rt.tasks taskIndex
  match resourceSubmission rt index taskIndex slotIndex task env rt.ring env.enter with
  | (ring, some errno) =>
      let rt := { rt with ring }.setClient index
        (releaseSlots (rt.clients index) slotIndex task.bufferSlotIndex)
      let rt := match reservation with
        | some (resultIndex, resourceId) => releaseReservation rt index resultIndex resourceId
        | none => rt
      refuse (rt.setTask taskIndex .cleared) index errno env.now
  | (ring, none) => acceptSubmit { rt with ring } index taskIndex true env.now

/-- The branch of the nine kinds that work on a file resource. -/
def dispatchResourceTask (rt : Runtime) (index : Nat) (env : DispatchEnv) :
    Except Errno Runtime :=
  let client := rt.clients index
  match findFileSlot client client.resourceId with
  | none => refuse rt index ENOENT env.now
  | some slotIndex =>
      let file := client.fileResources slotIndex
      let kind := client.request.taskKind
      if file.closing then refuse rt index ENOENT env.now
      else if (kind == .connect || kind == .accept) && decide (file.daemonFd < 0) then
        refuse rt index EBADF env.now
      else
        match taskBuffer client with
        | .error errno => refuse rt index errno env.now
        | .ok bufferIndex =>
            if taskIdReservedMin ≤ rt.nextTaskId then refuse rt index EOVERFLOW env.now
            else
              match findFreeTaskSlot rt with
              | none => refuse rt index EAGAIN env.now
              | some taskIndex =>
                  let task := resourceTask rt index slotIndex bufferIndex
                  let acquired := acquireSlots client slotIndex bufferIndex
                  if kind = .accept then
                    -- from here on the file slot is in flight, so every refusal releases it
                    match findFreeFileSlot acquired with
                    | none =>
                        refuse ((rt.setClient index
                          (releaseSlots acquired slotIndex none)).setTask taskIndex .cleared)
                          index EAGAIN env.now
                    | some resultIndex =>
                        let allocated := allocateResourceId acquired
                        if allocated.1 = resourceIdInvalid then
                          refuse ((rt.setClient index
                            (releaseSlots allocated.2 slotIndex none)).setTask taskIndex .cleared)
                            index EOVERFLOW env.now
                        else
                          let task := { task with
                            resultFileSlotIndex := some resultIndex
                            resultResourceId := allocated.1 }
                          let reserved :=
                            allocated.2.setFileSlot resultIndex (.reserved allocated.1)
                          submitResourceTask ((rt.setTask taskIndex task).setClient index reserved)
                            index taskIndex slotIndex (some (resultIndex, allocated.1)) env
                  else
                    submitResourceTask ((rt.setTask taskIndex task).setClient index acquired)
                      index taskIndex slotIndex none env

/-! ## The dispatcher -/

/-- The part of `iouringd_dispatch_client_request` behind the admission checks. -/
def dispatchSubmission (rt : Runtime) (index : Nat) (env : DispatchEnv) : Except Errno Runtime :=
  match (rt.clients index).request.taskKind with
  | .openat => dispatchOpenat rt index env
  | .close => dispatchClose rt index env
  | .sockRead | .sockWrite | .fileRead | .fileWrite | .poll | .connect | .accept
  | .sockReadFixed | .sockWriteFixed => dispatchResourceTask rt index env
  | _ => dispatchPlain rt index env

/-- `iouringd_dispatch_client_request` for a client with a complete request. -/
def dispatchRequest (rt : Runtime) (index : Nat) (env : DispatchEnv) : Except Errno Runtime :=
  match (rt.clients index).controlOp with
  | some .registerFd => dispatchRegisterFd rt index env
  | some .registerBuffer => dispatchRegisterBuffer rt index env
  | some .releaseResource => dispatchReleaseResource rt index env
  | some .getStats => dispatchGetStats rt index
  | some .getTrace => dispatchGetTrace rt index
  | _ =>
      match admissionRefusal rt (rt.clients index) with
      | some errno => refuse rt index errno env.now
      | none => dispatchSubmission rt index env

/-- `iouringd_dispatch_client_request`: the runtime and whether it returns 1. -/
def dispatchClientRequest (rt : Runtime) (index : Nat) (env : DispatchEnv) :
    Except Errno (Runtime × Bool) :=
  if (rt.clients index).requestReady then do
    let rt ← dispatchRequest rt index env
    .ok (rt, true)
  else .ok (rt, false)

end Iouringd
