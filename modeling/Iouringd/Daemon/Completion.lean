import Iouringd.Daemon.Dispatch

/-! # Completing tasks

`iouringd_complete_task` with the two functions that turn the descriptor of an
ACCEPT or OPENAT into a resource, `iouringd_sweep_closing_resources` and
`iouringd_reap_completions`.
-/

namespace Iouringd

open Foundation

/-- What the system calls of one completion return: the update that registers the
descriptor of an ACCEPT or OPENAT, and the updates that free the slots of the task. -/
structure CompleteEnv where
  register : UpdateOutcome
  releaseFile : UpdateOutcome
  releaseResult : UpdateOutcome
  now : UInt64
  deriving DecidableEq, Repr

/-- The completion record under construction, with the memory and the offset its
payload will be read from. -/
structure Preparation where
  rt : Runtime
  record : CompletionRecord
  payload : Option (Memory × Nat)

/-- Close the descriptor of an operation whose result cannot be registered. -/
def Preparation.abandon (prepared : Preparation) (fd : Fd) (res : Int32) : Preparation :=
  { prepared with rt := prepared.rt.close fd, record := { prepared.record with res } }

/-- The peer address an ACCEPT returns as payload. -/
def Preparation.attachSockaddr (task : TaskSlot) (prepared : Preparation) : Preparation :=
  if task.sockaddrLength ≠ 0 then
    { prepared with
      record := { prepared.record with payloadLength := task.sockaddrLength.toUInt16 }
      payload := some (task.ioBuffer, 0) }
  else prepared

/-- Turn the descriptor into the resource reserved for it; `attach` adds the payload
when that succeeds. -/
def Preparation.registerResult (prepared : Preparation) (task : TaskSlot) (slotIndex : Nat)
    (fd : Fd) (update : UpdateOutcome) (attach : Preparation → Preparation) : Preparation :=
  let rt := prepared.rt
  match ringUpdateRegisteredFile rt.ring (globalFileIndex rt task.clientIndex slotIndex) fd
      update with
  | (ring, some errno) => { prepared with rt := { rt with ring } }.abandon fd (-errno)
  | (ring, none) =>
      let client := rt.clients task.clientIndex
      let slot := client.fileResources slotIndex
      let registered := client.setFileSlot slotIndex
        { slot with
          resourceId := task.resultResourceId
          daemonFd := fd
          registered := true
          closing := false }
      attach { prepared with
        rt := { rt with ring }.setClient task.clientIndex registered
        record := { prepared.record with res := task.resultResourceId.toInt32 } }

/-- `task->result_resource_id` does not fit the positive range of a result. -/
def resultIdInvalid (task : TaskSlot) : Bool :=
  task.resultResourceId == resourceIdInvalid || decide (2147483647 < task.resultResourceId)

/-- The task's connection is still there. -/
def taskConnected (rt : Runtime) (task : TaskSlot) : Bool :=
  (rt.clients task.clientIndex).isActive &&
    (rt.clients task.clientIndex).generation == task.clientGeneration

/-- `iouringd_prepare_accept_completion`. -/
def prepareAcceptCompletion (task : TaskSlot) (update : UpdateOutcome)
    (prepared : Preparation) : Preparation :=
  let rt := prepared.rt
  let fd := prepared.record.res
  if task.taskKind ≠ .accept ∨ fd < 0 then prepared
  else
    match task.resultFileSlotIndex with
    | none => prepared.abandon fd (- EIO)
    | some slotIndex =>
        if rt.limits.maxClients ≤ task.clientIndex then prepared.abandon fd (- EIO)
        else if (rt.clients task.clientIndex).fileSlotLimit ≤ slotIndex then
          prepared.abandon fd (- EIO)
        else if decide (task.ioLength < task.sockaddrLength) || resultIdInvalid task then
          prepared.abandon fd (-EPROTO)
        else if !taskConnected rt task then prepared.abandon fd fd
        else prepared.registerResult task slotIndex fd update (.attachSockaddr task)

/-- `iouringd_prepare_openat_completion`. -/
def prepareOpenatCompletion (task : TaskSlot) (update : UpdateOutcome)
    (prepared : Preparation) : Preparation :=
  let rt := prepared.rt
  let fd := prepared.record.res
  if task.taskKind ≠ .openat ∨ fd < 0 then prepared
  else
    match task.resultFileSlotIndex with
    | none => prepared.abandon fd (- EIO)
    | some slotIndex =>
        if rt.limits.maxClients ≤ task.clientIndex then prepared.abandon fd (- EIO)
        else if decide ((rt.clients task.clientIndex).fileSlotLimit ≤ slotIndex) ||
            resultIdInvalid task then prepared.abandon fd (-EPROTO)
        else if !taskConnected rt task then prepared.abandon fd fd
        else prepared.registerResult task slotIndex fd update id

/-- The record `iouringd_complete_task` starts with. -/
def completionRecord (task : TaskSlot) (res : Int32) : CompletionRecord where
  magic := wireMagic
  versionMajor := protocolMajor
  versionMinor := protocolMinor
  taskId := task.taskId
  res := res
  taskKind := task.taskKind.toWire
  payloadLength :=
    match task.taskKind with
    | .sockRead | .sockReadFixed | .fileRead =>
        if 0 < res then res.toUInt32.toUInt16 else 0
    | _ => 0

/-- Where the payload of a read is; a fixed read also sets the valid length of its
buffer. -/
def readPayload (task : TaskSlot) (res : Int32) (prepared : Preparation) : Preparation :=
  let client := prepared.rt.clients task.clientIndex
  match task.taskKind with
  | .sockRead | .fileRead =>
      if 0 < res then { prepared with payload := some (task.ioBuffer, 0) } else prepared
  | .sockReadFixed =>
      match task.bufferSlotIndex with
      | none => prepared
      | some slotIndex =>
          if slotIndex < client.bufferSlotLimit then
            let slot := client.bufferResources slotIndex
            let filled := client.setBufferSlot slotIndex { slot with validLength := res.toUInt32 }
            let rt := if 0 ≤ res then prepared.rt.setClient task.clientIndex filled else prepared.rt
            let storage := bufferStorageAt rt task.clientIndex slotIndex
            if 0 < res then
              { prepared with rt, payload := some (rt.registeredBufferStorage, storage) }
            else { prepared with rt }
          else prepared
  | _ => prepared

/-- Queue the record and its payload, when the connection is still there. -/
def deliverCompletion (task : TaskSlot) (prepared : Preparation) : Except Errno Runtime :=
  if taskConnected prepared.rt task then do
    let rt ← prepared.rt.queue task.clientIndex prepared.record.encode
    match prepared.payload with
    | some (memory, offset) =>
        if prepared.record.payloadLength ≠ 0 then
          rt.queue task.clientIndex (memory.read offset prepared.record.payloadLength.toNat)
        else .ok rt
    | none => .ok rt
  else .ok prepared.rt

/-- Release one task's hold on a file slot; `frees` says when the slot is then offered
to `iouringd_try_release_file_slot`. -/
def releaseTaskFile (rt : Runtime) (clientIndex : Nat) (slotIndex : Option Nat)
    (frees : FileSlot → Bool) (update : UpdateOutcome) : Except Errno Runtime :=
  let client := rt.clients clientIndex
  match slotIndex with
  | none => .ok rt
  | some slotIndex =>
      if slotIndex < client.fileSlotLimit then
        let slot := client.fileResources slotIndex
        let slot := { slot with inFlight := slot.inFlight - 1 }
        let rt := rt.setClient clientIndex (client.setFileSlot slotIndex slot)
        if frees slot then tryReleaseFileSlot rt clientIndex slotIndex update else .ok rt
      else .ok rt

/-- Release one task's hold on a buffer slot. -/
def releaseTaskBuffer (rt : Runtime) (clientIndex : Nat) (slotIndex : Option Nat) :
    Except Errno Runtime :=
  let client := rt.clients clientIndex
  match slotIndex with
  | none => .ok rt
  | some slotIndex =>
      if slotIndex < client.bufferSlotLimit then
        let slot := client.bufferResources slotIndex
        let slot := { slot with inFlight := slot.inFlight - 1 }
        let rt := rt.setClient clientIndex (client.setBufferSlot slotIndex slot)
        if slot.closing then tryReleaseBufferSlot rt clientIndex slotIndex else .ok rt
      else .ok rt

/-- The counters at the end of `iouringd_complete_task`. The runtime's counters are
decremented without a guard. -/
def countCompletion (rt : Runtime) (task : TaskSlot) : Runtime :=
  let client := rt.clients task.clientIndex
  let credit := if task.consumesCredit then 1 else 0
  let counted := { rt with
    outstandingCreditTasks := sizeSub rt.outstandingCreditTasks credit
    completions := rt.completions + 1
    outstandingTasks := sizeSub rt.outstandingTasks 1 }
  if task.clientIndex < rt.limits.maxClients then
    counted.setClient task.clientIndex { client with
      outstandingCreditTasks := client.outstandingCreditTasks - credit
      outstandingTasks := client.outstandingTasks - 1 }
  else counted

/-- The part of `iouringd_complete_task` that concerns the task's client. -/
def completeForClient (task : TaskSlot) (res : Int32) (env : CompleteEnv)
    (prepared : Preparation) : Except Errno Runtime := do
  let rt ← deliverCompletion task (readPayload task res prepared)
  let rt ← releaseTaskFile rt task.clientIndex task.fileSlotIndex (fun slot => slot.closing)
    env.releaseFile
  let rt ← releaseTaskFile rt task.clientIndex task.resultFileSlotIndex
    (fun slot => !slot.registered || slot.closing) env.releaseResult
  releaseTaskBuffer rt task.clientIndex task.bufferSlotIndex

/-- The record and the registrations `iouringd_complete_task` prepares. -/
def prepareCompletion (rt : Runtime) (task : TaskSlot) (res : Int32) (env : CompleteEnv) :
    Preparation :=
  prepareOpenatCompletion task env.register
    (prepareAcceptCompletion task env.register ⟨rt, completionRecord task res, none⟩)

/-- The resource id of the trace event. -/
def tracedResource (task : TaskSlot) (res : Int32) : ResourceId :=
  if (task.taskKind = .accept ∨ task.taskKind = .openat) ∧ 0 ≤ res then task.resultResourceId
  else task.resourceId

/-- `iouringd_complete_task` on the task slot at `taskIndex`. -/
def completeTask (rt : Runtime) (taskIndex : Nat) (res : Int32) (env : CompleteEnv) :
    Except Errno Runtime :=
  let task := rt.tasks taskIndex
  let prepared := prepareCompletion rt task res env
  do
    let rt ← if task.clientIndex < rt.limits.maxClients then
      completeForClient task res env prepared else .ok prepared.rt
    let rt := countCompletion rt task
    .ok ((emitTraceEvent rt env.now
      { clientIndex := task.clientIndex
        eventKind := .completion
        taskKind := task.taskKind.toWire
        submitPriority := task.submitPriority
        taskId := task.taskId
        resourceId := tracedResource task prepared.record.res
        res := prepared.record.res
        credits := rt.availableCredits }).setTask taskIndex .cleared)

/-! ## Sweeping -/

/-- The body of the first inner loop of `iouringd_sweep_closing_resources`. -/
def sweepFileSlot (clientIndex : Nat) (updates : Nat → Nat → UpdateOutcome)
    (state : Runtime × Bool) (slotIndex : Nat) : Except Errno (Runtime × Bool) :=
  let slot := (state.1.clients clientIndex).fileResources slotIndex
  if !slot.closing || slot.inFlight != 0 then .ok state
  else do
    let rt ← tryReleaseFileSlot state.1 clientIndex slotIndex (updates clientIndex slotIndex)
    .ok (rt, true)

/-- The body of the second inner loop. -/
def sweepBufferSlot (clientIndex : Nat) (state : Runtime × Bool) (slotIndex : Nat) :
    Except Errno (Runtime × Bool) :=
  let slot := (state.1.clients clientIndex).bufferResources slotIndex
  if !slot.closing || slot.inFlight != 0 then .ok state
  else do
    let rt ← tryReleaseBufferSlot state.1 clientIndex slotIndex
    .ok (rt, true)

/-- The body of the outer loop. -/
def sweepClient (updates : Nat → Nat → UpdateOutcome) (state : Runtime × Bool)
    (clientIndex : Nat) : Except Errno (Runtime × Bool) := do
  let state ← (List.range (state.1.clients clientIndex).fileSlotLimit).foldlM
    (sweepFileSlot clientIndex updates) state
  (List.range (state.1.clients clientIndex).bufferSlotLimit).foldlM
    (sweepBufferSlot clientIndex) state

/-- `iouringd_sweep_closing_resources`; `updates` are the outcomes of the
registered-file updates, by client and slot. -/
def sweepClosingResources (rt : Runtime) (updates : Nat → Nat → UpdateOutcome) :
    Except Errno (Runtime × Bool) :=
  (List.range rt.limits.maxClients).foldlM (sweepClient updates) (rt, false)

/-! ## Reaping -/

/-- One turn of the loop of `iouringd_reap_completions`: `none` when no completion is
posted. -/
def reapCompletion (rt : Runtime) (env : CompleteEnv) : Except Errno (Option Runtime) :=
  match ringPeekCompletion rt.ring with
  | (_, none) => .ok none
  | (ring, some cqe) =>
      match findTaskSlot { rt with ring } cqe.userData with
      | none => .error EPROTO
      | some taskIndex => do
          let rt ← completeTask { rt with ring } taskIndex cqe.res env
          .ok (some rt)

/-- `iouringd_reap_completions`, one environment for each turn of the loop. The kernel
posts nothing while the loop runs, so the posted completions bound the turns. -/
def reapCompletions (rt : Runtime) : List CompleteEnv → Except Errno (Runtime × Bool)
  | [] => .ok (rt, false)
  | env :: envs => do
      match ← reapCompletion rt env with
      | none => .ok (rt, false)
      | some rt => do
          let (rt, _) ← reapCompletions rt envs
          .ok (rt, true)

end Iouringd
