import Iouringd.Daemon.Output
import Iouringd.Daemon.Resources

/-! # Trace events and replies

`iouringd_emit_trace_event` and the functions that queue one reply each. The byte
count of a trace event only reaches the stderr log and is left out.
-/

namespace Iouringd

open Foundation

/-! ## Counters of the statistics reply -/

/-- `iouringd_count_active_clients`. -/
def countActiveClients (rt : Runtime) : Nat :=
  Nat.count (fun index => (rt.clients index).isActive = true) rt.limits.maxClients

/-- `iouringd_count_registered_files`. -/
def countRegisteredFiles (rt : Runtime) : Nat :=
  ((List.range rt.limits.maxClients).map fun index =>
    Nat.count (fun slot => ((rt.clients index).fileResources slot).registered = true)
      (rt.clients index).fileSlotLimit).sum

/-- `iouringd_count_registered_buffers`. -/
def countRegisteredBuffers (rt : Runtime) : Nat :=
  ((List.range rt.limits.maxClients).map fun index =>
    Nat.count (fun slot => ((rt.clients index).bufferResources slot).registered = true)
      (rt.clients index).bufferSlotLimit).sum

/-- `iouringd_count_clients_at_credit_limit`. -/
def countClientsAtCreditLimit (rt : Runtime) : Nat :=
  if rt.perClientCreditLimit = 0 then 0
  else Nat.count (fun index => (rt.clients index).isActive = true ∧
    rt.perClientCreditLimit ≤ (rt.clients index).outstandingCreditTasks) rt.limits.maxClients

/-! ## The trace ring -/

/-- The arguments of `iouringd_emit_trace_event` besides the runtime. -/
structure TraceArgs where
  clientIndex : Nat
  eventKind : TraceEventKind
  taskKind : UInt16
  submitPriority : Priority
  taskId : TaskId
  resourceId : ResourceId
  res : Int32
  credits : UInt32
  deriving DecidableEq, Repr

/-- `iouringd_emit_trace_event`; `now` is the monotonic clock. -/
def emitTraceEvent (rt : Runtime) (now : UInt64) (args : TraceArgs) : Runtime :=
  let sequence := rt.nextTraceSequence
  let slotIndex := ((sequence - 1) % 256).toNat
  { rt with
    nextTraceSequence := rt.nextTraceSequence + 1
    traceEvents := Function.update rt.traceEvents slotIndex
      { sequence
        timestampNsec := now
        taskId := args.taskId
        resourceId := args.resourceId
        res := args.res
        credits := args.credits
        eventKind := args.eventKind.toWire
        taskKind := args.taskKind
        clientSlot := UInt16.ofNat args.clientIndex
        priority := args.submitPriority.toWire
        reserved1 := 0 }
    traceCount := if rt.traceCount < 256 then rt.traceCount + 1 else rt.traceCount }

/-- `iouringd_trace_oldest_sequence`. -/
def traceOldestSequence (rt : Runtime) : UInt64 :=
  if rt.traceCount = 0 then 0 else rt.nextTraceSequence - rt.traceCount.toUInt64

/-- The sequence of the last event. -/
def traceLatestSequence (rt : Runtime) : UInt64 :=
  if rt.nextTraceSequence = 0 then 0 else rt.nextTraceSequence - 1

/-! ## Replies -/

/-- The request is not the one this version of the protocol sends. -/
def handshakeRefused (request : HandshakeRequest) : Bool :=
  request.magic ≠ wireMagic || request.versionMajor ≠ protocolMajor ||
    request.versionMinor ≠ protocolMinor || request.abiMajor ≠ abiMajor ||
    request.abiMinor ≠ abiMinor || request.reserved ≠ 0

/-- The answer to a handshake; a rejection carries no capabilities. -/
def handshakeResult (rt : Runtime) (refused : Bool) : HandshakeResult where
  magic := wireMagic
  versionMajor := protocolMajor
  versionMinor := protocolMinor
  abiMajor := abiMajor
  abiMinor := abiMinor
  status := if refused then handshakeReject else handshakeAccept
  reserved := 0
  capabilities := if refused then .zero
    else { rt.capabilities with submitCredits := rt.availableCredits }

/-- `iouringd_queue_handshake_result`. -/
def queueHandshakeResult (rt : Runtime) (index : Nat) (request : HandshakeRequest) :
    Except Errno Runtime :=
  let client := rt.clients index
  let refused := handshakeRefused request
  let client := if refused then { client with closeAfterFlush := true }
    else { client with phase := .submit }
  do
    let rt ← (rt.setClient index client).queue index (handshakeResult rt refused).encode
    .ok (rt.setClient index (rt.clients index).resetInput)

/-- `iouringd_queue_submit_result`. -/
def queueSubmitResult (rt : Runtime) (index : Nat) (taskId : TaskId) (res : Int32) :
    Except Errno Runtime :=
  rt.queue index (SubmitResult.encode { taskId, res, credits := rt.availableCredits })

/-- `iouringd_reject_submit`. -/
def rejectSubmit (rt : Runtime) (index : Nat) (res : Int32) (now : UInt64) :
    Except Errno Runtime := do
  let rt := { rt with rejectedSubmits := rt.rejectedSubmits + 1 }
  let rt ← queueSubmitResult rt index taskIdInvalid res
  let client := rt.clients index
  .ok (emitTraceEvent rt now
    { clientIndex := index
      eventKind := .submitReject
      taskKind := client.request.taskKind.toWire
      submitPriority := client.request.priority
      taskId := taskIdInvalid
      resourceId := client.resourceId
      res
      credits := rt.availableCredits })

/-- `iouringd_queue_resource_result`. -/
def queueResourceResult (rt : Runtime) (index : Nat) (resourceId : ResourceId) (res : Int32)
    (resourcesAvailable : UInt32) : Except Errno Runtime :=
  rt.queue index (ResourceResult.encode { resourceId, res, resourcesAvailable, reserved := 0 })

/-- The statistics reply. -/
def statsResult (rt : Runtime) : StatsResult where
  activeClients := UInt32.ofNat (countActiveClients rt)
  outstandingTasks := UInt32.ofNat rt.outstandingTasks
  outstandingCreditTasks := UInt32.ofNat rt.outstandingCreditTasks
  availableCredits := rt.availableCredits
  registeredFiles := UInt32.ofNat (countRegisteredFiles rt)
  registeredBuffers := UInt32.ofNat (countRegisteredBuffers rt)
  acceptedSubmits := rt.acceptedSubmits
  rejectedSubmits := rt.rejectedSubmits
  completions := rt.completions
  perClientCreditLimit := UInt32.ofNat rt.perClientCreditLimit
  clientsAtCreditLimit := UInt32.ofNat (countClientsAtCreditLimit rt)

/-- `iouringd_queue_stats_result`. -/
def queueStatsResult (rt : Runtime) (index : Nat) : Except Errno Runtime :=
  rt.queue index (statsResult rt).encode

/-- The first loop of `iouringd_queue_trace_result`: how many events from `sequence`
on are sent when at most `remaining` may be. -/
def countTraceEvents (latest : UInt64) : Nat → UInt64 → Nat
  | 0, _ => 0
  | remaining + 1, sequence =>
      if sequence ≤ latest then countTraceEvents latest remaining (sequence + 1) + 1 else 0

/-- The second loop of `iouringd_queue_trace_result`. -/
def queueTraceEvents (index : Nat) (latest : UInt64) : Nat → UInt64 → Runtime →
    Except Errno Runtime
  | 0, _, rt => .ok rt
  | remaining + 1, sequence, rt =>
      if sequence ≤ latest then do
        let rt ← rt.queue index (rt.traceEvents ((sequence - 1) % 256).toNat).encode
        queueTraceEvents index latest remaining (sequence + 1) rt
      else .ok rt

/-- Where a trace reply starts: behind the cursor, and not before the oldest event. -/
def traceStart (rt : Runtime) (client : Client) : UInt64 :=
  let sequence := client.traceAfterSequence + 1
  if sequence < traceOldestSequence rt then traceOldestSequence rt else sequence

/-- How many events a trace reply carries. -/
def traceReplyCount (rt : Runtime) (client : Client) : Nat :=
  if client.traceMaxEvents ≠ 0 ∧ rt.traceCount ≠ 0 ∧
      client.traceAfterSequence < traceLatestSequence rt then
    countTraceEvents (traceLatestSequence rt) client.traceMaxEvents.toNat (traceStart rt client)
  else 0

/-- The head of a trace reply. -/
def traceResult (rt : Runtime) (client : Client) : TraceResult where
  oldestSequence := traceOldestSequence rt
  latestSequence := traceLatestSequence rt
  count := UInt32.ofNat (traceReplyCount rt client)
  reserved := 0

/-- `iouringd_queue_trace_result`. -/
def queueTraceResult (rt : Runtime) (index : Nat) : Except Errno Runtime :=
  let client := rt.clients index
  let result := traceResult rt client
  let start := traceStart rt client
  let latest := traceLatestSequence rt
  do
    let rt ← rt.queue index result.encode
    if result.count = 0 then .ok rt
    else queueTraceEvents index latest result.count.toNat start rt

end Iouringd
