import Mathlib.Tactic.IntervalCases
import Iouringd.Foundation.SlotTable
import Iouringd.Wire.Records
import Iouringd.Ring.Submit

/-! # The daemon's state

The structs of `src/daemon/main.c`, field by field. Arrays are functions on
naturals of which only the entries below the configured limits are used; the
`-1` indices of a task slot are `none`. `size_t` and `unsigned` counters are
naturals, and `sizeSub` is the wrapping subtraction of the places where the code
subtracts without a guard.
-/

namespace Iouringd

open Foundation

def maxClientsLimit : Nat := 64
def maxTasks : Nat := 64
def maxRegisteredFds : Nat := 32
def maxRegisteredBuffers : Nat := 4
def maxIoBytes : Nat := 4096
def traceCapacity : Nat := 256

/-- `IOURINGD_MAX_REQUEST_BYTES`, the size of a client's input buffer. -/
def maxRequestBytes : Nat := RegisterBufferRequest.size + maxIoBytes

/-- Subtraction on `size_t`, which wraps around below zero. -/
@[irreducible] def sizeSub (left right : Nat) : Nat :=
  if right ≤ left then left - right else left + 2 ^ 64 - right

theorem sizeSub_eq {left right : Nat} (below : right ≤ left) :
    sizeSub left right = left - right := by
  unfold sizeSub
  simp only [below, ↓reduceIte]

/-- `enum iouringd_client_phase`. -/
inductive Phase where
  | handshake | submit
  deriving DecidableEq, Repr

/-- `struct iouringd_resource_slot`. -/
structure FileSlot where
  resourceId : ResourceId
  daemonFd : Fd
  inFlight : Nat
  registered : Bool
  closing : Bool
  deriving DecidableEq, Repr

/-- A slot after `iouringd_clear_file_slot`. -/
def FileSlot.cleared : FileSlot := ⟨resourceIdInvalid, -1, 0, false, false⟩

/-- `struct iouringd_buffer_slot`. -/
structure BufferSlot where
  resourceId : ResourceId
  inFlight : Nat
  registered : Bool
  closing : Bool
  validLength : UInt32
  deriving DecidableEq, Repr

/-- A slot after `iouringd_clear_buffer_slot`. -/
def BufferSlot.cleared : BufferSlot := ⟨resourceIdInvalid, 0, false, false, 0⟩

/-- `struct iouringd_limits`. -/
structure Limits where
  maxClients : Nat
  registeredFdsPerClient : Nat
  registeredBuffersPerClient : Nat
  perClientCredits : Nat
  ioBytesMax : Nat
  ringEntries : Nat
  deriving DecidableEq, Repr

/-- `iouringd_init_limits`. -/
def Limits.default : Limits := ⟨maxClientsLimit, maxRegisteredFds, 1, maxTasks, maxIoBytes, 4⟩

/-- The range check at the end of `iouringd_parse_args`. -/
def Limits.accepted (limits : Limits) : Bool :=
  !(decide (limits.ringEntries < 2) || decide (maxTasks < limits.ringEntries) ||
    limits.maxClients == 0 || decide (maxClientsLimit < limits.maxClients) ||
    limits.registeredFdsPerClient == 0 ||
    decide (maxRegisteredFds < limits.registeredFdsPerClient) ||
    limits.registeredBuffersPerClient == 0 ||
    decide (maxRegisteredBuffers < limits.registeredBuffersPerClient) ||
    limits.perClientCredits == 0 || decide (maxTasks < limits.perClientCredits) ||
    limits.ioBytesMax == 0 || decide (maxIoBytes < limits.ioBytesMax))

/-- `struct iouringd_client`. `output` holds the first `output_len` bytes of the
output buffer, `input` the whole input buffer. A control operation of 0 is `none`. -/
structure Client where
  fd : Fd
  generation : UInt32
  phase : Phase
  closeAfterFlush : Bool
  requestReady : Bool
  receivedFd : Fd
  expectedInput : Nat
  inputLen : Nat
  input : Memory
  output : List UInt8
  outputCapacity : Nat
  outputSent : Nat
  request : SubmitRequest
  controlOp : Option RequestKind
  timeoutNsec : UInt64
  cancelTargetId : TaskId
  resourceId : ResourceId
  bufferResourceId : ResourceId
  openFlags : Int32
  closeFd : Fd
  openMode : UInt32
  ioLength : UInt32
  traceAfterSequence : UInt64
  traceMaxEvents : UInt32
  pollMask : UInt16
  outstandingTasks : Nat
  outstandingCreditTasks : Nat
  fileSlotLimit : Nat
  bufferSlotLimit : Nat
  ioBytesMax : Nat
  ioPayload : Memory
  nextResourceId : UInt32
  fileResources : Nat → FileSlot
  bufferResources : Nat → BufferSlot

/-- `struct iouringd_task_slot`. The base of the slot's `io_vector` is always its own
`io_buffer`, so only the length is kept. -/
structure TaskSlot where
  active : Bool
  consumesCredit : Bool
  taskId : TaskId
  taskKind : RequestKind
  submitPriority : Priority
  clientIndex : Nat
  clientGeneration : UInt32
  fileSlotIndex : Option Nat
  bufferSlotIndex : Option Nat
  resultFileSlotIndex : Option Nat
  timeoutSec : UInt64
  timeoutNsec : UInt64
  cancelTargetId : TaskId
  resourceId : ResourceId
  bufferResourceId : ResourceId
  resultResourceId : ResourceId
  openFlags : Int32
  closeFd : Fd
  openMode : UInt32
  ioLength : UInt32
  pollMask : UInt16
  sockaddrLength : UInt32
  ioVectorLen : UInt32
  ioBuffer : Memory

/-- `iouringd_clear_task_slot`; the slots of a fresh runtime look the same. -/
def TaskSlot.cleared : TaskSlot where
  active := false
  consumesCredit := false
  taskId := taskIdInvalid
  taskKind := .unknown 0
  submitPriority := .normal
  clientIndex := 0
  clientGeneration := 0
  fileSlotIndex := none
  bufferSlotIndex := none
  resultFileSlotIndex := none
  timeoutSec := 0
  timeoutNsec := 0
  cancelTargetId := taskIdInvalid
  resourceId := resourceIdInvalid
  bufferResourceId := resourceIdInvalid
  resultResourceId := resourceIdInvalid
  openFlags := 0
  closeFd := -1
  openMode := 0
  ioLength := 0
  pollMask := 0
  sockaddrLength := 0
  ioVectorLen := 0
  ioBuffer := .zero

/-- `struct iouringd_runtime`, without the fields that only feed the stderr log. -/
structure Runtime where
  nextTaskId : TaskId
  nextClientGeneration : UInt32
  outstandingTasks : Nat
  outstandingCreditTasks : Nat
  ringCapacity : Nat
  taskCapacity : Nat
  dispatchCursor : Nat
  clientOutputCapacity : Nat
  perClientCreditLimit : Nat
  acceptedSubmits : UInt64
  rejectedSubmits : UInt64
  completions : UInt64
  nextTraceSequence : UInt64
  traceCount : UInt32
  limits : Limits
  registeredBufferStorage : Memory
  capabilities : Capabilities
  ring : Ring
  traceEvents : Nat → TraceEvent
  clients : Nat → Client
  tasks : Nat → TaskSlot

/-! ## Updates of one entry -/

namespace Client

def setFileSlot (client : Client) (index : Nat) (slot : FileSlot) : Client :=
  { client with fileResources := Function.update client.fileResources index slot }

def setBufferSlot (client : Client) (index : Nat) (slot : BufferSlot) : Client :=
  { client with bufferResources := Function.update client.bufferResources index slot }

/-- `iouringd_reset_client_input`. -/
def resetInput (client : Client) : Client :=
  { client with inputLen := 0, expectedInput := SubmitRequest.size }

/-- `iouringd_init_client_resources`. -/
def initResources (client : Client) : Client :=
  { client with
    receivedFd := -1
    nextResourceId := 1
    pollMask := 0
    outstandingTasks := 0
    outstandingCreditTasks := 0
    fileResources := fun _ => FileSlot.cleared
    bufferResources := fun _ => BufferSlot.cleared }

/-- The bytes queued and not yet written to the socket. -/
def pendingOutput (client : Client) : List UInt8 := client.output.drop client.outputSent

/-- `iouringd_client_is_active`. -/
def isActive (client : Client) : Bool := decide (0 ≤ client.fd)

/-- `iouringd_client_has_output`. -/
def hasOutput (client : Client) : Bool := decide (client.outputSent < client.output.length)

/-- A client entry of a fresh runtime. -/
def fresh : Client where
  fd := -1
  generation := 0
  phase := .handshake
  closeAfterFlush := false
  requestReady := false
  receivedFd := -1
  expectedInput := SubmitRequest.size
  inputLen := 0
  input := .zero
  output := []
  outputCapacity := 0
  outputSent := 0
  request := .zero
  controlOp := none
  timeoutNsec := 0
  cancelTargetId := taskIdInvalid
  resourceId := resourceIdInvalid
  bufferResourceId := resourceIdInvalid
  openFlags := 0
  closeFd := 0
  openMode := 0
  ioLength := 0
  traceAfterSequence := 0
  traceMaxEvents := 0
  pollMask := 0
  outstandingTasks := 0
  outstandingCreditTasks := 0
  fileSlotLimit := maxRegisteredFds
  bufferSlotLimit := maxRegisteredBuffers
  ioBytesMax := maxIoBytes
  ioPayload := .zero
  nextResourceId := 1
  fileResources := fun _ => FileSlot.cleared
  bufferResources := fun _ => BufferSlot.cleared

end Client

namespace Runtime

def setClient (rt : Runtime) (index : Nat) (client : Client) : Runtime :=
  { rt with clients := Function.update rt.clients index client }

def setTask (rt : Runtime) (index : Nat) (task : TaskSlot) : Runtime :=
  { rt with tasks := Function.update rt.tasks index task }

@[simp] theorem setClient_self (rt : Runtime) (index : Nat) :
    rt.setClient index (rt.clients index) = rt := by
  simp only [setClient, Function.update_eq_self]

@[simp] theorem clients_setClient (rt : Runtime) (index : Nat) (client : Client) :
    (rt.setClient index client).clients index = client := Function.update_self ..

/-- `close(fd)`. -/
def close (rt : Runtime) (fd : Fd) : Runtime :=
  { rt with ring := { rt.ring with
    kernel := { rt.ring.kernel with closed := rt.ring.kernel.closed ++ [fd] } } }

/-- `iouringd_available_credits`. -/
def availableCredits (rt : Runtime) : UInt32 :=
  UInt32.ofNat (sizeSub rt.taskCapacity rt.outstandingCreditTasks)

end Runtime

/-! ## Start-up -/

/-- What `main` has when it enters the loop: limits that `iouringd_parse_args`
accepted and a ring of a supported size, empty, with its file and buffer tables
registered. -/
structure Config where
  limits : Limits
  accepted : limits.accepted = true
  capabilities : Capabilities
  ring : Ring
  ring_open : 0 ≤ ring.ringFd
  sq_geometry : RingGeometry ring.sqRingEntries ring.sqRingMask
  capacity_gt_one : 1 < ringCapacity ring
  capacity_le : ringCapacity ring ≤ maxTasks
  sq_empty : ring.sqHead = ring.sqTail
  cq_geometry : RingGeometry (ring.cqRingMask + 1) ring.cqRingMask
  cq_empty : ring.cqHead = ring.cqTail
  files_count : ring.registeredFilesCount = limits.maxClients * limits.registeredFdsPerClient
  buffers_count :
    ring.registeredBuffersCount = limits.maxClients * limits.registeredBuffersPerClient
  files_free : ∀ index, ring.kernel.registeredFiles index = -1
  idle : ring.kernel.executing = []

/-- The ring as `io_uring_setup` returns it for `2 ^ order` entries, with its tables
registered. -/
def Ring.fresh (order files buffers : Nat) : Ring where
  ringFd := 3
  registeredFilesCount := files
  registeredBuffersCount := buffers
  sqHead := 0
  sqTail := 0
  sqRingMask := UInt32.ofNat (2 ^ order - 1)
  sqRingEntries := UInt32.ofNat (2 ^ order)
  sqArray := fun _ => 0
  sqes := fun _ => { opcode := .nop, userData := 0 }
  cqHead := 0
  cqTail := 0
  cqRingMask := UInt32.ofNat (2 ^ (order + 1) - 1)
  cqes := fun _ => ⟨0, 0⟩
  kernel := ⟨fun _ => -1, [], []⟩

/-- Powers of two below `2 ^ 32` are ring sizes. -/
theorem ringGeometry_two_pow {order : Nat} (small : order < 32) :
    RingGeometry (UInt32.ofNat (2 ^ order)) (UInt32.ofNat (2 ^ order - 1)) := by
  have bound : 2 ^ order < 2 ^ 32 := Nat.pow_lt_pow_right (by decide) small
  refine ⟨order, small, ?_, ?_⟩
  · rw [UInt32.toNat_ofNat', Nat.mod_eq_of_lt bound]
  · rw [UInt32.toNat_ofNat', Nat.mod_eq_of_lt (by omega)]

/-- A daemon with the given limits on a fresh ring whose kernel supports every
operation. -/
def Config.fresh (limits : Limits) (accepted : limits.accepted = true) (order : Nat)
    (positive : 1 ≤ order) (bounded : order ≤ 6) : Config where
  limits := limits
  accepted := accepted
  capabilities := { Capabilities.zero with opMask := capabilityOpMask }
  ring := .fresh order (limits.maxClients * limits.registeredFdsPerClient)
    (limits.maxClients * limits.registeredBuffersPerClient)
  ring_open := by
    change (0 : Int32) ≤ 3
    decide
  sq_geometry := ringGeometry_two_pow (by omega)
  capacity_gt_one := by
    change 1 < (UInt32.ofNat (2 ^ order)).toNat
    interval_cases order <;> decide
  capacity_le := by
    change (UInt32.ofNat (2 ^ order)).toNat ≤ maxTasks
    interval_cases order <;> decide
  sq_empty := rfl
  cq_geometry := by
    have geometry := @ringGeometry_two_pow (order + 1) (by omega)
    have entries : UInt32.ofNat (2 ^ (order + 1) - 1) + 1 = UInt32.ofNat (2 ^ (order + 1)) := by
      interval_cases order <;> decide
    change RingGeometry (UInt32.ofNat (2 ^ (order + 1) - 1) + 1) _
    rw [entries]
    exact geometry
  cq_empty := rfl
  files_count := rfl
  buffers_count := rfl
  files_free := fun _ => rfl
  idle := rfl

/-- `runtime.task_capacity` as `main` sets it. -/
def Config.taskCapacity (config : Config) : Nat := ringCapacity config.ring - 1

/-- `runtime.client_output_capacity` as `main` computes it. -/
def Config.clientOutputCapacity (config : Config) : Nat :=
  HandshakeResult.size + StatsResult.size + TraceResult.size + traceCapacity * TraceEvent.size +
    (config.limits.registeredFdsPerClient + config.limits.registeredBuffersPerClient) *
      ResourceResult.size +
    config.taskCapacity *
      (SubmitResult.size + CompletionRecord.size + config.limits.ioBytesMax)

/-- The runtime when `iouringd_run` is entered. -/
def Runtime.initial (config : Config) : Runtime where
  nextTaskId := 1
  nextClientGeneration := 0
  outstandingTasks := 0
  outstandingCreditTasks := 0
  ringCapacity := Iouringd.ringCapacity config.ring
  taskCapacity := config.taskCapacity
  dispatchCursor := 0
  clientOutputCapacity := config.clientOutputCapacity
  perClientCreditLimit := min config.limits.perClientCredits config.taskCapacity
  acceptedSubmits := 0
  rejectedSubmits := 0
  completions := 0
  nextTraceSequence := 1
  traceCount := 0
  limits := config.limits
  registeredBufferStorage := .zero
  capabilities := { config.capabilities with
    submitCredits := UInt32.ofNat config.taskCapacity
    registeredFdSlots := UInt32.ofNat config.limits.registeredFdsPerClient
    registeredBufferSlots := UInt32.ofNat config.limits.registeredBuffersPerClient
    ioBytesMax := UInt32.ofNat config.limits.ioBytesMax }
  ring := config.ring
  traceEvents := fun _ => TraceEvent.zero
  clients := fun _ => Client.fresh
  tasks := fun _ => TaskSlot.cleared

end Iouringd
