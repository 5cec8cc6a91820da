import Iouringd.Daemon.State

/-! # Resource slots

The searches over a client's file and buffer slots, the release functions, the
resource id counter, and opening and closing a client entry.
-/

namespace Iouringd

open Foundation

/-- A slot that is neither registered nor closing nor in flight. -/
def FileSlot.isFree (slot : FileSlot) : Bool :=
  !slot.registered && !slot.closing && slot.inFlight == 0

@[inherit_doc FileSlot.isFree]
def BufferSlot.isFree (slot : BufferSlot) : Bool :=
  !slot.registered && !slot.closing && slot.inFlight == 0

/-! ## Searches -/

/-- `iouringd_available_file_slots`. -/
def availableFileSlots (client : Client) : Nat :=
  Nat.count (fun index => (client.fileResources index).isFree = true) client.fileSlotLimit

/-- `iouringd_available_buffer_slots`. -/
def availableBufferSlots (client : Client) : Nat :=
  Nat.count (fun index => (client.bufferResources index).isFree = true) client.bufferSlotLimit

/-- `iouringd_available_file_resources`. -/
def availableFileResources (client : Client) : UInt32 := UInt32.ofNat (availableFileSlots client)

/-- `iouringd_available_buffer_resources`. -/
def availableBufferResources (client : Client) : UInt32 :=
  UInt32.ofNat (availableBufferSlots client)

/-- `iouringd_find_free_file_slot`. -/
def findFreeFileSlot (client : Client) : Option Nat :=
  firstBelow client.fileSlotLimit fun index => (client.fileResources index).isFree

/-- `iouringd_find_free_buffer_slot`. -/
def findFreeBufferSlot (client : Client) : Option Nat :=
  firstBelow client.bufferSlotLimit fun index => (client.bufferResources index).isFree

/-- `iouringd_find_file_slot`. -/
def findFileSlot (client : Client) (resourceId : ResourceId) : Option Nat :=
  firstBelow client.fileSlotLimit fun index =>
    (client.fileResources index).registered &&
      (client.fileResources index).resourceId == resourceId

/-- `iouringd_find_buffer_slot`. -/
def findBufferSlot (client : Client) (resourceId : ResourceId) : Option Nat :=
  firstBelow client.bufferSlotLimit fun index =>
    (client.bufferResources index).registered &&
      (client.bufferResources index).resourceId == resourceId

/-- `iouringd_resource_id_in_use`. -/
def resourceIdInUse (client : Client) (resourceId : ResourceId) : Bool :=
  (List.range client.fileSlotLimit).any (fun index =>
    let slot := client.fileResources index
    slot.registered && slot.resourceId == resourceId ||
      slot.resourceId == resourceId && (slot.inFlight != 0 || slot.closing)) ||
  (List.range client.bufferSlotLimit).any (fun index =>
    let slot := client.bufferResources index
    slot.registered && slot.resourceId == resourceId ||
      slot.resourceId == resourceId && (slot.inFlight != 0 || slot.closing))

/-- `iouringd_client_has_retained_resources`. -/
def clientHasRetainedResources (client : Client) : Bool :=
  (List.range client.fileSlotLimit).any (fun index => !(client.fileResources index).isFree) ||
    (List.range client.bufferSlotLimit).any (fun index => !(client.bufferResources index).isFree)

/-! ## Positions in the kernel's tables -/

/-- `iouringd_global_file_index`. -/
def globalFileIndex (rt : Runtime) (clientIndex slotIndex : Nat) : Nat :=
  clientIndex * rt.limits.registeredFdsPerClient + slotIndex

/-- `iouringd_global_buffer_index`. -/
def globalBufferIndex (rt : Runtime) (clientIndex slotIndex : Nat) : Nat :=
  clientIndex * rt.limits.registeredBuffersPerClient + slotIndex

/-- `iouringd_buffer_storage_at`, as an offset into the storage. -/
def bufferStorageAt (rt : Runtime) (clientIndex slotIndex : Nat) : Nat :=
  globalBufferIndex rt clientIndex slotIndex * rt.limits.ioBytesMax

/-! ## Clearing and releasing -/

/-- `iouringd_clear_file_slot`: closes the descriptor the slot holds, if any. -/
def clearFileSlot (rt : Runtime) (clientIndex slotIndex : Nat) : Runtime :=
  let client := rt.clients clientIndex
  let slot := client.fileResources slotIndex
  let rt := if 0 ≤ slot.daemonFd then rt.close slot.daemonFd else rt
  rt.setClient clientIndex (client.setFileSlot slotIndex .cleared)

/-- `iouringd_clear_buffer_slot`. -/
def clearBufferSlot (rt : Runtime) (clientIndex slotIndex : Nat) : Runtime :=
  rt.setClient clientIndex ((rt.clients clientIndex).setBufferSlot slotIndex .cleared)

/-- Update one entry of the registered-file table; a failure ends the caller
with -1. -/
def updateRegisteredFile (rt : Runtime) (index : Nat) (fd : Fd) (outcome : UpdateOutcome) :
    Except Errno Runtime :=
  match ringUpdateRegisteredFile rt.ring index fd outcome with
  | (ring, none) => .ok { rt with ring }
  | (_, some errno) => .error errno

/-- `iouringd_try_release_file_slot`. -/
def tryReleaseFileSlot (rt : Runtime) (clientIndex slotIndex : Nat) (update : UpdateOutcome) :
    Except Errno Runtime :=
  let client := rt.clients clientIndex
  let slot := client.fileResources slotIndex
  if client.fileSlotLimit ≤ slotIndex then .error EINVAL
  else if !slot.registered then
    if slot.inFlight = 0 then .ok (clearFileSlot rt clientIndex slotIndex) else .ok rt
  else if slot.inFlight ≠ 0 || !slot.closing then .ok rt
  else do
    let rt ← updateRegisteredFile rt (globalFileIndex rt clientIndex slotIndex) (-1) update
    .ok (clearFileSlot rt clientIndex slotIndex)

/-- `iouringd_try_release_buffer_slot`. -/
def tryReleaseBufferSlot (rt : Runtime) (clientIndex slotIndex : Nat) : Except Errno Runtime :=
  let client := rt.clients clientIndex
  let slot := client.bufferResources slotIndex
  if client.bufferSlotLimit ≤ slotIndex then .error EINVAL
  else if !slot.registered then
    if slot.inFlight = 0 then .ok (clearBufferSlot rt clientIndex slotIndex) else .ok rt
  else if slot.inFlight ≠ 0 || !slot.closing then .ok rt
  else .ok (clearBufferSlot rt clientIndex slotIndex)

/-! ## Resource ids -/

/-- The attempts of `iouringd_allocate_resource_id`. -/
def allocateAttempts : Nat → Client → ResourceId × Client
  | 0, client => (resourceIdInvalid, client)
  | attempts + 1, client =>
      let candidate := client.nextResourceId
      let client := { client with nextResourceId := client.nextResourceId + 1 }
      if candidate = resourceIdInvalid then allocateAttempts attempts client
      else if resourceIdInUse client candidate then allocateAttempts attempts client
      else (candidate, client)

/-- `iouringd_allocate_resource_id`: as many attempts as there are slots. -/
def allocateResourceId (client : Client) : ResourceId × Client :=
  allocateAttempts (client.fileSlotLimit + client.bufferSlotLimit) client

/-- `iouringd_unallocate_resource_id`. -/
def unallocateResourceId (client : Client) (resourceId : ResourceId) : Client :=
  if resourceId ≠ resourceIdInvalid then { client with nextResourceId := resourceId } else client

/-! ## Opening and closing a client entry -/

/-- The entry `iouringd_open_client` takes: the first one that is not connected and
holds neither resources nor tasks. -/
def reusableClient (rt : Runtime) : Option Nat :=
  firstBelow rt.limits.maxClients fun index =>
    let client := rt.clients index
    !client.isActive && !clientHasRetainedResources client && client.outstandingTasks == 0

/-- The entry `iouringd_open_client` sets up for a connection. -/
def openedClient (rt : Runtime) (index : Nat) (fd : Fd) : Client :=
  let client := rt.clients index
  ({ client with
    fd
    generation := rt.nextClientGeneration + 1
    phase := .handshake
    outputCapacity := rt.clientOutputCapacity
    output := []
    outputSent := 0
    closeAfterFlush := false
    requestReady := false
    receivedFd := -1
    fileSlotLimit := rt.limits.registeredFdsPerClient
    bufferSlotLimit := rt.limits.registeredBuffersPerClient
    ioBytesMax := rt.limits.ioBytesMax
    request := .zero
    controlOp := none
    timeoutNsec := 0
    cancelTargetId := taskIdInvalid
    resourceId := resourceIdInvalid
    bufferResourceId := resourceIdInvalid
    openFlags := 0
    closeFd := -1
    openMode := 0
    ioLength := 0
    traceAfterSequence := 0
    traceMaxEvents := 0
    pollMask := 0
    ioPayload := .zero
    input := .zero } : Client).initResources.resetInput

/-- What `iouringd_open_client` learns from `fcntl` and `malloc`. -/
structure OpenEnv where
  nonblocking : Bool
  allocated : Bool
  deriving DecidableEq, Repr

/-- `iouringd_open_client`. -/
def openClient (rt : Runtime) (fd : Fd) (env : OpenEnv) : Runtime :=
  if !env.nonblocking then rt.close fd
  else
    match reusableClient rt with
    | none => rt.close fd
    | some index =>
        if !env.allocated then rt.close fd
        else { rt.setClient index (openedClient rt index fd) with
          nextClientGeneration := rt.nextClientGeneration + 1 }

/-- The entry `iouringd_close_client` leaves: registered slots are marked closing and
stay until nothing is in flight on them. -/
def closedClient (client : Client) : Client :=
  ({ client with
    fd := if 0 ≤ client.fd then -1 else client.fd
    output := []
    outputCapacity := 0
    outputSent := 0
    closeAfterFlush := false
    requestReady := false
    receivedFd := if 0 ≤ client.receivedFd then -1 else client.receivedFd
    fileResources := fun index =>
      let slot := client.fileResources index
      if slot.registered then { slot with closing := true } else slot
    bufferResources := fun index =>
      let slot := client.bufferResources index
      if slot.registered then { slot with closing := true } else slot
    phase := .handshake
    request := .zero
    controlOp := none
    timeoutNsec := 0
    cancelTargetId := taskIdInvalid
    resourceId := resourceIdInvalid
    bufferResourceId := resourceIdInvalid
    openFlags := 0
    closeFd := -1
    openMode := 0
    ioLength := 0
    traceAfterSequence := 0
    traceMaxEvents := 0
    pollMask := 0
    ioPayload := .zero
    input := .zero } : Client).resetInput

/-- `iouringd_close_client`. -/
def closeClient (rt : Runtime) (index : Nat) : Runtime :=
  let client := rt.clients index
  let rt := if 0 ≤ client.fd then rt.close client.fd else rt
  let rt := if 0 ≤ client.receivedFd then rt.close client.receivedFd else rt
  rt.setClient index (closedClient client)

end Iouringd
