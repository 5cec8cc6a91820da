import Iouringd.Wire.Protocol

/-! # Wire records

The packed structs of `include/iouringd/api.h`. `encode` is the struct as it lies
in memory and on the socket, `decode` is `memcpy` into the struct followed by
reading its fields. Structs that `api.h` declares separately but with the same
layout (the four plain reads and writes, CONNECT and ACCEPT; CLOSE and
RELEASE_RESOURCE; the two fixed-buffer requests) are one record here.
-/

namespace Iouringd

open Foundation

/-- `struct iouringd_submit_request_v1`; control requests have the same layout. -/
structure SubmitRequest where
  magic : UInt32
  versionMajor : UInt16
  versionMinor : UInt16
  taskKind : RequestKind
  priority : Priority
  reserved1 : UInt32
  deriving DecidableEq, Repr

namespace SubmitRequest

/-- `sizeof(struct iouringd_submit_request_v1)`. -/
def size : Nat := 16

/-- `memset(&request, 0, sizeof(request))`. -/
def zero : SubmitRequest := ⟨0, 0, 0, .unknown 0, .normal, 0⟩

/-- The struct that lies in the bytes, read field by field. -/
def decode (bytes : List UInt8) : SubmitRequest where
  magic := u32At bytes 0
  versionMajor := u16At bytes 4
  versionMinor := u16At bytes 6
  taskKind := .ofWire (u16At bytes 8)
  priority := .ofWire (u16At bytes 10)
  reserved1 := u32At bytes 12

/-- The struct as bytes, its fields in order. -/
def encode (request : SubmitRequest) : List UInt8 :=
  u32 request.magic ++ u16 request.versionMajor ++ u16 request.versionMinor ++
    u16 request.taskKind.toWire ++ u16 request.priority.toWire ++ u32 request.reserved1

/-- The packed struct has no padding. -/
@[simp] theorem length_encode (request : SubmitRequest) : request.encode.length = 16 := by
  simp only [encode, List.length_append, length_u32, length_u16]

/-- `iouringd_request_header_is_valid`. -/
def headerIsValid (request : SubmitRequest) : Bool :=
  request.magic == wireMagic && request.versionMajor == protocolMajor &&
    request.versionMinor == protocolMinor && request.reserved1 == 0

/-- `iouringd_request_priority_is_valid`. -/
def priorityIsValid (request : SubmitRequest) : Bool :=
  if request.taskKind.isTask then request.priority.isValid
  else if request.taskKind.isControl then request.priority == .normal
  else false

/-- A request is read from its first 16 bytes only. -/
theorem decode_append (bytes rest : List UInt8) (long : 16 ≤ bytes.length) :
    decode (bytes ++ rest) = decode bytes := by
  simp (disch := omega) only [decode, u32At_append_left, u16At_append_left]

/-- A valid request header survives the wire. -/
theorem decode_encode (request : SubmitRequest)
    (kind : RequestKind.ofWire request.taskKind.toWire = request.taskKind)
    (priority : Priority.ofWire request.priority.toWire = request.priority) :
    decode request.encode = request := by
  simp (disch := simp) [decode, encode, u32At_append_right, u16At_append_right,
    u32At_append_left, u16At_append_left, kind, priority]

end SubmitRequest

/-- `struct iouringd_timeout_request_v1`. -/
structure TimeoutRequest where
  submit : SubmitRequest
  timeoutNsec : UInt64
  deriving DecidableEq, Repr

namespace TimeoutRequest

/-- `sizeof(struct iouringd_timeout_request_v1)`. -/
def size : Nat := 24

@[inherit_doc SubmitRequest.decode]
def decode (bytes : List UInt8) : TimeoutRequest where
  submit := .decode bytes
  timeoutNsec := u64At bytes 16

@[inherit_doc SubmitRequest.encode]
def encode (request : TimeoutRequest) : List UInt8 :=
  request.submit.encode ++ u64 request.timeoutNsec

end TimeoutRequest

/-- `struct iouringd_cancel_request_v1`: the header fields are spelled out there,
with `reserved0` where a submit request has its priority. -/
structure CancelRequest where
  magic : UInt32
  versionMajor : UInt16
  versionMinor : UInt16
  taskKind : RequestKind
  reserved0 : UInt16
  reserved1 : UInt32
  target : TaskId
  deriving DecidableEq, Repr

namespace CancelRequest

/-- `sizeof(struct iouringd_cancel_request_v1)`. -/
def size : Nat := 24

@[inherit_doc SubmitRequest.decode]
def decode (bytes : List UInt8) : CancelRequest where
  magic := u32At bytes 0
  versionMajor := u16At bytes 4
  versionMinor := u16At bytes 6
  taskKind := .ofWire (u16At bytes 8)
  reserved0 := u16At bytes 10
  reserved1 := u32At bytes 12
  target := u64At bytes 16

@[inherit_doc SubmitRequest.encode]
def encode (request : CancelRequest) : List UInt8 :=
  u32 request.magic ++ u16 request.versionMajor ++ u16 request.versionMinor ++
    u16 request.taskKind.toWire ++ u16 request.reserved0 ++ u32 request.reserved1 ++
    u64 request.target

end CancelRequest

/-- A resource and a length: the SOCK_READ, SOCK_WRITE, FILE_READ, FILE_WRITE,
CONNECT and ACCEPT requests. -/
structure IoRequest where
  submit : SubmitRequest
  resource : ResourceId
  length : UInt32
  deriving DecidableEq, Repr

namespace IoRequest

/-- `sizeof(struct iouringd_sock_read_request_v1)`. -/
def size : Nat := 24

@[inherit_doc SubmitRequest.decode]
def decode (bytes : List UInt8) : IoRequest where
  submit := .decode bytes
  resource := u32At bytes 16
  length := u32At bytes 20

@[inherit_doc SubmitRequest.encode]
def encode (request : IoRequest) : List UInt8 :=
  request.submit.encode ++ u32 request.resource ++ u32 request.length

end IoRequest

/-- `struct iouringd_poll_request_v1`. -/
structure PollRequest where
  submit : SubmitRequest
  resource : ResourceId
  pollMask : UInt16
  reserved2 : UInt16
  deriving DecidableEq, Repr

namespace PollRequest

/-- `sizeof(struct iouringd_poll_request_v1)`. -/
def size : Nat := 24

@[inherit_doc SubmitRequest.decode]
def decode (bytes : List UInt8) : PollRequest where
  submit := .decode bytes
  resource := u32At bytes 16
  pollMask := u16At bytes 20
  reserved2 := u16At bytes 22

@[inherit_doc SubmitRequest.encode]
def encode (request : PollRequest) : List UInt8 :=
  request.submit.encode ++ u32 request.resource ++ u16 request.pollMask ++
    u16 request.reserved2

end PollRequest

/-- `struct iouringd_openat_request_v1`. -/
structure OpenatRequest where
  submit : SubmitRequest
  openFlags : Int32
  openMode : UInt32
  pathLength : UInt32
  deriving DecidableEq, Repr

namespace OpenatRequest

/-- `sizeof(struct iouringd_openat_request_v1)`. -/
def size : Nat := 28

@[inherit_doc SubmitRequest.decode]
def decode (bytes : List UInt8) : OpenatRequest where
  submit := .decode bytes
  openFlags := i32At bytes 16
  openMode := u32At bytes 20
  pathLength := u32At bytes 24

@[inherit_doc SubmitRequest.encode]
def encode (request : OpenatRequest) : List UInt8 :=
  request.submit.encode ++ i32 request.openFlags ++ u32 request.openMode ++
    u32 request.pathLength

end OpenatRequest

/-- A resource followed by a reserved word: the CLOSE and RELEASE_RESOURCE
requests. -/
structure ResourceRequest where
  submit : SubmitRequest
  resource : ResourceId
  reserved2 : UInt32
  deriving DecidableEq, Repr

namespace ResourceRequest

/-- `sizeof(struct iouringd_close_request_v1)`. -/
def size : Nat := 24

@[inherit_doc SubmitRequest.decode]
def decode (bytes : List UInt8) : ResourceRequest where
  submit := .decode bytes
  resource := u32At bytes 16
  reserved2 := u32At bytes 20

@[inherit_doc SubmitRequest.encode]
def encode (request : ResourceRequest) : List UInt8 :=
  request.submit.encode ++ u32 request.resource ++ u32 request.reserved2

end ResourceRequest

/-- `struct iouringd_sock_read_fixed_request_v1` and its write twin. -/
structure FixedRequest where
  submit : SubmitRequest
  fileResource : ResourceId
  bufferResource : ResourceId
  length : UInt32
  deriving DecidableEq, Repr

namespace FixedRequest

/-- `sizeof(struct iouringd_sock_read_fixed_request_v1)`. -/
def size : Nat := 28

@[inherit_doc SubmitRequest.decode]
def decode (bytes : List UInt8) : FixedRequest where
  submit := .decode bytes
  fileResource := u32At bytes 16
  bufferResource := u32At bytes 20
  length := u32At bytes 24

@[inherit_doc SubmitRequest.encode]
def encode (request : FixedRequest) : List UInt8 :=
  request.submit.encode ++ u32 request.fileResource ++ u32 request.bufferResource ++
    u32 request.length

end FixedRequest

/-- `struct iouringd_register_buffer_request_v1`. -/
structure RegisterBufferRequest where
  control : SubmitRequest
  length : UInt32
  reserved2 : UInt32
  deriving DecidableEq, Repr

namespace RegisterBufferRequest

/-- `sizeof(struct iouringd_register_buffer_request_v1)`. -/
def size : Nat := 24

@[inherit_doc SubmitRequest.decode]
def decode (bytes : List UInt8) : RegisterBufferRequest where
  control := .decode bytes
  length := u32At bytes 16
  reserved2 := u32At bytes 20

@[inherit_doc SubmitRequest.encode]
def encode (request : RegisterBufferRequest) : List UInt8 :=
  request.control.encode ++ u32 request.length ++ u32 request.reserved2

end RegisterBufferRequest

/-- `struct iouringd_get_trace_request_v1`. -/
structure GetTraceRequest where
  control : SubmitRequest
  afterSequence : UInt64
  maxEvents : UInt32
  reserved2 : UInt32
  deriving DecidableEq, Repr

namespace GetTraceRequest

/-- `sizeof(struct iouringd_get_trace_request_v1)`. -/
def size : Nat := 32

@[inherit_doc SubmitRequest.decode]
def decode (bytes : List UInt8) : GetTraceRequest where
  control := .decode bytes
  afterSequence := u64At bytes 16
  maxEvents := u32At bytes 24
  reserved2 := u32At bytes 28

@[inherit_doc SubmitRequest.encode]
def encode (request : GetTraceRequest) : List UInt8 :=
  request.control.encode ++ u64 request.afterSequence ++ u32 request.maxEvents ++
    u32 request.reserved2

end GetTraceRequest

/-! ## Handshake and replies -/

/-- `struct iouringd_handshake_request_v1`. -/
structure HandshakeRequest where
  magic : UInt32
  versionMajor : UInt16
  versionMinor : UInt16
  abiMajor : UInt16
  abiMinor : UInt16
  reserved : UInt32
  deriving DecidableEq, Repr

@[inherit_doc SubmitRequest.decode]
def HandshakeRequest.decode (bytes : List UInt8) : HandshakeRequest where
  magic := u32At bytes 0
  versionMajor := u16At bytes 4
  versionMinor := u16At bytes 6
  abiMajor := u16At bytes 8
  abiMinor := u16At bytes 10
  reserved := u32At bytes 12

@[inherit_doc SubmitRequest.encode]
def HandshakeRequest.encode (request : HandshakeRequest) : List UInt8 :=
  u32 request.magic ++ u16 request.versionMajor ++ u16 request.versionMinor ++
    u16 request.abiMajor ++ u16 request.abiMinor ++ u32 request.reserved

/-- `struct iouringd_capability_descriptor_v1`. -/
structure Capabilities where
  structSize : UInt32
  features : UInt32
  ringEntries : UInt32
  cqEntries : UInt32
  opMask : UInt32
  submitCredits : UInt32
  registeredFdSlots : UInt32
  registeredBufferSlots : UInt32
  ioBytesMax : UInt32
  deriving DecidableEq, Repr

/-- `memset` to zero. -/
def Capabilities.zero : Capabilities := ⟨0, 0, 0, 0, 0, 0, 0, 0, 0⟩

@[inherit_doc SubmitRequest.encode]
def Capabilities.encode (capabilities : Capabilities) : List UInt8 :=
  u32 capabilities.structSize ++ u32 capabilities.features ++ u32 capabilities.ringEntries ++
    u32 capabilities.cqEntries ++ u32 capabilities.opMask ++ u32 capabilities.submitCredits ++
    u32 capabilities.registeredFdSlots ++ u32 capabilities.registeredBufferSlots ++
    u32 capabilities.ioBytesMax

/-- `struct iouringd_handshake_result_v1`. -/
structure HandshakeResult where
  magic : UInt32
  versionMajor : UInt16
  versionMinor : UInt16
  abiMajor : UInt16
  abiMinor : UInt16
  status : UInt16
  reserved : UInt16
  capabilities : Capabilities
  deriving DecidableEq, Repr

/-- `sizeof(struct iouringd_handshake_result_v1)`. -/
def HandshakeResult.size : Nat := 52

@[inherit_doc SubmitRequest.encode]
def HandshakeResult.encode (result : HandshakeResult) : List UInt8 :=
  u32 result.magic ++ u16 result.versionMajor ++ u16 result.versionMinor ++
    u16 result.abiMajor ++ u16 result.abiMinor ++ u16 result.status ++ u16 result.reserved ++
    result.capabilities.encode

@[inherit_doc SubmitRequest.decode]
def HandshakeResult.decode (bytes : List UInt8) : HandshakeResult where
  magic := u32At bytes 0
  versionMajor := u16At bytes 4
  versionMinor := u16At bytes 6
  abiMajor := u16At bytes 8
  abiMinor := u16At bytes 10
  status := u16At bytes 12
  reserved := u16At bytes 14
  capabilities :=
    { structSize := u32At bytes 16
      features := u32At bytes 20
      ringEntries := u32At bytes 24
      cqEntries := u32At bytes 28
      opMask := u32At bytes 32
      submitCredits := u32At bytes 36
      registeredFdSlots := u32At bytes 40
      registeredBufferSlots := u32At bytes 44
      ioBytesMax := u32At bytes 48 }

/-- A handshake result survives the wire. -/
theorem HandshakeResult.decode_encode (result : HandshakeResult) :
    decode result.encode = result := by
  simp (disch := simp) [decode, encode, Capabilities.encode, u32At_append_right,
    u16At_append_right, u32At_append_left, u16At_append_left]

@[simp, inherit_doc SubmitRequest.length_encode]
theorem HandshakeResult.length_encode (result : HandshakeResult) :
    result.encode.length = HandshakeResult.size := by
  simp only [encode, Capabilities.encode, List.length_append, length_u32, length_u16, size]

/-- The bytes of a handshake result tell its status. -/
theorem HandshakeResult.status_of_encode {left right : HandshakeResult}
    (same : left.encode = right.encode) : left.status = right.status := by
  rw [← decode_encode left, ← decode_encode right, same]

/-- `struct iouringd_submit_result_v1`. -/
structure SubmitResult where
  taskId : TaskId
  res : Int32
  credits : UInt32
  deriving DecidableEq, Repr

/-- `sizeof(struct iouringd_submit_result_v1)`. -/
def SubmitResult.size : Nat := 16

@[inherit_doc SubmitRequest.encode]
def SubmitResult.encode (result : SubmitResult) : List UInt8 :=
  u64 result.taskId ++ i32 result.res ++ u32 result.credits

@[simp, inherit_doc SubmitRequest.length_encode]
theorem SubmitResult.length_encode (result : SubmitResult) :
    result.encode.length = SubmitResult.size := by
  simp only [encode, List.length_append, length_u64, length_i32, length_u32, size]

@[inherit_doc SubmitRequest.decode]
def SubmitResult.decode (bytes : List UInt8) : SubmitResult where
  taskId := u64At bytes 0
  res := i32At bytes 8
  credits := u32At bytes 12

/-- A reply survives the wire. -/
theorem SubmitResult.decode_encode (result : SubmitResult) : decode result.encode = result := by
  simp (disch := simp) [decode, encode, u32At_append_right, i32At_append_right,
    u64At_append_left, i32At_append_left]

/-- `struct iouringd_resource_result_v1`. -/
structure ResourceResult where
  resourceId : ResourceId
  res : Int32
  resourcesAvailable : UInt32
  reserved : UInt32
  deriving DecidableEq, Repr

/-- `sizeof(struct iouringd_resource_result_v1)`. -/
def ResourceResult.size : Nat := 16

@[inherit_doc SubmitRequest.encode]
def ResourceResult.encode (result : ResourceResult) : List UInt8 :=
  u32 result.resourceId ++ i32 result.res ++ u32 result.resourcesAvailable ++
    u32 result.reserved

@[simp, inherit_doc SubmitRequest.length_encode]
theorem ResourceResult.length_encode (result : ResourceResult) :
    result.encode.length = ResourceResult.size := by
  simp only [encode, List.length_append, length_i32, length_u32, size]

@[inherit_doc SubmitRequest.decode]
def ResourceResult.decode (bytes : List UInt8) : ResourceResult where
  resourceId := u32At bytes 0
  res := i32At bytes 4
  resourcesAvailable := u32At bytes 8
  reserved := u32At bytes 12

@[inherit_doc SubmitResult.decode_encode]
theorem ResourceResult.decode_encode (result : ResourceResult) :
    decode result.encode = result := by
  simp (disch := simp) [decode, encode, u32At_append_right, i32At_append_right,
    u32At_append_left, i32At_append_left]

/-- `struct iouringd_stats_result_v1`. -/
structure StatsResult where
  activeClients : UInt32
  outstandingTasks : UInt32
  outstandingCreditTasks : UInt32
  availableCredits : UInt32
  registeredFiles : UInt32
  registeredBuffers : UInt32
  acceptedSubmits : UInt64
  rejectedSubmits : UInt64
  completions : UInt64
  perClientCreditLimit : UInt32
  clientsAtCreditLimit : UInt32
  deriving DecidableEq, Repr

/-- `sizeof(struct iouringd_stats_result_v1)`. -/
def StatsResult.size : Nat := 56

@[inherit_doc SubmitRequest.encode]
def StatsResult.encode (result : StatsResult) : List UInt8 :=
  u32 result.activeClients ++ u32 result.outstandingTasks ++
    u32 result.outstandingCreditTasks ++ u32 result.availableCredits ++
    u32 result.registeredFiles ++ u32 result.registeredBuffers ++ u64 result.acceptedSubmits ++
    u64 result.rejectedSubmits ++ u64 result.completions ++ u32 result.perClientCreditLimit ++
    u32 result.clientsAtCreditLimit

@[simp, inherit_doc SubmitRequest.length_encode]
theorem StatsResult.length_encode (result : StatsResult) :
    result.encode.length = StatsResult.size := by
  simp only [encode, List.length_append, length_u64, length_u32, size]

@[inherit_doc SubmitRequest.decode]
def StatsResult.decode (bytes : List UInt8) : StatsResult where
  activeClients := u32At bytes 0
  outstandingTasks := u32At bytes 4
  outstandingCreditTasks := u32At bytes 8
  availableCredits := u32At bytes 12
  registeredFiles := u32At bytes 16
  registeredBuffers := u32At bytes 20
  acceptedSubmits := u64At bytes 24
  rejectedSubmits := u64At bytes 32
  completions := u64At bytes 40
  perClientCreditLimit := u32At bytes 48
  clientsAtCreditLimit := u32At bytes 52

@[inherit_doc SubmitResult.decode_encode]
theorem StatsResult.decode_encode (result : StatsResult) : decode result.encode = result := by
  simp (disch := simp) [decode, encode, u32At_append_right, u64At_append_right,
    u32At_append_left, u64At_append_left]

/-- `struct iouringd_trace_result_v1`. -/
structure TraceResult where
  oldestSequence : UInt64
  latestSequence : UInt64
  count : UInt32
  reserved : UInt32
  deriving DecidableEq, Repr

/-- `sizeof(struct iouringd_trace_result_v1)`. -/
def TraceResult.size : Nat := 24

@[inherit_doc SubmitRequest.encode]
def TraceResult.encode (result : TraceResult) : List UInt8 :=
  u64 result.oldestSequence ++ u64 result.latestSequence ++ u32 result.count ++
    u32 result.reserved

@[simp, inherit_doc SubmitRequest.length_encode]
theorem TraceResult.length_encode (result : TraceResult) :
    result.encode.length = TraceResult.size := by
  simp only [encode, List.length_append, length_u64, length_u32, size]

@[inherit_doc SubmitRequest.decode]
def TraceResult.decode (bytes : List UInt8) : TraceResult where
  oldestSequence := u64At bytes 0
  latestSequence := u64At bytes 8
  count := u32At bytes 16
  reserved := u32At bytes 20

@[inherit_doc SubmitResult.decode_encode]
theorem TraceResult.decode_encode (result : TraceResult) : decode result.encode = result := by
  simp (disch := simp) [decode, encode, u32At_append_right, u64At_append_right,
    u32At_append_left, u64At_append_left]

/-- `struct iouringd_trace_event_v1`. -/
structure TraceEvent where
  sequence : UInt64
  timestampNsec : UInt64
  taskId : TaskId
  resourceId : ResourceId
  res : Int32
  credits : UInt32
  eventKind : UInt16
  taskKind : UInt16
  clientSlot : UInt16
  priority : UInt16
  reserved1 : UInt32
  deriving DecidableEq, Repr

/-- `memset` to zero. -/
def TraceEvent.zero : TraceEvent := ⟨0, 0, 0, 0, 0, 0, 0, 0, 0, 0, 0⟩

/-- `sizeof(struct iouringd_trace_event_v1)`. -/
def TraceEvent.size : Nat := 48

@[inherit_doc SubmitRequest.encode]
def TraceEvent.encode (event : TraceEvent) : List UInt8 :=
  u64 event.sequence ++ u64 event.timestampNsec ++ u64 event.taskId ++ u32 event.resourceId ++
    i32 event.res ++ u32 event.credits ++ u16 event.eventKind ++ u16 event.taskKind ++
    u16 event.clientSlot ++ u16 event.priority ++ u32 event.reserved1

@[simp, inherit_doc SubmitRequest.length_encode]
theorem TraceEvent.length_encode (event : TraceEvent) :
    event.encode.length = TraceEvent.size := by
  simp only [encode, List.length_append, length_u64, length_i32, length_u32, length_u16, size]

@[inherit_doc SubmitRequest.decode]
def TraceEvent.decode (bytes : List UInt8) : TraceEvent where
  sequence := u64At bytes 0
  timestampNsec := u64At bytes 8
  taskId := u64At bytes 16
  resourceId := u32At bytes 24
  res := i32At bytes 28
  credits := u32At bytes 32
  eventKind := u16At bytes 36
  taskKind := u16At bytes 38
  clientSlot := u16At bytes 40
  priority := u16At bytes 42
  reserved1 := u32At bytes 44

@[inherit_doc SubmitResult.decode_encode]
theorem TraceEvent.decode_encode (event : TraceEvent) : decode event.encode = event := by
  simp (disch := simp) [decode, encode, u32At_append_right, u64At_append_right,
    i32At_append_right, u16At_append_right, u32At_append_left, u64At_append_left,
    i32At_append_left, u16At_append_left]

/-- `struct iouringd_completion_record_v1`. -/
structure CompletionRecord where
  magic : UInt32
  versionMajor : UInt16
  versionMinor : UInt16
  taskId : TaskId
  res : Int32
  taskKind : UInt16
  payloadLength : UInt16
  deriving DecidableEq, Repr

/-- `sizeof(struct iouringd_completion_record_v1)`. -/
def CompletionRecord.size : Nat := 24

@[inherit_doc SubmitRequest.encode]
def CompletionRecord.encode (record : CompletionRecord) : List UInt8 :=
  u32 record.magic ++ u16 record.versionMajor ++ u16 record.versionMinor ++ u64 record.taskId ++
    i32 record.res ++ u16 record.taskKind ++ u16 record.payloadLength

@[simp, inherit_doc SubmitRequest.length_encode]
theorem CompletionRecord.length_encode (record : CompletionRecord) :
    record.encode.length = CompletionRecord.size := by
  simp only [encode, List.length_append, length_u64, length_i32, length_u32, length_u16, size]

@[inherit_doc SubmitRequest.decode]
def CompletionRecord.decode (bytes : List UInt8) : CompletionRecord where
  magic := u32At bytes 0
  versionMajor := u16At bytes 4
  versionMinor := u16At bytes 6
  taskId := u64At bytes 8
  res := i32At bytes 16
  taskKind := u16At bytes 20
  payloadLength := u16At bytes 22

@[inherit_doc SubmitResult.decode_encode]
theorem CompletionRecord.decode_encode (record : CompletionRecord) :
    decode record.encode = record := by
  simp (disch := simp) [decode, encode, u64At_append_right, i32At_append_right,
    u16At_append_right, u32At_append_left, u64At_append_left,
    i32At_append_left, u16At_append_left]

end Iouringd
