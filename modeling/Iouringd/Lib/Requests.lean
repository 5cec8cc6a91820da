import Iouringd.Daemon.System
import Iouringd.Daemon.Stream

/-! # The requests of the client library

Every call of the library that sends a request checks its arguments, fills one of the structs
of the protocol and writes it, with its payload behind it. The bytes are read by the daemon
with structs of its own choice; what it reads is what the caller asked for.
-/

namespace Iouringd

open Foundation

/-- `init_submit_header`: everything it does not set is zero. -/
def initSubmitHeader (kind : RequestKind) : SubmitRequest :=
  ⟨wireMagic, protocolMajor, protocolMinor, kind, .ofWire 0, 0⟩

/-- `init_control_header`, on the struct the control requests start with. -/
def initControlHeader (kind : RequestKind) : SubmitRequest :=
  ⟨wireMagic, protocolMajor, protocolMinor, kind, .ofWire 0, 0⟩

/-- `resource_id_is_invalid`. -/
def resourceIdIsInvalid (resource : ResourceId) : Bool := resource == resourceIdInvalid

/-- A string of C: the bytes before its NUL. -/
structure CString where
  bytes : List UInt8
  unterminated : 0 ∉ bytes

/-- What a call puts on its connection: bytes, and the descriptor that goes with the first of
them. -/
structure Written where
  bytes : List UInt8
  descriptor : Option Fd
  deriving DecidableEq, Repr

/-- The check at the start of a call; `fd` is its connection. -/
def checked (fd : Fd) (invalid : Bool) (written : Written) : Except Errno Written :=
  if decide (fd < 0) || invalid then .error EINVAL else .ok written

/-! ## The calls -/

/-- `iouringd_submit_nop_result`. -/
def submitNopResult (fd : Fd) : Except Errno Written :=
  checked fd false ⟨(initSubmitHeader .nop).encode, none⟩

/-- `iouringd_submit_timeout_result`. -/
def submitTimeoutResult (fd : Fd) (timeoutNsec : UInt64) : Except Errno Written :=
  checked fd false ⟨TimeoutRequest.encode ⟨initSubmitHeader .timeout, timeoutNsec⟩, none⟩

/-- `iouringd_submit_cancel_result`, which fills the header itself. -/
def submitCancelResult (fd : Fd) (target : TaskId) : Except Errno Written :=
  checked fd false ⟨CancelRequest.encode
    ⟨wireMagic, protocolMajor, protocolMinor, .cancel, 0, 0, target⟩, none⟩

/-- The reads: a resource and a length that is not 0. -/
def submitReadResult (kind : RequestKind) (fd : Fd) (resource : ResourceId) (length : UInt32) :
    Except Errno Written :=
  checked fd (resourceIdIsInvalid resource || length == 0)
    ⟨IoRequest.encode ⟨initSubmitHeader kind, resource, length⟩, none⟩

/-- `iouringd_submit_sock_read_result`. -/
def submitSockReadResult := submitReadResult .sockRead

/-- `iouringd_submit_file_read_result`. -/
def submitFileReadResult := submitReadResult .fileRead

/-- The writes: `length` bytes from `buf`, which may be NULL. -/
def submitWriteResult (kind : RequestKind) (fd : Fd) (resource : ResourceId) (buf : Option Memory)
    (length : UInt32) : Except Errno Written :=
  checked fd (buf.isNone || resourceIdIsInvalid resource || length == 0)
    ⟨IoRequest.encode ⟨initSubmitHeader kind, resource, length⟩ ++
      (buf.getD .zero).read 0 length.toNat, none⟩

/-- `iouringd_submit_sock_write_result`. -/
def submitSockWriteResult := submitWriteResult .sockWrite

/-- `iouringd_submit_file_write_result`. -/
def submitFileWriteResult := submitWriteResult .fileWrite

/-- `iouringd_submit_poll_result`. -/
def submitPollResult (fd : Fd) (resource : ResourceId) (pollMask : UInt16) :
    Except Errno Written :=
  checked fd (resourceIdIsInvalid resource || pollMask == 0)
    ⟨PollRequest.encode ⟨initSubmitHeader .poll, resource, pollMask, 0⟩, none⟩

/-- `iouringd_submit_connect_result`. -/
def submitConnectResult (fd : Fd) (resource : ResourceId) (sockaddr : Option Memory)
    (length : UInt32) : Except Errno Written :=
  checked fd (sockaddr.isNone || resourceIdIsInvalid resource || length == 0 ||
      decide (65535 < length.toNat))
    ⟨IoRequest.encode ⟨initSubmitHeader .connect, resource, length⟩ ++
      (sockaddr.getD .zero).read 0 length.toNat, none⟩

/-- `iouringd_submit_accept_result`. -/
def submitAcceptResult (fd : Fd) (resource : ResourceId) (length : UInt32) :
    Except Errno Written :=
  checked fd (resourceIdIsInvalid resource || decide (65535 < length.toNat))
    ⟨IoRequest.encode ⟨initSubmitHeader .accept, resource, length⟩, none⟩

/-- `iouringd_submit_openat_result`. The path is sent with its NUL. -/
def submitOpenatResult (fd : Fd) (path : Option CString) (openFlags : Int32) (openMode : UInt32) :
    Except Errno Written :=
  match path with
  | none => .error EINVAL
  | some path =>
      let pathLength := path.bytes.length + 1
      checked fd (decide (pathLength ≤ 1) || decide (4096 < pathLength))
        ⟨OpenatRequest.encode
            ⟨initSubmitHeader .openat, openFlags, openMode, UInt32.ofNat pathLength⟩ ++
          (path.bytes ++ [0]), none⟩

/-- `iouringd_submit_close_result`. -/
def submitCloseResult (fd : Fd) (resource : ResourceId) : Except Errno Written :=
  checked fd (resourceIdIsInvalid resource)
    ⟨ResourceRequest.encode ⟨initSubmitHeader .close, resource, 0⟩, none⟩

/-- The operations on a registered buffer. -/
def submitFixedResult (kind : RequestKind) (fd : Fd) (file buffer : ResourceId)
    (length : UInt32) : Except Errno Written :=
  checked fd (resourceIdIsInvalid file || resourceIdIsInvalid buffer || length == 0)
    ⟨FixedRequest.encode ⟨initSubmitHeader kind, file, buffer, length⟩, none⟩

/-- `iouringd_submit_sock_read_fixed_result`. -/
def submitSockReadFixedResult := submitFixedResult .sockReadFixed

/-- `iouringd_submit_sock_write_fixed_result`. -/
def submitSockWriteFixedResult := submitFixedResult .sockWriteFixed

/-- `iouringd_register_fd_result`: the descriptor goes with the first byte. -/
def registerFdResult (fd resourceFd : Fd) : Except Errno Written :=
  checked fd (decide (resourceFd < 0))
    ⟨(initControlHeader .registerFd).encode, some resourceFd⟩

/-- `iouringd_register_buffer_result`. -/
def registerBufferResult (fd : Fd) (buf : Option Memory) (length : UInt32) :
    Except Errno Written :=
  checked fd (decide (4096 < length.toNat) || (length != 0 && buf.isNone))
    ⟨RegisterBufferRequest.encode ⟨initControlHeader .registerBuffer, length, 0⟩ ++
      (if length = 0 then [] else (buf.getD .zero).read 0 length.toNat), none⟩

/-- `iouringd_release_resource_result`. -/
def releaseResourceResult (fd : Fd) (resource : ResourceId) : Except Errno Written :=
  checked fd (resourceIdIsInvalid resource)
    ⟨ResourceRequest.encode ⟨initControlHeader .releaseResource, resource, 0⟩, none⟩

/-- `iouringd_get_stats_result`. -/
def getStatsResult (fd : Fd) : Except Errno Written :=
  checked fd false ⟨(initControlHeader .getStats).encode, none⟩

/-- `iouringd_get_trace_result`; `capacity` is the room for the events. -/
def getTraceResult (fd : Fd) (afterSequence : UInt64) (maxEvents : UInt32) (capacity : Nat) :
    Except Errno Written :=
  checked fd (maxEvents != 0 && decide (capacity < maxEvents.toNat))
    ⟨GetTraceRequest.encode ⟨initControlHeader .getTrace, afterSequence, maxEvents, 0⟩, none⟩

/-- The calls that send a request, with their arguments. -/
inductive RequestCall where
  | submitNop
  | submitTimeout (timeoutNsec : UInt64)
  | submitCancel (target : TaskId)
  | submitSockRead (resource : ResourceId) (length : UInt32)
  | submitSockWrite (resource : ResourceId) (buf : Option Memory) (length : UInt32)
  | submitFileRead (resource : ResourceId) (length : UInt32)
  | submitFileWrite (resource : ResourceId) (buf : Option Memory) (length : UInt32)
  | submitPoll (resource : ResourceId) (pollMask : UInt16)
  | submitConnect (resource : ResourceId) (sockaddr : Option Memory) (length : UInt32)
  | submitAccept (resource : ResourceId) (length : UInt32)
  | submitOpenat (path : Option CString) (openFlags : Int32) (openMode : UInt32)
  | submitClose (resource : ResourceId)
  | submitSockReadFixed (file buffer : ResourceId) (length : UInt32)
  | submitSockWriteFixed (file buffer : ResourceId) (length : UInt32)
  | registerFd (resourceFd : Fd)
  | registerBuffer (buf : Option Memory) (length : UInt32)
  | releaseResource (resource : ResourceId)
  | getStats
  | getTrace (afterSequence : UInt64) (maxEvents : UInt32) (capacity : Nat)

namespace RequestCall

/-- What the call writes. -/
def write (fd : Fd) : RequestCall → Except Errno Written
  | submitNop => submitNopResult fd
  | submitTimeout timeoutNsec => submitTimeoutResult fd timeoutNsec
  | submitCancel target => submitCancelResult fd target
  | submitSockRead resource length => submitSockReadResult fd resource length
  | submitSockWrite resource buf length => submitSockWriteResult fd resource buf length
  | submitFileRead resource length => submitFileReadResult fd resource length
  | submitFileWrite resource buf length => submitFileWriteResult fd resource buf length
  | submitPoll resource pollMask => submitPollResult fd resource pollMask
  | submitConnect resource sockaddr length => submitConnectResult fd resource sockaddr length
  | submitAccept resource length => submitAcceptResult fd resource length
  | submitOpenat path openFlags openMode => submitOpenatResult fd path openFlags openMode
  | submitClose resource => submitCloseResult fd resource
  | submitSockReadFixed file buffer length => submitSockReadFixedResult fd file buffer length
  | submitSockWriteFixed file buffer length => submitSockWriteFixedResult fd file buffer length
  | registerFd resourceFd => registerFdResult fd resourceFd
  | registerBuffer buf length => registerBufferResult fd buf length
  | releaseResource resource => releaseResourceResult fd resource
  | getStats => getStatsResult fd
  | getTrace afterSequence maxEvents capacity =>
      getTraceResult fd afterSequence maxEvents capacity

/-- What the caller asks for. -/
def request : RequestCall → Request
  | submitNop => ⟨.nop, .normal, .plain⟩
  | submitTimeout timeoutNsec => ⟨.timeout, .normal, .timeout timeoutNsec⟩
  | submitCancel target => ⟨.cancel, .normal, .cancel target⟩
  | submitSockRead resource length => ⟨.sockRead, .normal, .transfer resource length⟩
  | submitSockWrite resource buf length =>
      ⟨.sockWrite, .normal, .payload resource ((buf.getD .zero).read 0 length.toNat)⟩
  | submitFileRead resource length => ⟨.fileRead, .normal, .transfer resource length⟩
  | submitFileWrite resource buf length =>
      ⟨.fileWrite, .normal, .payload resource ((buf.getD .zero).read 0 length.toNat)⟩
  | submitPoll resource pollMask => ⟨.poll, .normal, .poll resource pollMask⟩
  | submitConnect resource sockaddr length =>
      ⟨.connect, .normal, .payload resource ((sockaddr.getD .zero).read 0 length.toNat)⟩
  | submitAccept resource length => ⟨.accept, .normal, .transfer resource length⟩
  | submitOpenat path openFlags openMode =>
      ⟨.openat, .normal,
        .openat openFlags openMode ((path.map CString.bytes).getD [] ++ [0])⟩
  | submitClose resource => ⟨.close, .normal, .resource resource⟩
  | submitSockReadFixed file buffer length => ⟨.sockReadFixed, .normal, .fixed file buffer length⟩
  | submitSockWriteFixed file buffer length =>
      ⟨.sockWriteFixed, .normal, .fixed file buffer length⟩
  | registerFd _ => ⟨.registerFd, .normal, .plain⟩
  | registerBuffer buf length =>
      ⟨.registerBuffer, .normal, .buffer ((buf.getD .zero).read 0 length.toNat)⟩
  | releaseResource resource => ⟨.releaseResource, .normal, .resource resource⟩
  | getStats => ⟨.getStats, .normal, .plain⟩
  | getTrace afterSequence maxEvents _ => ⟨.getTrace, .normal, .trace afterSequence maxEvents⟩

/-- The length of the part that varies, which the daemon limits: the bytes behind the fixed
part, or the room an ACCEPT asks for. -/
def variableLength : RequestCall → Nat
  | submitSockWrite _ _ length | submitFileWrite _ _ length | submitConnect _ _ length
  | submitAccept _ length | registerBuffer _ length => length.toNat
  | submitOpenat path _ _ => ((path.map CString.bytes).getD []).length + 1
  | _ => 0

/-- The events a GET_TRACE asks for. -/
def eventsWanted : RequestCall → Nat
  | getTrace _ maxEvents _ => maxEvents.toNat
  | _ => 0

end RequestCall

/-! ## What the daemon reads -/

theorem checked_ok {fd : Fd} {invalid : Bool} {written result : Written}
    (accepted : checked fd invalid written = .ok result) : invalid = false ∧ result = written := by
  unfold checked at accepted
  split at accepted
  · cases accepted
  · rename_i passes
    cases accepted
    rw [Bool.or_eq_true, not_or, Bool.not_eq_true invalid] at passes
    exact ⟨passes.2, rfl⟩

section Encoded

variable {limit : Nat} {kind : RequestKind} {args payload : List UInt8}

/-- The header both kinds of request start with. -/
theorem decode_initSubmitHeader (known : kind.isTask = true ∨ kind.isControl = true)
    (rest : List UInt8) :
    SubmitRequest.decode ((initSubmitHeader kind).encode ++ rest) =
      ⟨wireMagic, protocolMajor, protocolMinor, kind, .normal, 0⟩ := by
  rw [SubmitRequest.decode_append _ _ (Nat.le_of_eq (SubmitRequest.length_encode _).symm)]
  exact SubmitRequest.decode_encode _ (RequestKind.ofWire_toWire kind known) rfl

/-- A header, its fixed part and as many bytes as that declares. -/
structure Fronts (kind : RequestKind) (args payload stream : List UInt8) : Prop where
  header : frontHeader stream = ⟨wireMagic, protocolMajor, protocolMinor, kind, .normal, 0⟩
  fixed : frontFixed stream = (initSubmitHeader kind).encode ++ args
  payload : frontPayload stream = payload
  whole : frontSize stream = stream.length

theorem fronts_encoded (known : kind.isTask = true ∨ kind.isControl = true)
    (fixed : ((initSubmitHeader kind).encode ++ args).length = kind.fixedSize)
    (length : payload.length = payloadSize kind ((initSubmitHeader kind).encode ++ args)) :
    Fronts kind args payload ((initSubmitHeader kind).encode ++ args ++ payload) := by
  generalize whole : (initSubmitHeader kind).encode ++ args ++ payload = stream
  have header : frontHeader stream =
      ⟨wireMagic, protocolMajor, protocolMinor, kind, .normal, 0⟩ := by
    have front : stream.take SubmitRequest.size = (initSubmitHeader kind).encode := by
      rw [← whole, List.append_assoc]
      exact List.take_left' (SubmitRequest.length_encode _)
    rw [frontHeader, front, ← List.append_nil (initSubmitHeader kind).encode]
    exact decode_initSubmitHeader known []
  have fixedPart : frontFixed stream = (initSubmitHeader kind).encode ++ args := by
    rw [frontFixed, header, ← whole]
    exact List.take_left' fixed
  refine ⟨header, fixedPart, ?_, ?_⟩
  · rw [frontPayload, header, fixedPart, ← length, ← whole]
    have behind : ((initSubmitHeader kind).encode ++ args ++ payload).drop kind.fixedSize =
        payload := List.drop_left' fixed
    rw [behind, List.take_length]
  · rw [← whole, List.length_append, fixed, length, whole, frontSize, header, fixedPart]

theorem Fronts.headerIsValid {stream : List UInt8} (fronts : Fronts kind args payload stream) :
    (frontHeader stream).headerIsValid = true := by
  rw [fronts.header]
  rfl

theorem Fronts.priorityIsValid {stream : List UInt8} (fronts : Fronts kind args payload stream)
    (known : kind.isTask = true ∨ kind.isControl = true) :
    (frontHeader stream).priorityIsValid = true := by
  rw [fronts.header]
  unfold SubmitRequest.priorityIsValid
  dsimp only
  split
  · rfl
  · rename_i other
    rw [if_pos (known.resolve_left other)]
    rfl

/-- Such a stream is one message when the daemon accepts its fixed part and its payload. -/
theorem parseRequest_encoded (known : kind.isTask = true ∨ kind.isControl = true)
    (fixed : ((initSubmitHeader kind).encode ++ args).length = kind.fixedSize)
    (length : payload.length = payloadSize kind ((initSubmitHeader kind).encode ++ args))
    (accepted : fixedAccepted limit kind ((initSubmitHeader kind).encode ++ args) = true)
    (terminated : payloadAccepted kind payload = true) :
    parseRequest limit ((initSubmitHeader kind).encode ++ args ++ payload) =
      .message ⟨kind, .normal,
        requestBody kind ((initSubmitHeader kind).encode ++ args) payload⟩ [] := by
  have fronts := fronts_encoded known fixed length
  rw [parseRequest_eq_message]
  refine ⟨⟨fronts.headerIsValid, ?_, Nat.le_of_eq fronts.whole, ?_⟩, ?_, ?_⟩
  · rw [fronts.header, fronts.fixed]
    exact accepted
  · rw [fronts.priorityIsValid known, fronts.header, fronts.payload]
    exact terminated
  · rw [frontRequest, fronts.header, fronts.fixed, fronts.payload]
  · rw [fronts.whole, List.drop_length]

end Encoded

section Calls

variable {limit : Nat} {fd : Fd} {written : Written}

/-- A call of one of the kinds without a payload: its arguments are the fixed part. -/
theorem parses_fixed {kind : RequestKind} {args : List UInt8} {body : RequestBody}
    (known : kind.isTask = true ∨ kind.isControl = true)
    (fixed : ((initSubmitHeader kind).encode ++ args).length = kind.fixedSize)
    (empty : payloadSize kind ((initSubmitHeader kind).encode ++ args) = 0)
    (accepted : fixedAccepted limit kind ((initSubmitHeader kind).encode ++ args) = true)
    (terminated : payloadAccepted kind [] = true)
    (means : requestBody kind ((initSubmitHeader kind).encode ++ args) [] = body) :
    parseRequest limit ((initSubmitHeader kind).encode ++ args) =
      .message ⟨kind, .normal, body⟩ [] := by
  have parsed := @parseRequest_encoded limit kind args [] known fixed empty.symm accepted terminated
  rwa [List.append_nil, means] at parsed

/-- Reads of a resource. -/
theorem submitReadResult_parses {kind : RequestKind} {resource : ResourceId} {length : UInt32}
    (kinds : kind = .sockRead ∨ kind = .fileRead)
    (wrote : submitReadResult kind fd resource length = .ok written) :
    parseRequest limit written.bytes =
      .message ⟨kind, .normal, .transfer resource length⟩ [] := by
  obtain ⟨-, rfl⟩ := checked_ok wrote
  change parseRequest limit ((initSubmitHeader kind).encode ++ u32 resource ++ u32 length) = _
  rw [List.append_assoc]
  rcases kinds with rfl | rfl
  all_goals
    refine parses_fixed (Or.inl rfl) (by simp [RequestKind.fixedSize, IoRequest.size]) rfl rfl rfl
      ?_
    simp (disch := simp) [requestBody, IoRequest.decode, u32At_append_right, u32At_append_left]

/-- Writes to a resource, and CONNECT: the payload is what the caller's buffer holds. -/
theorem submitPayload_parses {kind : RequestKind} {resource : ResourceId} {length : UInt32}
    {buf : Memory} (kinds : kind = .sockWrite ∨ kind = .fileWrite ∨ kind = .connect)
    (some : length ≠ 0) (within : length.toNat ≤ limit) :
    parseRequest limit (IoRequest.encode ⟨initSubmitHeader kind, resource, length⟩ ++
        buf.read 0 length.toNat) =
      .message ⟨kind, .normal, .payload resource (buf.read 0 length.toNat)⟩ [] := by
  have positive : 1 ≤ length.toNat := by
    rw [Nat.one_le_iff_ne_zero]
    intro zero
    exact some (UInt32.toNat_inj.mp zero)
  change parseRequest limit ((initSubmitHeader kind).encode ++ u32 resource ++ u32 length ++ _) = _
  rw [List.append_assoc (initSubmitHeader kind).encode]
  have body : IoRequest.decode ((initSubmitHeader kind).encode ++ (u32 resource ++ u32 length)) =
      ⟨.decode ((initSubmitHeader kind).encode ++ (u32 resource ++ u32 length)), resource,
        length⟩ := by
    simp (disch := simp) [IoRequest.decode, u32At_append_right, u32At_append_left]
  rcases kinds with rfl | rfl | rfl
  all_goals
    rw [parseRequest_encoded (Or.inl rfl) (by simp [RequestKind.fixedSize, IoRequest.size])
      (by rw [Memory.length_read, payloadSize, body])
      (by simp [fixedAccepted, body, positive, within])
      rfl, requestBody, body]

/-- Operations on a registered buffer. -/
theorem submitFixedResult_parses {kind : RequestKind} {file buffer : ResourceId} {length : UInt32}
    (kinds : kind = .sockReadFixed ∨ kind = .sockWriteFixed)
    (wrote : submitFixedResult kind fd file buffer length = .ok written) :
    parseRequest limit written.bytes =
      .message ⟨kind, .normal, .fixed file buffer length⟩ [] := by
  obtain ⟨-, rfl⟩ := checked_ok wrote
  change parseRequest limit ((initSubmitHeader kind).encode ++ u32 file ++ u32 buffer ++
    u32 length) = _
  rw [List.append_assoc, List.append_assoc]
  rcases kinds with rfl | rfl
  all_goals
    refine parses_fixed (Or.inl rfl) (by simp [RequestKind.fixedSize, FixedRequest.size]) rfl rfl
      rfl ?_
    simp (disch := simp) [requestBody, FixedRequest.decode, u32At_append_right, u32At_append_left]

/-- A resource alone. -/
theorem resourceRequest_parses {kind : RequestKind} {resource : ResourceId}
    (kinds : kind = .close ∨ kind = .releaseResource) :
    parseRequest limit (ResourceRequest.encode ⟨initSubmitHeader kind, resource, 0⟩) =
      .message ⟨kind, .normal, .resource resource⟩ [] := by
  change parseRequest limit ((initSubmitHeader kind).encode ++ u32 resource ++ u32 0) = _
  rw [List.append_assoc]
  have body : ResourceRequest.decode ((initSubmitHeader kind).encode ++ (u32 resource ++ u32 0)) =
      ⟨.decode ((initSubmitHeader kind).encode ++ (u32 resource ++ u32 0)), resource, 0⟩ := by
    simp (disch := simp) [ResourceRequest.decode, u32At_append_right, u32At_append_left]
  rcases kinds with rfl | rfl
  · exact parses_fixed (Or.inl rfl) (by simp [RequestKind.fixedSize, ResourceRequest.size]) rfl
      (by rw [fixedAccepted, body]; rfl) rfl (by rw [requestBody, body])
  · exact parses_fixed (Or.inr rfl) (by simp [RequestKind.fixedSize, ResourceRequest.size]) rfl
      rfl rfl (by rw [requestBody, body])

/-- A header alone. -/
theorem header_parses {kind : RequestKind}
    (kinds : kind = .nop ∨ kind = .registerFd ∨ kind = .getStats) :
    parseRequest limit (initSubmitHeader kind).encode = .message ⟨kind, .normal, .plain⟩ [] := by
  rw [← List.append_nil (initSubmitHeader kind).encode]
  rcases kinds with rfl | rfl | rfl
  · exact parses_fixed (Or.inl rfl) rfl rfl rfl rfl rfl
  · exact parses_fixed (Or.inr rfl) rfl rfl rfl rfl rfl
  · exact parses_fixed (Or.inr rfl) rfl rfl rfl rfl rfl

theorem submitTimeoutResult_parses {timeoutNsec : UInt64}
    (wrote : submitTimeoutResult fd timeoutNsec = .ok written) :
    parseRequest limit written.bytes = .message ⟨.timeout, .normal, .timeout timeoutNsec⟩ [] := by
  obtain ⟨-, rfl⟩ := checked_ok wrote
  refine parses_fixed (Or.inl rfl) (by simp [RequestKind.fixedSize, TimeoutRequest.size]) rfl rfl
    rfl ?_
  simp (disch := simp) [requestBody, TimeoutRequest.decode, u64At_append_right]

/-- A CANCEL has a reserved word where the others have their priority; 0 there is NORMAL. -/
theorem submitCancelResult_parses {target : TaskId}
    (wrote : submitCancelResult fd target = .ok written) :
    parseRequest limit written.bytes = .message ⟨.cancel, .normal, .cancel target⟩ [] := by
  obtain ⟨-, rfl⟩ := checked_ok wrote
  change parseRequest limit ((initSubmitHeader .cancel).encode ++ u64 target) = _
  refine parses_fixed (Or.inl rfl) (by simp [RequestKind.fixedSize, CancelRequest.size]) rfl rfl
    rfl ?_
  simp (disch := simp) [requestBody, CancelRequest.decode, u64At_append_right]

theorem submitPollResult_parses {resource : ResourceId} {pollMask : UInt16}
    (wrote : submitPollResult fd resource pollMask = .ok written) :
    parseRequest limit written.bytes =
      .message ⟨.poll, .normal, .poll resource pollMask⟩ [] := by
  obtain ⟨-, rfl⟩ := checked_ok wrote
  change parseRequest limit ((initSubmitHeader .poll).encode ++ u32 resource ++ u16 pollMask ++
    u16 0) = _
  rw [List.append_assoc, List.append_assoc]
  have body : PollRequest.decode ((initSubmitHeader .poll).encode ++
      (u32 resource ++ (u16 pollMask ++ u16 0))) =
      ⟨.decode ((initSubmitHeader .poll).encode ++ (u32 resource ++ (u16 pollMask ++ u16 0))),
        resource, pollMask, 0⟩ := by
    simp (disch := simp) [PollRequest.decode, u32At_append_right, u32At_append_left,
      u16At_append_right, u16At_append_left]
  exact parses_fixed (Or.inl rfl) (by simp [RequestKind.fixedSize, PollRequest.size]) rfl
    (by rw [fixedAccepted, body]; rfl) rfl (by rw [requestBody, body])

theorem submitAcceptResult_parses {resource : ResourceId} {length : UInt32}
    (wrote : submitAcceptResult fd resource length = .ok written) (within : length.toNat ≤ limit) :
    parseRequest limit written.bytes =
      .message ⟨.accept, .normal, .transfer resource length⟩ [] := by
  obtain ⟨-, rfl⟩ := checked_ok wrote
  change parseRequest limit ((initSubmitHeader .accept).encode ++ u32 resource ++ u32 length) = _
  rw [List.append_assoc]
  have body : IoRequest.decode ((initSubmitHeader .accept).encode ++
      (u32 resource ++ u32 length)) =
      ⟨.decode ((initSubmitHeader .accept).encode ++ (u32 resource ++ u32 length)), resource,
        length⟩ := by
    simp (disch := simp) [IoRequest.decode, u32At_append_right, u32At_append_left]
  exact parses_fixed (Or.inl rfl) (by simp [RequestKind.fixedSize, IoRequest.size]) rfl
    (by rw [fixedAccepted, body]; exact decide_eq_true within) rfl (by rw [requestBody, body])

theorem getTraceResult_parses {afterSequence : UInt64} {maxEvents : UInt32} {capacity : Nat}
    (wrote : getTraceResult fd afterSequence maxEvents capacity = .ok written)
    (within : maxEvents.toNat ≤ traceCapacity) :
    parseRequest limit written.bytes =
      .message ⟨.getTrace, .normal, .trace afterSequence maxEvents⟩ [] := by
  obtain ⟨-, rfl⟩ := checked_ok wrote
  change parseRequest limit ((initSubmitHeader .getTrace).encode ++ u64 afterSequence ++
    u32 maxEvents ++ u32 0) = _
  rw [List.append_assoc, List.append_assoc]
  have body : GetTraceRequest.decode ((initSubmitHeader .getTrace).encode ++
      (u64 afterSequence ++ (u32 maxEvents ++ u32 0))) =
      ⟨.decode ((initSubmitHeader .getTrace).encode ++
        (u64 afterSequence ++ (u32 maxEvents ++ u32 0))), afterSequence, maxEvents, 0⟩ := by
    simp (disch := simp) [GetTraceRequest.decode, u32At_append_right, u32At_append_left,
      u64At_append_right, u64At_append_left]
  exact parses_fixed (Or.inr rfl) (by simp [RequestKind.fixedSize, GetTraceRequest.size]) rfl
    (by rw [fixedAccepted, body]; simp [within]) rfl (by rw [requestBody, body])

/-- The length 0 sends no payload, whatever the buffer. -/
theorem registerBufferResult_parses {buf : Option Memory} {length : UInt32}
    (wrote : registerBufferResult fd buf length = .ok written) (within : length.toNat ≤ limit) :
    parseRequest limit written.bytes =
      .message ⟨.registerBuffer, .normal, .buffer ((buf.getD .zero).read 0 length.toNat)⟩ [] := by
  obtain ⟨-, rfl⟩ := checked_ok wrote
  have sent : (if length = 0 then [] else (buf.getD Memory.zero).read 0 length.toNat) =
      (buf.getD .zero).read 0 length.toNat := by
    split
    · rename_i zero
      rw [zero]
      rfl
    · rfl
  change parseRequest limit ((initSubmitHeader .registerBuffer).encode ++ u32 length ++ u32 0 ++
    (if length = 0 then [] else (buf.getD Memory.zero).read 0 length.toNat)) = _
  rw [sent, List.append_assoc (initSubmitHeader .registerBuffer).encode]
  have body : RegisterBufferRequest.decode ((initSubmitHeader .registerBuffer).encode ++
      (u32 length ++ u32 0)) =
      ⟨.decode ((initSubmitHeader .registerBuffer).encode ++ (u32 length ++ u32 0)), length,
        0⟩ := by
    simp (disch := simp) [RegisterBufferRequest.decode, u32At_append_right, u32At_append_left]
  rw [parseRequest_encoded (Or.inr rfl)
    (by simp [RequestKind.fixedSize, RegisterBufferRequest.size])
    (by rw [Memory.length_read, payloadSize, body]) (by simp [fixedAccepted, body, within]) rfl,
    requestBody]

/-- A path is sent with its NUL. -/
theorem submitOpenatResult_ok {path : Option CString} {openFlags : Int32} {openMode : UInt32}
    (wrote : submitOpenatResult fd path openFlags openMode = .ok written) :
    ∃ chars : CString, ∃ pathLength : UInt32, path = some chars ∧
      pathLength.toNat = chars.bytes.length + 1 ∧ 2 ≤ pathLength.toNat ∧
      written.bytes = (initSubmitHeader .openat).encode ++
        (i32 openFlags ++ u32 openMode ++ u32 pathLength) ++ (chars.bytes ++ [0]) := by
  cases path with
  | none => cases wrote
  | some path =>
      obtain ⟨lengths, rfl⟩ := checked_ok wrote
      rw [Bool.or_eq_false_iff, decide_eq_false_iff_not, decide_eq_false_iff_not] at lengths
      have small : (UInt32.ofNat (path.bytes.length + 1)).toNat = path.bytes.length + 1 := by
        rw [UInt32.toNat_ofNat']
        exact Nat.mod_eq_of_lt (by omega)
      refine ⟨path, _, rfl, small, by omega, ?_⟩
      change OpenatRequest.encode _ ++ _ = _
      rw [OpenatRequest.encode, List.append_assoc (initSubmitHeader .openat).encode,
        List.append_assoc (initSubmitHeader .openat).encode]

theorem decode_openat {openFlags : Int32} {openMode pathLength : UInt32} :
    OpenatRequest.decode ((initSubmitHeader .openat).encode ++
      (i32 openFlags ++ u32 openMode ++ u32 pathLength)) =
      ⟨.decode ((initSubmitHeader .openat).encode ++
        (i32 openFlags ++ u32 openMode ++ u32 pathLength)), openFlags, openMode, pathLength⟩ := by
  simp (disch := simp) [OpenatRequest.decode, u32At_append_right, u32At_append_left,
    i32At_append_right, i32At_append_left]

/-- A path has to fit the daemon's buffer. -/
theorem submitOpenatResult_parses {path : Option CString} {openFlags : Int32} {openMode : UInt32}
    (wrote : submitOpenatResult fd path openFlags openMode = .ok written)
    (within : ((path.map CString.bytes).getD []).length + 1 ≤ limit)
    (fits : written.bytes.length ≤ maxRequestBytes) :
    parseRequest limit written.bytes =
      .message ⟨.openat, .normal,
        .openat openFlags openMode ((path.map CString.bytes).getD [] ++ [0])⟩ [] := by
  obtain ⟨path, pathLength, rfl, length, least, bytes⟩ := submitOpenatResult_ok wrote
  have size : OpenatRequest.size + pathLength.toNat ≤ maxRequestBytes := by
    rw [bytes] at fits
    simp only [List.length_append, SubmitRequest.length_encode, length_i32, length_u32,
      List.length_singleton, ← length] at fits
    exact fits
  have most : pathLength.toNat ≤ limit := by
    rw [length]
    exact within
  rw [bytes, parseRequest_encoded (Or.inl rfl)
    (by simp [RequestKind.fixedSize, OpenatRequest.size])
    (by rw [payloadSize, decode_openat, length, List.length_append, List.length_singleton])
    (by rw [fixedAccepted, decode_openat]; simp [least, most, size])
    (by simp [payloadAccepted]), requestBody, decode_openat]
  rfl

end Calls

/-- Whatever a call writes, within the limits the daemon advertises, is one request: the one the
caller asked for. -/
theorem RequestCall.parses {limit : Nat} {fd : Fd} {call : RequestCall} {written : Written}
    (wrote : call.write fd = .ok written) (within : call.variableLength ≤ limit)
    (few : call.eventsWanted ≤ traceCapacity) (fits : written.bytes.length ≤ maxRequestBytes) :
    parseRequest limit written.bytes = .message call.request [] := by
  cases call with
  | submitNop =>
      obtain ⟨-, rfl⟩ := checked_ok wrote
      exact header_parses (Or.inl rfl)
  | submitTimeout timeoutNsec => exact submitTimeoutResult_parses wrote
  | submitCancel target => exact submitCancelResult_parses wrote
  | submitSockRead resource length => exact submitReadResult_parses (Or.inl rfl) wrote
  | submitSockWrite resource buf length =>
      obtain ⟨passes, rfl⟩ := checked_ok wrote
      simp only [Bool.or_eq_false_iff, beq_eq_false_iff_ne] at passes
      exact submitPayload_parses (Or.inl rfl) passes.2 within
  | submitFileRead resource length => exact submitReadResult_parses (Or.inr rfl) wrote
  | submitFileWrite resource buf length =>
      obtain ⟨passes, rfl⟩ := checked_ok wrote
      simp only [Bool.or_eq_false_iff, beq_eq_false_iff_ne] at passes
      exact submitPayload_parses (Or.inr (Or.inl rfl)) passes.2 within
  | submitPoll resource pollMask => exact submitPollResult_parses wrote
  | submitConnect resource sockaddr length =>
      obtain ⟨passes, rfl⟩ := checked_ok wrote
      simp only [Bool.or_eq_false_iff, beq_eq_false_iff_ne] at passes
      exact submitPayload_parses (Or.inr (Or.inr rfl)) passes.1.2 within
  | submitAccept resource length => exact submitAcceptResult_parses wrote within
  | submitOpenat path openFlags openMode => exact submitOpenatResult_parses wrote within fits
  | submitClose resource =>
      obtain ⟨-, rfl⟩ := checked_ok wrote
      exact resourceRequest_parses (Or.inl rfl)
  | submitSockReadFixed file buffer length => exact submitFixedResult_parses (Or.inl rfl) wrote
  | submitSockWriteFixed file buffer length => exact submitFixedResult_parses (Or.inr rfl) wrote
  | registerFd resourceFd =>
      obtain ⟨-, rfl⟩ := checked_ok wrote
      exact header_parses (Or.inr (Or.inl rfl))
  | registerBuffer buf length => exact registerBufferResult_parses wrote within
  | releaseResource resource =>
      obtain ⟨-, rfl⟩ := checked_ok wrote
      exact resourceRequest_parses (Or.inr rfl)
  | getStats =>
      obtain ⟨-, rfl⟩ := checked_ok wrote
      exact header_parses (Or.inr (Or.inr rfl))
  | getTrace afterSequence maxEvents capacity => exact getTraceResult_parses wrote few

/-! ## What the daemon makes of a call -/

/-- How what a call wrote arrives: in pieces, cut anywhere, and the descriptor with the first of
them, under the number the daemon has for it. -/
def Written.arrives (written : Written) (number : Fd) : List (List UInt8) → List RecvOutcome
  | [] => []
  | first :: others =>
      .data first (if written.descriptor.isSome then [⟨true, [number]⟩] else []) false ::
        others.map fun piece => .data piece [] false

/-- Only REGISTER_FD sends a descriptor. -/
theorem RequestCall.kind_of_descriptor {fd : Fd} {call : RequestCall} {written : Written}
    (wrote : call.write fd = .ok written) (sent : written.descriptor.isSome = true) :
    call.request.kind = .registerFd := by
  cases call with
  | registerFd resourceFd => rfl
  | submitOpenat path openFlags openMode =>
      cases path with
      | none => cases wrote
      | some path =>
          obtain ⟨-, rfl⟩ := checked_ok wrote
          cases sent
  | _ =>
      obtain ⟨-, rfl⟩ := checked_ok wrote
      cases sent

section Arrival

variable {limit : Nat} {fd number : Fd} {call : RequestCall} {written : Written}
  {pieces : List (List UInt8)} {more : List UInt8}

theorem Written.incomingBytes_arrives :
    incomingBytes (written.arrives number pieces) = pieces.flatten := by
  cases pieces with
  | nil => rfl
  | cons first others =>
      unfold arrives incomingBytes
      rw [List.flatMap_cons, List.flatMap_map, List.flatten_cons]
      exact congrArg (first ++ ·) List.flatMap_id

theorem Written.gapless_arrives : .again ∉ written.arrives number pieces := by
  intro gap
  cases pieces with
  | nil => cases gap
  | cons first others =>
      rcases List.mem_cons.mp gap with same | later
      · cases same
      · obtain ⟨piece, -, same⟩ := List.mem_map.mp later
        cases same

/-- What a call writes arrives as a peer of the daemon has to send it. -/
theorem Written.arrives_proper (valid : 0 ≤ number)
    (register : written.descriptor.isSome = true → startsRegister pieces.flatten)
    (some : ∀ piece ∈ pieces, piece ≠ []) :
    Proper limit [] (written.arrives number pieces) := by
  cases pieces with
  | nil =>
      refine ⟨nofun, ?_⟩
      intro before bytes control truncated after same
      cases (List.append_eq_nil_iff.mp same.symm).2
  | cons first others =>
      have plain : ∀ outcome ∈ others.map fun piece => RecvOutcome.data piece [] false,
          ∃ piece, outcome = .data piece [] false := by
        intro outcome member
        obtain ⟨piece, -, same⟩ := List.mem_map.mp member
        exact ⟨piece, same.symm⟩
      constructor
      · intro outcome member
        rcases List.mem_cons.mp member with rfl | later
        · exact ⟨nofun, nofun⟩
        · obtain ⟨piece, rfl⟩ := plain outcome later
          exact ⟨nofun, nofun⟩
      · intro before bytes control truncated after same
        cases before with
        | nil =>
            cases same
            refine ⟨rfl, ?_⟩
            split
            · rename_i sent
              refine Or.inr ⟨number, valid, rfl, some first List.mem_cons_self, rfl, ?_⟩
              have bytes := @incomingBytes_arrives number written (first :: others)
              unfold arrives at bytes
              rw [incomingBytes_cons] at bytes
              have starts := register sent
              rw [← bytes] at starts
              exact starts
            · exact Or.inl rfl
        | cons outcome others' =>
            obtain ⟨-, tail⟩ := List.cons.inj same
            obtain ⟨piece, same⟩ := plain (.data bytes control truncated) (by
              rw [tail]
              exact List.mem_append_right _ List.mem_cons_self)
            cases same
            exact ⟨rfl, Or.inl rfl⟩

end Arrival

/-- The library and the daemon agree on every request. Whatever a call writes is read as one
request, from its first byte to its last and no further, and that is what the caller asked
for. -/
theorem requestCall_decoded {limit index : Nat} {fd number : Fd} {call : RequestCall}
    {written : Written} {rt : Runtime} {pieces : List (List UInt8)} {more : List UInt8}
    (wrote : call.write fd = .ok written) (within : call.variableLength ≤ limit)
    (few : call.eventsWanted ≤ traceCapacity) (fits : written.bytes.length ≤ maxRequestBytes)
    (limits : limit ≤ maxIoBytes) (boundary : AtBoundary limit (rt.clients index))
    (valid : 0 ≤ number) (cut : pieces.flatten = written.bytes ++ more)
    (some : ∀ piece ∈ pieces, piece ≠ []) :
    ∃ next progress rest,
      serviceClientReadable rt index (written.arrives number pieces) =
        .ok (next, progress, rest) ∧
      incomingBytes rest = more ∧ (next.clients index).isActive = true ∧
      (next.clients index).requestReady = true ∧
      (next.clients index).decodedRequest = call.request ∧
      (next.clients index).controlOp = call.request.kind.controlOp ∧
      call.request.priority = .normal := by
  have parsed : parseRequest limit (written.bytes ++ more) = .message call.request more :=
    (requestFraming limit).message_append more (call.parses wrote within few fits)
  have register : written.descriptor.isSome = true → startsRegister pieces.flatten := by
    intro sent _
    rw [cut, ← call.kind_of_descriptor wrote sent, (parseRequest_eq_message.mp parsed).2.1]
    rfl
  have proper := @Written.arrives_proper limit number written pieces valid register some
  have normal : call.request.priority = .normal := by cases call <;> rfl
  obtain ⟨next, progress, rest, serviced, consumed, active, ready, decoded, controlOp⟩ :=
    boundary.decodes limits proper Written.gapless_arrives
      (by rw [Written.incomingBytes_arrives, cut]; exact parsed)
  exact ⟨next, progress, rest, serviced, consumed, active, ready, decoded, controlOp, normal⟩

/-- Three bytes are written to resource 5; their request arrives in two pieces, the second with
the first byte of the next one. -/
theorem requestCall_decoded_sockWrite :
    ∃ rt written next progress rest,
      run step (Runtime.initial (.small 1 (by decide) (by decide))) (joining 0 7) = .ok rt ∧
      (RequestCall.submitSockWrite 5 (some fun index => UInt8.ofNat (index + 1)) 3).write 4 =
        .ok written ∧ written.bytes.length = 27 ∧
      serviceClientReadable rt 0 (written.arrives 9
        [written.bytes.take 20, written.bytes.drop 20 ++ [73]]) = .ok (next, progress, rest) ∧
      incomingBytes rest = [73] ∧
      (next.clients 0).decodedRequest = ⟨.sockWrite, .normal, .payload 5 [1, 2, 3]⟩ := by
  have seen : ((run step (Runtime.initial (.small 1 (by decide) (by decide)))
      (joining 0 7)).toOption.map fun rt =>
        decide ((rt.clients 0).isActive = true ∧ (rt.clients 0).phase = .submit ∧
          (rt.clients 0).requestReady = false ∧ (rt.clients 0).inputLen = 0 ∧
          (rt.clients 0).expectedInput = SubmitRequest.size ∧ (rt.clients 0).receivedFd < 0 ∧
          (rt.clients 0).ioBytesMax = 16)) = some true := by decide +kernel
  obtain ⟨rt, ran, view⟩ := exists_of_toOption_map seen
  obtain ⟨active, submit, unready, inputLen, expected, receivedFd, limit⟩ := of_decide_eq_true view
  have boundary : AtBoundary 16 (rt.clients 0) :=
    ⟨active, submit, unready, inputLen, expected, receivedFd, limit⟩
  obtain ⟨written, wrote, length⟩ : ∃ written,
      (RequestCall.submitSockWrite 5 (some fun index => UInt8.ofNat (index + 1)) 3).write 4 =
        .ok written ∧ written.bytes.length = 27 := ⟨_, rfl, by decide⟩
  obtain ⟨next, progress, rest, serviced, consumed, -, -, decoded, -⟩ :=
    @requestCall_decoded 16 0 4 9 _ written rt
      [written.bytes.take 20, written.bytes.drop 20 ++ [73]] [73] wrote (by decide) (by decide)
      (by rw [length]; decide) (by decide) boundary (by decide)
      (by rw [List.flatten_cons, List.flatten_singleton, ← List.append_assoc,
        List.take_append_drop])
      (by
        intro piece member
        rw [List.mem_cons, List.mem_singleton] at member
        rcases member with rfl | rfl
        · rw [← List.length_pos_iff, List.length_take, length]
          decide
        · exact List.append_ne_nil_of_right_ne_nil _ nofun)
  exact ⟨rt, written, next, progress, rest, ran, wrote, length, serviced, consumed, decoded⟩

end Iouringd
