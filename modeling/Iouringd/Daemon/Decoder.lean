import Iouringd.Daemon.Replies

/-! # Reading and decoding requests

`iouringd_read_client_input`, `iouringd_finish_submit_request`,
`iouringd_process_submit_input` and `iouringd_service_client_readable`. A client
socket is a list of what successive `recvmsg` calls find: segments of bytes with
their control messages, gaps (`EAGAIN`, `EINTR`), the end of the stream, errors. A
`recvmsg` never returns more than it asks for, so the rest of a longer segment
stays in the socket.
-/

namespace Iouringd

open Foundation

/-- One control message; `descriptors` are already installed by the kernel. -/
structure ControlMessage where
  scmRights : Bool
  descriptors : List Fd
  deriving DecidableEq, Repr

/-- What `recvmsg` finds next on a client socket. `truncated` is `MSG_CTRUNC`. -/
inductive RecvOutcome where
  | data (bytes : List UInt8) (control : List ControlMessage) (truncated : Bool)
  | eof
  | again
  | interrupted
  | failed (errno : Errno)
  deriving DecidableEq, Repr

/-- The bytes of a socket, in order. -/
def RecvOutcome.bytes : RecvOutcome → List UInt8
  | .data bytes _ _ => bytes
  | _ => []

@[inherit_doc RecvOutcome.bytes]
def incomingBytes (incoming : List RecvOutcome) : List UInt8 :=
  incoming.flatMap RecvOutcome.bytes

/-! ## Reading -/

/-- How a call of `iouringd_read_client_input` ends: 1, 0, `*closed`, or -1. -/
inductive ReadStatus where
  | full
  | again
  | closed
  | failed (errno : Errno)
  deriving DecidableEq, Repr

structure ReadResult where
  status : ReadStatus
  client : Client
  closedFds : List Fd
  rest : List RecvOutcome

/-- The loop over the control messages of one `recvmsg`: the client, the descriptors
it closes and whether it runs to its end. Exactly one descriptor is expected, and
only while none is held. -/
def receiveControl (client : Client) : List ControlMessage → Client × List Fd × Bool
  | [] => (client, [], true)
  | message :: rest =>
      match message.descriptors with
      | [fd] =>
          if !message.scmRights then (client, [], false)
          else if 0 ≤ client.receivedFd then (client, [fd], false)
          else receiveControl { client with receivedFd := fd } rest
      | _ => (client, [], false)

/-- `iouringd_read_client_input`. -/
def readClientInput (client : Client) : List RecvOutcome → ReadResult
  | [] =>
      if client.inputLen < client.expectedInput then ⟨.again, client, [], []⟩
      else ⟨.full, client, [], []⟩
  | outcome :: rest =>
      if client.inputLen < client.expectedInput then
        match outcome with
        | .data bytes control truncated =>
            let wanted := client.expectedInput - client.inputLen
            let chunk := bytes.take wanted
            let left := bytes.drop wanted
            -- a segment without bytes is nothing `recvmsg` could return
            if bytes.isEmpty then readClientInput client rest
            else
              let rest' := if left.isEmpty then rest else .data left [] false :: rest
              let client := { client with input := client.input.write client.inputLen chunk }
              if truncated then ⟨.failed EPROTO, client, [], rest'⟩
              else
                match receiveControl client control with
                | (client, closedFds, false) => ⟨.failed EPROTO, client, closedFds, rest'⟩
                | (client, _, true) =>
                    let client := { client with inputLen := client.inputLen + chunk.length }
                    if left.isEmpty then readClientInput client rest
                    else ⟨.full, client, [], rest'⟩
        | .eof =>
            if client.inputLen = 0 then ⟨.closed, client, [], rest⟩
            else ⟨.failed EPROTO, client, [], rest⟩
        | .again => ⟨.again, client, [], rest⟩
        | .interrupted => readClientInput client rest
        | .failed errno => ⟨.failed errno, client, [], rest⟩
      else ⟨.full, client, [], outcome :: rest⟩

/-! ## Decoding one request -/

namespace Client

/-- The fields every branch of `iouringd_finish_submit_request` sets. -/
def makeReady (client : Client) : Client :=
  ({ client with
    requestReady := true
    timeoutNsec := 0
    cancelTargetId := taskIdInvalid
    resourceId := resourceIdInvalid
    bufferResourceId := resourceIdInvalid
    ioLength := 0
    controlOp := none } : Client).resetInput

/-- Copy `length` payload bytes behind a fixed part of `fixed` bytes. -/
def copyPayload (client : Client) (fixed : Nat) (length : UInt32) : Client :=
  { client with ioPayload := client.ioPayload.write 0 (client.input.read fixed length.toNat) }

/-- The fixed part of the request in the input buffer. -/
def fixedPart (client : Client) (size : Nat) : List UInt8 := client.input.read 0 size

end Client

/-- The SOCK_READ, FILE_READ and ACCEPT branches of `iouringd_finish_submit_request`. -/
def finishIo (client : Client) : Client :=
  let request := IoRequest.decode (client.fixedPart IoRequest.size)
  { client.makeReady with
    request := request.submit, resourceId := request.resource, ioLength := request.length }

/-- The SOCK_WRITE, FILE_WRITE and CONNECT branches. -/
def finishIoWithPayload (client : Client) : Except Errno Client :=
  let request := IoRequest.decode (client.fixedPart IoRequest.size)
  if client.ioBytesMax < request.length.toNat then .error EMSGSIZE
  else .ok (finishIo (client.copyPayload IoRequest.size request.length))

/-- The fixed-buffer branches. -/
def finishFixed (client : Client) : Client :=
  let request := FixedRequest.decode (client.fixedPart FixedRequest.size)
  { client.makeReady with
    request := request.submit, resourceId := request.fileResource
    bufferResourceId := request.bufferResource, ioLength := request.length }

/-- The OPENAT branch. -/
def finishOpenat (client : Client) : Except Errno Client :=
  let request := OpenatRequest.decode (client.fixedPart OpenatRequest.size)
  if client.ioBytesMax < request.pathLength.toNat then .error EMSGSIZE
  else
    let client := client.copyPayload OpenatRequest.size request.pathLength
    if request.pathLength < 2 || client.ioPayload (request.pathLength.toNat - 1) != 0 then
      .error EPROTO
    else
      .ok { client.makeReady with
        request := request.submit, openFlags := request.openFlags, openMode := request.openMode
        ioLength := request.pathLength, pollMask := 0 }

/-- The REGISTER_BUFFER branch. -/
def finishRegisterBuffer (client : Client) : Except Errno Client :=
  let request := RegisterBufferRequest.decode (client.fixedPart RegisterBufferRequest.size)
  if client.ioBytesMax < request.length.toNat then .error EMSGSIZE
  else
    let client := if request.length ≠ 0 then
      client.copyPayload RegisterBufferRequest.size request.length else client
    .ok { client.makeReady with ioLength := request.length, controlOp := some .registerBuffer }

/-- `iouringd_finish_submit_request`. -/
def finishSubmitRequest (client : Client) : Except Errno Client :=
  if !client.request.headerIsValid then .error EPROTO
  else if !client.request.priorityIsValid then .error EPROTO
  else if client.request.taskKind ≠ .registerFd && decide (0 ≤ client.receivedFd) then
    .error EPROTO
  else
    match client.request.taskKind with
    | .nop => .ok client.makeReady
    | .timeout =>
        let request := TimeoutRequest.decode (client.fixedPart TimeoutRequest.size)
        .ok { client.makeReady with
          request := request.submit, timeoutNsec := request.timeoutNsec }
    | .cancel =>
        let request := CancelRequest.decode (client.fixedPart CancelRequest.size)
        .ok { client.makeReady with
          request :=
            { magic := request.magic
              versionMajor := request.versionMajor
              versionMinor := request.versionMinor
              taskKind := request.taskKind
              priority := .ofWire request.reserved0
              reserved1 := request.reserved1 }
          cancelTargetId := request.target }
    | .sockRead | .fileRead => .ok (finishIo client)
    | .sockWrite | .fileWrite => finishIoWithPayload client
    | .poll =>
        let request := PollRequest.decode (client.fixedPart PollRequest.size)
        .ok { client.makeReady with
          request := request.submit, resourceId := request.resource
          pollMask := request.pollMask }
    | .connect => do
        let client ← finishIoWithPayload client
        .ok { client with pollMask := 0 }
    | .accept => .ok { finishIo client with pollMask := 0 }
    | .openat => finishOpenat client
    | .close =>
        let request := ResourceRequest.decode (client.fixedPart ResourceRequest.size)
        .ok { client.makeReady with
          request := request.submit, resourceId := request.resource
          openFlags := 0, closeFd := -1, openMode := 0, pollMask := 0 }
    | .sockReadFixed | .sockWriteFixed => .ok (finishFixed client)
    | .registerFd => .ok { client.makeReady with controlOp := some .registerFd }
    | .registerBuffer => finishRegisterBuffer client
    | .releaseResource =>
        let request := ResourceRequest.decode (client.fixedPart ResourceRequest.size)
        .ok { client.makeReady with
          resourceId := request.resource, controlOp := some .releaseResource }
    | .getStats =>
        .ok { client.makeReady with
          traceAfterSequence := 0, traceMaxEvents := 0, pollMask := 0
          controlOp := some .getStats }
    | .getTrace =>
        let request := GetTraceRequest.decode (client.fixedPart GetTraceRequest.size)
        .ok { client.makeReady with
          traceAfterSequence := request.afterSequence, traceMaxEvents := request.maxEvents
          pollMask := 0, controlOp := some .getTrace }
    | .unknown _ => .error EPROTO

/-- Set `expected_input` to the fixed part and go on once it is there. -/
def awaitFixed (size : Nat) (proceed : Client → Except Errno Client) (client : Client) :
    Except Errno Client :=
  let client := { client with expectedInput := size }
  if client.inputLen < client.expectedInput then .ok client else proceed client

/-- Set `expected_input` to the whole message and finish once it is there. -/
def awaitPayload (total : Nat) (client : Client) : Except Errno Client :=
  let client := { client with expectedInput := total }
  if maxRequestBytes < client.expectedInput then .error EPROTO
  else if client.inputLen < client.expectedInput then .ok client
  else finishSubmitRequest client

/-- `iouringd_process_submit_input`. The request is complete when the result has
`requestReady` set, and needs more input otherwise. -/
def processSubmitInput (client : Client) : Except Errno Client :=
  if client.inputLen < SubmitRequest.size then
    .ok { client with expectedInput := SubmitRequest.size }
  else
    let request := SubmitRequest.decode (client.fixedPart SubmitRequest.size)
    let client := { client with request }
    if !request.headerIsValid then .error EPROTO
    else
      match request.taskKind with
      | .timeout | .cancel => awaitFixed CancelRequest.size finishSubmitRequest client
      | .sockRead | .fileRead => awaitFixed IoRequest.size finishSubmitRequest client
      | .poll =>
          awaitFixed PollRequest.size (fun client =>
            let request := PollRequest.decode (client.fixedPart PollRequest.size)
            if request.reserved2 ≠ 0 then .error EPROTO else finishSubmitRequest client) client
      | .connect =>
          awaitFixed IoRequest.size (fun client =>
            let request := IoRequest.decode (client.fixedPart IoRequest.size)
            if request.length = 0 || decide (client.ioBytesMax < request.length.toNat) ||
                decide (65535 < request.length.toNat) then .error EPROTO
            else awaitPayload (IoRequest.size + request.length.toNat) client) client
      | .accept =>
          awaitFixed IoRequest.size (fun client =>
            let request := IoRequest.decode (client.fixedPart IoRequest.size)
            if decide (client.ioBytesMax < request.length.toNat) ||
                decide (65535 < request.length.toNat) then .error EPROTO
            else finishSubmitRequest client) client
      | .openat =>
          awaitFixed OpenatRequest.size (fun client =>
            let request := OpenatRequest.decode (client.fixedPart OpenatRequest.size)
            if decide (request.pathLength < 2) ||
                decide (client.ioBytesMax < request.pathLength.toNat) then .error EPROTO
            else awaitPayload (OpenatRequest.size + request.pathLength.toNat) client) client
      | .close =>
          awaitFixed ResourceRequest.size (fun client =>
            let request := ResourceRequest.decode (client.fixedPart ResourceRequest.size)
            if request.reserved2 ≠ 0 then .error EPROTO else finishSubmitRequest client) client
      | .sockReadFixed | .sockWriteFixed =>
          awaitFixed FixedRequest.size finishSubmitRequest client
      | .releaseResource => awaitFixed ResourceRequest.size finishSubmitRequest client
      | .getStats => awaitFixed SubmitRequest.size finishSubmitRequest client
      | .getTrace =>
          awaitFixed GetTraceRequest.size (fun client =>
            let request := GetTraceRequest.decode (client.fixedPart GetTraceRequest.size)
            if decide (traceCapacity < request.maxEvents.toNat) || request.reserved2 ≠ 0 then
              .error EPROTO
            else finishSubmitRequest client) client
      | .registerBuffer =>
          awaitFixed RegisterBufferRequest.size (fun client =>
            let request :=
              RegisterBufferRequest.decode (client.fixedPart RegisterBufferRequest.size)
            if decide (client.ioBytesMax < request.length.toNat) || request.reserved2 ≠ 0 then
              .error EPROTO
            else awaitPayload (RegisterBufferRequest.size + request.length.toNat) client) client
      | .sockWrite | .fileWrite =>
          awaitFixed IoRequest.size (fun client =>
            let request := IoRequest.decode (client.fixedPart IoRequest.size)
            if request.length = 0 || decide (client.ioBytesMax < request.length.toNat) then
              .error EPROTO
            else awaitPayload (IoRequest.size + request.length.toNat) client) client
      | .nop | .registerFd | .unknown _ => finishSubmitRequest client

/-! ## Servicing a readable client -/

/-- The loop of `iouringd_service_client_readable`, which reads until a request is
complete, the client is closed or the socket has nothing more. -/
def serviceLoop (index : Nat) : Nat → Runtime → Bool → List RecvOutcome →
    Except Errno (Runtime × Bool × List RecvOutcome)
  | 0, rt, progress, incoming => .ok (rt, progress, incoming)
  | fuel + 1, rt, progress, incoming =>
      if !(rt.clients index).isActive || (rt.clients index).requestReady then
        .ok (rt, progress, incoming)
      else
        let result := readClientInput (rt.clients index) incoming
        let rt := result.closedFds.foldl Runtime.close (rt.setClient index result.client)
        match result.status with
        | .closed | .failed _ => .ok (closeClient rt index, true, result.rest)
        | .again => .ok (rt, progress, result.rest)
        | .full =>
            match result.client.phase with
            | .handshake => do
                let rt ← queueHandshakeResult rt index
                  (HandshakeRequest.decode (result.client.fixedPart 16))
                .ok (rt, true, result.rest)
            | .submit =>
                match processSubmitInput result.client with
                | .error _ => .ok (closeClient rt index, true, result.rest)
                | .ok client =>
                    if client.requestReady then .ok (rt.setClient index client, true, result.rest)
                    else serviceLoop index fuel (rt.setClient index client) true result.rest

/-- `iouringd_service_client_readable`: the runtime, whether there was progress and
what is left in the socket. Each turn of the loop but the first takes at least one
byte, so the bytes of the socket bound the number of turns. -/
def serviceClientReadable (rt : Runtime) (index : Nat) (incoming : List RecvOutcome) :
    Except Errno (Runtime × Bool × List RecvOutcome) :=
  serviceLoop index ((incomingBytes incoming).length + 2) rt false incoming

end Iouringd
