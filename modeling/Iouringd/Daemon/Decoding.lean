import Iouringd.Daemon.Decoder
import Iouringd.Daemon.Grammar

/-! # The decoder against the grammar

`iouringd_process_submit_input` re-reads the bytes it has after every read. On the
bytes of a client's input buffer it decides exactly what the grammar decides: it asks
for as many bytes as the grammar needs, it fails where the grammar finds a malformed
message, and a request it makes ready is the one the grammar reads.
-/

namespace Iouringd

open Foundation

/-- The bytes received of the message being read. -/
def Client.received (client : Client) : List UInt8 := client.input.read 0 client.inputLen

/-- The arguments of a ready request, by kind, from the fields of the client record that
the dispatcher uses for the kind. -/
def Client.decodedBody (client : Client) : RequestBody :=
  let payload := client.ioPayload.read 0 client.ioLength.toNat
  match client.request.taskKind with
  | .timeout => .timeout client.timeoutNsec
  | .cancel => .cancel client.cancelTargetId
  | .sockRead | .fileRead | .accept => .transfer client.resourceId client.ioLength
  | .sockWrite | .fileWrite | .connect => .payload client.resourceId payload
  | .poll => .poll client.resourceId client.pollMask
  | .openat => .openat client.openFlags client.openMode payload
  | .close | .releaseResource => .resource client.resourceId
  | .sockReadFixed | .sockWriteFixed =>
      .fixed client.resourceId client.bufferResourceId client.ioLength
  | .registerBuffer => .buffer payload
  | .getTrace => .trace client.traceAfterSequence client.traceMaxEvents
  | _ => .plain

/-- The request a client record holds. -/
def Client.decodedRequest (client : Client) : Request where
  kind := client.request.taskKind
  priority := client.request.priority
  body := client.decodedBody

/-- The control operation of a kind. -/
def RequestKind.controlOp (kind : RequestKind) : Option RequestKind :=
  if kind.isControl then some kind else none

/-- A request has been made ready. -/
structure MadeReady (client : Client) (request : Request) (next : Client) : Prop where
  ready : next.requestReady = true
  decoded : next.decodedRequest = request
  controlOp : next.controlOp = request.kind.controlOp
  inputLen : next.inputLen = 0
  expectedInput : next.expectedInput = SubmitRequest.size
  receivedFd : next.receivedFd = client.receivedFd

/-- The record holds a request that the grammar reads off some stream. -/
structure Grammatical (client : Client) : Prop where
  controlOp : client.controlOp = client.request.taskKind.controlOp
  parsed : ∃ stream rest,
    parseRequest client.ioBytesMax stream = .message client.decodedRequest rest
  descriptor : client.request.taskKind ≠ .registerFd → client.receivedFd < 0

section Parts

variable {client : Client}

theorem Client.length_received (client : Client) : client.received.length = client.inputLen :=
  Memory.length_read _ _ _

/-- A fixed part that is there is the front of what was received. -/
theorem Client.fixedPart_eq {size : Nat} (there : size ≤ client.inputLen) :
    client.fixedPart size = client.received.take size :=
  (Memory.take_read client.input 0 client.inputLen size there).symm

/-- So is what follows it. -/
theorem Client.read_payload {fixed length : Nat} (there : fixed + length ≤ client.inputLen) :
    client.input.read fixed length = (client.received.drop fixed).take length := by
  obtain ⟨rest, whole⟩ := Nat.exists_eq_add_of_le there
  unfold Client.received
  rw [whole, Nat.add_assoc, Memory.drop_read, Memory.take_read _ _ _ _ (Nat.le_add_right _ _),
    Nat.zero_add]

/-- The header of a longer fixed part. -/
theorem SubmitRequest.decode_take {bytes : List UInt8} {size : Nat}
    (within : SubmitRequest.size ≤ size) (there : size ≤ bytes.length) :
    SubmitRequest.decode (bytes.take size) =
      SubmitRequest.decode (bytes.take SubmitRequest.size) := by
  have split : bytes.take size =
      bytes.take SubmitRequest.size ++ (bytes.take size).drop SubmitRequest.size := by
    conv_lhs => rw [← List.take_append_drop SubmitRequest.size (bytes.take size)]
    rw [List.take_take, Nat.min_eq_left within]
  rw [split, SubmitRequest.decode_append]
  rw [List.length_take]
  have sixteen : SubmitRequest.size = 16 := rfl
  omega

/-- Reading back a copied payload. -/
theorem Client.read_copyPayload (client : Client) (fixed : Nat) (length : UInt32) :
    (client.copyPayload fixed length).ioPayload.read 0 length.toNat =
      client.input.read fixed length.toNat := by
  have copied := Memory.read_write_self client.ioPayload 0 (client.input.read fixed length.toNat)
  rwa [Memory.length_read] at copied

end Parts

/-! ## Finishing a request -/

/-- The client holds all bytes of a message whose header and fixed part are accepted. -/
structure Whole (client : Client) : Prop where
  header : client.request = frontHeader client.received
  valid : client.request.headerIsValid = true
  there : frontSize client.received ≤ client.inputLen
  accepted : fixedAccepted client.ioBytesMax client.request.taskKind
    (client.fixedPart client.request.taskKind.fixedSize) = true

namespace Whole

variable {client : Client}

theorem fixedThere (whole : Whole client) :
    client.request.taskKind.fixedSize ≤ client.inputLen := by
  have there := whole.there
  unfold frontSize at there
  rw [← whole.header] at there
  omega

theorem fixed_eq (whole : Whole client) :
    frontFixed client.received = client.fixedPart client.request.taskKind.fixedSize := by
  rw [Client.fixedPart_eq whole.fixedThere, frontFixed, ← whole.header]

theorem payload_eq (whole : Whole client) :
    frontPayload client.received = client.input.read client.request.taskKind.fixedSize
      (payloadSize client.request.taskKind
        (client.fixedPart client.request.taskKind.fixedSize)) := by
  have there := whole.there
  unfold frontSize at there
  rw [whole.fixed_eq, ← whole.header] at there
  rw [frontPayload, whole.fixed_eq, ← whole.header, Client.read_payload there]

/-- Every branch reads the header again, from the longer struct. -/
theorem decode_fixed (whole : Whole client) :
    SubmitRequest.decode (client.fixedPart client.request.taskKind.fixedSize) =
      client.request := by
  have there := whole.fixedThere
  rw [Client.fixedPart_eq there, SubmitRequest.decode_take (size_le_fixedSize _)
    (by rw [Client.length_received]; exact there), ← frontHeader, ← whole.header]

theorem request_eq (whole : Whole client) :
    frontRequest client.received = ⟨client.request.taskKind, client.request.priority,
      requestBody client.request.taskKind
        (client.fixedPart client.request.taskKind.fixedSize)
        (client.input.read client.request.taskKind.fixedSize
          (payloadSize client.request.taskKind
            (client.fixedPart client.request.taskKind.fixedSize)))⟩ := by
  rw [frontRequest, whole.fixed_eq, whole.payload_eq, ← whole.header]

end Whole

/-- A descriptor came with a request that takes none. -/
def Client.strayDescriptor (client : Client) (kind : RequestKind) : Bool :=
  decide (kind ≠ .registerFd) && decide (0 ≤ client.receivedFd)

/-- The verdict on a message that is all there. -/
def Verdict (client : Client) (outcome : Except Errno Client) : Prop :=
  if ((frontHeader client.received).priorityIsValid &&
      payloadAccepted (frontHeader client.received).taskKind (frontPayload client.received) &&
      !client.strayDescriptor (frontHeader client.received).taskKind) = true then
    ∃ next, outcome = .ok next ∧ MadeReady client (frontRequest client.received) next
  else ∃ errno, outcome = .error errno

section Finish

variable {client next : Client}

/-- The record of a ready request agrees with the message. -/
theorem madeReady_of (whole : Whole client)
    (reset : next.requestReady = true ∧ next.inputLen = 0 ∧
      next.expectedInput = SubmitRequest.size ∧ next.receivedFd = client.receivedFd)
    (header : next.request = client.request)
    (body : next.decodedBody = requestBody client.request.taskKind
      (client.fixedPart client.request.taskKind.fixedSize)
      (client.input.read client.request.taskKind.fixedSize
        (payloadSize client.request.taskKind
          (client.fixedPart client.request.taskKind.fixedSize))))
    (controlOp : next.controlOp = client.request.taskKind.controlOp) :
    MadeReady client (frontRequest client.received) next := by
  obtain ⟨ready, inputLen, expectedInput, receivedFd⟩ := reset
  rw [whole.request_eq]
  refine ⟨ready, ?_, controlOp, inputLen, expectedInput, receivedFd⟩
  rw [Client.decodedRequest, body, header]

/-- The length of a payload that passed the check of the fixed part. -/
theorem Whole.io_length (whole : Whole client)
    (kind : client.request.taskKind = .sockWrite ∨ client.request.taskKind = .fileWrite ∨
      client.request.taskKind = .connect) :
    (IoRequest.decode (client.fixedPart IoRequest.size)).length.toNat ≤ client.ioBytesMax := by
  have accepted := whole.accepted
  rcases kind with kind | kind | kind
  all_goals
    simp only [kind, fixedAccepted, RequestKind.fixedSize, Bool.and_eq_true,
      decide_eq_true_eq] at accepted
    exact accepted.2

/-- CANCEL spells its header out. -/
theorem CancelRequest.header_eq (bytes : List UInt8) :
    (⟨(CancelRequest.decode bytes).magic, (CancelRequest.decode bytes).versionMajor,
      (CancelRequest.decode bytes).versionMinor, (CancelRequest.decode bytes).taskKind,
      .ofWire (CancelRequest.decode bytes).reserved0,
      (CancelRequest.decode bytes).reserved1⟩ : SubmitRequest) = .decode bytes := rfl

theorem finishIo_request (client : Client) :
    (finishIo client).request = (IoRequest.decode (client.fixedPart IoRequest.size)).submit := rfl

theorem finishIo_resourceId (client : Client) :
    (finishIo client).resourceId =
      (IoRequest.decode (client.fixedPart IoRequest.size)).resource := rfl

theorem finishIo_ioLength (client : Client) :
    (finishIo client).ioLength = (IoRequest.decode (client.fixedPart IoRequest.size)).length := rfl

theorem finishIo_ioPayload (client : Client) : (finishIo client).ioPayload = client.ioPayload := rfl

theorem finishIo_receivedFd (client : Client) :
    (finishIo client).receivedFd = client.receivedFd := rfl

/-- The SOCK_READ, FILE_READ and ACCEPT branches. -/
theorem finishIo_ready (whole : Whole client)
    (kind : client.request.taskKind = .sockRead ∨ client.request.taskKind = .fileRead ∨
      client.request.taskKind = .accept) :
    MadeReady client (frontRequest client.received) (finishIo client) := by
  have header := whole.decode_fixed
  have size : client.request.taskKind.fixedSize = IoRequest.size := by
    rcases kind with kind | kind | kind <;> rw [kind] <;> rfl
  have same : (finishIo client).request = client.request := by
    rw [finishIo_request, ← header, size]
    rfl
  refine madeReady_of whole ⟨rfl, rfl, rfl, finishIo_receivedFd client⟩ same ?_ ?_
  · unfold Client.decodedBody
    rw [same, finishIo_resourceId, finishIo_ioLength, finishIo_ioPayload, size]
    rcases kind with kind | kind | kind <;> rw [kind] <;> rfl
  · rcases kind with kind | kind | kind <;> rw [kind] <;> rfl

/-- The SOCK_WRITE, FILE_WRITE and CONNECT branches. -/
theorem finishIoWithPayload_ready (whole : Whole client)
    (kind : client.request.taskKind = .sockWrite ∨ client.request.taskKind = .fileWrite ∨
      client.request.taskKind = .connect) :
    ∃ next, finishIoWithPayload client = .ok next ∧
      MadeReady client (frontRequest client.received) next := by
  have fits := whole.io_length kind
  have header := whole.decode_fixed
  unfold finishIoWithPayload
  simp only [Nat.not_lt.mpr fits, ↓reduceIte]
  have copied := client.read_copyPayload IoRequest.size
    (IoRequest.decode (client.fixedPart IoRequest.size)).length
  generalize based : client.copyPayload IoRequest.size
    (IoRequest.decode (client.fixedPart IoRequest.size)).length = base at copied
  have fixed : base.fixedPart IoRequest.size = client.fixedPart IoRequest.size := by
    rw [← based]
    rfl
  have receivedFd : base.receivedFd = client.receivedFd := by
    rw [← based]
    rfl
  have same : (finishIo base).request = client.request := by
    have size : client.request.taskKind.fixedSize = IoRequest.size := by
      rcases kind with kind | kind | kind <;> rw [kind] <;> rfl
    rw [size] at header
    rw [finishIo_request, fixed]
    exact header
  refine ⟨_, rfl, madeReady_of whole ⟨rfl, rfl, rfl, receivedFd⟩ same ?_ ?_⟩
  · unfold Client.decodedBody
    rw [same, finishIo_resourceId, finishIo_ioLength, finishIo_ioPayload, fixed, copied]
    rcases kind with kind | kind | kind <;> rw [kind] <;> rfl
  · rcases kind with kind | kind | kind <;> rw [kind] <;> rfl

/-- The OPENAT branch: the path has to end with a NUL. -/
theorem finishOpenat_verdict (whole : Whole client) (kind : client.request.taskKind = .openat) :
    if payloadAccepted .openat (client.input.read OpenatRequest.size
        (OpenatRequest.decode (client.fixedPart OpenatRequest.size)).pathLength.toNat) = true then
      ∃ next, finishOpenat client = .ok next ∧
        MadeReady client (frontRequest client.received) next
    else ∃ errno, finishOpenat client = .error errno := by
  have accepted := whole.accepted
  have header := whole.decode_fixed
  simp only [kind, fixedAccepted, RequestKind.fixedSize, Bool.and_eq_true,
    decide_eq_true_eq] at accepted header
  obtain ⟨⟨two, fits⟩, -⟩ := accepted
  have notShort :
      ¬ (OpenatRequest.decode (client.fixedPart OpenatRequest.size)).pathLength < 2 := by
    rw [UInt32.lt_iff_toNat_lt]
    exact Nat.not_lt.mpr two
  have copied := client.read_copyPayload OpenatRequest.size
    (OpenatRequest.decode (client.fixedPart OpenatRequest.size)).pathLength
  have last : (client.copyPayload OpenatRequest.size
      (OpenatRequest.decode (client.fixedPart OpenatRequest.size)).pathLength).ioPayload
        ((OpenatRequest.decode (client.fixedPart OpenatRequest.size)).pathLength.toNat - 1) = 0 ↔
      payloadAccepted .openat (client.input.read OpenatRequest.size
        (OpenatRequest.decode (client.fixedPart OpenatRequest.size)).pathLength.toNat) = true := by
    rw [← copied]
    generalize (OpenatRequest.decode (client.fixedPart OpenatRequest.size)).pathLength = length
      at two copied
    generalize (client.copyPayload OpenatRequest.size length).ioPayload = memory
    simp only [payloadAccepted, beq_iff_eq]
    have positive : length.toNat - 1 < (memory.read 0 length.toNat).length := by
      rw [Memory.length_read]
      omega
    rw [List.getLast?_eq_getElem?, Memory.length_read, List.getElem?_eq_getElem positive,
      Memory.getElem_read, Nat.zero_add, Option.some.injEq]
  unfold finishOpenat
  simp only [Nat.not_lt.mpr fits, notShort, decide_false, Bool.false_or, bne_iff_ne, ne_eq,
    ↓reduceIte, last]
  split
  · refine ⟨_, rfl, madeReady_of whole (by simp only [Client.makeReady, Client.resetInput,
      Client.copyPayload, and_self]) header ?_ ?_⟩
    · simp only [Client.decodedBody, OpenatRequest.decode] at copied ⊢
      simp only [header, kind, requestBody, RequestKind.fixedSize, payloadSize,
        Client.makeReady, Client.resetInput, copied, OpenatRequest.decode]
    · rw [kind]
      rfl
  · exact ⟨_, rfl⟩

/-- The REGISTER_BUFFER branch. -/
theorem finishRegisterBuffer_ready (whole : Whole client)
    (kind : client.request.taskKind = .registerBuffer) :
    ∃ next, finishRegisterBuffer client = .ok next ∧
      MadeReady client (frontRequest client.received) next := by
  have accepted := whole.accepted
  have header := whole.decode_fixed
  simp only [kind, fixedAccepted, RequestKind.fixedSize, Bool.and_eq_true,
    decide_eq_true_eq] at accepted header
  have copied := client.read_copyPayload RegisterBufferRequest.size
    (RegisterBufferRequest.decode (client.fixedPart RegisterBufferRequest.size)).length
  unfold finishRegisterBuffer
  simp only [Nat.not_lt.mpr accepted.2, ↓reduceIte]
  refine ⟨_, rfl, ?_⟩
  split
  · refine madeReady_of whole
      (by simp only [Client.makeReady, Client.resetInput, Client.copyPayload, and_self])
      (by simp only [Client.makeReady, Client.resetInput, Client.copyPayload]) ?_ ?_
    · simp only [Client.decodedBody, Client.copyPayload, Client.makeReady, Client.resetInput, kind,
        requestBody, payloadSize, RequestKind.fixedSize] at copied ⊢
      rw [copied]
    · rw [kind]
      rfl
  · rename_i empty
    rw [Decidable.not_not] at empty
    refine madeReady_of whole (by simp only [Client.makeReady, Client.resetInput, and_self]) rfl
      ?_ ?_
    · simp only [Client.decodedBody, Client.makeReady, Client.resetInput, kind,
        requestBody, payloadSize, RequestKind.fixedSize, empty, UInt32.toNat_zero,
        Memory.read_zero]
    · rw [kind]
      rfl

/-- `iouringd_finish_submit_request` on a message that is all there. -/
theorem finishSubmitRequest_verdict (whole : Whole client) :
    Verdict client (finishSubmitRequest client) := by
  have header := whole.decode_fixed
  unfold Verdict finishSubmitRequest
  rw [← whole.header, whole.payload_eq]
  simp only [whole.valid, Bool.not_true, Bool.false_eq_true, ↓reduceIte]
  cases priority : client.request.priorityIsValid with
  | false =>
      simp only [Bool.not_false, ↓reduceIte, Bool.false_and, Bool.false_eq_true]
      exact ⟨_, rfl⟩
  | true =>
      cases stray : client.strayDescriptor client.request.taskKind with
      | true =>
          unfold Client.strayDescriptor at stray
          simp only [stray, Bool.not_true, Bool.and_false, Bool.false_eq_true, ↓reduceIte]
          exact ⟨_, rfl⟩
      | false =>
          unfold Client.strayDescriptor at stray
          simp only [stray, Bool.not_true, Bool.not_false, Bool.and_true, Bool.true_and,
            Bool.false_eq_true, ↓reduceIte]
          cases kind : client.request.taskKind with
          | openat =>
              exact finishOpenat_verdict whole kind
          | sockWrite | fileWrite =>
              simp only [payloadAccepted, ↓reduceIte]
              exact finishIoWithPayload_ready whole (by simp only [kind, true_or, or_true])
          | connect =>
              simp only [payloadAccepted, ↓reduceIte]
              obtain ⟨next, finished, ready⟩ :=
                finishIoWithPayload_ready whole (by simp only [kind, or_true])
              rw [finished]
              have same : next.request.taskKind = .connect := by
                have decoded := congrArg Request.kind ready.decoded
                rw [whole.request_eq] at decoded
                exact decoded.trans kind
              refine ⟨_, rfl, ready.ready, ?_, ready.controlOp, ready.inputLen,
                ready.expectedInput, ready.receivedFd⟩
              rw [← ready.decoded]
              simp only [Client.decodedRequest, Client.decodedBody, same]
          | registerBuffer =>
              simp only [payloadAccepted, ↓reduceIte]
              exact finishRegisterBuffer_ready whole kind
          | sockRead | fileRead =>
              simp only [payloadAccepted, ↓reduceIte]
              exact ⟨_, rfl, finishIo_ready whole (by simp only [kind, true_or, or_true])⟩
          | accept =>
              simp only [payloadAccepted, ↓reduceIte]
              have ready := finishIo_ready whole (by simp only [kind, or_true])
              generalize finishIo client = next at ready ⊢
              have same : next.request.taskKind = .accept := by
                have decoded := congrArg Request.kind ready.decoded
                rw [whole.request_eq] at decoded
                exact decoded.trans kind
              refine ⟨_, rfl, ready.ready, ?_, ready.controlOp, ready.inputLen,
                ready.expectedInput, ready.receivedFd⟩
              rw [← ready.decoded]
              simp only [Client.decodedRequest, Client.decodedBody, same]
          | unknown raw =>
              simp only [kind, SubmitRequest.priorityIsValid, RequestKind.isTask,
                RequestKind.isControl, Bool.false_eq_true, ↓reduceIte] at priority
          | nop | registerFd | getStats =>
              simp only [payloadAccepted, ↓reduceIte]
              refine ⟨_, rfl, madeReady_of whole
                (by simp only [Client.makeReady, Client.resetInput, and_self]) rfl ?_ ?_⟩
              · simp only [Client.decodedBody, Client.makeReady, Client.resetInput, kind,
                  requestBody]
              · rw [kind]
                rfl
          | cancel =>
              simp only [kind, RequestKind.fixedSize] at header
              have sameKind : (CancelRequest.decode
                  (client.fixedPart CancelRequest.size)).taskKind = .cancel :=
                (congrArg SubmitRequest.taskKind header).trans kind
              rw [← CancelRequest.header_eq] at header
              simp only [payloadAccepted, ↓reduceIte]
              refine ⟨_, rfl, madeReady_of whole
                (by simp only [Client.makeReady, Client.resetInput, and_self]) header ?_ ?_⟩
              · simp only [Client.decodedBody, sameKind, kind, requestBody,
                  RequestKind.fixedSize]
              · rw [kind]
                rfl
          | releaseResource | getTrace =>
              simp only [payloadAccepted, ↓reduceIte]
              refine ⟨_, rfl, madeReady_of whole
                (by simp only [Client.makeReady, Client.resetInput, and_self]) rfl ?_ ?_⟩
              · simp only [Client.decodedBody, Client.makeReady, Client.resetInput, kind,
                  requestBody, RequestKind.fixedSize]
              · rw [kind]
                rfl
          | sockReadFixed | sockWriteFixed =>
              simp only [kind, RequestKind.fixedSize] at header
              simp only [payloadAccepted, ↓reduceIte]
              refine ⟨_, rfl, madeReady_of whole (by
                simp only [finishFixed, Client.makeReady, Client.resetInput, and_self])
                header ?_ ?_⟩
              · simp only [Client.decodedBody, finishFixed, FixedRequest.decode, header, kind,
                  requestBody, RequestKind.fixedSize]
              · rw [kind]
                rfl
          | timeout | poll | close =>
              simp only [kind, RequestKind.fixedSize] at header
              simp only [payloadAccepted, ↓reduceIte]
              refine ⟨_, rfl, madeReady_of whole
                (by simp only [Client.makeReady, Client.resetInput, and_self]) header ?_ ?_⟩
              · simp only [Client.decodedBody, TimeoutRequest.decode, PollRequest.decode,
                  ResourceRequest.decode, header, kind, requestBody, RequestKind.fixedSize]
              · rw [kind]
                rfl

end Finish

/-! ## Processing the input -/

/-- What the decoder does with the bytes it has, against what the grammar says of
them. -/
def Agrees (client : Client) (outcome : Except Errno Client) : Prop :=
  match parseRequest client.ioBytesMax client.received with
  | .incomplete needed =>
      ∃ request, outcome = .ok { client with expectedInput := needed, request }
  | .malformed => ∃ errno, outcome = .error errno
  | .message request _ =>
      if client.strayDescriptor request.kind = true then ∃ errno, outcome = .error errno
      else ∃ next, outcome = .ok next ∧ MadeReady client request next

section Process

variable {client : Client}

/-- The verdict on a whole message decides what the decoder does with it. -/
theorem agrees_of_verdict {expected : Nat} {outcome : Except Errno Client} {request : SubmitRequest}
    (header : request = frontHeader client.received) (valid : request.headerIsValid = true)
    (there : frontSize client.received ≤ client.inputLen)
    (accepted : fixedAccepted client.ioBytesMax request.taskKind
      (frontFixed client.received) = true)
    (verdict : Verdict { client with expectedInput := expected, request } outcome) :
    Agrees client outcome := by
  have length := client.length_received
  have headerThere : ¬ client.received.length < SubmitRequest.size := by
    have fixed := size_le_fixedSize (frontHeader client.received).taskKind
    unfold frontSize at there
    omega
  have fixedThere : ¬ client.received.length <
      (frontHeader client.received).taskKind.fixedSize := by
    unfold frontSize at there
    omega
  have whole : ¬ client.received.length < frontSize client.received := by omega
  have same : ({ client with expectedInput := expected, request } : Client).received =
    client.received := rfl
  have stray : ∀ kind, ({ client with expectedInput := expected, request } :
    Client).strayDescriptor kind = client.strayDescriptor kind := fun _ => rfl
  subst header
  unfold Verdict at verdict
  simp only [same, stray] at verdict
  unfold Agrees
  simp only [parseRequest, headerThere, valid, fixedThere, accepted, whole, Bool.not_true,
    Bool.false_eq_true, ↓reduceIte]
  cases proper : (frontHeader client.received).priorityIsValid &&
      payloadAccepted (frontHeader client.received).taskKind (frontPayload client.received) with
  | false =>
      simp only [proper, Bool.false_and, Bool.false_eq_true, ↓reduceIte] at verdict
      simp only [Bool.not_false, ↓reduceIte]
      exact verdict
  | true =>
      simp only [proper, Bool.true_and, Bool.not_eq_true'] at verdict
      simp only [Bool.not_true, Bool.false_eq_true, ↓reduceIte]
      have kind : (frontRequest client.received).kind = (frontHeader client.received).taskKind :=
        rfl
      rw [kind]
      cases strayed : client.strayDescriptor (frontHeader client.received).taskKind with
      | true =>
          simp only [strayed, Bool.true_eq_false, ↓reduceIte] at verdict
          simp only [↓reduceIte]
          exact verdict
      | false =>
          simp only [strayed, ↓reduceIte] at verdict
          obtain ⟨next, finished, ready⟩ := verdict
          simp only [Bool.false_eq_true, ↓reduceIte]
          exact ⟨next, finished, ready.ready, ready.decoded, ready.controlOp, ready.inputLen,
            ready.expectedInput, ready.receivedFd⟩

variable {request : SubmitRequest} {size : Nat}

/-- A fixed part the grammar rejects. -/
theorem agrees_of_rejected {errno : Errno} (header : request = frontHeader client.received)
    (valid : request.headerIsValid = true)
    (there : request.taskKind.fixedSize ≤ client.inputLen)
    (rejected : fixedAccepted client.ioBytesMax request.taskKind
      (frontFixed client.received) = false) :
    Agrees client (.error errno) := by
  have length := client.length_received
  have fixed := size_le_fixedSize request.taskKind
  subst header
  have headerThere : ¬ client.received.length < SubmitRequest.size := by omega
  have fixedThere : ¬ client.received.length <
      (frontHeader client.received).taskKind.fixedSize := by
    omega
  unfold Agrees
  simp only [parseRequest, headerThere, valid, fixedThere, rejected, Bool.not_true,
    Bool.not_false, Bool.false_eq_true, ↓reduceIte]
  exact ⟨errno, rfl⟩

/-- Checking a fixed part that is there. -/
theorem checked_agrees {refuses : Prop} [Decidable refuses] {errno : Errno}
    {proceed : Except Errno Client} (header : request = frontHeader client.received)
    (valid : request.headerIsValid = true)
    (there : request.taskKind.fixedSize ≤ client.inputLen)
    (exact : refuses ↔ fixedAccepted client.ioBytesMax request.taskKind
      (frontFixed client.received) = false)
    (proceeds : fixedAccepted client.ioBytesMax request.taskKind
      (frontFixed client.received) = true → Agrees client proceed) :
    Agrees client (if refuses then .error errno else proceed) := by
  split
  · rename_i refused
    exact agrees_of_rejected header valid there (exact.mp refused)
  · rename_i passed
    apply proceeds
    rw [exact, Bool.not_eq_false] at passed
    exact passed

/-- Waiting for the fixed part. -/
theorem awaitFixed_agrees {proceed : Client → Except Errno Client}
    (header : request = frontHeader client.received) (valid : request.headerIsValid = true)
    (headerThere : SubmitRequest.size ≤ client.inputLen)
    (fixed : request.taskKind.fixedSize = size)
    (proceeds : size ≤ client.inputLen →
      Agrees client (proceed { client with request, expectedInput := size })) :
    Agrees client (awaitFixed size proceed { client with request }) := by
  have length := client.length_received
  unfold awaitFixed
  dsimp only
  split
  · rename_i short
    subst fixed header
    unfold Agrees
    have long : ¬ client.received.length < SubmitRequest.size := by omega
    have fixedShort : client.received.length <
        (frontHeader client.received).taskKind.fixedSize := by
      omega
    simp only [parseRequest, long, valid, fixedShort, Bool.not_true, Bool.false_eq_true,
      ↓reduceIte]
    exact ⟨_, rfl⟩
  · rename_i long
    exact proceeds (Nat.not_lt.mp long)

/-- Finishing a message. -/
theorem finish_agrees {expected : Nat} (header : request = frontHeader client.received)
    (valid : request.headerIsValid = true)
    (there : frontSize client.received ≤ client.inputLen)
    (accepted : fixedAccepted client.ioBytesMax request.taskKind
      (frontFixed client.received) = true) :
    Agrees client (finishSubmitRequest { client with request, expectedInput := expected }) := by
  refine agrees_of_verdict header valid there accepted (finishSubmitRequest_verdict ?_)
  refine ⟨header, valid, there, ?_⟩
  have fixedThere : request.taskKind.fixedSize ≤ client.inputLen := by
    unfold frontSize at there
    rw [← header] at there
    omega
  have same : ({ client with expectedInput := expected, request } : Client).fixedPart
      request.taskKind.fixedSize = frontFixed client.received := by
    rw [frontFixed, ← header]
    exact Client.fixedPart_eq fixedThere
  rw [same]
  exact accepted

/-- Finishing a message that is only its fixed part. -/
theorem finish_fixed_agrees {expected : Nat} (header : request = frontHeader client.received)
    (valid : request.headerIsValid = true)
    (there : request.taskKind.fixedSize ≤ client.inputLen)
    (noPayload : payloadSize request.taskKind (frontFixed client.received) = 0)
    (accepted : fixedAccepted client.ioBytesMax request.taskKind
      (frontFixed client.received) = true) :
    Agrees client (finishSubmitRequest { client with request, expectedInput := expected }) := by
  refine finish_agrees header valid ?_ accepted
  unfold frontSize
  rw [← header, noPayload]
  exact there

/-- Waiting for the bytes behind the fixed part. -/
theorem awaitPayload_agrees {expected total : Nat} (header : request = frontHeader client.received)
    (valid : request.headerIsValid = true)
    (there : request.taskKind.fixedSize ≤ client.inputLen)
    (accepted : fixedAccepted client.ioBytesMax request.taskKind
      (frontFixed client.received) = true)
    (whole : total = frontSize client.received) (fits : total ≤ maxRequestBytes) :
    Agrees client (awaitPayload total { client with request, expectedInput := expected }) := by
  have length := client.length_received
  have fixed := size_le_fixedSize request.taskKind
  unfold awaitPayload
  dsimp only
  simp only [Nat.not_lt.mpr fits, ↓reduceIte]
  split
  · rename_i short
    subst header whole
    unfold Agrees
    have headerThere : ¬ client.received.length < SubmitRequest.size := by omega
    have fixedThere : ¬ client.received.length <
      (frontHeader client.received).taskKind.fixedSize := by omega
    have wholeShort : client.received.length < frontSize client.received := by omega
    simp only [parseRequest, headerThere, valid, fixedThere, accepted, wholeShort, Bool.not_true,
      Bool.false_eq_true, ↓reduceIte]
    exact ⟨_, rfl⟩
  · rename_i long
    exact finish_agrees header valid (by omega) accepted

theorem length_eq_zero (length : UInt32) : length = 0 ↔ length.toNat = 0 :=
  UInt32.toNat_inj.symm

/-- The decoder agrees with the grammar on every input. -/
theorem processSubmitInput_agrees (within : client.ioBytesMax ≤ maxIoBytes) :
    Agrees client (processSubmitInput client) := by
  have length := client.length_received
  unfold processSubmitInput
  split
  · rename_i short
    unfold Agrees
    simp only [parseRequest, length, short, ↓reduceIte]
    exact ⟨client.request, rfl⟩
  · rename_i long
    have headerThere := Nat.not_lt.mp long
    have header : SubmitRequest.decode (client.fixedPart SubmitRequest.size) =
        frontHeader client.received := by
      rw [Client.fixedPart_eq headerThere, frontHeader]
    have fixed : ∀ {size}, (frontHeader client.received).taskKind.fixedSize = size →
        size ≤ client.inputLen → client.fixedPart size = frontFixed client.received := by
      intro size same there
      rw [Client.fixedPart_eq there, frontFixed, same]
    generalize SubmitRequest.decode (client.fixedPart SubmitRequest.size) = request at header ⊢
    dsimp only
    cases valid : request.headerIsValid with
    | false =>
        simp only [Bool.not_false, ↓reduceIte]
        unfold Agrees
        simp only [parseRequest, length, long, ← header, valid, Bool.not_false, ↓reduceIte]
        exact ⟨_, rfl⟩
    | true =>
        simp only [Bool.not_true, Bool.false_eq_true, ↓reduceIte]
        rw [← header] at fixed
        cases kind : request.taskKind with
        | timeout | cancel | sockRead | fileRead | sockReadFixed | sockWriteFixed
        | releaseResource | getStats =>
            refine awaitFixed_agrees header valid headerThere (by rw [kind]; rfl) ?_
            intro there
            refine finish_fixed_agrees header valid (by rw [kind]; exact there) ?_ ?_
            · rw [kind]
              rfl
            · rw [kind]
              rfl
        | nop | registerFd =>
            have same : ({ client with request } : Client) =
              { client with request, expectedInput := client.expectedInput } := rfl
            dsimp only
            rw [same]
            refine finish_fixed_agrees header valid (by rw [kind]; exact headerThere) ?_ ?_
            · rw [kind]
              rfl
            · rw [kind]
              rfl
        | unknown raw =>
            have same : ({ client with request } : Client) =
              { client with request, expectedInput := client.expectedInput } := rfl
            dsimp only
            rw [same]
            refine finish_fixed_agrees header valid (by rw [kind]; exact headerThere) ?_ ?_
            · rw [kind]
              rfl
            · rw [kind]
              rfl
        | poll =>
            refine awaitFixed_agrees header valid headerThere (by rw [kind]; rfl) ?_
            intro there
            have size : request.taskKind.fixedSize = PollRequest.size := by rw [kind]; rfl
            have part : ({ client with request, expectedInput := PollRequest.size } :
              Client).fixedPart PollRequest.size = frontFixed client.received :=
                fixed size there
            rw [part]
            apply checked_agrees header valid (size ▸ there)
            · simp only [kind, fixedAccepted]
              rw [beq_eq_false_iff_ne]
            · intro accepted
              exact finish_fixed_agrees header valid (size ▸ there) (by rw [kind]; rfl) accepted
        | close =>
            refine awaitFixed_agrees header valid headerThere (by rw [kind]; rfl) ?_
            intro there
            have size : request.taskKind.fixedSize = ResourceRequest.size := by rw [kind]; rfl
            have part : ({ client with request, expectedInput := ResourceRequest.size } :
              Client).fixedPart ResourceRequest.size = frontFixed client.received :=
                fixed size there
            rw [part]
            apply checked_agrees header valid (size ▸ there)
            · simp only [kind, fixedAccepted]
              rw [beq_eq_false_iff_ne]
            · intro accepted
              exact finish_fixed_agrees header valid (size ▸ there) (by rw [kind]; rfl) accepted
        | getTrace =>
            refine awaitFixed_agrees header valid headerThere (by rw [kind]; rfl) ?_
            intro there
            have size : request.taskKind.fixedSize = GetTraceRequest.size := by rw [kind]; rfl
            have part : ({ client with request, expectedInput := GetTraceRequest.size } :
              Client).fixedPart GetTraceRequest.size = frontFixed client.received :=
                fixed size there
            rw [part]
            apply checked_agrees header valid (size ▸ there)
            · simp only [kind, fixedAccepted]
              grind
            · intro accepted
              exact finish_fixed_agrees header valid (size ▸ there) (by rw [kind]; rfl) accepted
        | accept =>
            refine awaitFixed_agrees header valid headerThere (by rw [kind]; rfl) ?_
            intro there
            have size : request.taskKind.fixedSize = IoRequest.size := by rw [kind]; rfl
            have part : ({ client with request, expectedInput := IoRequest.size } :
              Client).fixedPart IoRequest.size = frontFixed client.received :=
                fixed size there
            have most : maxIoBytes = 4096 := rfl
            dsimp only
            rw [part]
            apply checked_agrees header valid (size ▸ there)
            · simp only [kind, fixedAccepted]
              grind
            · intro accepted
              exact finish_fixed_agrees header valid (size ▸ there) (by rw [kind]; rfl) accepted
        | connect | sockWrite | fileWrite =>
            refine awaitFixed_agrees header valid headerThere (by rw [kind]; rfl) ?_
            intro there
            have size : request.taskKind.fixedSize = IoRequest.size := by rw [kind]; rfl
            have part : ({ client with request, expectedInput := IoRequest.size } :
              Client).fixedPart IoRequest.size = frontFixed client.received :=
                fixed size there
            have most : maxIoBytes = 4096 := rfl
            have room : maxRequestBytes = 24 + 4096 := rfl
            have bytes : IoRequest.size = 24 := rfl
            have empty := length_eq_zero (IoRequest.decode (frontFixed client.received)).length
            rw [part]
            apply checked_agrees header valid (size ▸ there)
            · simp only [kind, fixedAccepted]
              simp only [Bool.or_eq_true, decide_eq_true_eq, empty, Bool.and_eq_false_iff,
                decide_eq_false_iff_not]
              omega
            · intro accepted
              have fits := accepted
              simp only [kind, fixedAccepted, Bool.and_eq_true, decide_eq_true_eq] at fits
              refine awaitPayload_agrees header valid (size ▸ there) accepted ?_ (by omega)
              rw [frontSize, ← header, size, kind]
              rfl
        | openat =>
            refine awaitFixed_agrees header valid headerThere (by rw [kind]; rfl) ?_
            intro there
            have size : request.taskKind.fixedSize = OpenatRequest.size := by rw [kind]; rfl
            have part : ({ client with request, expectedInput := OpenatRequest.size } :
              Client).fixedPart OpenatRequest.size = frontFixed client.received :=
                fixed size there
            have two : ∀ length : UInt32, length < 2 ↔ length.toNat < 2 :=
              fun _ => UInt32.lt_iff_toNat_lt
            rw [part]
            split
            · rename_i refused
              refine agrees_of_rejected header valid (size ▸ there) ?_
              simp only [Bool.or_eq_true, decide_eq_true_eq, two] at refused
              simp only [kind, fixedAccepted, Bool.and_eq_false_iff, decide_eq_false_iff_not]
              omega
            · rename_i accepted
              simp only [Bool.or_eq_true, decide_eq_true_eq, not_or, two] at accepted
              by_cases fits : OpenatRequest.size +
                  (OpenatRequest.decode (frontFixed client.received)).pathLength.toNat ≤
                  maxRequestBytes
              · refine awaitPayload_agrees header valid (size ▸ there) ?_ ?_ fits
                · simp only [kind, fixedAccepted, Bool.and_eq_true, decide_eq_true_eq]
                  omega
                · rw [frontSize, ← header, size, kind]
                  rfl
              · -- the one kind whose longest accepted length does not fit the input buffer
                simp only [awaitPayload, Nat.not_le.mp fits, ↓reduceIte]
                refine agrees_of_rejected header valid (size ▸ there) ?_
                simp only [kind, fixedAccepted, Bool.and_eq_false_iff, decide_eq_false_iff_not]
                exact Or.inr fits
        | registerBuffer =>
            refine awaitFixed_agrees header valid headerThere (by rw [kind]; rfl) ?_
            intro there
            have size : request.taskKind.fixedSize = RegisterBufferRequest.size := by rw [kind]; rfl
            have part : ({ client with request, expectedInput := RegisterBufferRequest.size } :
              Client).fixedPart RegisterBufferRequest.size = frontFixed client.received :=
                fixed size there
            have room : maxRequestBytes = RegisterBufferRequest.size + maxIoBytes := rfl
            rw [part]
            apply checked_agrees header valid (size ▸ there)
            · simp only [kind, fixedAccepted]
              simp only [Bool.or_eq_true, decide_eq_true_eq, Bool.and_eq_false_iff,
                decide_eq_false_iff_not, beq_eq_false_iff_ne, Nat.not_le]
              exact or_comm
            · intro accepted
              have fits := accepted
              simp only [kind, fixedAccepted, Bool.and_eq_true, decide_eq_true_eq] at fits
              refine awaitPayload_agrees header valid (size ▸ there) accepted ?_ (by omega)
              rw [frontSize, ← header, size, kind]
              rfl

end Process

end Iouringd
