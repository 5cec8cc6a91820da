import Iouringd.Foundation.Framing
import Iouringd.Daemon.State

/-! # The grammar of requests

What a client may send after the handshake, said once and for whole messages: a
header, the fixed part of its kind, and as many further bytes as the fixed part
declares. The daemon never parses a message in one go; this is what its incremental
decoder is compared with.
-/

namespace Iouringd

open Foundation

/-- The arguments of a request. -/
inductive RequestBody where
  | plain
  | timeout (nsec : UInt64)
  | cancel (target : TaskId)
  | transfer (resource : ResourceId) (length : UInt32)
  | payload (resource : ResourceId) (bytes : List UInt8)
  | poll (resource : ResourceId) (mask : UInt16)
  | openat (flags : Int32) (mode : UInt32) (path : List UInt8)
  | resource (resource : ResourceId)
  | fixed (file buffer : ResourceId) (length : UInt32)
  | buffer (bytes : List UInt8)
  | trace (after : UInt64) (maxEvents : UInt32)
  deriving DecidableEq, Repr

/-- A request as its sender means it. -/
structure Request where
  kind : RequestKind
  priority : Priority
  body : RequestBody
  deriving DecidableEq, Repr

/-- The size of the header and the fixed part. -/
def RequestKind.fixedSize : RequestKind → Nat
  | .timeout => TimeoutRequest.size
  | .cancel => CancelRequest.size
  | .sockRead | .fileRead | .sockWrite | .fileWrite | .connect | .accept => IoRequest.size
  | .poll => PollRequest.size
  | .openat => OpenatRequest.size
  | .close | .releaseResource => ResourceRequest.size
  | .sockReadFixed | .sockWriteFixed => FixedRequest.size
  | .registerBuffer => RegisterBufferRequest.size
  | .getTrace => GetTraceRequest.size
  | _ => SubmitRequest.size

/-- The number of bytes that follow the fixed part. -/
def payloadSize (kind : RequestKind) (fixed : List UInt8) : Nat :=
  match kind with
  | .sockWrite | .fileWrite | .connect => (IoRequest.decode fixed).length.toNat
  | .openat => (OpenatRequest.decode fixed).pathLength.toNat
  | .registerBuffer => (RegisterBufferRequest.decode fixed).length.toNat
  | _ => 0

/-- Reserved words are zero and lengths are in range. -/
def fixedAccepted (ioBytesMax : Nat) (kind : RequestKind) (fixed : List UInt8) : Bool :=
  match kind with
  | .poll => (PollRequest.decode fixed).reserved2 == 0
  | .close => (ResourceRequest.decode fixed).reserved2 == 0
  | .getTrace =>
      (GetTraceRequest.decode fixed).reserved2 == 0 &&
        decide ((GetTraceRequest.decode fixed).maxEvents.toNat ≤ traceCapacity)
  | .registerBuffer =>
      (RegisterBufferRequest.decode fixed).reserved2 == 0 &&
        decide ((RegisterBufferRequest.decode fixed).length.toNat ≤ ioBytesMax)
  | .sockWrite | .fileWrite | .connect =>
      decide (1 ≤ (IoRequest.decode fixed).length.toNat) &&
        decide ((IoRequest.decode fixed).length.toNat ≤ ioBytesMax)
  | .accept => decide ((IoRequest.decode fixed).length.toNat ≤ ioBytesMax)
  | .openat =>
      decide (2 ≤ (OpenatRequest.decode fixed).pathLength.toNat) &&
        decide ((OpenatRequest.decode fixed).pathLength.toNat ≤ ioBytesMax) &&
        decide (OpenatRequest.size + (OpenatRequest.decode fixed).pathLength.toNat ≤
          maxRequestBytes)
  | _ => true

/-- A path ends with a NUL. -/
def payloadAccepted (kind : RequestKind) (payload : List UInt8) : Bool :=
  match kind with
  | .openat => payload.getLast? == some 0
  | _ => true

/-- The arguments, from the fixed part and what follows it. -/
def requestBody (kind : RequestKind) (fixed payload : List UInt8) : RequestBody :=
  match kind with
  | .timeout => .timeout (TimeoutRequest.decode fixed).timeoutNsec
  | .cancel => .cancel (CancelRequest.decode fixed).target
  | .sockRead | .fileRead | .accept =>
      .transfer (IoRequest.decode fixed).resource (IoRequest.decode fixed).length
  | .sockWrite | .fileWrite | .connect => .payload (IoRequest.decode fixed).resource payload
  | .poll => .poll (PollRequest.decode fixed).resource (PollRequest.decode fixed).pollMask
  | .openat =>
      .openat (OpenatRequest.decode fixed).openFlags (OpenatRequest.decode fixed).openMode payload
  | .close | .releaseResource => .resource (ResourceRequest.decode fixed).resource
  | .sockReadFixed | .sockWriteFixed =>
      .fixed (FixedRequest.decode fixed).fileResource (FixedRequest.decode fixed).bufferResource
        (FixedRequest.decode fixed).length
  | .registerBuffer => .buffer payload
  | .getTrace =>
      .trace (GetTraceRequest.decode fixed).afterSequence (GetTraceRequest.decode fixed).maxEvents
  | _ => .plain

/-! ## The front of a stream -/

/-- The header at the front of a stream. -/
def frontHeader (stream : List UInt8) : SubmitRequest :=
  .decode (stream.take SubmitRequest.size)

/-- The header and fixed part at the front. -/
def frontFixed (stream : List UInt8) : List UInt8 :=
  stream.take (frontHeader stream).taskKind.fixedSize

/-- The size of the whole message at the front. -/
def frontSize (stream : List UInt8) : Nat :=
  (frontHeader stream).taskKind.fixedSize +
    payloadSize (frontHeader stream).taskKind (frontFixed stream)

/-- What follows the fixed part of the message at the front. -/
def frontPayload (stream : List UInt8) : List UInt8 :=
  (stream.drop (frontHeader stream).taskKind.fixedSize).take
    (payloadSize (frontHeader stream).taskKind (frontFixed stream))

/-- The request at the front, when it is all there. -/
def frontRequest (stream : List UInt8) : Request where
  kind := (frontHeader stream).taskKind
  priority := (frontHeader stream).priority
  body := requestBody (frontHeader stream).taskKind (frontFixed stream) (frontPayload stream)

/-- Read one request off the front of a stream. A header or fixed part that is not
acceptable is malformed as soon as it is complete; a bad priority or path once the
whole message is there. -/
def parseRequest (ioBytesMax : Nat) (stream : List UInt8) : Parsed Request UInt8 :=
  let kind := (frontHeader stream).taskKind
  if stream.length < SubmitRequest.size then .incomplete SubmitRequest.size
  else if !(frontHeader stream).headerIsValid then .malformed
  else if stream.length < kind.fixedSize then .incomplete kind.fixedSize
  else if !fixedAccepted ioBytesMax kind (frontFixed stream) then .malformed
  else if stream.length < frontSize stream then .incomplete (frontSize stream)
  else if !((frontHeader stream).priorityIsValid && payloadAccepted kind (frontPayload stream)) then
    .malformed
  else .message (frontRequest stream) (stream.drop (frontSize stream))

/-- The stream starts with a whole request that the grammar accepts. -/
structure StartsWhole (ioBytesMax : Nat) (stream : List UInt8) : Prop where
  valid : (frontHeader stream).headerIsValid = true
  accepted : fixedAccepted ioBytesMax (frontHeader stream).taskKind (frontFixed stream) = true
  whole : frontSize stream ≤ stream.length
  proper : ((frontHeader stream).priorityIsValid &&
    payloadAccepted (frontHeader stream).taskKind (frontPayload stream)) = true

theorem size_le_fixedSize (kind : RequestKind) : SubmitRequest.size ≤ kind.fixedSize := by
  cases kind with
  | unknown raw => exact Nat.le_refl _
  | _ => decide

/-- What reading a message means. -/
theorem parseRequest_eq_message {ioBytesMax : Nat} {stream rest : List UInt8} {request : Request} :
    parseRequest ioBytesMax stream = .message request rest ↔ StartsWhole ioBytesMax stream ∧
      request = frontRequest stream ∧ rest = stream.drop (frontSize stream) := by
  constructor
  · intro parsed
    unfold parseRequest at parsed
    dsimp only at parsed
    split_ifs at parsed with header valid fixed accepted payload wanted
    cases parsed
    simp only [Bool.not_eq_true', Bool.not_eq_false] at valid accepted wanted
    exact ⟨⟨valid, accepted, Nat.not_lt.mp payload, wanted⟩, rfl, rfl⟩
  · rintro ⟨⟨valid, accepted, whole, proper⟩, rfl, rfl⟩
    have fixed : (frontHeader stream).taskKind.fixedSize ≤ stream.length :=
      Nat.le_trans (Nat.le_add_right _ _) whole
    have header : SubmitRequest.size ≤ stream.length :=
      Nat.le_trans (size_le_fixedSize _) fixed
    simp only [parseRequest, Nat.not_lt.mpr header, valid, Nat.not_lt.mpr fixed, accepted,
      Nat.not_lt.mpr whole, proper, Bool.not_true, Bool.false_eq_true, ↓reduceIte]

section Append

variable {stream : List UInt8} (more : List UInt8)

theorem frontHeader_append (long : SubmitRequest.size ≤ stream.length) :
    frontHeader (stream ++ more) = frontHeader stream := by
  rw [frontHeader, List.take_append_of_le_length long, frontHeader]

theorem frontFixed_append (long : (frontHeader stream).taskKind.fixedSize ≤ stream.length) :
    frontFixed (stream ++ more) = frontFixed stream := by
  have header := frontHeader_append more (Nat.le_trans (size_le_fixedSize _) long)
  rw [frontFixed, header, List.take_append_of_le_length long, frontFixed]

theorem frontSize_append (long : (frontHeader stream).taskKind.fixedSize ≤ stream.length) :
    frontSize (stream ++ more) = frontSize stream := by
  have header := frontHeader_append more (Nat.le_trans (size_le_fixedSize _) long)
  rw [frontSize, frontFixed_append more long, header, frontSize]

theorem frontPayload_append (long : frontSize stream ≤ stream.length) :
    frontPayload (stream ++ more) = frontPayload stream := by
  unfold frontSize at long
  have fixedLong : (frontHeader stream).taskKind.fixedSize ≤ stream.length := by omega
  have header := frontHeader_append more (Nat.le_trans (size_le_fixedSize _) fixedLong)
  rw [frontPayload, frontFixed_append more fixedLong, header,
    List.drop_append_of_le_length fixedLong,
    List.take_append_of_le_length (by rw [List.length_drop]; omega), frontPayload]

theorem frontRequest_append (long : frontSize stream ≤ stream.length) :
    frontRequest (stream ++ more) = frontRequest stream := by
  have fixedLong : (frontHeader stream).taskKind.fixedSize ≤ stream.length :=
    Nat.le_trans (Nat.le_add_right _ _) long
  have header := frontHeader_append more (Nat.le_trans (size_le_fixedSize _) fixedLong)
  rw [frontRequest, header, frontFixed_append more fixedLong, frontPayload_append more long,
    frontRequest]

end Append

/-- The grammar as a framing of the byte stream. -/
def requestFraming (ioBytesMax : Nat) : Framing Request UInt8 where
  parse := parseRequest ioBytesMax
  needed_gt := by
    intro stream needed parsed
    unfold parseRequest at parsed
    dsimp only at parsed
    split_ifs at parsed <;> cases parsed <;> assumption
  incomplete_append := by
    intro stream needed more parsed short
    have total : (stream ++ more).length = stream.length + more.length := List.length_append
    unfold parseRequest at parsed
    dsimp only at parsed
    split_ifs at parsed with header valid fixed accepted payload wanted
    · cases parsed
      simp only [parseRequest, short, ↓reduceIte]
    · cases parsed
      have same := frontHeader_append more (Nat.not_lt.mp header)
      have long : ¬ (stream ++ more).length < SubmitRequest.size := by omega
      simp only [parseRequest, long, Bool.false_eq_true, ↓reduceIte, same, valid, short]
    · cases parsed
      have same := frontHeader_append more (Nat.not_lt.mp header)
      have long : ¬ (stream ++ more).length < SubmitRequest.size := by omega
      have longFixed : ¬ (stream ++ more).length < (frontHeader stream).taskKind.fixedSize := by
        omega
      simp only [parseRequest, long, Bool.false_eq_true, ↓reduceIte, same, valid, longFixed,
        frontFixed_append more (Nat.not_lt.mp fixed), accepted,
        frontSize_append more (Nat.not_lt.mp fixed), short]
  malformed_append := by
    intro stream more parsed
    have total : (stream ++ more).length = stream.length + more.length := List.length_append
    unfold parseRequest at parsed
    dsimp only at parsed
    split_ifs at parsed with header valid fixed accepted payload wanted
    · have long : ¬ (stream ++ more).length < SubmitRequest.size := by omega
      simp only [parseRequest, long, ↓reduceIte,
        frontHeader_append more (Nat.not_lt.mp header), valid]
    · have long : ¬ (stream ++ more).length < SubmitRequest.size := by omega
      have longFixed : ¬ (stream ++ more).length < (frontHeader stream).taskKind.fixedSize := by
        omega
      simp only [parseRequest, long, Bool.false_eq_true, ↓reduceIte,
        frontHeader_append more (Nat.not_lt.mp header), valid, longFixed,
        frontFixed_append more (Nat.not_lt.mp fixed), accepted]
    · have long : ¬ (stream ++ more).length < SubmitRequest.size := by omega
      have longFixed : ¬ (stream ++ more).length < (frontHeader stream).taskKind.fixedSize := by
        omega
      have whole : ¬ (stream ++ more).length < frontSize stream := by omega
      simp only [parseRequest, long, Bool.false_eq_true, ↓reduceIte,
        frontHeader_append more (Nat.not_lt.mp header), valid, longFixed,
        frontFixed_append more (Nat.not_lt.mp fixed), accepted,
        frontSize_append more (Nat.not_lt.mp fixed), whole,
        frontPayload_append more (Nat.not_lt.mp payload), wanted]
  message_append := by
    intro stream message rest more parsed
    have total : (stream ++ more).length = stream.length + more.length := List.length_append
    unfold parseRequest at parsed
    dsimp only at parsed
    split_ifs at parsed with header valid fixed accepted payload wanted
    cases parsed
    have long : ¬ (stream ++ more).length < SubmitRequest.size := by omega
    have longFixed : ¬ (stream ++ more).length < (frontHeader stream).taskKind.fixedSize := by
      omega
    have whole : ¬ (stream ++ more).length < frontSize stream := by omega
    simp only [parseRequest, long, Bool.false_eq_true, ↓reduceIte,
      frontHeader_append more (Nat.not_lt.mp header), valid, longFixed,
      frontFixed_append more (Nat.not_lt.mp fixed), accepted,
      frontSize_append more (Nat.not_lt.mp fixed), whole,
      frontPayload_append more (Nat.not_lt.mp payload), wanted,
      frontRequest_append more (Nat.not_lt.mp payload),
      List.drop_append_of_le_length (Nat.not_lt.mp payload)]
  message_shorter := by
    intro stream message rest parsed
    unfold parseRequest at parsed
    dsimp only at parsed
    split_ifs at parsed with header valid fixed accepted payload wanted
    cases parsed
    have positive : SubmitRequest.size ≤ frontSize stream :=
      Nat.le_trans (size_le_fixedSize _) (Nat.le_add_right _ _)
    have sixteen : SubmitRequest.size = 16 := rfl
    rw [List.length_drop]
    omega

end Iouringd
