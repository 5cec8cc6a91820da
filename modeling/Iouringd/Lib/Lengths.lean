import Iouringd.Daemon.Invariant
import Iouringd.Lib.Requests

/-! # Advertised lengths

The daemon advertises the longest payload it takes, `io_bytes_max`, and gives every connection
an input buffer for one message. The buffer has room for that payload behind the fixed part of
a REGISTER_BUFFER request. An OPENAT request has a longer fixed part: its last four bytes are
missing.
-/

namespace Iouringd

open Foundation

/-- The kinds whose fixed part declares a payload. -/
def RequestKind.isVariable : RequestKind → Bool
  | .sockWrite | .fileWrite | .connect | .openat | .registerBuffer => true
  | _ => false

/-- The shortest payload of a kind: a path has a character and its NUL. -/
def RequestKind.leastPayload : RequestKind → Nat
  | .sockWrite | .fileWrite | .connect => 1
  | .openat => 2
  | _ => 0

/-- A well-formed request with a payload of at most `limit` bytes, whatever its size as a
whole. -/
structure Advertised (limit : Nat) (message : List UInt8) : Prop where
  kind : (frontHeader message).taskKind.isVariable = true
  header : (frontHeader message).headerIsValid = true
  priority : (frontHeader message).priorityIsValid = true
  whole : message.length = frontSize message
  least : (frontHeader message).taskKind.leastPayload ≤
    payloadSize (frontHeader message).taskKind (frontFixed message)
  most : payloadSize (frontHeader message).taskKind (frontFixed message) ≤ limit
  reserved : (frontHeader message).taskKind = .registerBuffer →
    (RegisterBufferRequest.decode (frontFixed message)).reserved2 = 0
  terminated : payloadAccepted (frontHeader message).taskKind (frontPayload message) = true

namespace Advertised

variable {limit : Nat} {message : List UInt8}

/-- The buffer is short of four bytes, for OPENAT only. -/
theorem fits_iff (advertised : Advertised limit message) (within : limit ≤ maxIoBytes) :
    frontSize message ≤ maxRequestBytes ↔ ((frontHeader message).taskKind = .openat →
      payloadSize (frontHeader message).taskKind (frontFixed message) ≤ 4092) := by
  have most := advertised.most
  have kind := advertised.kind
  have room : maxRequestBytes = 4120 := rfl
  have bytes : maxIoBytes = 4096 := rfl
  have openat : RequestKind.openat.fixedSize = 28 := rfl
  unfold frontSize
  generalize payloadSize (frontHeader message).taskKind (frontFixed message) = size at *
  by_cases path : (frontHeader message).taskKind = .openat
  · simp only [path, forall_const, openat]
    omega
  · have fixed : (frontHeader message).taskKind.fixedSize = 24 := by
      generalize (frontHeader message).taskKind = kind' at *
      cases kind' with
      | openat => exact absurd rfl path
      | sockWrite | fileWrite | connect | registerBuffer => rfl
      | _ => cases kind
    simp only [path, false_implies, iff_true, fixed]
    omega

/-- The daemon accepts its fixed part exactly when the message fits the buffer. -/
theorem fixedAccepted_iff (advertised : Advertised limit message) (within : limit ≤ maxIoBytes) :
    fixedAccepted limit (frontHeader message).taskKind (frontFixed message) = true ↔
      frontSize message ≤ maxRequestBytes := by
  rw [advertised.fits_iff within]
  have kind := advertised.kind
  have least := advertised.least
  have most := advertised.most
  have reserved := advertised.reserved
  generalize (frontHeader message).taskKind = kind' at *
  cases kind' with
  | openat =>
      have room : maxRequestBytes = 4120 := rfl
      have size : OpenatRequest.size = 28 := rfl
      simp only [payloadSize, RequestKind.leastPayload] at least most
      simp only [fixedAccepted, payloadSize, least, most, decide_true, Bool.true_and,
        decide_eq_true_eq, forall_const]
      omega
  | registerBuffer =>
      simp only [payloadSize] at most
      simp only [fixedAccepted, reserved, most, beq_self_eq_true, decide_true, Bool.and_self,
        reduceCtorEq, false_implies]
  | sockWrite | fileWrite | connect =>
      simp only [payloadSize, RequestKind.leastPayload] at least most
      simp only [fixedAccepted, least, most, decide_true, Bool.and_self, reduceCtorEq,
        false_implies]
  | _ => cases kind

/-- A message that fits is read. -/
theorem parses (advertised : Advertised limit message) (within : limit ≤ maxIoBytes)
    (fits : frontSize message ≤ maxRequestBytes) :
    parseRequest limit message = .message (frontRequest message) [] := by
  rw [parseRequest_eq_message]
  refine ⟨⟨advertised.header, (advertised.fixedAccepted_iff within).mpr fits,
    Nat.le_of_eq advertised.whole.symm, ?_⟩, rfl, ?_⟩
  · rw [advertised.priority, advertised.terminated]
    rfl
  · rw [← advertised.whole, List.drop_length]

/-- A message that does not fit is malformed. -/
theorem malformed (advertised : Advertised limit message) (within : limit ≤ maxIoBytes)
    (long : ¬ frontSize message ≤ maxRequestBytes) : parseRequest limit message = .malformed := by
  have fixed : (frontHeader message).taskKind.fixedSize ≤ message.length := by
    rw [advertised.whole]
    exact Nat.le_add_right _ _
  have header := Nat.le_trans (size_le_fixedSize _) fixed
  have refused : fixedAccepted limit (frontHeader message).taskKind
      (frontFixed message) = false := by
    rw [Bool.eq_false_iff]
    intro accepted
    exact long ((advertised.fixedAccepted_iff within).mp accepted)
  simp only [parseRequest, Nat.not_lt.mpr header, advertised.header, Nat.not_lt.mpr fixed, refused,
    Bool.not_true, Bool.not_false, Bool.false_eq_true, ↓reduceIte]

end Advertised

/-- The daemon takes the whole of `message`, which arrives in the given pieces, for the request
it is. -/
def Decodes (rt : Runtime) (index : Nat) (pieces : List (List UInt8)) (message : List UInt8) :
    Prop :=
  ∃ next progress rest,
    serviceClientReadable rt index (pieces.map fun piece => .data piece [] false) =
      .ok (next, progress, rest) ∧
    incomingBytes rest = [] ∧ (next.clients index).isActive = true ∧
    (next.clients index).requestReady = true ∧
    (next.clients index).decodedRequest = frontRequest message

section Pieces

variable {limit index : Nat} {rt : Runtime} {pieces : List (List UInt8)} {message : List UInt8}

/-- Pieces without descriptors. -/
theorem map_data_eq_arrives (pieces : List (List UInt8)) (message : List UInt8) :
    (pieces.map fun piece => RecvOutcome.data piece [] false) =
      Written.arrives ⟨message, none⟩ 0 pieces := by
  cases pieces <;> rfl

theorem proper_map_data (some : ∀ piece ∈ pieces, piece ≠ []) :
    Proper limit [] (pieces.map fun piece => RecvOutcome.data piece [] false) := by
  rw [map_data_eq_arrives pieces []]
  exact Written.arrives_proper (by decide) nofun some

theorem incomingBytes_map_data :
    incomingBytes (pieces.map fun piece => RecvOutcome.data piece [] false) = pieces.flatten := by
  rw [map_data_eq_arrives pieces []]
  exact Written.incomingBytes_arrives

theorem gapless_map_data :
    .again ∉ (pieces.map fun piece => RecvOutcome.data piece [] false) := by
  rw [map_data_eq_arrives pieces []]
  exact Written.gapless_arrives

/-- A well-formed request is decoded exactly when it fits the buffer. -/
theorem Advertised.decodes_iff (advertised : Advertised limit message) (within : limit ≤ maxIoBytes)
    (boundary : AtBoundary limit (rt.clients index)) (cut : pieces.flatten = message)
    (some : ∀ piece ∈ pieces, piece ≠ []) :
    Decodes rt index pieces message ↔ frontSize message ≤ maxRequestBytes := by
  constructor
  · intro decodes
    by_contra long
    obtain ⟨next, progress, rest, serviced, -, active, -⟩ := decodes
    obtain ⟨next', progress', rest', serviced', gone⟩ := boundary.refuses within
      (proper_map_data some) gapless_map_data (by
        rw [incomingBytes_map_data, cut]
        exact advertised.malformed within long)
    rw [serviced] at serviced'
    cases serviced'
    rw [active] at gone
    cases gone
  · intro fits
    obtain ⟨next, progress, rest, serviced, consumed, active, ready, decoded, -⟩ :=
      boundary.decodes within (proper_map_data some) gapless_map_data (by
        rw [incomingBytes_map_data, cut]
        exact advertised.parses within fits)
    exact ⟨next, progress, rest, serviced, consumed, active, ready, decoded⟩

end Pieces

/-- What OPENAT sends is well-formed. -/
theorem submitOpenatResult_advertised {limit : Nat} {fd : Fd} {path : CString}
    {openFlags : Int32} {openMode : UInt32} {written : Written}
    (wrote : submitOpenatResult fd (some path) openFlags openMode = .ok written)
    (within : path.bytes.length + 1 ≤ limit) :
    Advertised limit written.bytes ∧ (frontHeader written.bytes).taskKind = .openat ∧
      payloadSize .openat (frontFixed written.bytes) = path.bytes.length + 1 := by
  obtain ⟨chars, pathLength, same, length, least, bytes⟩ := submitOpenatResult_ok wrote
  cases same
  have fronts : Fronts .openat (i32 openFlags ++ u32 openMode ++ u32 pathLength)
      (path.bytes ++ [0]) written.bytes := by
    rw [bytes]
    apply fronts_encoded (Or.inl rfl) (by simp [RequestKind.fixedSize, OpenatRequest.size])
    rw [payloadSize, decode_openat, length, List.length_append, List.length_singleton]
  have kind : (frontHeader written.bytes).taskKind = .openat := by rw [fronts.header]
  have size : payloadSize .openat (frontFixed written.bytes) = path.bytes.length + 1 := by
    rw [fronts.fixed, payloadSize, decode_openat]
    exact length
  refine ⟨⟨?_, fronts.headerIsValid, fronts.priorityIsValid (Or.inl rfl), fronts.whole.symm, ?_,
    ?_, ?_, ?_⟩, kind, size⟩
  · rw [kind]
    rfl
  · rw [kind, size, ← length]
    exact least
  · rw [kind, size]
    exact within
  · intro other
    rw [kind] at other
    cases other
  · rw [kind, fronts.payload]
    simp [payloadAccepted]

/-- Every well-formed request within the advertised length fits the input buffer and is decoded,
but for OPENAT with a path of more than 4092 bytes. So is every path that the library sends, up
to that length. -/
theorem advertised_decoded_iff {config : Config} {rt : Runtime} {index : Nat}
    (boundary : AtBoundary config.limits.ioBytesMax (rt.clients index)) :
    (∀ message pieces, Advertised config.limits.ioBytesMax message → pieces.flatten = message →
      (∀ piece ∈ pieces, piece ≠ []) →
      ((frontSize message ≤ maxRequestBytes ∧ Decodes rt index pieces message) ↔
        ((frontHeader message).taskKind = .openat →
          payloadSize (frontHeader message).taskKind (frontFixed message) ≤ 4092))) ∧
    (∀ fd path openFlags openMode written pieces,
      submitOpenatResult fd (some path) openFlags openMode = .ok written →
      path.bytes.length + 1 ≤ config.limits.ioBytesMax → pieces.flatten = written.bytes →
      (∀ piece ∈ pieces, piece ≠ []) →
      (Decodes rt index pieces written.bytes ↔ path.bytes.length + 1 ≤ 4092)) := by
  have limits := config.ioBytesMax_le
  constructor
  · intro message pieces advertised cut some
    rw [advertised.decodes_iff limits boundary cut some, and_self]
    exact advertised.fits_iff limits
  · intro fd path openFlags openMode written pieces wrote within cut some
    obtain ⟨advertised, kind, size⟩ := submitOpenatResult_advertised wrote within
    rw [advertised.decodes_iff limits boundary cut some, advertised.fits_iff limits, kind, size]
    simp only [forall_const]

/-- A daemon with the limits it has when no option is given, and its first client. -/
theorem exists_default_boundary :
    ∃ rt, run step (Runtime.initial (.fresh .default (by decide) 2 (by decide) (by decide)))
        (joining 0 7) = .ok rt ∧ AtBoundary 4096 (rt.clients 0) := by
  have seen : ((run step (Runtime.initial (.fresh .default (by decide) 2 (by decide) (by decide)))
      (joining 0 7)).toOption.map fun rt =>
        decide ((rt.clients 0).isActive = true ∧ (rt.clients 0).phase = .submit ∧
          (rt.clients 0).requestReady = false ∧ (rt.clients 0).inputLen = 0 ∧
          (rt.clients 0).expectedInput = SubmitRequest.size ∧ (rt.clients 0).receivedFd < 0 ∧
          (rt.clients 0).ioBytesMax = 4096)) = some true := by decide +kernel
  obtain ⟨rt, ran, view⟩ := exists_of_toOption_map seen
  obtain ⟨active, submit, unready, inputLen, expected, receivedFd, limit⟩ := of_decide_eq_true view
  exact ⟨rt, ran, active, submit, unready, inputLen, expected, receivedFd, limit⟩

/-- A path of `count` times the letter `a`. -/
def CString.letters (count : Nat) : CString where
  bytes := List.replicate count 97
  unterminated := by
    rw [List.mem_replicate]
    exact fun member => absurd member.2 (by decide)

theorem submitOpenatResult_letters {count : Nat} (positive : 1 ≤ count) (bounded : count ≤ 4095) :
    ∃ written, submitOpenatResult 4 (some (.letters count)) 0 0 = .ok written := by
  have passes : (decide ((4 : Fd) < 0) ||
      (decide ((CString.letters count).bytes.length + 1 ≤ 1) ||
        decide (4096 < (CString.letters count).bytes.length + 1))) = false := by
    have length : (CString.letters count).bytes.length = count := List.length_replicate
    rw [length, Bool.or_eq_false_iff, Bool.or_eq_false_iff]
    exact ⟨by decide, decide_eq_false (by omega), decide_eq_false (by omega)⟩
  unfold submitOpenatResult
  dsimp only
  unfold checked
  rw [passes]
  exact ⟨_, rfl⟩

/-- A path of three bytes is decoded. -/
theorem advertised_decoded_short :
    ∃ rt written, run step (Runtime.initial
        (.fresh .default (by decide) 2 (by decide) (by decide))) (joining 0 7) = .ok rt ∧
      submitOpenatResult 4 (some (.letters 3)) 0 0 = .ok written ∧
      Decodes rt 0 [written.bytes] written.bytes := by
  obtain ⟨rt, ran, boundary⟩ := exists_default_boundary
  obtain ⟨written, wrote⟩ := @submitOpenatResult_letters 3 (by decide) (by decide)
  obtain ⟨-, paths⟩ := @advertised_decoded_iff
    (.fresh .default (by decide) 2 (by decide) (by decide)) rt 0 boundary
  have some : ∀ piece ∈ [written.bytes], piece ≠ [] := by
    intro piece member
    obtain ⟨chars, pathLength, -, -, -, bytes⟩ := submitOpenatResult_ok wrote
    rw [List.mem_singleton.mp member, bytes]
    exact List.append_ne_nil_of_right_ne_nil _ (List.append_ne_nil_of_right_ne_nil _ nofun)
  have decoded := paths 4 (.letters 3) 0 0 written [written.bytes] wrote (by decide)
    List.flatten_singleton some
  exact ⟨rt, written, ran, wrote, decoded.mpr (by decide)⟩

/-- A path of 4096 bytes with its NUL, which the library sends and the daemon advertises, closes
the connection. -/
theorem advertised_path_refused :
    ∃ rt written next progress rest, run step (Runtime.initial
        (.fresh .default (by decide) 2 (by decide) (by decide))) (joining 0 7) = .ok rt ∧
      submitOpenatResult 4 (some (.letters 4095)) 0 0 = .ok written ∧
      Advertised 4096 written.bytes ∧ maxRequestBytes < frontSize written.bytes ∧
      serviceClientReadable rt 0 [.data written.bytes [] false] = .ok (next, progress, rest) ∧
      (next.clients 0).isActive = false := by
  obtain ⟨rt, ran, boundary⟩ := exists_default_boundary
  obtain ⟨written, wrote⟩ := @submitOpenatResult_letters 4095 (by decide) (by decide)
  have length : (CString.letters 4095).bytes.length = 4095 := List.length_replicate
  obtain ⟨advertised, kind, size⟩ := @submitOpenatResult_advertised 4096 _ _ _ _ _ wrote
    (by rw [length])
  have long : ¬ frontSize written.bytes ≤ maxRequestBytes := by
    rw [advertised.fits_iff (Nat.le_refl _), kind, size, length]
    decide
  have some : ∀ piece ∈ [written.bytes], piece ≠ [] := by
    intro piece member empty
    rw [List.mem_singleton.mp member] at empty
    have whole := advertised.whole
    rw [empty] at whole long
    rw [← whole] at long
    exact long (Nat.zero_le _)
  obtain ⟨next, progress, rest, serviced, gone⟩ := boundary.refuses (Nat.le_refl _)
    (proper_map_data some) gapless_map_data (by
      rw [incomingBytes_map_data, List.flatten_singleton]
      exact advertised.malformed (Nat.le_refl _) long)
  exact ⟨rt, written, next, progress, rest, ran, wrote, advertised, Nat.not_le.mp long, serviced,
    gone⟩

end Iouringd
