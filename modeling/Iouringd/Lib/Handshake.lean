import Iouringd.Daemon.Accounting
import Iouringd.Daemon.StepEffects

/-! # The handshake of the client library

`iouringd_client_handshake_fd` checks the answer of the daemon in a dozen ways. Most of
the fields are fixed when the daemon starts; the credits are those left at the moment of
the answer.
-/

namespace Iouringd

open Foundation

/-- The request `iouringd_client_handshake_fd` sends. -/
def clientHandshakeRequest : HandshakeRequest :=
  ⟨wireMagic, protocolMajor, protocolMinor, abiMajor, abiMinor, 0⟩

/-- The two capabilities that need registered buffers. -/
def capabilityOpFixed : UInt32 := (1 : UInt32) <<< 5 ||| (1 : UInt32) <<< 6

/-- The first check of `iouringd_client_handshake_fd`. -/
def handshakeInvalid (result : HandshakeResult) : Bool :=
  result.magic ≠ wireMagic || result.versionMajor ≠ protocolMajor ||
    result.versionMinor ≠ protocolMinor || result.abiMajor ≠ abiMajor ||
    result.abiMinor ≠ abiMinor || result.reserved ≠ 0 || result.status ≠ handshakeAccept ||
    result.capabilities.structSize ≠ 36 || result.capabilities.ringEntries = 0 ||
    result.capabilities.cqEntries = 0 || result.capabilities.opMask = 0 ||
    result.capabilities.opMask &&& ~~~capabilityOpMask ≠ 0 ||
    result.capabilities.submitCredits = 0 ||
    decide (result.capabilities.ringEntries < result.capabilities.submitCredits) ||
    result.capabilities.registeredFdSlots = 0 || result.capabilities.ioBytesMax = 0

/-- The second check: fixed reads and writes without buffers. -/
def handshakeLacksBuffers (result : HandshakeResult) : Bool :=
  result.capabilities.opMask &&& capabilityOpFixed ≠ 0 &&
    result.capabilities.registeredBufferSlots = 0

/-- `iouringd_client_handshake_fd` once its request is sent, on a connection from which
`received` can be read. -/
def clientHandshakeFd (received : List UInt8) : Except Errno HandshakeResult :=
  if received.length < HandshakeResult.size then .error EPIPE
  else
    let result := HandshakeResult.decode received
    if handshakeInvalid result then .error EPROTO
    else if handshakeLacksBuffers result then .error EPROTO
    else .ok result

/-! ## What the ring reports -/

/-- The part of `struct io_uring_params` that ends up in the capabilities. -/
structure RingParams where
  sqEntries : UInt32
  cqEntries : UInt32
  features : UInt32
  deriving DecidableEq, Repr

/-- The end of `iouringd_ring_init`. -/
def ringCapabilities (params : RingParams) (opMask : UInt32) : Capabilities :=
  { Capabilities.zero with
    structSize := 36
    features := params.features
    ringEntries := params.sqEntries
    cqEntries := params.cqEntries
    opMask
    submitCredits := if 1 < params.sqEntries then params.sqEntries - 1 else 0 }

/-- The daemon was started on a ring that reports what it is: as many entries as the
mapped submission queue has, a completion queue, and operations this version knows. -/
structure Reports (config : Config) (params : RingParams) (opMask : UInt32) : Prop where
  capabilities : config.capabilities = ringCapabilities params opMask
  entries : params.sqEntries = config.ring.sqRingEntries
  completions : params.cqEntries ≠ 0
  operations : opMask ≠ 0
  known : opMask &&& ~~~capabilityOpMask = 0

section Constants

variable {config : Config} {rt next : Runtime} {action : Action}

/-- The capabilities are set before the loop starts. -/
theorem StepEffect.capabilities (effect : StepEffect rt action next) :
    next.capabilities = rt.capabilities := by
  cases effect with
  | dispatched index env middle bytes _ connected ready change answered =>
      have same : next.capabilities = middle.capabilities := by rw [answered]
      rw [same]
      cases change with
      | accepted taskIndex started credits type admitted start => rw [start.countAccepted_eq]
      | fileReleased slot ring result operation found idle updated =>
          unfold clearFileSlot
          dsimp only
          split <;> rfl
      | refused _ errno credits type rolledBack => rw [rolledBack.frame]
      | _ => rfl
  | served index incoming _ connected only served => rw [only.frame]
  | flushed index writes _ connected only flushed => rw [only.frame]
  | disconnected index connected =>
      have only : OnlyClient rt index (closeClient rt index) := .closeClient
      rw [only.frame]
  | completed _ taskIndex res ring _ occupied source completed => rw [completed.frame]
  | swept updates _ swept slots => rw [swept.frame]
  | stored store => cases store <;> rfl
  | _ => rfl

theorem Reachable.capabilities (reachable : Reachable config rt) :
    rt.capabilities = (Runtime.initial config).capabilities := by
  refine (@Reachable.induct config rt (fun state => Invariant config state ∧
    state.capabilities = (Runtime.initial config).capabilities) reachable
      ⟨.initial config, rfl⟩ ?_).2
  intro before action after holds taken
  exact ⟨holds.1.stepped taken,
    (step_effect holds.1.grounded taken).capabilities.trans holds.2⟩

end Constants

/-! ## Agreement -/

/-- The answer to a handshake request is one the client takes, if it is an acceptance,
and it is an acceptance exactly for the request the client sends. -/
structure HandshakeAgrees (rt : Runtime) (request : HandshakeRequest) : Prop where
  taken : (handshakeResult rt (handshakeRefused request)).status = handshakeAccept →
    clientHandshakeFd (handshakeResult rt (handshakeRefused request)).encode =
      .ok (handshakeResult rt (handshakeRefused request))
  exact : (handshakeResult rt (handshakeRefused request)).status = handshakeAccept ↔
    request = clientHandshakeRequest

section Agreement

variable {config : Config} {params : RingParams} {opMask : UInt32} {rt : Runtime}

theorem handshakeRefused_eq_false {request : HandshakeRequest} :
    handshakeRefused request = false ↔ request = clientHandshakeRequest := by
  obtain ⟨magic, major, minor, abiMajor, abiMinor, reserved⟩ := request
  simp only [handshakeRefused, clientHandshakeRequest, ne_eq, decide_not, Bool.or_eq_false_iff,
    Bool.not_eq_false', decide_eq_true_eq, HandshakeRequest.mk.injEq, and_assoc]

/-- A request is accepted exactly if it is the client's. -/
theorem handshakeResult_status (rt : Runtime) (request : HandshakeRequest) :
    (handshakeResult rt (handshakeRefused request)).status = handshakeAccept ↔
      request = clientHandshakeRequest := by
  rw [← handshakeRefused_eq_false]
  cases handshakeRefused request with
  | true =>
      refine ⟨fun status => ?_, nofun⟩
      change handshakeReject = handshakeAccept at status
      exact absurd status (by decide)
  | false => exact ⟨fun _ => rfl, fun _ => rfl⟩

theorem queueHandshakeResult_queues {next : Runtime} {index : Nat} {request : HandshakeRequest}
    (queued : queueHandshakeResult rt index request = .ok next) :
    (next.clients index).pendingOutput = (rt.clients index).pendingOutput ++
      (handshakeResult rt (handshakeRefused request)).encode := by
  unfold queueHandshakeResult at queued
  obtain ⟨answered, taken, done⟩ := bind_ok queued
  cases done
  rw [Runtime.clients_setClient, Runtime.queue_ok taken, Runtime.clients_setClient,
    Runtime.clients_setClient]
  change (if handshakeRefused request then _ else _ : Client).pendingOutput ++ _ = _
  split <;> rfl

/-- Small numbers that are not 0 stay so in 32 bits. -/
theorem UInt32.ofNat_ne_zero {value : Nat} (positive : value ≠ 0) (small : value ≤ 65536) :
    UInt32.ofNat value ≠ 0 := by
  intro zero
  have same := congrArg UInt32.toNat zero
  rw [UInt32.toNat_ofNat', Nat.mod_eq_of_lt (by omega)] at same
  exact positive same

/-- The limits of a configuration that was accepted are positive and small. -/
theorem Config.limits_positive (config : Config) :
    (config.limits.registeredFdsPerClient ≠ 0 ∧ config.limits.registeredFdsPerClient ≤ 65536) ∧
    (config.limits.registeredBuffersPerClient ≠ 0 ∧
      config.limits.registeredBuffersPerClient ≤ 65536) ∧
    config.limits.ioBytesMax ≠ 0 ∧ config.limits.ioBytesMax ≤ 65536 := by
  have accepted := config.accepted
  unfold Limits.accepted at accepted
  simp only [Bool.not_eq_true', Bool.or_eq_false_iff, decide_eq_false_iff_not,
    beq_eq_false_iff_ne] at accepted
  have files : maxRegisteredFds = 32 := rfl
  have buffers : maxRegisteredBuffers = 4 := rfl
  have bytes : maxIoBytes = 4096 := rfl
  omega

/-- Everything in an acceptance but the credits passes the client's checks. -/
theorem Reports.handshakeInvalid_eq (reports : Reports config params opMask)
    (reachable : Reachable config rt) :
    handshakeInvalid (handshakeResult rt false) = decide (rt.availableCredits = 0) ∧
      handshakeLacksBuffers (handshakeResult rt false) = false := by
  have invariant := reachable.invariant
  obtain ⟨⟨files, filesSmall⟩, ⟨buffers, buffersSmall⟩, bytes, bytesSmall⟩ := config.limits_positive
  have capabilities : rt.capabilities = { ringCapabilities params opMask with
      submitCredits := UInt32.ofNat config.taskCapacity
      registeredFdSlots := UInt32.ofNat config.limits.registeredFdsPerClient
      registeredBufferSlots := UInt32.ofNat config.limits.registeredBuffersPerClient
      ioBytesMax := UInt32.ofNat config.limits.ioBytesMax } := by
    rw [reachable.capabilities, ← reports.capabilities]
    rfl
  have entries : params.sqEntries.toNat = rt.ringCapacity := by
    rw [invariant.ringCapacity, reports.entries]
    rfl
  have capacity := invariant.taskCapacity_lt
  have credits := invariant.availableCredits_eq.2
  have some : params.sqEntries ≠ 0 := by
    intro zero
    rw [zero] at entries
    change 0 = _ at entries
    omega
  have enough : ¬ params.sqEntries < rt.availableCredits := by
    rw [UInt32.lt_iff_toNat_lt, entries, credits]
    omega
  constructor
  · simp only [handshakeInvalid, handshakeResult, capabilities, ringCapabilities, Capabilities.zero,
      some, enough, reports.completions, reports.operations, reports.known,
      UInt32.ofNat_ne_zero files filesSmall, UInt32.ofNat_ne_zero bytes bytesSmall, ne_eq,
      not_true_eq_false, decide_false, Bool.false_eq_true, ↓reduceIte, Bool.or_false,
      Bool.false_or]
  · simp only [handshakeLacksBuffers, handshakeResult, capabilities,
      UInt32.ofNat_ne_zero buffers buffersSmall, decide_false, Bool.false_eq_true, ↓reduceIte,
      Bool.and_false]

/-- An acceptance is taken by the client exactly while a credit is left. -/
theorem Reports.clientHandshakeFd_eq (reports : Reports config params opMask)
    (reachable : Reachable config rt) :
    clientHandshakeFd (handshakeResult rt false).encode =
      if rt.outstandingCreditTasks < rt.taskCapacity then .ok (handshakeResult rt false)
      else .error EPROTO := by
  obtain ⟨invalid, buffers⟩ := reports.handshakeInvalid_eq reachable
  obtain ⟨used, credits⟩ := reachable.invariant.availableCredits_eq
  have none : rt.availableCredits = 0 ↔ ¬ rt.outstandingCreditTasks < rt.taskCapacity := by
    rw [← UInt32.toNat_inj, credits]
    change _ = 0 ↔ _
    omega
  unfold clientHandshakeFd
  rw [HandshakeResult.length_encode, if_neg (Nat.lt_irrefl _)]
  simp only [HandshakeResult.decode_encode, invalid, buffers, none, decide_eq_true_eq,
    Bool.false_eq_true, ↓reduceIte, ite_not]

/-- In every reachable state of a daemon on a ring that reports its size and operations,
what a handshake queues and the client's checks agree for every request exactly if the
tasks in flight have not used up the credits. -/
theorem handshake_agrees_iff (reports : Reports config params opMask)
    (reachable : Reachable config rt) :
    (∀ index request next, queueHandshakeResult rt index request = .ok next →
      (next.clients index).pendingOutput = (rt.clients index).pendingOutput ++
        (handshakeResult rt (handshakeRefused request)).encode) ∧
    ((∀ request, HandshakeAgrees rt request) ↔ rt.outstandingCreditTasks < rt.taskCapacity) := by
  refine ⟨fun index request next => queueHandshakeResult_queues, ?_⟩
  have client := reports.clientHandshakeFd_eq reachable
  have accepts : handshakeRefused clientHandshakeRequest = false :=
    handshakeRefused_eq_false.mpr rfl
  constructor
  · intro agrees
    have taken := (agrees clientHandshakeRequest).taken
      ((handshakeResult_status rt _).mpr rfl)
    rw [accepts, client] at taken
    by_contra full
    rw [if_neg full] at taken
    cases taken
  · intro left request
    refine ⟨?_, handshakeResult_status rt request⟩
    intro status
    have same := (handshakeResult_status rt request).mp status
    subst same
    rw [accepts, client, if_pos left]

end Agreement

/-- A daemon on a ring of two entries that reports itself. -/
def Config.reporting : Config :=
  { Config.smallest with
    capabilities := ringCapabilities ⟨2, 4, 0⟩ capabilityOpMask }

theorem Config.reporting_reports : Reports .reporting ⟨2, 4, 0⟩ capabilityOpMask :=
  ⟨rfl, rfl, by decide, by decide, by decide⟩

/-- While nothing is in flight the client takes the answer. -/
theorem handshake_agrees_iff_idle :
    ∃ rt, Reachable .reporting rt ∧ rt.outstandingCreditTasks < rt.taskCapacity ∧
      ∀ request, HandshakeAgrees rt request := by
  have reachable : Reachable .reporting (Runtime.initial .reporting) := ⟨[], rfl⟩
  have left : (Runtime.initial .reporting).outstandingCreditTasks <
      (Runtime.initial .reporting).taskCapacity := by decide
  exact ⟨_, reachable, left,
    (handshake_agrees_iff Config.reporting_reports reachable).2.mpr left⟩

/-- A client has a TIMEOUT in flight. -/
def timeoutInFlight : List Action :=
  joining 0 5 ++ requesting 0 (TimeoutRequest.encode ⟨requestHeader .timeout, 1000⟩) .smooth

/-- With one TIMEOUT in flight on a ring of two entries the next client is answered
ACCEPT with no credits, which its own library refuses. -/
theorem handshake_refused_by_client :
    ∃ rt, run step (Runtime.initial .reporting) timeoutInFlight = .ok rt ∧
      (handshakeResult rt (handshakeRefused clientHandshakeRequest)).status = handshakeAccept ∧
      clientHandshakeFd
        (handshakeResult rt (handshakeRefused clientHandshakeRequest)).encode = .error EPROTO := by
  have seen : ((run step (Runtime.initial .reporting) timeoutInFlight).toOption.map fun rt =>
      (handshakeResult rt (handshakeRefused clientHandshakeRequest)).capabilities) =
        some ⟨36, 0, 2, 4, 4095, 0, 1, 1, 16⟩ := by decide +kernel
  obtain ⟨rt, ran, capabilities⟩ := exists_of_toOption_map seen
  refine ⟨rt, ran, rfl, ?_⟩
  have refused : handshakeInvalid
      (handshakeResult rt (handshakeRefused clientHandshakeRequest)) = true := by
    simp only [handshakeInvalid, capabilities, decide_true, Bool.or_true, Bool.true_or]
  unfold clientHandshakeFd
  rw [HandshakeResult.length_encode, if_neg (Nat.lt_irrefl _)]
  simp only [HandshakeResult.decode_encode, refused, ↓reduceIte]

end Iouringd
