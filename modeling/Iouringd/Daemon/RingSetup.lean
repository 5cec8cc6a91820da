import Iouringd.Foundation.Lease
import Iouringd.Lib.Handshake

/-! # Setting up the ring

`iouringd_ring_init`, `iouringd_ring_cleanup` and the two registrations of
`src/daemon/submit.c`. The set-up maps three areas of the ring and probes the kernel; each way
to fail undoes by hand what was done before it. Every call notes what it takes from the kernel
and what it gives back.
-/

namespace Iouringd

open Foundation

def EPERM : Errno := 1
def ENOSYS : Errno := 38

/-- What the start-up holds of the kernel and of the heap. -/
inductive Held where
  | descriptor (fd : Fd)
  | mapping (address size : Nat)
  | block (address size : Nat)
  deriving DecidableEq, Repr

/-! ## What the kernel tells -/

/-- `struct io_sqring_offsets`. -/
structure SqOffsets where
  head : UInt32
  tail : UInt32
  ringMask : UInt32
  ringEntries : UInt32
  array : UInt32
  deriving DecidableEq, Repr

/-- `struct io_cqring_offsets`. -/
structure CqOffsets where
  head : UInt32
  tail : UInt32
  ringMask : UInt32
  cqes : UInt32
  deriving DecidableEq, Repr

/-- `struct io_uring_params` as `io_uring_setup` fills it in. -/
structure SetupParams extends RingParams where
  sqOff : SqOffsets
  cqOff : CqOffsets
  deriving DecidableEq, Repr

/-- `IORING_FEAT_SINGLE_MMAP`. -/
def SetupParams.singleMmap (params : SetupParams) : Bool := params.features &&& 1 ≠ 0

/-- `struct io_uring_probe_op`. -/
structure ProbeOp where
  op : UInt8
  flags : UInt16
  deriving DecidableEq, Repr

/-- The values of `IOURINGD_TEST_FAULT` that mean something to the set-up. -/
inductive TestFault where
  | setupEnosys | setupEperm | probeEperm
  deriving DecidableEq, Repr

/-- What the calls of the set-up find. `singleIssuer` says whether the headers define
`IORING_SETUP_SINGLE_ISSUER`. -/
structure SetupEnv where
  fault : Option TestFault
  singleIssuer : Bool
  setup : UInt32 → Except Errno (Fd × SetupParams)
  mapSqRing : Except Errno Nat
  mapCqRing : Except Errno Nat
  mapSqes : Except Errno Nat
  mapProbe : Except Errno Nat
  probe : Except Errno (List ProbeOp)

/-- The kernel returns descriptors, and does not map two areas to one address. -/
structure SetupEnv.Sound (env : SetupEnv) : Prop where
  descriptor : ∀ flags fd params, env.setup flags = .ok (fd, params) → 0 ≤ fd
  apart : ∀ sqRing cqRing, env.mapSqRing = .ok sqRing → env.mapCqRing = .ok cqRing →
    cqRing ≠ sqRing

/-! ## The handle -/

/-- `struct iouringd_ring`. A null pointer is `none`. -/
structure RingHandle where
  ringFd : Fd
  setupFlags : UInt32
  registeredFilesCount : Nat
  registeredBuffersCount : Nat
  sqRingPtr : Option Nat
  cqRingPtr : Option Nat
  sqes : Option Nat
  sqRingSize : Nat
  cqRingSize : Nat
  sqesSize : Nat
  sqHead : Nat
  sqTail : Nat
  sqRingMask : Nat
  sqRingEntries : Nat
  sqArray : Nat
  cqHead : Nat
  cqTail : Nat
  cqRingMask : Nat
  cqes : Nat
  deriving DecidableEq, Repr

namespace RingHandle

/-- The handle as `iouringd_ring_init` clears it. -/
def cleared : RingHandle :=
  ⟨-1, 0, 0, 0, none, none, none, 0, 0, 0, 0, 0, 0, 0, 0, 0, 0, 0, 0⟩

/-- The mapping of the completion ring, when it has one of its own. -/
def ownCqRing (ring : RingHandle) : List Held :=
  if ring.cqRingPtr ≠ ring.sqRingPtr then
    (ring.cqRingPtr.map (Held.mapping · ring.cqRingSize)).toList
  else []

/-- What a handle holds. -/
def holds (ring : RingHandle) : List Held :=
  (ring.sqes.map (Held.mapping · ring.sqesSize)).toList ++ ring.ownCqRing ++
    (ring.sqRingPtr.map (Held.mapping · ring.sqRingSize)).toList ++
    (if 0 ≤ ring.ringFd then [.descriptor ring.ringFd] else [])

end RingHandle

/-- `iouringd_ring_cleanup`. -/
def ringCleanup (ring : RingHandle) : RingHandle × List (Lease Held) :=
  ({ ring with
      sqes := none
      cqRingPtr := none
      sqRingPtr := none
      ringFd := if 0 ≤ ring.ringFd then -1 else ring.ringFd },
    ((ring.sqes.map (Held.mapping · ring.sqesSize)).toList.map .give) ++
      (if ring.cqRingPtr ≠ none ∧ ring.cqRingPtr ≠ ring.sqRingPtr then
        (ring.cqRingPtr.map (Held.mapping · ring.cqRingSize)).toList.map .give else []) ++
      ((ring.sqRingPtr.map (Held.mapping · ring.sqRingSize)).toList.map .give) ++
      (if 0 ≤ ring.ringFd then [.give (.descriptor ring.ringFd)] else []))

/-! ## Opening the ring -/

/-- `ring_setup_with_flags`. -/
def ringSetupWithFlags (env : SetupEnv) (flags : UInt32) : Except Errno (Fd × SetupParams) :=
  if env.fault = some .setupEnosys then .error ENOSYS
  else if env.fault = some .setupEperm then .error EPERM
  else env.setup flags

/-- The loop of `ring_setup_best_effort` over the flags it tries. -/
def ringSetupAttempts (env : SetupEnv) : List UInt32 → Except Errno (Fd × SetupParams × UInt32)
  | [] => .error EINVAL
  | flags :: rest =>
      match ringSetupWithFlags env flags with
      | .ok (fd, params) => .ok (fd, params, flags)
      | .error errno =>
          if errno ≠ EINVAL || rest.isEmpty then .error errno else ringSetupAttempts env rest

/-- `ring_setup_best_effort`; `IORING_SETUP_SINGLE_ISSUER` is `1 << 12`. -/
def ringSetupBestEffort (env : SetupEnv) : Except Errno (Fd × SetupParams × UInt32) :=
  ringSetupAttempts env ((if env.singleIssuer then [(1 : UInt32) <<< 12] else []) ++ [0])

/-! ## Probing the kernel -/

/-- The `IORING_OP_*` numbers. -/
def Opcode.code : Opcode → UInt8
  | .nop => 0
  | .readv => 1
  | .writev => 2
  | .readFixed => 4
  | .writeFixed => 5
  | .pollAdd => 6
  | .timeout => 11
  | .accept => 13
  | .asyncCancel => 14
  | .connect => 16
  | .openat => 18
  | .close => 19

/-- `opcode_supported`; `IO_URING_OP_SUPPORTED` is 1. -/
def opcodeSupported (opcode : UInt8) : List ProbeOp → Bool
  | [] => false
  | entry :: rest =>
      if entry.op ≠ opcode then opcodeSupported opcode rest
      else if entry.flags &&& 1 ≠ 0 then true
      else false

/-- `IOURINGD_CAPABILITY_OP_*`. -/
def Opcode.capabilityBit : Opcode → UInt32
  | .nop => 1
  | .timeout => (1 : UInt32) <<< 1
  | .readv => (1 : UInt32) <<< 2
  | .writev => (1 : UInt32) <<< 3
  | .asyncCancel => (1 : UInt32) <<< 4
  | .readFixed => (1 : UInt32) <<< 5
  | .writeFixed => (1 : UInt32) <<< 6
  | .pollAdd => (1 : UInt32) <<< 7
  | .connect => (1 : UInt32) <<< 8
  | .accept => (1 : UInt32) <<< 9
  | .openat => (1 : UInt32) <<< 10
  | .close => (1 : UInt32) <<< 11

/-- The operations `iouringd_ring_init` asks for, in its order. -/
def probedOperations : List Opcode :=
  [.nop, .timeout, .readv, .writev, .asyncCancel, .readFixed, .writeFixed, .pollAdd, .connect,
    .accept, .openat, .close]

/-- `supported_submit_mask`. -/
def supportedSubmitMask (opMask : UInt32) : UInt32 := opMask &&& capabilityOpMask

/-- The mask `iouringd_ring_init` collects from a probe. -/
def probedMask (probe : List ProbeOp) : UInt32 :=
  supportedSubmitMask (probedOperations.foldl (fun opMask opcode =>
    if opcodeSupported opcode.code probe then opMask ||| opcode.capabilityBit else opMask) 0)

/-! ## `iouringd_ring_init` -/

/-- How a set-up ended: the handle, what it took and gave back, and the capabilities when they
were asked for. -/
structure SetupResult where
  ring : RingHandle
  log : List (Lease Held)
  outcome : Except Errno (Option Capabilities)

/-- The set-up went on behind these entries of the log. -/
def SetupResult.behind (result : SetupResult) (log : List (Lease Held)) : SetupResult :=
  { result with log := log ++ result.log }

/-- The last part, which asks the kernel for its operations. -/
def ringProbe (ring : RingHandle) (params : SetupParams) (env : SetupEnv) : SetupResult :=
  match env.mapProbe with
  | .error errno => ⟨(ringCleanup ring).1, (ringCleanup ring).2, .error errno⟩
  | .ok address =>
      -- `sizeof(struct io_uring_probe)` and 256 entries of 8 bytes
      let probe := Held.mapping address (16 + 256 * 8)
      let undone := (ringCleanup ring).2
      if env.fault = some .probeEperm then
        ⟨(ringCleanup ring).1, .take probe :: .give probe :: undone, .error EPERM⟩
      else
        match env.probe with
        | .error errno =>
            ⟨(ringCleanup ring).1, .take probe :: .give probe :: undone, .error errno⟩
        | .ok operations =>
            let opMask := probedMask operations
            if opMask = 0 then
              ⟨(ringCleanup ring).1, .take probe :: .give probe :: undone, .error ENOTSUP⟩
            else
              ⟨ring, [.take probe, .give probe],
                .ok (some (ringCapabilities params.toRingParams opMask))⟩

/-- The pointers into the two rings. -/
def ringPointers (ring : RingHandle) (params : SetupParams) (sqRing cqRing : Nat) : RingHandle :=
  { ring with
    sqHead := sqRing + params.sqOff.head.toNat
    sqTail := sqRing + params.sqOff.tail.toNat
    sqRingMask := sqRing + params.sqOff.ringMask.toNat
    sqRingEntries := sqRing + params.sqOff.ringEntries.toNat
    sqArray := sqRing + params.sqOff.array.toNat
    cqHead := cqRing + params.cqOff.head.toNat
    cqTail := cqRing + params.cqOff.tail.toNat
    cqRingMask := cqRing + params.cqOff.ringMask.toNat
    cqes := cqRing + params.cqOff.cqes.toNat }

/-- Mapping the submission entries, with both rings mapped. -/
def ringMapSqes (ring : RingHandle) (params : SetupParams) (sqRing cqRing : Nat) (wanted : Bool)
    (env : SetupEnv) : SetupResult :=
  match env.mapSqes with
  | .error errno =>
      ⟨{ ring with sqes := none, sqRingPtr := none, cqRingPtr := none, ringFd := -1 },
        (if cqRing ≠ sqRing then [.give (.mapping cqRing ring.cqRingSize)] else []) ++
          [.give (.mapping sqRing ring.sqRingSize), .give (.descriptor ring.ringFd)],
        .error errno⟩
  | .ok address =>
      let ring := ringPointers { ring with sqes := some address } params sqRing cqRing
      (if wanted then ringProbe ring params env else ⟨ring, [], .ok none⟩).behind
        [.take (.mapping address ring.sqesSize)]

/-- Mapping the completion ring, with the submission ring mapped. -/
def ringMapCqRing (ring : RingHandle) (params : SetupParams) (sqRing : Nat) (wanted : Bool)
    (env : SetupEnv) : SetupResult :=
  if params.singleMmap then
    ringMapSqes { ring with cqRingPtr := some sqRing } params sqRing sqRing wanted env
  else
    match env.mapCqRing with
    | .error errno =>
        ⟨{ ring with sqRingPtr := none, cqRingPtr := none, ringFd := -1 },
          [.give (.mapping sqRing ring.sqRingSize), .give (.descriptor ring.ringFd)],
          .error errno⟩
    | .ok cqRing =>
        (ringMapSqes { ring with cqRingPtr := some cqRing } params sqRing cqRing wanted
          env).behind [.take (.mapping cqRing ring.cqRingSize)]

/-- Mapping the submission ring, with the ring open. -/
def ringMapSqRing (ring : RingHandle) (params : SetupParams) (wanted : Bool) (env : SetupEnv) :
    SetupResult :=
  match env.mapSqRing with
  | .error errno =>
      ⟨{ ring with sqRingPtr := none, ringFd := -1 }, [.give (.descriptor ring.ringFd)],
        .error errno⟩
  | .ok sqRing =>
      (ringMapCqRing { ring with sqRingPtr := some sqRing } params sqRing wanted env).behind
        [.take (.mapping sqRing ring.sqRingSize)]

/-- The handle once the ring is open: the sizes of its areas. With one mapping for both rings
it is as large as the larger of them. -/
def ringOpened (fd : Fd) (params : SetupParams) (flags : UInt32) : RingHandle :=
  let sqRingSize := params.sqOff.array.toNat + params.sqEntries.toNat * 4
  let cqRingSize := params.cqOff.cqes.toNat + params.cqEntries.toNat * 16
  { RingHandle.cleared with
    ringFd := fd
    setupFlags := flags
    sqRingSize :=
      if params.singleMmap && decide (sqRingSize < cqRingSize) then cqRingSize else sqRingSize
    cqRingSize :=
      if params.singleMmap && !decide (sqRingSize < cqRingSize) then sqRingSize else cqRingSize
    sqesSize := params.sqEntries.toNat * 64 }

/-- `iouringd_ring_init`; `wanted` says whether the caller passed a capability descriptor. -/
def ringInit (entries : UInt32) (wanted : Bool) (env : SetupEnv) : SetupResult :=
  if entries = 0 then ⟨.cleared, [], .error EINVAL⟩
  else
    match ringSetupBestEffort env with
    | .error errno => ⟨.cleared, [], .error errno⟩
    | .ok (fd, params, flags) =>
        (ringMapSqRing (ringOpened fd params flags) params wanted env).behind
          [.take (.descriptor fd)]

/-! ## What a set-up holds -/

/-- A handle that holds nothing, as `iouringd_ring_cleanup` leaves it. -/
structure RingHandle.Released (ring : RingHandle) : Prop where
  ringFd : ring.ringFd = -1
  sqRingPtr : ring.sqRingPtr = none
  cqRingPtr : ring.cqRingPtr = none
  sqes : ring.sqes = none

/-- The log accounts for everything the handle holds, and a set-up that failed holds nothing. -/
structure SetupResult.Settled (result : SetupResult) (before : List Held) : Prop where
  leaves : Leaves result.log ↑before ↑result.ring.holds
  failed : ∀ errno, result.outcome = .error errno → result.ring.Released
  succeeded : ∀ capabilities, result.outcome = .ok capabilities → 0 ≤ result.ring.ringFd

section Settled

variable {ring : RingHandle} {params : SetupParams} {env : SetupEnv} {wanted : Bool}
  {sqRing cqRing : Nat}

theorem RingHandle.Released.holds (released : ring.Released) : ring.holds = [] := by
  have closed : ¬ (0 : Fd) ≤ -1 := by decide
  rw [RingHandle.holds, ownCqRing, released.ringFd, released.sqRingPtr, released.cqRingPtr,
    released.sqes, if_neg closed]
  rfl

/-- A clean-up gives back what the handle holds, in this order. -/
theorem ringCleanup_log (ring : RingHandle) : (ringCleanup ring).2 = ring.holds.map .give := by
  have own : (if ring.cqRingPtr ≠ none ∧ ring.cqRingPtr ≠ ring.sqRingPtr then
      (ring.cqRingPtr.map (Held.mapping · ring.cqRingSize)).toList.map Lease.give else []) =
      ring.ownCqRing.map Lease.give := by
    unfold RingHandle.ownCqRing
    cases ring.cqRingPtr with
    | none => simp
    | some address => by_cases same : some address = ring.sqRingPtr <;> simp [same]
  unfold ringCleanup RingHandle.holds
  dsimp only
  rw [own, List.map_append, List.map_append, List.map_append]
  congr 1
  split
  · rfl
  · rfl

theorem ringCleanup_leaves (ring : RingHandle) (besides : Multiset Held) :
    Leaves (ringCleanup ring).2 (↑ring.holds + besides) besides := by
  rw [ringCleanup_log]
  exact .give_all ring.holds besides

theorem ringCleanup_released (opened : 0 ≤ ring.ringFd) : (ringCleanup ring).1.Released :=
  ⟨if_pos opened, rfl, rfl, rfl⟩

theorem SetupResult.Settled.behind {result : SetupResult} {log : List (Lease Held)}
    {before middle : List Held} (settled : result.Settled middle)
    (leaves : Leaves log ↑before ↑middle) : (result.behind log).Settled before :=
  ⟨leaves.append settled.leaves, settled.failed, settled.succeeded⟩

/-- A set-up that cleans up and fails. -/
theorem SetupResult.Settled.cleaned {log : List (Lease Held)} {errno : Errno}
    (opened : 0 ≤ ring.ringFd) (leaves : Leaves log ↑ring.holds ↑ring.holds) :
    (SetupResult.mk (ringCleanup ring).1 (log ++ (ringCleanup ring).2) (.error errno)).Settled
      ring.holds := by
  have released := ringCleanup_released opened
  refine ⟨leaves.append ?_, fun _ _ => released, by rintro _ ⟨⟩⟩
  rw [released.holds]
  have all := ringCleanup_leaves ring 0
  rwa [Multiset.add_zero] at all

theorem ringProbe_settled (opened : 0 ≤ ring.ringFd) :
    (ringProbe ring params env).Settled ring.holds := by
  unfold ringProbe
  split
  · exact .cleaned opened (.nil _)
  · rename_i address mapped
    have passing : Leaves [.take (Held.mapping address (16 + 256 * 8)),
        .give (Held.mapping address (16 + 256 * 8))] ↑ring.holds ↑ring.holds :=
      Leaves.after_take (.give _ _)
    dsimp only
    split
    · exact .cleaned opened passing
    · split
      · exact .cleaned opened passing
      · split
        · exact .cleaned opened passing
        · exact ⟨passing, by rintro _ ⟨⟩, fun _ _ => opened⟩

/-- A handle with both rings mapped. -/
theorem RingHandle.holds_rings (opened : 0 ≤ ring.ringFd) (unmapped : ring.sqes = none)
    (sq : ring.sqRingPtr = some sqRing) (cq : ring.cqRingPtr = some cqRing) :
    ring.holds = (if cqRing ≠ sqRing then [.mapping cqRing ring.cqRingSize] else []) ++
      [.mapping sqRing ring.sqRingSize, .descriptor ring.ringFd] := by
  unfold holds ownCqRing
  rw [unmapped, sq, cq, if_pos opened]
  by_cases same : cqRing = sqRing
  · subst same
    simp
  · simp [same]

/-- A handle with the submission ring mapped. -/
theorem RingHandle.holds_sqRing (opened : 0 ≤ ring.ringFd) (unmapped : ring.sqes = none)
    (sq : ring.sqRingPtr = some sqRing) (cq : ring.cqRingPtr = none) :
    ring.holds = [.mapping sqRing ring.sqRingSize, .descriptor ring.ringFd] := by
  unfold holds ownCqRing
  rw [unmapped, sq, cq, if_pos opened]
  simp

theorem RingHandle.holds_opened (opened : 0 ≤ ring.ringFd) (unmapped : ring.sqes = none)
    (sq : ring.sqRingPtr = none) (cq : ring.cqRingPtr = none) :
    ring.holds = [.descriptor ring.ringFd] := by
  unfold holds ownCqRing
  rw [unmapped, sq, cq, if_pos opened]
  simp

/-- A set-up that gives back by hand what it held, and fails. -/
theorem SetupResult.Settled.undone {errno : Errno} (released : ring.Released)
    (held : List Held) : (SetupResult.mk ring (held.map .give) (.error errno)).Settled held := by
  refine ⟨?_, fun _ _ => released, by rintro _ ⟨⟩⟩
  have all := Leaves.give_all held 0
  rw [Multiset.add_zero] at all
  rw [released.holds]
  exact all

theorem ringMapSqes_settled (opened : 0 ≤ ring.ringFd) (unmapped : ring.sqes = none)
    (sq : ring.sqRingPtr = some sqRing) (cq : ring.cqRingPtr = some cqRing) :
    (ringMapSqes ring params sqRing cqRing wanted env).Settled ring.holds := by
  have holds := RingHandle.holds_rings opened unmapped sq cq
  unfold ringMapSqes
  split
  · rename_i errno failed
    have log :
        (if cqRing ≠ sqRing then [Lease.give (Held.mapping cqRing ring.cqRingSize)] else []) ++
        [.give (.mapping sqRing ring.sqRingSize), .give (.descriptor ring.ringFd)] =
          ring.holds.map .give := by
      rw [holds, List.map_append]
      congr 1
      split
      · rfl
      · rfl
    rw [log]
    exact .undone ⟨rfl, rfl, rfl, rfl⟩ ring.holds
  · rename_i address mapped
    have more : (ringPointers { ring with sqes := some address } params sqRing cqRing).holds =
        .mapping address ring.sqesSize :: ring.holds := by
      rw [RingHandle.holds, RingHandle.holds, unmapped]
      rfl
    refine SetupResult.Settled.behind ?_ (Leaves.take_cons more)
    split
    · exact ringProbe_settled opened
    · exact ⟨.nil _, by rintro _ ⟨⟩, fun _ _ => opened⟩

theorem ringMapCqRing_settled (sound : env.Sound) (opened : 0 ≤ ring.ringFd)
    (unmapped : ring.sqes = none) (sq : ring.sqRingPtr = some sqRing)
    (cq : ring.cqRingPtr = none) (mapped : env.mapSqRing = .ok sqRing) :
    (ringMapCqRing ring params sqRing wanted env).Settled ring.holds := by
  have holds := RingHandle.holds_sqRing opened unmapped sq cq
  unfold ringMapCqRing
  split
  · have one : ({ ring with cqRingPtr := some sqRing } : RingHandle).holds = ring.holds := by
      have both := @RingHandle.holds_rings { ring with cqRingPtr := some sqRing } _ _ opened
        unmapped sq rfl
      rw [holds, both, if_neg (not_not_intro rfl)]
      rfl
    rw [← one]
    apply ringMapSqes_settled
    · exact opened
    · exact unmapped
    · exact sq
    · rfl
  · split
    · rename_i errno failed
      rw [holds]
      refine SetupResult.Settled.undone ?_ [_, _]
      exact ⟨rfl, rfl, rfl, unmapped⟩
    · rename_i cqRing second
      have apart := sound.apart sqRing cqRing mapped second
      have more : ({ ring with cqRingPtr := some cqRing } : RingHandle).holds =
          .mapping cqRing ring.cqRingSize :: ring.holds := by
        have both := @RingHandle.holds_rings { ring with cqRingPtr := some cqRing } _ _ opened
          unmapped sq rfl
        rw [holds, both, if_pos apart]
        rfl
      refine SetupResult.Settled.behind ?_ (Leaves.take_cons more)
      apply ringMapSqes_settled
      · exact opened
      · exact unmapped
      · exact sq
      · rfl

theorem ringMapSqRing_settled (sound : env.Sound) (opened : 0 ≤ ring.ringFd)
    (unmapped : ring.sqes = none) (sq : ring.sqRingPtr = none) (cq : ring.cqRingPtr = none) :
    (ringMapSqRing ring params wanted env).Settled ring.holds := by
  have holds := RingHandle.holds_opened opened unmapped sq cq
  unfold ringMapSqRing
  split
  · rename_i errno failed
    rw [holds]
    refine SetupResult.Settled.undone ?_ [_]
    exact ⟨rfl, rfl, cq, unmapped⟩
  · rename_i sqRing mapped
    have more : ({ ring with sqRingPtr := some sqRing } : RingHandle).holds =
        .mapping sqRing ring.sqRingSize :: ring.holds := by
      have one := @RingHandle.holds_sqRing { ring with sqRingPtr := some sqRing } _ opened
        unmapped rfl cq
      rw [holds, one]
    refine SetupResult.Settled.behind ?_ (Leaves.take_cons more)
    apply ringMapCqRing_settled sound
    · exact opened
    · exact unmapped
    · rfl
    · exact cq
    · exact mapped

/-- The set-up opens a ring with flags it tried, or fails. -/
theorem ringSetupAttempts_ok {flags : List UInt32} {fd : Fd} {applied : UInt32}
    (opened : ringSetupAttempts env flags = .ok (fd, params, applied)) :
    env.setup applied = .ok (fd, params) ∧ applied ∈ flags := by
  induction flags with
  | nil => cases opened
  | cons tried rest ih =>
      unfold ringSetupAttempts at opened
      split at opened
      · rename_i first second succeeded
        cases opened
        refine ⟨?_, List.mem_cons_self⟩
        unfold ringSetupWithFlags at succeeded
        split at succeeded
        · cases succeeded
        · split at succeeded
          · cases succeeded
          · exact succeeded
      · split at opened
        · cases opened
        · obtain ⟨found, member⟩ := ih opened
          exact ⟨found, List.mem_cons_of_mem tried member⟩

theorem ringInit_settled {entries : UInt32} (sound : env.Sound) :
    (ringInit entries wanted env).Settled [] := by
  have released : RingHandle.cleared.Released := ⟨rfl, rfl, rfl, rfl⟩
  unfold ringInit
  split
  · exact .undone released []
  · split
    · exact .undone released []
    · rename_i fd params flags opened
      have valid := sound.descriptor flags fd params (ringSetupAttempts_ok opened).1
      refine (ringMapSqRing_settled sound valid rfl rfl rfl).behind ?_
      exact Leaves.take_cons (RingHandle.holds_opened valid rfl rfl rfl)

end Settled

/-! ## The operations of the kernel -/

section Operations

variable {probe : List ProbeOp}

theorem or_and_eq_zero (left right bit : UInt32) :
    (left ||| right) &&& bit = 0 ↔ left &&& bit = 0 ∧ right &&& bit = 0 := by
  rw [← UInt32.toBitVec_inj, ← UInt32.toBitVec_inj, ← UInt32.toBitVec_inj]
  simp only [UInt32.toBitVec_and, UInt32.toBitVec_or, UInt32.toBitVec_zero,
    BitVec.and_or_distrib_right, BitVec.or_eq_zero_iff]

/-- A bit is in a mask that is collected when it is one of the collected bits. -/
theorem collected_and_eq_zero (operations : List Opcode) (opMask bit : UInt32) :
    (operations.foldl (fun opMask opcode =>
      if opcodeSupported opcode.code probe then opMask ||| opcode.capabilityBit else opMask)
        opMask) &&& bit = 0 ↔
      opMask &&& bit = 0 ∧ ∀ opcode ∈ operations,
        opcodeSupported opcode.code probe = true → opcode.capabilityBit &&& bit = 0 := by
  induction operations generalizing opMask with
  | nil => simp
  | cons opcode rest ih =>
      rw [List.foldl_cons, ih, List.forall_mem_cons, ← and_assoc]
      refine and_congr_left' ?_
      split
      · rename_i supported
        rw [or_and_eq_zero]
        simp only [supported, true_implies]
      · rename_i unsupported
        simp only [unsupported, Bool.false_eq_true, false_implies, and_true]

/-- Different operations have different bits, and all of them are known and asked for. -/
theorem capabilityBit_and (first second : Opcode) :
    (first.capabilityBit &&& second.capabilityBit ≠ 0 ↔ first = second) ∧
      capabilityOpMask &&& first.capabilityBit = first.capabilityBit ∧
      first ∈ probedOperations := by
  cases first with
  | _ =>
      cases second with
      | _ => decide

/-- The mask has the bit of an operation exactly when the kernel says that it supports it. -/
theorem probedMask_and (opcode : Opcode) :
    probedMask probe &&& opcode.capabilityBit ≠ 0 ↔
      opcodeSupported opcode.code probe = true := by
  obtain ⟨own, known, asked⟩ := capabilityBit_and opcode opcode
  rw [probedMask, supportedSubmitMask, UInt32.and_assoc, known, Ne, collected_and_eq_zero, not_and]
  constructor
  · intro found
    have some := found (UInt32.zero_and ..)
    push Not at some
    obtain ⟨other, -, supported, bit⟩ := some
    rwa [(capabilityBit_and other opcode).1.mp bit] at supported
  · intro supported _ none
    exact own.mpr rfl (none opcode asked supported)

/-- The mask has only bits this version knows. -/
theorem probedMask_known : probedMask probe &&& ~~~capabilityOpMask = 0 := by
  rw [probedMask, supportedSubmitMask, UInt32.and_assoc]
  have none : capabilityOpMask &&& ~~~capabilityOpMask = 0 := by decide
  rw [none, UInt32.and_zero]

end Operations

/-! ## A ring that was set up -/

/-- The handle is that of an open ring whose three areas are mapped. -/
structure RingMapped (env : SetupEnv) (ring : RingHandle) (params : SetupParams) : Prop where
  setup : ∃ flags, env.setup flags = .ok (ring.ringFd, params)
  sqArray : ∃ address, ring.sqRingPtr = some address ∧
    ring.sqArray + params.sqEntries.toNat * 4 ≤ address + ring.sqRingSize
  cqes : ∃ address, ring.cqRingPtr = some address ∧
    ring.cqes + params.cqEntries.toNat * 16 ≤ address + ring.cqRingSize
  sqes : ∃ address, ring.sqes = some address ∧ ring.sqesSize = params.sqEntries.toNat * 64
  pointers : ∃ sqRing cqRing, env.mapSqRing = .ok sqRing ∧
    (if params.singleMmap then cqRing = sqRing else env.mapCqRing = .ok cqRing) ∧
      ring = ringPointers ring params sqRing cqRing
  unregistered : ring.registeredFilesCount = 0 ∧ ring.registeredBuffersCount = 0

/-- The capabilities are those of the open ring and of the operations the kernel was asked for. -/
structure RingOpen (env : SetupEnv) (ring : RingHandle) (params : SetupParams)
    (operations : List ProbeOp) (capabilities : Capabilities) : Prop extends
    RingMapped env ring params where
  probe : env.probe = .ok operations
  supported : probedMask operations ≠ 0
  capabilities : capabilities = ringCapabilities params.toRingParams (probedMask operations)

/-- The kernel is asked for its operations when the capabilities are wanted. -/
structure Probed (env : SetupEnv) (params : SetupParams) (wanted : Bool)
    (capabilities : Option Capabilities) : Prop where
  asked : wanted = true → ∃ operations, env.probe = .ok operations ∧ probedMask operations ≠ 0 ∧
    capabilities = some (ringCapabilities params.toRingParams (probedMask operations))
  unasked : wanted = false → capabilities = none

section Open

variable {ring : RingHandle} {params : SetupParams} {env : SetupEnv}
  {capabilities : Option Capabilities} {sqRing cqRing : Nat} {wanted : Bool}

/-- A probe that succeeds leaves the handle. -/
theorem ringProbe_ok (succeeded : (ringProbe ring params env).outcome = .ok capabilities) :
    (ringProbe ring params env).ring = ring ∧ ∃ operations, env.probe = .ok operations ∧
      probedMask operations ≠ 0 ∧
      capabilities = some (ringCapabilities params.toRingParams (probedMask operations)) := by
  unfold ringProbe at succeeded ⊢
  split at succeeded
  · cases succeeded
  · dsimp only at succeeded ⊢
    split at succeeded
    · cases succeeded
    · rename_i healthy
      rw [if_neg healthy]
      split at succeeded
      · cases succeeded
      · rename_i operations probed
        split at succeeded
        · cases succeeded
        · rename_i some
          cases succeeded
          rw [if_neg some]
          exact ⟨rfl, operations, probed, some, rfl⟩

/-- The entries are mapped, and the kernel is asked if need be. -/
theorem ringMapSqes_ok
    (succeeded : (ringMapSqes ring params sqRing cqRing wanted env).outcome = .ok capabilities) :
    ∃ address, (ringMapSqes ring params sqRing cqRing wanted env).ring =
        ringPointers { ring with sqes := some address } params sqRing cqRing ∧
      Probed env params wanted capabilities := by
  unfold ringMapSqes at succeeded ⊢
  split at succeeded
  · cases succeeded
  · rename_i address mapped
    cases wanted with
    | true =>
        obtain ⟨same, probed⟩ := ringProbe_ok succeeded
        exact ⟨address, same, fun _ => probed, nofun⟩
    | false =>
        cases succeeded
        exact ⟨address, rfl, nofun, fun _ => rfl⟩

/-- Both rings are mapped, perhaps together. -/
theorem ringMapCqRing_ok
    (succeeded : (ringMapCqRing ring params sqRing wanted env).outcome = .ok capabilities) :
    ∃ cqRing address, (ringMapCqRing ring params sqRing wanted env).ring =
        ringPointers { ring with cqRingPtr := some cqRing, sqes := some address } params sqRing
          cqRing ∧
      (if params.singleMmap then cqRing = sqRing else env.mapCqRing = .ok cqRing) ∧
      Probed env params wanted capabilities := by
  unfold ringMapCqRing at succeeded ⊢
  split at succeeded
  · rename_i single
    obtain ⟨address, same, probed⟩ := ringMapSqes_ok succeeded
    refine ⟨sqRing, address, ?_, ?_, probed⟩
    · rw [if_pos single, same]
    · rw [if_pos single]
  · rename_i double
    rw [if_neg double]
    split at succeeded
    · cases succeeded
    · rename_i cqRing mapped
      obtain ⟨address, same, probed⟩ := ringMapSqes_ok succeeded
      refine ⟨cqRing, address, same, ?_, probed⟩
      rw [if_neg double, mapped]

/-- A set-up that succeeds opens the ring. -/
theorem ringInit_ok {entries : UInt32}
    (succeeded : (ringInit entries wanted env).outcome = .ok capabilities) :
    ∃ params, RingMapped env (ringInit entries wanted env).ring params ∧
      Probed env params wanted capabilities := by
  unfold ringInit at succeeded ⊢
  split at succeeded
  · cases succeeded
  · rename_i positive
    rw [if_neg positive]
    split at succeeded
    · cases succeeded
    · rename_i fd params flags opened
      have setup := (ringSetupAttempts_ok opened).1
      change (ringMapSqRing (ringOpened fd params flags) params wanted env).outcome = _ at succeeded
      change ∃ params', RingMapped env
        (ringMapSqRing (ringOpened fd params flags) params wanted env).ring params' ∧ _
      unfold ringMapSqRing at succeeded ⊢
      split at succeeded
      · cases succeeded
      · rename_i sqRing mapped
        obtain ⟨cqRing, address, same, second, probed⟩ := ringMapCqRing_ok succeeded
        refine ⟨params, ?_, probed⟩
        change RingMapped env (ringMapCqRing _ params sqRing wanted env).ring params
        rw [same]
        exact {
          setup := ⟨flags, setup⟩
          sqArray := by
            refine ⟨sqRing, rfl, ?_⟩
            change sqRing + params.sqOff.array.toNat + params.sqEntries.toNat * 4 ≤ sqRing +
              if params.singleMmap && decide _ then _ else _
            split
            · rename_i larger
              have less := of_decide_eq_true (Bool.and_eq_true _ _ ▸ larger).2
              omega
            · omega
          cqes := by
            refine ⟨cqRing, rfl, ?_⟩
            change cqRing + params.cqOff.cqes.toNat + params.cqEntries.toNat * 16 ≤ cqRing +
              if params.singleMmap && !decide _ then _ else _
            split
            · rename_i larger
              rw [Bool.and_eq_true, Bool.not_eq_true', decide_eq_false_iff_not] at larger
              omega
            · omega
          sqes := ⟨address, rfl, rfl⟩
          pointers := ⟨sqRing, cqRing, mapped, second, rfl⟩
          unregistered := ⟨rfl, rfl⟩ }

/-- With the capabilities, if they are wanted. -/
theorem ringInit_open {entries : UInt32}
    (succeeded : (ringInit entries true env).outcome = .ok capabilities) :
    ∃ params operations descriptor, capabilities = some descriptor ∧
      RingOpen env (ringInit entries true env).ring params operations descriptor := by
  obtain ⟨params, mapped, probed⟩ := ringInit_ok succeeded
  obtain ⟨operations, asked, some, found⟩ := probed.asked rfl
  exact ⟨params, operations, _, found, mapped, asked, some, rfl⟩

end Open

/-- Whatever fails, a set-up of the ring that fails has given back all it took and leaves a
released handle. One that succeeds holds exactly what its handle names: the clean-up gives back
each of these once, and a second clean-up nothing. Its entries and completions lie in the
areas it mapped, and the capabilities, if they are wanted, are those of the kernel. -/
theorem ringInit_accounted {entries : UInt32} {wanted : Bool} {env : SetupEnv}
    (sound : env.Sound) :
    (∀ errno, (ringInit entries wanted env).outcome = .error errno →
      Leaves (ringInit entries wanted env).log 0 0 ∧
        (ringInit entries wanted env).ring.Released) ∧
    ∀ capabilities, (ringInit entries wanted env).outcome = .ok capabilities →
      Leaves (ringInit entries wanted env).log 0 ↑(ringInit entries wanted env).ring.holds ∧
      Leaves (ringCleanup (ringInit entries wanted env).ring).2
        ↑(ringInit entries wanted env).ring.holds 0 ∧
      (ringCleanup (ringInit entries wanted env).ring).1.Released ∧
      (ringCleanup (ringCleanup (ringInit entries wanted env).ring).1).2 = [] ∧
      ∃ params, RingMapped env (ringInit entries wanted env).ring params ∧
        (wanted = false → capabilities = none) ∧
        (wanted = true → ∃ operations descriptor, capabilities = some descriptor ∧
          RingOpen env (ringInit entries wanted env).ring params operations descriptor) := by
  have settled := @ringInit_settled env wanted entries sound
  constructor
  · intro errno failed
    have released := settled.failed errno failed
    refine ⟨?_, released⟩
    have leaves := settled.leaves
    rwa [released.holds] at leaves
  · intro capabilities succeeded
    have opened := settled.succeeded capabilities succeeded
    have released := ringCleanup_released opened
    obtain ⟨params, mapped, probed⟩ := ringInit_ok succeeded
    refine ⟨settled.leaves, ?_, released, ?_, params, mapped, probed.unasked, ?_⟩
    · have all := ringCleanup_leaves (ringInit entries wanted env).ring 0
      rwa [Multiset.add_zero] at all
    · rw [ringCleanup_log, released.holds]
      rfl
    · intro asking
      obtain ⟨operations, asked, some, found⟩ := probed.asked asking
      exact ⟨operations, _, found, mapped, asked, some, rfl⟩

/-- A kernel that sets up two entries in one mapping and supports every operation. -/
def SetupEnv.plain : SetupEnv where
  fault := none
  singleIssuer := true
  setup := fun _ => .ok (5, ⟨⟨2, 4, 1⟩, ⟨0, 4, 16, 24, 128⟩, ⟨8, 12, 20, 64⟩⟩)
  mapSqRing := .ok 4096
  mapCqRing := .ok 8192
  mapSqes := .ok 12288
  mapProbe := .ok 16384
  probe := .ok (probedOperations.map fun opcode => ⟨opcode.code, 1⟩)

theorem SetupEnv.plain_sound : SetupEnv.plain.Sound where
  descriptor := by
    intro flags fd params opened
    cases opened
    decide
  apart := by
    intro sqRing cqRing first second
    cases first
    cases second
    decide

/-- The same kernel without memory for the entries. -/
def SetupEnv.starved : SetupEnv := { SetupEnv.plain with mapSqes := .error 12 }

theorem SetupEnv.starved_sound : SetupEnv.starved.Sound :=
  ⟨SetupEnv.plain_sound.descriptor, SetupEnv.plain_sound.apart⟩

theorem ringInit_accounted_plain :
    (Leaves (ringInit 2 true .starved).log 0 0 ∧ (ringInit 2 true .starved).ring.Released) ∧
    Leaves (ringInit 2 true .plain).log 0 ↑(ringInit 2 true .plain).ring.holds ∧
    Leaves (ringCleanup (ringInit 2 true .plain).ring).2
      ↑(ringInit 2 true .plain).ring.holds 0 := by
  have opened : (ringInit 2 true .plain).outcome =
      .ok (some (ringCapabilities ⟨2, 4, 1⟩ capabilityOpMask)) := by decide
  obtain ⟨held, cleaned, -⟩ := (ringInit_accounted SetupEnv.plain_sound).2 _ opened
  exact ⟨(ringInit_accounted SetupEnv.starved_sound).1 12 rfl, held, cleaned⟩

/-! ## Registering files and buffers -/

/-- A registration: the handle, what it took and gave back, and what the kernel was handed. -/
structure RegisterResult (α : Type) where
  ring : RingHandle
  log : List (Lease Held)
  outcome : Except Errno α

/-- `iouringd_ring_init_registered_files`. The kernel is handed a table of -1. -/
def ringInitRegisteredFiles (ring : RingHandle) (count : Nat) (mapped : Except Errno Nat)
    (registered : Except Errno Unit) : RegisterResult (List Fd) :=
  if ring.ringFd < 0 || count == 0 then ⟨ring, [], .error EINVAL⟩
  else
    match mapped with
    | .error errno => ⟨ring, [], .error errno⟩
    | .ok address =>
        let files := Held.mapping address (count * 4)
        match registered with
        | .error errno => ⟨ring, [.take files, .give files], .error errno⟩
        | .ok () =>
            ⟨{ ring with registeredFilesCount := count }, [.take files, .give files],
              .ok (List.replicate count (-1))⟩

/-- `iouringd_ring_init_registered_buffers`. -/
def ringInitRegisteredBuffers (ring : RingHandle) (iovecs : List (Nat × Nat))
    (registered : Except Errno Unit) : RegisterResult Unit :=
  if ring.ringFd < 0 || iovecs.length == 0 then ⟨ring, [], .error EINVAL⟩
  else
    match registered with
    | .error errno => ⟨ring, [], .error errno⟩
    | .ok () => ⟨{ ring with registeredBuffersCount := iovecs.length }, [], .ok ()⟩

section Registrations

variable {ring : RingHandle}

/-- A registration holds nothing beyond its end. -/
theorem ringInitRegisteredFiles_leaves (count : Nat) (mapped : Except Errno Nat)
    (registered : Except Errno Unit) (held : Multiset Held) :
    Leaves (ringInitRegisteredFiles ring count mapped registered).log held held ∧
      (ringInitRegisteredFiles ring count mapped registered).ring.holds = ring.holds := by
  unfold ringInitRegisteredFiles
  split
  · exact ⟨.nil held, rfl⟩
  · split
    · exact ⟨.nil held, rfl⟩
    · split
      · exact ⟨Leaves.after_take (.give _ _), rfl⟩
      · exact ⟨Leaves.after_take (.give _ _), rfl⟩

theorem ringInitRegisteredBuffers_leaves (iovecs : List (Nat × Nat))
    (registered : Except Errno Unit) (held : Multiset Held) :
    Leaves (ringInitRegisteredBuffers ring iovecs registered).log held held ∧
      (ringInitRegisteredBuffers ring iovecs registered).ring.holds = ring.holds := by
  unfold ringInitRegisteredBuffers
  split
  · exact ⟨.nil held, rfl⟩
  · split
    · exact ⟨.nil held, rfl⟩
    · exact ⟨.nil held, rfl⟩

end Registrations

end Iouringd
