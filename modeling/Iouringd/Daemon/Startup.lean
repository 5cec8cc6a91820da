import Iouringd.Daemon.Options
import Iouringd.Daemon.RingSetup

/-! # Start-up

`main` up to the event loop: the command line, the ring, the tables registered with it, and the
listening socket. Every way to fail goes through `iouringd_cleanup_runtime`, but for the first
ones, which hold nothing. What a `Config` asks for is what a daemon has that came through.
-/

namespace Iouringd

open Foundation

/-- What `main` does to the file system. -/
inductive PathEffect where
  | unlink (path : Arg)
  | bind (path : Arg)
  deriving DecidableEq, Repr

/-- The path an effect is about. -/
def PathEffect.path : PathEffect → Arg
  | .unlink path => path
  | .bind path => path

/-- Whether the daemon's socket is at a path in the end, when it was not in the beginning. -/
def bound (path : Arg) (paths : List PathEffect) : Bool :=
  match (paths.filter fun effect => effect.path == path).getLast? with
  | some (.bind _) => true
  | _ => false

/-- What the calls of `main` find. The memory is that of the mapped rings, with their entries
read as such; `storage` and `iovecs` are what the two calls of `calloc` return. -/
structure StartEnv where
  signals : Except Errno Unit
  setup : SetupEnv
  memory : Nat → UInt32
  sqes : Nat → Sqe
  cqes : Nat → Cqe
  storage : Except Errno Nat
  mapFiles : Except Errno Nat
  registerFiles : Except Errno Unit
  iovecs : Except Errno Nat
  registerBuffers : Except Errno Unit
  socket : Except Errno Fd
  cloexec : Except Errno Unit
  nonblocking : Except Errno Unit
  bind : Except Errno Unit
  listen : Except Errno Unit

/-- The fields of the runtime that `main` fills in, with the tables it registers. -/
structure Starting where
  options : Options
  path : Arg
  serverFd : Fd
  storage : Option Nat
  storageSize : Nat
  ring : RingHandle
  capabilities : Capabilities
  files : List Fd
  buffers : List (Nat × Nat)

/-- How the start-up ended: what it took and gave back, and the exit status or what the loop
starts with. -/
structure StartResult where
  log : List (Lease Held)
  paths : List PathEffect
  outcome : Except UInt8 Starting

/-- The start-up went on behind these. -/
def StartResult.behind (result : StartResult) (log : List (Lease Held))
    (paths : List PathEffect) : StartResult :=
  { result with log := log ++ result.log, paths := paths ++ result.paths }

/-! ## The ring as the daemon sees it -/

/-- The words the handle points to, and the table of files. -/
def RingHandle.view (ring : RingHandle) (env : StartEnv) (files : List Fd) : Ring where
  ringFd := ring.ringFd
  registeredFilesCount := ring.registeredFilesCount
  registeredBuffersCount := ring.registeredBuffersCount
  sqHead := env.memory ring.sqHead
  sqTail := env.memory ring.sqTail
  sqRingMask := env.memory ring.sqRingMask
  sqRingEntries := env.memory ring.sqRingEntries
  sqArray := fun index => env.memory (ring.sqArray + 4 * index)
  sqes := env.sqes
  cqHead := env.memory ring.cqHead
  cqTail := env.memory ring.cqTail
  cqRingMask := env.memory ring.cqRingMask
  cqes := env.cqes
  kernel := ⟨fun index => files.getD index (-1), [], []⟩

/-! ## Cleaning up -/

namespace Starting

/-- `iouringd_cleanup_runtime` when no client was opened. -/
def cleanup (starting : Starting) : List (Lease Held) :=
  (if 0 ≤ starting.serverFd then [.give (.descriptor starting.serverFd)] else []) ++
    (starting.storage.map fun address =>
      Lease.give (Held.block address starting.storageSize)).toList ++
    (ringCleanup starting.ring).2

/-- Clean up and exit. -/
def abort (starting : Starting) (status : UInt8) : StartResult :=
  ⟨starting.cleanup, [.unlink starting.path], .error status⟩

/-- What the daemon holds. -/
def holds (starting : Starting) : List Held :=
  (if 0 ≤ starting.serverFd then [.descriptor starting.serverFd] else []) ++
    (starting.storage.map (Held.block · starting.storageSize)).toList ++ starting.ring.holds

/-- `runtime.registered_file_capacity`. -/
def fileCapacity (starting : Starting) : Nat :=
  starting.options.limits.maxClients * starting.options.limits.registeredFdsPerClient

/-- `runtime.registered_buffer_capacity`. -/
def bufferCapacity (starting : Starting) : Nat :=
  starting.options.limits.maxClients * starting.options.limits.registeredBuffersPerClient

/-- `total_size` of `iouringd_init_registered_buffer_storage`. The limits keep it far below what a
`size_t` holds. -/
def totalSize (starting : Starting) : Nat :=
  starting.bufferCapacity * starting.options.limits.ioBytesMax

/-- The buffers, one behind the other in the storage. -/
def iovecs (starting : Starting) : List (Nat × Nat) :=
  (List.range starting.bufferCapacity).map fun index =>
    (starting.storage.getD 0 + index * starting.options.limits.ioBytesMax,
      starting.options.limits.ioBytesMax)

end Starting

/-! ## `main` -/

/-- The end: listening. -/
def startListening (starting : Starting) (env : StartEnv) : StartResult :=
  match env.listen with
  | .error _ => starting.abort 1
  | .ok () => ⟨[], [], .ok starting⟩

/-- Binding the socket. The path has to fit `sun_path`, with its terminating zero. -/
def startBinding (starting : Starting) (env : StartEnv) : StartResult :=
  if 108 ≤ starting.path.length then starting.abort 2
  else
    match env.bind with
    | .error _ => (starting.abort 1).behind [] [.unlink starting.path]
    | .ok () =>
        (startListening starting env).behind [] [.unlink starting.path, .bind starting.path]

/-- Creating the socket. -/
def startSocket (starting : Starting) (env : StartEnv) : StartResult :=
  match env.socket with
  | .error _ => starting.abort 1
  | .ok fd =>
      let starting := { starting with serverFd := fd }
      (match env.cloexec with
      | .error _ => starting.abort 1
      | .ok () =>
          match env.nonblocking with
          | .error _ => starting.abort 1
          | .ok () => startBinding starting env : StartResult).behind [.take (.descriptor fd)] []

/-- Registering the buffers, whose list is freed again; `sizeof(struct iovec)` is 16. -/
def startBuffers (starting : Starting) (env : StartEnv) : StartResult :=
  match env.iovecs with
  | .error _ => starting.abort 1
  | .ok address =>
      let registered := ringInitRegisteredBuffers starting.ring starting.iovecs env.registerBuffers
      let starting := { starting with ring := registered.ring, buffers := starting.iovecs }
      (match registered.outcome with
      | .error _ => starting.abort 1
      | .ok () => startSocket starting env : StartResult).behind
        (.take (.block address (starting.bufferCapacity * 16)) ::
          (registered.log ++ [.give (.block address (starting.bufferCapacity * 16))])) []

/-- Registering the table of files. -/
def startFiles (starting : Starting) (env : StartEnv) : StartResult :=
  let registered := ringInitRegisteredFiles starting.ring (UInt32.ofNat starting.fileCapacity).toNat
    env.mapFiles env.registerFiles
  let starting := { starting with ring := registered.ring }
  (match registered.outcome with
  | .error _ => starting.abort 1
  | .ok files => startBuffers { starting with files } env : StartResult).behind registered.log []

/-- `iouringd_init_registered_buffer_storage`: the storage of the buffers is allocated. -/
def startStorage (starting : Starting) (env : StartEnv) : StartResult :=
  match env.storage with
  | .error _ => starting.abort 1
  | .ok address =>
      (startFiles { starting with storage := some address, storageSize := starting.totalSize }
        env).behind [.take (.block address starting.totalSize)] []

/-- The capacity of the ring has to be in range. -/
def startCapacity (starting : Starting) (env : StartEnv) : StartResult :=
  let capacity := ringCapacity (starting.ring.view env starting.files)
  if decide (capacity ≤ 1) || decide (maxTasks < capacity) then starting.abort 1
  else startStorage starting env

/-- Setting up the ring. A set-up that fails has cleaned up itself. -/
def startRing (options : Options) (path : Arg) (env : StartEnv) : StartResult :=
  let set := ringInit (UInt32.ofNat options.limits.ringEntries) true env.setup
  match set.outcome with
  | .error _ => ⟨set.log, [], .error 1⟩
  | .ok capabilities =>
      (startCapacity ⟨options, path, -1, none, 0, set.ring, capabilities.getD .zero, [], []⟩
        env).behind set.log []

/-- `main` up to `iouringd_run`, on the arguments behind the name of the program. -/
def mainStart (args : List Arg) (env : StartEnv) : StartResult :=
  if args.isEmpty then ⟨[], [], .error 2⟩
  else
    match parseArgs args with
    | .error _ => ⟨[], [], .error 2⟩
    | .ok (options, path) =>
        match env.signals with
        | .error _ => ⟨[], [], .error 1⟩
        | .ok () => startRing options path env

/-- `iouringd_init_runtime`. -/
def initRuntime (ring : Ring) : Runtime where
  nextTaskId := 1
  nextClientGeneration := 0
  outstandingTasks := 0
  outstandingCreditTasks := 0
  ringCapacity := 0
  taskCapacity := 0
  dispatchCursor := 0
  clientOutputCapacity := 0
  perClientCreditLimit := 0
  acceptedSubmits := 0
  rejectedSubmits := 0
  completions := 0
  nextTraceSequence := 1
  traceCount := 0
  limits := .default
  registeredBufferStorage := .zero
  capabilities := .zero
  ring := ring
  traceEvents := fun _ => TraceEvent.zero
  clients := fun _ => Client.fresh
  tasks := fun _ => TaskSlot.cleared

/-- The runtime `main` hands to `iouringd_run`. -/
def Starting.runtime (starting : Starting) (env : StartEnv) : Runtime :=
  let limits := starting.options.limits
  let ring := starting.ring.view env starting.files
  let taskCapacity := sizeSub (ringCapacity ring) 1
  { initRuntime ring with
    ringCapacity := ringCapacity ring
    taskCapacity
    perClientCreditLimit :=
      if taskCapacity < limits.perClientCredits then taskCapacity else limits.perClientCredits
    limits
    capabilities := { starting.capabilities with
      submitCredits := UInt32.ofNat taskCapacity
      registeredFdSlots := UInt32.ofNat limits.registeredFdsPerClient
      registeredBufferSlots := UInt32.ofNat limits.registeredBuffersPerClient
      ioBytesMax := UInt32.ofNat limits.ioBytesMax }
    clientOutputCapacity :=
      HandshakeResult.size + StatsResult.size + TraceResult.size +
        traceCapacity * TraceEvent.size +
        (limits.registeredFdsPerClient + limits.registeredBuffersPerClient) *
          ResourceResult.size +
        taskCapacity * (SubmitResult.size + CompletionRecord.size + limits.ioBytesMax) }

/-! ## What is held -/

/-- The log accounts for what was held before, and at an exit nothing is held. -/
structure StartResult.Settled (result : StartResult) (before : List Held) : Prop where
  failed : ∀ status, result.outcome = .error status → Leaves result.log ↑before 0
  started : ∀ starting, result.outcome = .ok starting →
    Leaves result.log ↑before ↑starting.holds ∧ 0 ≤ starting.serverFd

section Settled

variable {starting : Starting} {env : StartEnv} {result : StartResult} {log : List (Lease Held)}
  {paths : List PathEffect} {before middle : List Held}

/-- The clean-up gives back what is held. -/
theorem Starting.cleanup_log (starting : Starting) :
    starting.cleanup = starting.holds.map .give := by
  unfold cleanup holds
  rw [ringCleanup_log, List.map_append, List.map_append]
  congr 2
  · split
    · rfl
    · rfl
  · cases starting.storage with
    | none => rfl
    | some address => rfl

/-- It leaves nothing. -/
theorem Starting.cleanup_leaves (starting : Starting) :
    Leaves starting.cleanup ↑starting.holds 0 := by
  rw [cleanup_log]
  have all := Leaves.give_all starting.holds 0
  rwa [Multiset.add_zero] at all

/-- An exit with a clean-up. -/
theorem Starting.abort_settled (starting : Starting) (status : UInt8) :
    (starting.abort status).Settled starting.holds :=
  ⟨fun _ _ => starting.cleanup_leaves, by rintro _ ⟨⟩⟩

/-- More was taken first. -/
theorem StartResult.Settled.behind (settled : result.Settled middle)
    (leaves : Leaves log ↑before ↑middle) : (result.behind log paths).Settled before :=
  ⟨fun status failed => leaves.append (settled.failed status failed),
    fun starting started => ⟨leaves.append (settled.started starting started).1,
      (settled.started starting started).2⟩⟩

/-- Listening. -/
theorem startListening_settled (listens : 0 ≤ starting.serverFd) :
    (startListening starting env).Settled starting.holds := by
  unfold startListening
  split
  · exact starting.abort_settled 1
  · refine ⟨by rintro _ ⟨⟩, ?_⟩
    rintro _ ⟨⟩
    exact ⟨.nil _, listens⟩

/-- Binding. -/
theorem startBinding_settled (listens : 0 ≤ starting.serverFd) :
    (startBinding starting env).Settled starting.holds := by
  unfold startBinding
  split
  · exact starting.abort_settled 2
  · split
    · exact (starting.abort_settled 1).behind (.nil _)
    · exact (startListening_settled listens).behind (.nil _)

/-- The socket is given back when anything behind it fails. -/
theorem startSocket_settled (unopened : starting.serverFd = -1)
    (descriptor : ∀ fd, env.socket = .ok fd → 0 ≤ fd) :
    (startSocket starting env).Settled starting.holds := by
  unfold startSocket
  split
  · exact starting.abort_settled 1
  · rename_i fd opened
    have valid := descriptor fd opened
    have more : ({ starting with serverFd := fd } : Starting).holds =
        .descriptor fd :: starting.holds := by
      have closed : ¬ (0 : Fd) ≤ -1 := by decide
      unfold Starting.holds
      rw [unopened, if_pos valid, if_neg closed]
      rfl
    refine StartResult.Settled.behind ?_ (Leaves.take_cons more)
    split
    · exact Starting.abort_settled _ 1
    · split
      · exact Starting.abort_settled _ 1
      · exact startBinding_settled valid

/-- The list of buffers is given back at once. -/
theorem startBuffers_settled (unopened : starting.serverFd = -1)
    (descriptor : ∀ fd, env.socket = .ok fd → 0 ≤ fd) :
    (startBuffers starting env).Settled starting.holds := by
  unfold startBuffers
  split
  · exact starting.abort_settled 1
  · rename_i address allocated
    dsimp only
    obtain ⟨leaves, same⟩ := @ringInitRegisteredBuffers_leaves starting.ring starting.iovecs
      env.registerBuffers (.block address (starting.bufferCapacity * 16) ::ₘ ↑starting.holds)
    generalize ringInitRegisteredBuffers starting.ring starting.iovecs env.registerBuffers =
      registered at *
    have holds : ({ starting with ring := registered.ring, buffers := starting.iovecs } :
        Starting).holds = starting.holds := by
      rw [Starting.holds, same]
      rfl
    have passing := Leaves.after_take (leaves.append (.give _ _))
    refine StartResult.Settled.behind ?_ passing
    rw [← holds]
    split
    · exact Starting.abort_settled _ 1
    · exact startSocket_settled unopened descriptor

/-- So is the table of files. -/
theorem startFiles_settled (unopened : starting.serverFd = -1)
    (descriptor : ∀ fd, env.socket = .ok fd → 0 ≤ fd) :
    (startFiles starting env).Settled starting.holds := by
  unfold startFiles
  dsimp only
  obtain ⟨leaves, same⟩ := @ringInitRegisteredFiles_leaves starting.ring
    (UInt32.ofNat starting.fileCapacity).toNat env.mapFiles env.registerFiles ↑starting.holds
  generalize ringInitRegisteredFiles starting.ring (UInt32.ofNat starting.fileCapacity).toNat
    env.mapFiles env.registerFiles = registered at *
  have holds : ({ starting with ring := registered.ring } : Starting).holds = starting.holds := by
    rw [Starting.holds, same]
    rfl
  refine StartResult.Settled.behind ?_ leaves
  rw [← holds]
  split
  · exact Starting.abort_settled _ 1
  · rename_i files found
    exact @startBuffers_settled { starting with ring := registered.ring, files } env unopened
      descriptor

/-- The storage is given back when anything behind it fails. -/
theorem startStorage_settled (unopened : starting.serverFd = -1) (none : starting.storage = none)
    (descriptor : ∀ fd, env.socket = .ok fd → 0 ≤ fd) :
    (startStorage starting env).Settled starting.holds := by
  unfold startStorage
  split
  · exact starting.abort_settled 1
  · rename_i address allocated
    have more : ({ starting with storage := some address, storageSize := starting.totalSize } :
        Starting).holds = .block address starting.totalSize :: starting.holds := by
      have closed : ¬ (0 : Fd) ≤ -1 := by decide
      unfold Starting.holds
      rw [unopened, none, if_neg closed]
      rfl
    refine StartResult.Settled.behind ?_ (Leaves.take_cons more)
    exact @startFiles_settled { starting with
      storage := some address, storageSize := starting.totalSize } env unopened descriptor

/-- The ring is given back when its capacity is out of range. -/
theorem startCapacity_settled (unopened : starting.serverFd = -1) (none : starting.storage = none)
    (descriptor : ∀ fd, env.socket = .ok fd → 0 ≤ fd) :
    (startCapacity starting env).Settled starting.holds := by
  unfold startCapacity
  dsimp only
  split
  · exact starting.abort_settled 1
  · exact startStorage_settled unopened none descriptor

/-- Every way through `main` accounts for what it takes. -/
theorem mainStart_settled {args : List Arg} (sound : env.setup.Sound)
    (descriptor : ∀ fd, env.socket = .ok fd → 0 ≤ fd) : (mainStart args env).Settled [] := by
  have nothing : ∀ status, (StartResult.mk [] [] (.error status)).Settled [] :=
    fun status => ⟨fun _ _ => .nil _, by rintro _ ⟨⟩⟩
  unfold mainStart
  split
  · exact nothing 2
  · split
    · exact nothing 2
    · rename_i options path parsed
      split
      · exact nothing 1
      · unfold startRing
        dsimp only
        have settled := @ringInit_settled env.setup true (UInt32.ofNat options.limits.ringEntries)
          sound
        split
        · rename_i errno failed
          refine ⟨fun _ _ => ?_, by rintro _ ⟨⟩⟩
          have leaves := settled.leaves
          rwa [(settled.failed errno failed).holds] at leaves
        · rename_i capabilities succeeded
          exact StartResult.Settled.behind (startCapacity_settled rfl rfl descriptor)
            settled.leaves

end Settled

/-! ## How it ends -/

/-- The exit status is 1, or 2 for a path that is too long. The socket is at its path when the
start-up succeeded, and at none when it failed. -/
structure StartResult.Exits (result : StartResult) (path : Arg) : Prop where
  failed : ∀ status, result.outcome = .error status →
    (status = 1 ∨ status = 2 ∧ 108 ≤ path.length) ∧ ∀ other, bound other result.paths = false
  started : ∀ starting, result.outcome = .ok starting → bound path result.paths = true

section Exits

variable {starting : Starting} {env : StartEnv} {result : StartResult} {path : Arg}

/-- Effects on one path, of which the last takes it away, leave nothing anywhere. -/
theorem bound_unlinked {paths : List PathEffect} (one : ∀ effect ∈ paths, effect.path = path)
    (other : Arg) : bound other (paths ++ [.unlink path]) = false := by
  unfold bound
  by_cases same : path = other
  · have last : [PathEffect.unlink path].filter (fun effect => effect.path == other) =
        [.unlink path] := by
      rw [← same]
      exact List.filter_cons_of_pos (beq_self_eq_true path)
    rw [List.filter_append, last, List.getLast?_append_of_ne_nil _ (List.cons_ne_nil _ _)]
    rfl
  · have none : (paths ++ [PathEffect.unlink path]).filter
        (fun effect => effect.path == other) = [] := by
      refine List.filter_eq_nil_iff.mpr ?_
      intro effect member
      rw [beq_iff_eq]
      rcases List.mem_append.mp member with before | now
      · rw [one effect before]
        exact same
      · rw [List.mem_singleton.mp now]
        exact same
    rw [none]
    rfl

/-- An exit with a clean-up. -/
theorem Starting.abort_exits (starting : Starting) : (starting.abort 1).Exits starting.path := by
  refine ⟨?_, by rintro _ ⟨⟩⟩
  rintro _ ⟨⟩
  exact ⟨Or.inl rfl, @bound_unlinked starting.path [] nofun⟩

/-- More was taken first. -/
theorem StartResult.Exits.behind (exits : result.Exits path) (log : List (Lease Held)) :
    (result.behind log []).Exits path := ⟨exits.failed, exits.started⟩

/-- Binding and listening. -/
theorem startBinding_exits : (startBinding starting env).Exits starting.path := by
  unfold startBinding
  split
  · rename_i long
    refine ⟨?_, by rintro _ ⟨⟩⟩
    rintro _ ⟨⟩
    exact ⟨Or.inr ⟨rfl, long⟩, @bound_unlinked starting.path [] nofun⟩
  · split
    · refine ⟨?_, by rintro _ ⟨⟩⟩
      rintro _ ⟨⟩
      exact ⟨Or.inl rfl, @bound_unlinked starting.path [.unlink starting.path] (by simp [
        PathEffect.path])⟩
    · unfold startListening
      split
      · refine ⟨?_, by rintro _ ⟨⟩⟩
        rintro _ ⟨⟩
        exact ⟨Or.inl rfl, @bound_unlinked starting.path
          [.unlink starting.path, .bind starting.path] (by simp [PathEffect.path])⟩
      · refine ⟨by rintro _ ⟨⟩, ?_⟩
        rintro _ ⟨⟩
        simp [bound, StartResult.behind, PathEffect.path]

/-- The socket. -/
theorem startSocket_exits : (startSocket starting env).Exits starting.path := by
  unfold startSocket
  split
  · exact starting.abort_exits
  · refine StartResult.Exits.behind ?_ _
    split
    · exact Starting.abort_exits _
    · split
      · exact Starting.abort_exits _
      · exact startBinding_exits

/-- The buffers. -/
theorem startBuffers_exits : (startBuffers starting env).Exits starting.path := by
  unfold startBuffers
  split
  · exact starting.abort_exits
  · refine StartResult.Exits.behind ?_ _
    split
    · exact Starting.abort_exits _
    · exact startSocket_exits

/-- The table of files. -/
theorem startFiles_exits : (startFiles starting env).Exits starting.path := by
  unfold startFiles
  refine StartResult.Exits.behind ?_ _
  split
  · exact Starting.abort_exits _
  · exact startBuffers_exits

/-- The capacity and the storage. -/
theorem startCapacity_exits : (startCapacity starting env).Exits starting.path := by
  unfold startCapacity
  dsimp only
  split
  · exact starting.abort_exits
  · unfold startStorage
    split
    · exact starting.abort_exits
    · exact startFiles_exits.behind _

end Exits

/-! ## What it starts -/

/-- What the kernel promises of the rings it maps: their sizes are powers of two, they say so
themselves, and they are empty. -/
structure FreshRings (memory : Nat → UInt32) (params : SetupParams) (sqRing cqRing : Nat) :
    Prop where
  entries : memory (sqRing + params.sqOff.ringEntries.toNat) = params.sqEntries
  sqMask : RingGeometry params.sqEntries (memory (sqRing + params.sqOff.ringMask.toNat))
  sqEmpty : memory (sqRing + params.sqOff.head.toNat) = memory (sqRing + params.sqOff.tail.toNat)
  completions : params.cqEntries ≠ 0
  cqMask : RingGeometry (memory (cqRing + params.cqOff.ringMask.toNat) + 1)
    (memory (cqRing + params.cqOff.ringMask.toNat))
  cqEmpty : memory (cqRing + params.cqOff.head.toNat) = memory (cqRing + params.cqOff.tail.toNat)

/-- The kernel keeps its promises. -/
structure StartEnv.Sound (env : StartEnv) : Prop where
  setup : env.setup.Sound
  descriptor : ∀ fd, env.socket = .ok fd → 0 ≤ fd
  rings : ∀ flags fd params sqRing cqRing, env.setup.setup flags = .ok (fd, params) →
    env.setup.mapSqRing = .ok sqRing →
    (if params.singleMmap then cqRing = sqRing else env.setup.mapCqRing = .ok cqRing) →
    FreshRings env.memory params sqRing cqRing

/-- The ring that was set up, with its tables registered. -/
def Starting.registered (starting : Starting) (ring : RingHandle) : RingHandle :=
  { ring with
    registeredFilesCount := (UInt32.ofNat starting.fileCapacity).toNat
    registeredBuffersCount := starting.bufferCapacity }

/-- How a start-up came through. -/
structure Launched (args : List Arg) (env : StartEnv) (starting : Starting) (handle : RingHandle)
    (params : SetupParams) (operations : List ProbeOp) : Prop where
  parsed : parseArgs args = .ok (starting.options, starting.path)
  opened : RingOpen env.setup handle params operations starting.capabilities
  descriptor : 0 ≤ handle.ringFd
  ring : starting.ring = starting.registered handle
  capacity : 1 < (env.memory handle.sqRingEntries).toNat ∧
    (env.memory handle.sqRingEntries).toNat ≤ maxTasks
  files : starting.files = List.replicate (UInt32.ofNat starting.fileCapacity).toNat (-1)
  storage : ∃ address, starting.storage = some address ∧ env.storage = .ok address
  storageSize : starting.storageSize = starting.totalSize
  buffers : starting.buffers = starting.iovecs
  socket : env.socket = .ok starting.serverFd
  short : starting.path.length < 108

section Launch

variable {starting final : Starting} {env : StartEnv} {args : List Arg}

/-- Nothing changes any more, and the path is not too long. -/
theorem startBinding_ok (succeeded : (startBinding starting env).outcome = .ok final) :
    final = starting ∧ starting.path.length < 108 := by
  unfold startBinding at succeeded
  split at succeeded
  · cases succeeded
  · rename_i short
    split at succeeded
    · cases succeeded
    · unfold startListening at succeeded
      split at succeeded
      · cases succeeded
      · cases succeeded
        exact ⟨rfl, Nat.not_le.mp short⟩

/-- The socket is there. -/
theorem startSocket_ok (succeeded : (startSocket starting env).outcome = .ok final) :
    ∃ fd, env.socket = .ok fd ∧ final = { starting with serverFd := fd } ∧
      starting.path.length < 108 := by
  unfold startSocket at succeeded
  split at succeeded
  · cases succeeded
  · rename_i fd opened
    dsimp only [StartResult.behind] at succeeded
    split at succeeded
    · cases succeeded
    · split at succeeded
      · cases succeeded
      · obtain ⟨same, short⟩ := startBinding_ok succeeded
        exact ⟨fd, opened, same, short⟩

/-- The buffers are registered. -/
theorem startBuffers_ok (succeeded : (startBuffers starting env).outcome = .ok final) :
    ∃ fd, env.socket = .ok fd ∧ final = { starting with
        ring := { starting.ring with registeredBuffersCount := starting.bufferCapacity }
        buffers := starting.iovecs
        serverFd := fd } ∧ starting.path.length < 108 := by
  have length : starting.iovecs.length = starting.bufferCapacity := by
    rw [Starting.iovecs, List.length_map, List.length_range]
  unfold startBuffers at succeeded
  split at succeeded
  · cases succeeded
  · dsimp only [StartResult.behind] at succeeded
    split at succeeded
    · cases succeeded
    · rename_i registered
      obtain ⟨fd, opened, same, short⟩ := startSocket_ok succeeded
      refine ⟨fd, opened, ?_, short⟩
      rw [same]
      unfold ringInitRegisteredBuffers at registered ⊢
      split at registered
      · cases registered
      · rename_i valid
        rw [if_neg valid]
        split at registered
        · cases registered
        · rw [← length]

/-- The table of files is registered. -/
theorem startFiles_ok (succeeded : (startFiles starting env).outcome = .ok final) :
    ∃ fd, env.socket = .ok fd ∧ final = { starting with
        ring := starting.registered starting.ring
        files := List.replicate (UInt32.ofNat starting.fileCapacity).toNat (-1)
        buffers := starting.iovecs
        serverFd := fd } ∧ starting.path.length < 108 := by
  unfold startFiles at succeeded
  dsimp only [StartResult.behind] at succeeded
  split at succeeded
  · cases succeeded
  · rename_i files registered
    obtain ⟨fd, opened, same, short⟩ := startBuffers_ok succeeded
    refine ⟨fd, opened, ?_, short⟩
    rw [same]
    unfold ringInitRegisteredFiles at registered ⊢
    split at registered
    · cases registered
    · rename_i valid
      rw [if_neg valid]
      split at registered
      · cases registered
      · dsimp only at registered
        split at registered
        · cases registered
        · cases registered
          rfl

/-- A daemon that enters its loop came through all of it. -/
theorem mainStart_ok (sound : env.setup.Sound)
    (succeeded : (mainStart args env).outcome = .ok final) :
    ∃ ring params operations, Launched args env final ring params operations := by
  unfold mainStart at succeeded
  split at succeeded
  · cases succeeded
  · split at succeeded
    · cases succeeded
    · rename_i options path parsed
      split at succeeded
      · cases succeeded
      · unfold startRing at succeeded
        dsimp only [StartResult.behind] at succeeded
        split at succeeded
        · cases succeeded
        · rename_i capabilities set
          obtain ⟨params, operations, descriptor, rfl, opened⟩ := ringInit_open set
          have valid := (ringInit_settled sound).succeeded _ set
          generalize (ringInit (UInt32.ofNat options.limits.ringEntries) true env.setup).ring = ring
            at *
          unfold startCapacity at succeeded
          dsimp only at succeeded
          split at succeeded
          · cases succeeded
          · rename_i within
            rw [Bool.or_eq_true, not_or, decide_eq_true_eq, decide_eq_true_eq, Nat.not_le,
              Nat.not_lt] at within
            unfold startStorage at succeeded
            split at succeeded
            · cases succeeded
            · rename_i address allocated
              obtain ⟨fd, bound, rfl, short⟩ := startFiles_ok succeeded
              exact ⟨ring, params, operations, parsed, opened, valid, rfl, within, rfl,
                ⟨address, rfl, allocated⟩, rfl, rfl, bound, short⟩

/-- Areas inside a block, one behind the other. -/
structure Tiles (areas : List (Nat × Nat)) (address size : Nat) : Prop where
  inside : ∀ area ∈ areas, address ≤ area.1 ∧ area.1 + area.2 ≤ address + size
  apart : areas.Pairwise fun first second => first.1 + first.2 ≤ second.1

/-- Areas of one length. -/
theorem tiles_of_range (count length address : Nat) :
    Tiles ((List.range count).map fun index => (address + index * length, length)) address
      (count * length) := by
  constructor
  · intro area member
    obtain ⟨index, below, rfl⟩ := List.mem_map.mp member
    have within : (index + 1) * length ≤ count * length :=
      Nat.mul_le_mul_right length (List.mem_range.mp below)
    rw [Nat.succ_mul] at within
    exact ⟨Nat.le_add_right _ _, by dsimp only; omega⟩
  · rw [List.pairwise_map]
    refine List.pairwise_lt_range.imp ?_
    intro first second before
    have within : (first + 1) * length ≤ second * length := Nat.mul_le_mul_right length before
    rw [Nat.succ_mul] at within
    dsimp only
    omega

/-- The positions of the files are within 32 bits. -/
theorem Limits.capacity_small {limits : Limits} (accepted : limits.accepted = true) :
    limits.maxClients * limits.registeredFdsPerClient < 2 ^ 32 := by
  unfold Limits.accepted at accepted
  simp only [Bool.not_eq_true', Bool.or_eq_false_iff, decide_eq_false_iff_not, Nat.not_lt]
    at accepted
  obtain ⟨⟨⟨⟨⟨⟨⟨⟨⟨⟨⟨-, -⟩, -⟩, clients⟩, -⟩, files⟩, -⟩, -⟩, -⟩, -⟩, -⟩, -⟩ := accepted
  exact Nat.lt_of_le_of_lt (Nat.mul_le_mul clients files) (by decide)

/-- A daemon that enters its loop is in the state of a configuration, and its ring reports what
it is. -/
theorem Launched.configured {handle : RingHandle} {params : SetupParams}
    {operations : List ProbeOp} (launched : Launched args env starting handle params operations)
    (sound : env.Sound) : ∃ config : Config, starting.runtime env = Runtime.initial config ∧
      config.limits = starting.options.limits ∧
      Reports config params.toRingParams (probedMask operations) := by
  obtain ⟨flags, setup⟩ := launched.opened.setup
  obtain ⟨sqRing, cqRing, sqMapped, cqMapped, pointers⟩ := launched.opened.pointers
  have fresh := sound.rings flags _ params sqRing cqRing setup sqMapped cqMapped
  have entries : env.memory handle.sqRingEntries = params.sqEntries := by
    rw [pointers]
    exact fresh.entries
  have accepted := parseArgs_accepted launched.parsed
  have files : (UInt32.ofNat starting.fileCapacity).toNat = starting.fileCapacity := by
    rw [UInt32.toNat_ofNat']
    exact Nat.mod_eq_of_lt (Limits.capacity_small accepted)
  have positive := launched.capacity.1
  let config : Config := {
    limits := starting.options.limits
    accepted
    capabilities := starting.capabilities
    ring := starting.ring.view env starting.files
    ring_open := by
      rw [launched.ring]
      exact launched.descriptor
    sq_geometry := by
      rw [launched.ring]
      change RingGeometry (env.memory handle.sqRingEntries) (env.memory handle.sqRingMask)
      rw [entries, pointers]
      exact fresh.sqMask
    capacity_gt_one := by
      rw [launched.ring]
      exact positive
    capacity_le := by
      rw [launched.ring]
      exact launched.capacity.2
    sq_empty := by
      rw [launched.ring]
      change env.memory handle.sqHead = env.memory handle.sqTail
      rw [pointers]
      exact fresh.sqEmpty
    cq_geometry := by
      rw [launched.ring]
      change RingGeometry (env.memory handle.cqRingMask + 1) (env.memory handle.cqRingMask)
      rw [pointers]
      exact fresh.cqMask
    cq_empty := by
      rw [launched.ring]
      change env.memory handle.cqHead = env.memory handle.cqTail
      rw [pointers]
      exact fresh.cqEmpty
    files_count := by
      rw [launched.ring]
      exact files
    buffers_count := by
      rw [launched.ring]
      rfl
    files_free := by
      intro index
      rw [launched.files]
      change (List.replicate _ (-1 : Fd)).getD index (-1) = -1
      rw [List.getD_eq_getElem?_getD, List.getElem?_replicate]
      split
      · rfl
      · rfl
    idle := rfl }
  refine ⟨config, ?_, rfl, ⟨launched.opened.capabilities, ?_, fresh.completions,
    launched.opened.supported, probedMask_known⟩⟩
  · have capacity : ringCapacity (starting.ring.view env starting.files) =
        (env.memory handle.sqRingEntries).toNat := by
      rw [launched.ring]
      rfl
    have tasks : sizeSub (ringCapacity (starting.ring.view env starting.files)) 1 =
        config.taskCapacity := by
      rw [sizeSub_eq (by omega)]
      rfl
    have credits : (if config.taskCapacity < starting.options.limits.perClientCredits then
        config.taskCapacity else starting.options.limits.perClientCredits) =
          min config.limits.perClientCredits config.taskCapacity := by
      change _ = min starting.options.limits.perClientCredits config.taskCapacity
      split
      · omega
      · omega
    unfold Starting.runtime
    dsimp only
    rw [tasks, credits]
    rfl
  · change params.sqEntries = env.memory starting.ring.sqRingEntries
    rw [launched.ring, ← entries]
    rfl

/-- The storage of the buffers is far from the end of the address space. -/
theorem Limits.storage_small {limits : Limits} (accepted : limits.accepted = true) :
    limits.maxClients * limits.registeredBuffersPerClient * limits.ioBytesMax < 2 ^ 64 := by
  unfold Limits.accepted at accepted
  simp only [Bool.not_eq_true', Bool.or_eq_false_iff, decide_eq_false_iff_not, Nat.not_lt]
    at accepted
  obtain ⟨⟨⟨⟨⟨⟨⟨⟨⟨⟨⟨-, -⟩, -⟩, clients⟩, -⟩, -⟩, -⟩, buffers⟩, -⟩, -⟩, -⟩, bytes⟩ := accepted
  exact Nat.lt_of_le_of_lt (Nat.mul_le_mul (Nat.mul_le_mul clients buffers) bytes) (by decide)

/-- A command line that is no good ends the start-up before it takes anything. -/
theorem mainStart_usage (bad : args = [] ∨ ∃ errno, parseArgs args = .error errno) :
    (mainStart args env).outcome = .error 2 := by
  unfold mainStart
  split
  · rfl
  · rename_i some
    rcases bad with none | ⟨errno, failed⟩
    · exact absurd (List.isEmpty_iff.mpr none) some
    · rw [failed]

/-- How `main` exits. -/
theorem mainStart_exits :
    (∀ status, (mainStart args env).outcome = .error status →
      (∀ path, bound path (mainStart args env).paths = false) ∧ (status = 1 ∨ status = 2 ∧
        ∀ options path, parseArgs args = .ok (options, path) → 108 ≤ path.length)) ∧
    ∀ starting, (mainStart args env).outcome = .ok starting →
      ∀ options path, parseArgs args = .ok (options, path) →
        bound path (mainStart args env).paths = true := by
  unfold mainStart
  split
  · rename_i empty
    refine ⟨?_, by rintro _ ⟨⟩⟩
    rintro _ ⟨⟩
    refine ⟨fun _ => rfl, Or.inr ⟨rfl, ?_⟩⟩
    rw [List.isEmpty_iff.mp empty]
    exact nofun
  · split
    · rename_i failed
      refine ⟨?_, by rintro _ ⟨⟩⟩
      rintro _ ⟨⟩
      refine ⟨fun _ => rfl, Or.inr ⟨rfl, ?_⟩⟩
      intro options path parsed
      rw [failed] at parsed
      cases parsed
    · rename_i options path parsed
      split
      · exact ⟨by rintro _ ⟨⟩; exact ⟨fun _ => rfl, Or.inl rfl⟩, by rintro _ ⟨⟩⟩
      · unfold startRing
        dsimp only
        split
        · exact ⟨by rintro _ ⟨⟩; exact ⟨fun _ => rfl, Or.inl rfl⟩, by rintro _ ⟨⟩⟩
        · obtain ⟨failed, started⟩ := StartResult.Exits.behind (startCapacity_exits) _
          refine ⟨?_, ?_⟩
          · intro status exited
            obtain ⟨why, gone⟩ := failed status exited
            refine ⟨gone, why.imp_right fun long => ⟨long.1, ?_⟩⟩
            intro other given same
            cases parsed.symm.trans same
            exact long.2
          · intro starting succeeded other given same
            cases parsed.symm.trans same
            exact started starting succeeded

/-- Whatever fails, a start-up that fails holds nothing in the end and leaves no socket at any
path; its status is 1, or 2 when the command line or the path is no good, and a bad command line
always ends it so. A start-up that succeeds has the options and the path of its command line. It
holds what the clean-up gives back, its socket is at its path, its buffers lie one behind the
other in the block that was allocated for them, and its runtime is the initial one of a
configuration that has these limits and reports the ring and the operations the kernel told of. -/
theorem mainStart_accounted (sound : env.Sound) :
    (∀ status, (mainStart args env).outcome = .error status →
      Leaves (mainStart args env).log 0 0 ∧
        (∀ path, bound path (mainStart args env).paths = false) ∧
        (status = 1 ∨ status = 2 ∧
          ∀ options path, parseArgs args = .ok (options, path) → 108 ≤ path.length)) ∧
    ((args = [] ∨ ∃ errno, parseArgs args = .error errno) →
      (mainStart args env).outcome = .error 2) ∧
    ∀ starting, (mainStart args env).outcome = .ok starting →
      parseArgs args = .ok (starting.options, starting.path) ∧
        Leaves (mainStart args env).log 0 ↑starting.holds ∧
        Leaves starting.cleanup ↑starting.holds 0 ∧
        env.socket = .ok starting.serverFd ∧ Held.descriptor starting.serverFd ∈ starting.holds ∧
        bound starting.path (mainStart args env).paths = true ∧
        (∃ address, env.storage = .ok address ∧
          Held.block address starting.totalSize ∈ starting.holds ∧ starting.totalSize < 2 ^ 64 ∧
          starting.buffers.length = starting.bufferCapacity ∧
          Tiles starting.buffers address starting.totalSize) ∧
        ∃ handle params operations, Launched args env starting handle params operations ∧
          ∃ config : Config, starting.runtime env = Runtime.initial config ∧
            config.limits = starting.options.limits ∧
            Reports config params.toRingParams (probedMask operations) := by
  have settled := @mainStart_settled env args sound.setup sound.descriptor
  obtain ⟨failed, started⟩ := @mainStart_exits env args
  refine ⟨?_, mainStart_usage, ?_⟩
  · intro status exited
    exact ⟨settled.failed status exited, failed status exited⟩
  · intro starting succeeded
    obtain ⟨handle, params, operations, launched⟩ := mainStart_ok sound.setup succeeded
    obtain ⟨address, allocated, given⟩ := launched.storage
    obtain ⟨leaves, listens⟩ := settled.started starting succeeded
    have holds : starting.holds = .descriptor starting.serverFd ::
        .block address starting.totalSize :: starting.ring.holds := by
      unfold Starting.holds
      rw [if_pos listens, allocated, launched.storageSize]
      rfl
    refine ⟨launched.parsed, leaves, starting.cleanup_leaves, launched.socket, ?_,
      started starting succeeded _ _ launched.parsed, ⟨address, given, ?_, ?_, ?_, ?_⟩, handle,
      params, operations, launched, launched.configured sound⟩
    · rw [holds]
      exact List.mem_cons_self
    · rw [holds]
      exact List.mem_cons_of_mem _ List.mem_cons_self
    · exact Limits.storage_small (parseArgs_accepted launched.parsed)
    · rw [launched.buffers, Starting.iovecs, List.length_map, List.length_range]
    · rw [launched.buffers, Starting.iovecs, allocated]
      exact tiles_of_range _ _ _

end Launch

/-- A kernel on which everything succeeds, with the words of two rings in one mapping. -/
def StartEnv.plain : StartEnv where
  signals := .ok ()
  setup := .plain
  memory := fun address =>
    if address = 4112 then 1 else if address = 4116 then 3 else if address = 4120 then 2 else 0
  sqes := fun _ => { opcode := .nop, userData := 0 }
  cqes := fun _ => ⟨0, 0⟩
  storage := .ok 20480
  mapFiles := .ok 24576
  registerFiles := .ok ()
  iovecs := .ok 28672
  registerBuffers := .ok ()
  socket := .ok 6
  cloexec := .ok ()
  nonblocking := .ok ()
  bind := .ok ()
  listen := .ok ()

theorem StartEnv.plain_sound : StartEnv.plain.Sound where
  setup := SetupEnv.plain_sound
  descriptor := by
    intro fd opened
    cases opened
    decide
  rings := by
    intro flags fd params sqRing cqRing opened first second
    cases opened
    cases first
    have single : SetupParams.singleMmap ⟨⟨2, 4, 1⟩, ⟨0, 4, 16, 24, 128⟩, ⟨8, 12, 20, 64⟩⟩ =
      true := by
      decide
    rw [if_pos single] at second
    subst second
    exact {
      entries := by decide
      sqMask := ⟨1, by decide, by decide, by decide⟩
      sqEmpty := by decide
      completions := by decide
      cqMask := ⟨2, by decide, by decide, by decide⟩
      cqEmpty := by decide }

/-- The same kernel, where the path cannot be bound. -/
def StartEnv.taken : StartEnv := { StartEnv.plain with bind := .error 98 }

theorem StartEnv.taken_sound : StartEnv.taken.Sound :=
  ⟨SetupEnv.plain_sound, StartEnv.plain_sound.descriptor, StartEnv.plain_sound.rings⟩

/-- Two entries, and a path. -/
def plainArgs : List Arg := ["--ring-entries".toList, "2".toList, "/s".toList]

theorem mainStart_accounted_plain :
    (Leaves (mainStart plainArgs .taken).log 0 0 ∧
      bound "/s".toList (mainStart plainArgs .taken).paths = false) ∧
    (mainStart ["--ring-entries".toList, "/s".toList] .plain).outcome = .error 2 ∧
    ∃ starting, (mainStart plainArgs .plain).outcome = .ok starting ∧ starting.serverFd = 6 ∧
      parseArgs plainArgs = .ok (starting.options, starting.path) ∧
      Leaves (mainStart plainArgs .plain).log 0 ↑starting.holds ∧
      bound starting.path (mainStart plainArgs .plain).paths = true ∧
      ∃ config : Config, starting.runtime .plain = Runtime.initial config ∧
        config.limits = starting.options.limits := by
  have failed : failure (mainStart plainArgs .taken).outcome = some 1 := by decide +kernel
  have opened : ((mainStart plainArgs .plain).outcome.toOption.map Starting.serverFd) = some 6 := by
    decide +kernel
  obtain ⟨starting, started, fd⟩ := exists_of_toOption_map opened
  have incomplete : failure (parseArgs ["--ring-entries".toList, "/s".toList]) = some EINVAL := by
    decide +kernel
  obtain ⟨leaves, gone, -⟩ :=
    (mainStart_accounted StartEnv.taken_sound).1 1 (eq_error_of_failure failed)
  have usage := (mainStart_accounted StartEnv.plain_sound).2.1
    (Or.inr ⟨EINVAL, eq_error_of_failure incomplete⟩)
  obtain ⟨parsed, held, -, -, -, there, -, -, -, -, -, config, same, limits, -⟩ :=
    (mainStart_accounted StartEnv.plain_sound).2.2 starting started
  exact ⟨⟨leaves, gone _⟩, usage, starting, started, fd, parsed, held, there, config, same,
    limits⟩

end Iouringd
