import Iouringd.Foundation.Tally
import Iouringd.Daemon.FileTable

/-! # Where descriptors are

A descriptor is a connection's socket, a `received_fd`, the `daemon_fd` of a file slot or
the `close_fd` of an active CLOSE, or it has been closed. The operations of the daemon move
descriptors between these places, so the number of places of a descriptor only grows by what
an operation is given and shrinks by the `close_fd` of a CLOSE that completes.
-/

namespace Iouringd

open Foundation

/-- The places of a client that hold a descriptor for it: `received_fd` and the file
slots. -/
def Client.holds (fd : Fd) (client : Client) : Nat :=
  (if client.receivedFd = fd then 1 else 0) +
    Nat.count (fun slot => (client.fileResources slot).daemonFd = fd) maxRegisteredFds

/-- All places of a client, its socket included. -/
def Client.weight (fd : Fd) (client : Client) : Nat :=
  (if client.fd = fd then 1 else 0) + client.holds fd

/-- The active CLOSE tasks of a descriptor. -/
def Runtime.closing (rt : Runtime) (fd : Fd) : Nat :=
  rt.countTasks fun task => task.taskKind == .close && task.closeFd == fd

/-- The places that hold a descriptor: `received_fd`s, file slots, active CLOSE tasks. -/
def Runtime.holders (rt : Runtime) (fd : Fd) : Nat :=
  tally (Client.holds fd) rt.clients rt.limits.maxClients + rt.closing fd

/-- The connections of a descriptor. -/
def Runtime.sockets (rt : Runtime) (fd : Fd) : Nat :=
  tally (fun client => if client.fd = fd then 1 else 0) rt.clients rt.limits.maxClients

/-- The places of the clients for a descriptor and how often the daemon closed it. -/
def Runtime.kept (rt : Runtime) (fd : Fd) : Nat :=
  tally (Client.weight fd) rt.clients rt.limits.maxClients + rt.ring.kernel.closed.count fd

/-- All places of a descriptor and how often the daemon closed it. -/
def Runtime.account (rt : Runtime) (fd : Fd) : Nat := rt.kept fd + rt.closing fd

/-- The account of a descriptor: sockets, slots and tasks, and what was closed. -/
theorem account_eq (rt : Runtime) (fd : Fd) :
    rt.account fd =
      rt.sockets fd + rt.holders fd + rt.ring.kernel.closed.count fd := by
  have split : tally (Client.weight fd) rt.clients rt.limits.maxClients =
      rt.sockets fd + tally (Client.holds fd) rt.clients rt.limits.maxClients :=
    tally_add (fun client : Client => if client.fd = fd then 1 else 0) (Client.holds fd)
  rw [Runtime.account, Runtime.kept, Runtime.holders, split]
  omega

/-- What is kept of every descriptor grows by what is gained. -/
structure Balanced (rt next : Runtime) (gain : List Fd) : Prop where
  limits : next.limits = rt.limits
  kept : ∀ fd, 0 ≤ fd → next.kept fd = rt.kept fd + gain.count fd

/-- The descriptor a CLOSE was given. -/
def TaskSlot.closes (task : TaskSlot) : List Fd :=
  if task.taskKind = .close then [task.closeFd] else []

/-- A task closes its own descriptor, once. -/
theorem TaskSlot.count_closes (task : TaskSlot) (fd : Fd) :
    task.closes.count fd =
      if (task.taskKind == .close && task.closeFd == fd) = true then 1 else 0 := by
  unfold closes
  split
  · rename_i kind
    rw [List.count_singleton, kind]
    simp only [beq_self_eq_true, Bool.true_and]
  · rename_i kind
    rw [List.count_nil, beq_eq_false_iff_ne.mpr kind]
    simp only [Bool.false_and, Bool.false_eq_true, ↓reduceIte]

/-- Descriptors only move, up to what is gained and what is lost. -/
structure Conserved (rt next : Runtime) (gain lost : List Fd) : Prop where
  limits : next.limits = rt.limits
  account : ∀ fd, 0 ≤ fd →
    next.account fd + lost.count fd = rt.account fd + gain.count fd

section Changes

variable {rt middle next : Runtime} {index : Nat} {gain more : List Fd}

/-- Steps that neither start nor complete a task. -/
theorem Balanced.conserved (balanced : Balanced rt next gain) (quiet : Quiet rt next) :
    Conserved rt next gain [] := by
  refine ⟨balanced.limits, ?_⟩
  intro fd valid
  have kept := balanced.kept fd valid
  have closing : next.closing fd = rt.closing fd := quiet.countTasks_eq fun _ _ _ => rfl
  rw [Runtime.account, Runtime.account, closing, List.count_nil]
  omega

/-- The accounts are balanced when nothing happens. -/
theorem Balanced.refl (rt : Runtime) : Balanced rt rt [] := ⟨rfl, fun _ _ => rfl⟩

/-- Balanced changes, one after the other. -/
theorem Balanced.trans (first : Balanced rt middle gain) (second : Balanced middle next more) :
    Balanced rt next (gain ++ more) := by
  refine ⟨second.limits.trans first.limits, ?_⟩
  intro fd valid
  rw [second.kept fd valid, first.kept fd valid, List.count_append, Nat.add_assoc]

/-- A change without gain followed by another. -/
theorem Balanced.after (first : Balanced rt middle []) (second : Balanced middle next gain) :
    Balanced rt next gain := first.trans second

/-- Balanced changes of which the second brings nothing in. -/
theorem Balanced.then (first : Balanced rt middle gain) (second : Balanced middle next []) :
    Balanced rt next gain := by
  have both := first.trans second
  rwa [List.append_nil] at both

/-- One client and the closed descriptors change. -/
theorem balanced_of_client (below : index < rt.limits.maxClients)
    (limits : next.limits = rt.limits)
    (clients : next.clients = Function.update rt.clients index (next.clients index))
    (moved : ∀ fd, 0 ≤ fd → (next.clients index).weight fd + next.ring.kernel.closed.count fd =
      (rt.clients index).weight fd + rt.ring.kernel.closed.count fd + gain.count fd) :
    Balanced rt next gain := by
  refine ⟨limits, ?_⟩
  intro fd valid
  have sum : tally (Client.weight fd) next.clients next.limits.maxClients +
      (rt.clients index).weight fd =
      tally (Client.weight fd) rt.clients rt.limits.maxClients +
        (next.clients index).weight fd := by
    rw [clients, limits, Function.update_self]
    exact tally_update below _
  have here := moved fd valid
  unfold Runtime.kept
  omega

/-- A change of one client that leaves its descriptors where they are. -/
theorem balanced_of_weight (below : index < rt.limits.maxClients)
    (limits : next.limits = rt.limits)
    (closed : next.ring.kernel.closed = rt.ring.kernel.closed)
    (clients : next.clients = Function.update rt.clients index (next.clients index))
    (same : ∀ fd, 0 ≤ fd → (next.clients index).weight fd = (rt.clients index).weight fd) :
    Balanced rt next [] := by
  apply balanced_of_client below limits clients
  intro fd valid
  rw [closed, same fd valid, List.count_nil, Nat.add_zero]

/-- Fields that hold no descriptor. -/
theorem weight_congr {client after : Client} (fd : Fd) (socket : after.fd = client.fd)
    (received : after.receivedFd = client.receivedFd)
    (files : ∀ slot < maxRegisteredFds,
      ((after.fileResources slot).daemonFd = fd ↔ (client.fileResources slot).daemonFd = fd)) :
    after.weight fd = client.weight fd := by
  unfold Client.weight Client.holds
  rw [socket, received, count_congr files]

/-- A client is replaced by one that holds the same. -/
theorem balanced_setClient {client : Client} (below : index < rt.limits.maxClients)
    (same : ∀ fd, 0 ≤ fd → client.weight fd = (rt.clients index).weight fd) :
    Balanced rt (rt.setClient index client) [] := by
  refine balanced_of_weight below rfl rfl ?_ ?_
  · rw [Runtime.clients_setClient]
    rfl
  · intro fd valid
    rw [Runtime.clients_setClient]
    exact same fd valid

/-- Closing a descriptor that no place holds. -/
theorem balanced_close (fd : Fd) : Balanced rt (rt.close fd) [fd] := by
  refine ⟨rfl, ?_⟩
  intro other valid
  change tally (Client.weight other) rt.clients rt.limits.maxClients +
    (rt.ring.kernel.closed ++ [fd]).count other = _
  rw [List.count_append, ← Nat.add_assoc]
  rfl

/-- Nothing that counts changes. -/
theorem balanced_of_same (limits : next.limits = rt.limits)
    (clients : next.clients = rt.clients)
    (closed : next.ring.kernel.closed = rt.ring.kernel.closed) : Balanced rt next [] := by
  refine ⟨limits, ?_⟩
  intro fd valid
  unfold Runtime.kept
  rw [limits, clients, closed, List.count_nil, Nat.add_zero]

/-- A file slot is overwritten. -/
theorem weight_setFileSlot {client : Client} {slot : Nat} (file : FileSlot)
    (below : slot < maxRegisteredFds) (fd : Fd) :
    (client.setFileSlot slot file).weight fd +
        (if (client.fileResources slot).daemonFd = fd then 1 else 0) =
      client.weight fd + (if file.daemonFd = fd then 1 else 0) := by
  have moved := count_update (fun file : FileSlot => file.daemonFd = fd) client.fileResources
    maxRegisteredFds slot file below
  have after : (client.setFileSlot slot file).weight fd = (if client.fd = fd then 1 else 0) +
      ((if client.receivedFd = fd then 1 else 0) + Nat.count (fun place =>
        (Function.update client.fileResources slot file place).daemonFd = fd)
        maxRegisteredFds) := rfl
  rw [after]
  unfold Client.weight Client.holds
  omega

/-- Clearing a slot closes its descriptor. -/
theorem clearFileSlot_balanced {slot : Nat} (client : index < rt.limits.maxClients)
    (below : slot < maxRegisteredFds) : Balanced rt (clearFileSlot rt index slot) [] := by
  obtain ⟨limits, -, clients⟩ := clearFileSlot_fields rt index slot
  have entry : (clearFileSlot rt index slot).clients index =
      (rt.clients index).setFileSlot slot .cleared := by rw [clients, Function.update_self]
  apply balanced_of_client client limits
  · rw [entry, clients]
  · intro fd valid
    have moved := @weight_setFileSlot (rt.clients index) slot .cleared below fd
    have empty : ¬ FileSlot.cleared.daemonFd = fd := by
      rintro rfl
      exact absurd valid (by decide)
    have closed : (clearFileSlot rt index slot).ring.kernel.closed.count fd =
        rt.ring.kernel.closed.count fd +
          (if ((rt.clients index).fileResources slot).daemonFd = fd then 1 else 0) := by
      unfold clearFileSlot
      dsimp only
      split
      · change (rt.ring.kernel.closed ++ [_]).count fd = _
        rw [List.count_append, List.count_singleton]
        simp only [beq_iff_eq]
      · rename_i negative
        have other : ¬ ((rt.clients index).fileResources slot).daemonFd = fd := by
          rintro rfl
          exact negative valid
        rw [if_neg other]
        rfl
    rw [if_neg empty] at moved
    rw [entry, closed, List.count_nil]
    omega

/-- What `close` adds to the closed descriptors. -/
theorem closed_close_count (rt : Runtime) (held fd : Fd) (valid : 0 ≤ fd) :
    (if 0 ≤ held then rt.close held else rt).ring.kernel.closed.count fd =
      rt.ring.kernel.closed.count fd + (if held = fd then 1 else 0) := by
  split
  · change (rt.ring.kernel.closed ++ [held]).count fd = _
    rw [List.count_append, List.count_singleton]
    simp only [beq_iff_eq]
  · rename_i negative
    have other : ¬ held = fd := by
      rintro rfl
      exact negative valid
    rw [if_neg other]
    rfl

/-- Disconnecting closes the socket and the received descriptor. -/
theorem closeClient_closed_count (rt : Runtime) (index : Nat) (fd : Fd) (valid : 0 ≤ fd) :
    (closeClient rt index).ring.kernel.closed.count fd =
      rt.ring.kernel.closed.count fd + (if (rt.clients index).fd = fd then 1 else 0) +
        (if (rt.clients index).receivedFd = fd then 1 else 0) := by
  unfold closeClient
  dsimp only
  change (if 0 ≤ (rt.clients index).receivedFd then
    (if 0 ≤ (rt.clients index).fd then rt.close (rt.clients index).fd else rt).close
      (rt.clients index).receivedFd
    else if 0 ≤ (rt.clients index).fd then rt.close (rt.clients index).fd
      else rt).ring.kernel.closed.count fd = _
  rw [closed_close_count _ _ _ valid, closed_close_count _ _ _ valid]

/-- It leaves the slots. -/
theorem closeClient_balanced (client : index < rt.limits.maxClients) :
    Balanced rt (closeClient rt index) [] := by
  have only : OnlyClient rt index (closeClient rt index) := .closeClient
  have entry := closeClient_client rt index
  apply balanced_of_client client
  · rw [only.frame]
  · conv_lhs => rw [only.frame]
  · intro fd valid
    have negative : ∀ held : Fd, ¬ (if 0 ≤ held then -1 else held) = fd := by
      intro held same
      split at same
      · rw [← same] at valid
        exact absurd valid (by decide)
      · rename_i below
        rw [same] at below
        exact below valid
    have slots : Nat.count (fun slot =>
        ((closedClient (rt.clients index)).fileResources slot).daemonFd = fd) maxRegisteredFds =
        Nat.count (fun slot => ((rt.clients index).fileResources slot).daemonFd = fd)
          maxRegisteredFds := by
      refine count_congr fun slot _ => ?_
      change (if ((rt.clients index).fileResources slot).registered then
        { (rt.clients index).fileResources slot with closing := true }
        else (rt.clients index).fileResources slot).daemonFd = fd ↔ _
      split
      · exact Iff.rfl
      · exact Iff.rfl
    have closed := closeClient_closed_count rt index fd valid
    have after : (closedClient (rt.clients index)).weight fd =
        (if (if 0 ≤ (rt.clients index).fd then -1 else (rt.clients index).fd) = fd then 1 else 0) +
        ((if (if 0 ≤ (rt.clients index).receivedFd then -1 else (rt.clients index).receivedFd) = fd
          then 1 else 0) + Nat.count (fun slot =>
            ((closedClient (rt.clients index)).fileResources slot).daemonFd = fd)
              maxRegisteredFds) := rfl
    rw [entry, after, if_neg (negative _), if_neg (negative _), slots, closed, List.count_nil]
    unfold Client.weight Client.holds
    omega

/-- Writing a slot that keeps its descriptor. -/
theorem balanced_keepSlot {slot : Nat} {file : FileSlot} (client : index < rt.limits.maxClients)
    (same : file.daemonFd = ((rt.clients index).fileResources slot).daemonFd) :
    Balanced rt (rt.setClient index ((rt.clients index).setFileSlot slot file)) [] := by
  refine balanced_setClient client fun fd _ => weight_congr fd rfl rfl fun place _ => ?_
  by_cases here : place = slot
  · subst here
    rw [file_setFileSlot, same]
  · rw [file_setFileSlot_of_ne here]

/-- Buffers hold no descriptor. -/
theorem balanced_setBufferSlot {slot : Nat} (buffer : BufferSlot)
    (client : index < rt.limits.maxClients) :
    Balanced rt (rt.setClient index ((rt.clients index).setBufferSlot slot buffer)) [] :=
  balanced_setClient client fun fd _ => weight_congr fd rfl rfl fun _ _ => Iff.rfl

/-- A file slot that is given up closes what it held. -/
theorem tryReleaseFileSlot_balanced {slot : Nat} {update : UpdateOutcome}
    (client : index < rt.limits.maxClients)
    (bound : (rt.clients index).fileSlotLimit ≤ maxRegisteredFds)
    (released : tryReleaseFileSlot rt index slot update = .ok next) : Balanced rt next [] := by
  have below : slot < maxRegisteredFds := by
    unfold tryReleaseFileSlot at released
    dsimp only at released
    split at released
    · cases released
    · omega
  rcases tryReleaseFileSlot_cases released with same | ⟨-, -, same⟩ | ⟨-, -, -, same⟩
  · rw [same]
    exact .refl rt
  · rw [same]
    exact clearFileSlot_balanced client below
  · rw [same]
    have table : Balanced rt { rt with ring := rt.ring.withFiles (Function.update
        rt.ring.kernel.registeredFiles (globalFileIndex rt index slot) (-1)) } [] :=
      balanced_of_same rfl rfl rfl
    exact table.then (clearFileSlot_balanced client below)

/-- A buffer slot holds nothing. -/
theorem tryReleaseBufferSlot_balanced {slot : Nat} (client : index < rt.limits.maxClients)
    (released : tryReleaseBufferSlot rt index slot = .ok next) : Balanced rt next [] := by
  rcases tryReleaseBufferSlot_cases released with same | same
  · rw [same]
    exact .refl rt
  · rw [same]
    exact balanced_setBufferSlot .cleared client

/-- A message holds nothing. -/
theorem queue_balanced {bytes : List UInt8} (client : index < rt.limits.maxClients)
    (queued : rt.queue index bytes = .ok next) : Balanced rt next [] := by
  rw [Runtime.queue_ok queued]
  exact balanced_setClient client fun fd _ => weight_congr fd rfl rfl fun _ _ => Iff.rfl

end Changes

/-! ## What the slots guarantee -/

/-- Slots without a registration hold no descriptor, and no client has more slots than the
table of its entry. -/
structure Housed (rt : Runtime) : Prop where
  limit : rt.limits.registeredFdsPerClient ≤ maxRegisteredFds
  bounded : ∀ index, (rt.clients index).fileSlotLimit ≤ maxRegisteredFds
  vacant : ∀ index slot, (rt.file index slot).registered = false →
    (rt.file index slot).daemonFd = -1

section Housing

variable {rt next : Runtime} {index : Nat}

/-- A valid descriptor is not the mark of an empty slot. -/
theorem ne_of_nonneg {fd : Fd} (valid : 0 ≤ fd) : ¬ -1 = fd := by
  rintro rfl
  exact absurd valid (by decide)

/-- A free slot holds no descriptor. -/
theorem Housed.free_slot {slot : Nat} (housed : Housed rt)
    (free : ((rt.clients index).fileResources slot).isFree = true) :
    ((rt.clients index).fileResources slot).daemonFd = -1 :=
  housed.vacant index slot (FileSlot.isFree_iff.mp free).1

/-- A slot that is vacant while it is free stays so. -/
theorem FileSlot.Keeps.stays_vacant {file after : FileSlot} (keeps : file.Keeps after)
    (vacant : file.registered = false → file.daemonFd = -1) (free : after.registered = false) :
    after.daemonFd = -1 := by
  rw [keeps.registered] at free
  rcases keeps.vacant free with same | empty
  · rw [same]
    exact vacant free
  · exact empty

/-- A slot is written with its table entry. -/
theorem Housed.sets {slot : Nat} {fd : Fd} (housed : Housed rt)
    (sets : SetsFile rt index slot fd next)
    (here : (next.file index slot).registered = false → (next.file index slot).daemonFd = -1) :
    Housed next := by
  refine ⟨?_, ?_, ?_⟩
  · rw [sets.limits]
    exact housed.limit
  · intro client
    rw [sets.sizes]
    exact housed.bounded client
  · intro client other
    by_cases same : client = index ∧ other = slot
    · rw [same.1, same.2]
      exact here
    · exact (sets.others client other (not_and_or.mp same)).stays_vacant
        (housed.vacant client other)

/-- A move keeps empty slots empty. -/
theorem FileMove.housed (move : FileMove index rt next) (housed : Housed rt) : Housed next := by
  cases move with
  | kept same =>
      refine ⟨?_, ?_, ?_⟩
      · rw [same.limits]
        exact housed.limit
      · intro client
        rw [same.sizes]
        exact housed.bounded client
      · intro client slot
        exact (same.files client slot).stays_vacant (housed.vacant client slot)
  | opened fd found limits table clients =>
      refine ⟨?_, ?_, ?_⟩
      · rw [limits]
        exact housed.limit
      · intro client
        rw [clients]
        by_cases here : client = index
        · subst here
          rw [Function.update_self]
          exact housed.limit
        · rw [Function.update_of_ne here]
          exact housed.bounded client
      · intro client slot free
        rw [Runtime.file, clients] at free ⊢
        by_cases here : client = index
        · subst here
          rw [Function.update_self]
          rfl
        · rw [Function.update_of_ne here] at free ⊢
          exact housed.vacant client slot free
  | registered slot fd client below vacant valid sets after =>
      apply housed.sets sets
      rw [after.1]
      rintro ⟨⟩
  | vacated slot held sets after => exact housed.sets sets fun _ => after.2
  | refreshed slot held sets after =>
      exact housed.sets sets (after.stays_vacant (housed.vacant index slot))

/-- Moves keep empty slots empty. -/
theorem FileMoves.housed {who : Nat → Prop} (moves : FileMoves who rt next)
    (housed : Housed rt) : Housed next := by
  induction moves with
  | refl => exact housed
  | tail earlier last ih =>
      obtain ⟨client, -, move⟩ := last
      exact move.housed ih

/-- All slots are empty at the start. -/
theorem Housed.initial (config : Config) : Housed (Runtime.initial config) := by
  refine ⟨config.slots_le.2.1, fun _ => Nat.le_refl _, ?_⟩
  intro client slot _
  rfl

/-- A descriptor is only received on a connection. -/
def Parted (rt : Runtime) : Prop :=
  ∀ index, (rt.clients index).isActive = false → (rt.clients index).receivedFd < 0

/-- A closed client holds no received descriptor. -/
theorem closedClient_receivedFd (client : Client) : (closedClient client).receivedFd < 0 := by
  change (if 0 ≤ client.receivedFd then -1 else client.receivedFd) < 0
  split
  · decide
  · rename_i below
    exact Int32.not_le.mp below

/-- The fields of a connection that its view keeps. -/
theorem core_fields {client after : Client} (core : after.core = client.core) :
    after.fd = client.fd ∧ after.receivedFd = client.receivedFd :=
  ⟨(congrArg Client.fd core : _), (congrArg Client.receivedFd core : _)⟩

/-- Every step keeps descriptors apart. -/
theorem Parted.stepped {action : Action} (parted : Parted rt) (grounded : Grounded rt)
    (taken : step rt action = .ok next) : Parted next := by
  intro other inactive
  have kept : (next.clients other).core = (rt.clients other).core →
      (next.clients other).receivedFd < 0 := by
    intro core
    obtain ⟨fd, received⟩ := core_fields core
    rw [Client.isActive, fd] at inactive
    rw [received]
    exact parted other inactive
  have active : rt.connected other = true → (rt.clients other).isActive = true := by
    intro connected
    rw [Runtime.connected, Bool.and_eq_true] at connected
    exact connected.2
  cases step_clients grounded taken other with
  | kept core pending => exact kept core
  | opened fd valid found entry =>
      rw [entry, Client.isActive] at inactive
      exact absurd valid (of_decide_eq_false inactive)
  | served connected served =>
      have still : (next.clients other).fd = (rt.clients other).fd →
          (next.clients other).receivedFd < 0 := by
        intro fd
        rw [Client.isActive, fd] at inactive
        have held := active connected
        rw [Client.isActive, inactive] at held
        cases held
      generalize after : next.clients other = last at served still
      cases served with
      | reading _ same busy ready => exact still (congrArg Client.fd same : _)
      | greeted result _ phase ready answer =>
          rcases answer with ⟨-, same⟩ | ⟨-, same⟩
          · exact still (congrArg Client.fd same : _)
          · exact still (congrArg Client.fd same : _)
      | closed base same => exact closedClient_receivedFd base
  | answered env middle bytes connected ready dispatched core descriptor pending =>
      have fd : (next.clients other).fd = (rt.clients other).fd := (congrArg Client.fd core : _)
      rw [Client.isActive, fd] at inactive
      have held := active connected
      rw [Client.isActive, inactive] at held
      cases held
  | delivered taskIndex record payload occupied own connected taskId length core pending =>
      exact kept core
  | flushed count connected core pending => exact kept core
  | closed last connected same entry =>
      rw [entry]
      exact closedClient_receivedFd last

end Housing

/-! ## Completions -/

section Completing

variable {rt next : Runtime} {index : Nat}

/-- A task gives a file back, and what nobody uses is closed. -/
theorem releaseTaskFile_balanced {held : Option Nat} {frees : FileSlot → Bool}
    {update : UpdateOutcome} (client : index < rt.limits.maxClients)
    (bound : (rt.clients index).fileSlotLimit ≤ maxRegisteredFds)
    (released : releaseTaskFile rt index held frees update = .ok next) : Balanced rt next [] := by
  unfold releaseTaskFile at released
  cases held with
  | none =>
      cases released
      exact .refl rt
  | some slot =>
      dsimp only at released
      split at released
      · have first : Balanced rt (rt.setClient index ((rt.clients index).setFileSlot slot
            { (rt.clients index).fileResources slot with
              inFlight := ((rt.clients index).fileResources slot).inFlight - 1 })) [] :=
          balanced_keepSlot client rfl
        split at released
        · refine first.then (tryReleaseFileSlot_balanced client ?_ released)
          rw [Runtime.clients_setClient]
          exact bound
        · cases released
          exact first
      · cases released
        exact .refl rt

/-- A task gives a buffer back. -/
theorem releaseTaskBuffer_balanced {held : Option Nat} (client : index < rt.limits.maxClients)
    (released : releaseTaskBuffer rt index held = .ok next) : Balanced rt next [] := by
  unfold releaseTaskBuffer at released
  cases held with
  | none =>
      cases released
      exact .refl rt
  | some slot =>
      dsimp only at released
      split at released
      · have first : Balanced rt (rt.setClient index ((rt.clients index).setBufferSlot slot
            { (rt.clients index).bufferResources slot with
              inFlight := ((rt.clients index).bufferResources slot).inFlight - 1 })) [] :=
          balanced_setBufferSlot _ client
        split at released
        · exact first.then (tryReleaseBufferSlot_balanced client released)
        · cases released
          exact first
      · cases released
        exact .refl rt

/-- Delivering a completion is balanced. -/
theorem deliverCompletion_balanced {task : TaskSlot} {prepared : Preparation}
    (client : task.clientIndex < prepared.rt.limits.maxClients)
    (delivered : deliverCompletion task prepared = .ok next) : Balanced prepared.rt next [] := by
  unfold deliverCompletion at delivered
  split at delivered
  · obtain ⟨queued, taken, rest⟩ := bind_ok delivered
    have first := queue_balanced client taken
    split at rest
    · split at rest
      · refine first.then (queue_balanced ?_ rest)
        rw [first.limits]
        exact client
      · cases rest
        exact first
    · cases rest
      exact first
  · cases delivered
    exact .refl _

/-- Copying a payload is balanced. -/
theorem readPayload_balanced {task : TaskSlot} {res : Int32} {prepared : Preparation}
    (client : task.clientIndex < prepared.rt.limits.maxClients) :
    Balanced prepared.rt (readPayload task res prepared).rt [] := by
  rcases readPayload_rt task res prepared with same | ⟨slot, -, -, -, filled⟩
  · rw [same]
    exact .refl _
  · rw [filled]
    exact balanced_setBufferSlot _ client

/-- The descriptor an operation produced. -/
def TaskSlot.produced (task : TaskSlot) (res : Int32) : List Fd :=
  if task.produces res then [res] else []

/-- A produced descriptor is closed or becomes a resource. -/
theorem Prepared.balanced {task : TaskSlot} {res : Int32} {update : UpdateOutcome}
    {prepared : Preparation} (how : Prepared rt task res update prepared) (housed : Housed rt)
    (client : task.clientIndex < rt.limits.maxClients)
    (below : ∀ slot, task.resultFileSlotIndex = some slot → slot < maxRegisteredFds ∧
      (rt.file task.clientIndex slot).registered = false) :
    Balanced rt prepared.rt (task.produced res) := by
  cases how with
  | plain nothing =>
      rw [TaskSlot.produced, nothing]
      exact .refl rt
  | abandoned final produces reason =>
      rw [TaskSlot.produced, produces]
      exact balanced_close res
  | registered slot length payload produces reserved connected valid updated address =>
      rw [TaskSlot.produced, produces]
      obtain ⟨within, vacant⟩ := below slot reserved
      have empty := housed.vacant task.clientIndex slot vacant
      refine balanced_of_client client rfl ?_ ?_
      · rw [Runtime.clients_setClient]
        rfl
      · intro fd nonnegative
        rw [Runtime.clients_setClient]
        have moved := @weight_setFileSlot (rt.clients task.clientIndex) slot
          { (rt.clients task.clientIndex).fileResources slot with
            resourceId := task.resultResourceId
            daemonFd := res
            registered := true
            closing := false } within fd
        have apart : ¬ ((rt.clients task.clientIndex).fileResources slot).daemonFd = fd := by
          intro same
          rw [← same] at nonnegative
          rw [Runtime.file] at empty
          rw [empty] at nonnegative
          exact absurd nonnegative (by decide)
        rw [if_neg apart, Nat.add_zero] at moved
        rw [moved]
        change _ + rt.ring.kernel.closed.count fd = _ + _ + List.count fd [res]
        rw [List.count_singleton]
        simp only [beq_iff_eq]
        omega

/-- The end of a completion moves nothing. -/
theorem settle_balanced {task : TaskSlot} {taskIndex : Nat} {res : Int32} {now : UInt64}
    (client : task.clientIndex < rt.limits.maxClients) :
    Balanced rt (settle rt task taskIndex res now) [] := by
  unfold settle countCompletion
  simp only [client, ↓reduceIte]
  refine balanced_of_weight client rfl rfl ?_ ?_
  · simp only [Runtime.setTask, emitTraceEvent, Runtime.setClient, Function.update_self]
  · intro other nonnegative
    simp only [Runtime.setTask, emitTraceEvent, Runtime.setClient, Function.update_self]
    exact weight_congr other rfl rfl fun _ _ => Iff.rfl

/-- A completion gains what its operation produced. -/
theorem completeTask_balanced {taskIndex : Nat} {res : Int32} {env : CompleteEnv}
    (housed : Housed rt) (client : (rt.tasks taskIndex).clientIndex < rt.limits.maxClients)
    (below : ∀ slot, (rt.tasks taskIndex).resultFileSlotIndex = some slot →
      slot < rt.limits.registeredFdsPerClient ∧
        (rt.file (rt.tasks taskIndex).clientIndex slot).registered = false)
    (completed : completeTask rt taskIndex res env = .ok next) :
    Balanced rt next ((rt.tasks taskIndex).produced res) := by
  obtain ⟨prepared, delivered, first, second, final, how, queued, file, result, buffer, same, -⟩ :=
    completeTask_parts client completed
  have anyone : (fun _ : Nat => True) (rt.tasks taskIndex).clientIndex := trivial
  have prepares : Balanced rt prepared.rt ((rt.tasks taskIndex).produced res) :=
    how.balanced housed client fun slot reserved =>
      ⟨Nat.lt_of_lt_of_le (below slot reserved).1 housed.limit, (below slot reserved).2⟩
  have moved : FileMoves (fun _ => True) rt delivered :=
    (how.moves client below anyone).trans
      ((readPayload_moves anyone).trans (deliverCompletion_moves anyone queued))
  have within : ∀ {state : Runtime} {gain : List Fd}, Balanced rt state gain →
      (rt.tasks taskIndex).clientIndex < state.limits.maxClients := by
    intro state gain balanced
    rw [balanced.limits]
    exact client
  have reads := prepares.then (@readPayload_balanced _ res _ (within prepares))
  have delivers := reads.then (deliverCompletion_balanced (within reads) queued)
  have releases := delivers.then (releaseTaskFile_balanced (within delivers)
    ((moved.housed housed).bounded _) file)
  have after : FileMoves (fun _ => True) rt first :=
    moved.trans (releaseTaskFile_moves anyone file)
  have again := releases.then (releaseTaskFile_balanced (within releases)
    ((after.housed housed).bounded _) result)
  have last := again.then (releaseTaskBuffer_balanced (within again) buffer)
  rw [same]
  exact last.then (settle_balanced (within last))

end Completing

/-! ## Dispatches -/

section Dispatching

variable {rt middle next : Runtime} {index : Nat} {env : DispatchEnv} {bytes : List UInt8}

/-- An answer is balanced. -/
theorem Answered.balanced (answered : Answered rt index bytes next)
    (client : index < rt.limits.maxClients) : Balanced rt next [] := by
  refine balanced_of_weight client ?_ ?_ ?_ ?_
  · rw [answered]
  · rw [answered]
  · conv_rhs => rw [answered]
    conv_lhs => rw [answered]
    simp only [Function.update_self]
  · intro fd _
    rw [answered]
    simp only [Function.update_self]
    exact weight_congr fd rfl rfl fun _ _ => Iff.rfl

/-- Dropping the received descriptor closes it. -/
theorem dropReceivedFd_balanced (client : index < rt.limits.maxClients) :
    Balanced rt (dropReceivedFd rt index) [] := by
  refine balanced_of_client client rfl ?_ ?_
  · rw [dropReceivedFd, Runtime.clients_setClient]
    rfl
  · intro fd valid
    rw [dropReceivedFd, Runtime.clients_setClient]
    change (if (rt.clients index).fd = fd then 1 else 0) + ((if -1 = fd then 1 else 0) +
      Nat.count (fun slot => ((rt.clients index).fileResources slot).daemonFd = fd)
        maxRegisteredFds) + (rt.ring.kernel.closed ++ [(rt.clients index).receivedFd]).count fd = _
    have empty : ¬ -1 = fd := ne_of_nonneg valid
    rw [if_neg empty, List.count_append, List.count_singleton, List.count_nil]
    simp only [beq_iff_eq]
    unfold Client.weight Client.holds
    omega

/-- The received descriptor becomes the resource of a free slot. -/
theorem fileRegistered_balanced {slot : Nat} {resourceId : ResourceId} {nextId : UInt32}
    {ring : Ring} (housed : Housed rt) (client : index < rt.limits.maxClients)
    (found : findFreeFileSlot (rt.clients index) = some slot)
    (closed : ring.kernel.closed = rt.ring.kernel.closed) :
    Balanced rt ({ rt with ring }.setClient index { (rt.clients index).setFileSlot slot
        { resourceId
          daemonFd := (rt.clients index).receivedFd
          registered := true
          closing := false
          inFlight := 0 } with
      nextResourceId := nextId
      receivedFd := -1 }) [] := by
  obtain ⟨below, vacant⟩ := findFreeFileSlot_found found
  have within := Nat.lt_of_lt_of_le below (housed.bounded index)
  refine balanced_of_weight client rfl closed ?_ ?_
  · rw [Runtime.clients_setClient]
    rfl
  · intro fd valid
    rw [Runtime.clients_setClient]
    have empty : ¬ -1 = fd := ne_of_nonneg valid
    have free : ¬ ((rt.clients index).fileResources slot).daemonFd = fd := by
      have unset : ((rt.clients index).fileResources slot).daemonFd = -1 :=
        housed.vacant index slot vacant
      rw [unset]
      exact empty
    generalize file : ({
      resourceId
      daemonFd := (rt.clients index).receivedFd
      registered := true
      closing := false
      inFlight := 0 } : FileSlot) = registered
    have moved := @weight_setFileSlot (rt.clients index) slot registered within fd
    have holds : registered.daemonFd = (rt.clients index).receivedFd := by rw [← file]
    have slots : ((rt.clients index).setFileSlot slot registered).weight fd =
        (if (rt.clients index).fd = fd then 1 else 0) +
          ((if (rt.clients index).receivedFd = fd then 1 else 0) + Nat.count (fun place =>
            (((rt.clients index).setFileSlot slot registered).fileResources place).daemonFd = fd)
            maxRegisteredFds) := rfl
    rw [if_neg free, holds, slots] at moved
    change (if (rt.clients index).fd = fd then 1 else 0) + ((if -1 = fd then 1 else 0) +
      Nat.count (fun place =>
        (((rt.clients index).setFileSlot slot registered).fileResources place).daemonFd = fd)
        maxRegisteredFds) = _
    rw [if_neg empty]
    omega

/-- A refused submission gives up nothing. -/
theorem RolledBack.balanced (rolledBack : RolledBack rt index env middle) (housed : Housed rt)
    (client : index < rt.limits.maxClients) : Balanced rt middle [] := by
  have entry : middle.clients index = { rt.clients index with
      nextResourceId := (middle.clients index).nextResourceId
      fileResources := (middle.clients index).fileResources } := by
    conv_lhs => rw [rolledBack.frame]
    exact Function.update_self ..
  apply balanced_of_weight client
  · rw [rolledBack.frame]
  · obtain ⟨table, -, same | ⟨sqe, errno, -, same⟩⟩ := rolledBack.ring
    · rw [same]
      rfl
    · rw [same]
      rfl
  · conv_lhs => rw [rolledBack.frame]
    rw [entry]
  · intro fd valid
    apply weight_congr fd
    · rw [entry]
    · rw [entry]
    · intro slot _
      rcases rolledBack.files slot with same | ⟨free, cleared⟩
      · rw [same]
      · rw [cleared, housed.free_slot free]
        exact Iff.rfl

/-- A CLOSE takes its descriptor out of the slot, other tasks take none. -/
theorem Acquires.weight {client after : Client} {task : TaskSlot} {fd : Fd}
    (acquires : Acquires client after task) (carries : Carries client task)
    (bound : client.fileSlotLimit ≤ maxRegisteredFds)
    (vacant : ∀ slot, (client.fileResources slot).isFree = true →
      (client.fileResources slot).daemonFd = -1)
    (socket : after.fd = client.fd) (received : after.receivedFd = client.receivedFd)
    (valid : 0 ≤ fd) : after.weight fd + task.closes.count fd = client.weight fd := by
  -- away from the slot of a CLOSE every slot keeps its descriptor
  have others : ∀ slot, (task.taskKind = .close → task.fileSlotIndex ≠ some slot) →
      (after.fileResources slot).daemonFd = (client.fileResources slot).daemonFd := by
    intro slot apart
    by_cases reserved : task.resultFileSlotIndex = some slot
    · obtain ⟨-, free, -, -, same⟩ := acquires.result slot reserved
      rw [same, vacant slot free]
      rfl
    · by_cases named : task.fileSlotIndex = some slot
      · rw [acquires.file slot named fun kind => apart kind named]
      · rw [acquires.file_other slot named reserved]
  unfold TaskSlot.closes
  split
  · rename_i kind
    obtain ⟨slot, named⟩ := Option.ne_none_iff_exists'.mp (carries.file (Or.inr kind))
    obtain ⟨-, descriptor, -, same⟩ := acquires.file_close slot named kind
    have below := (acquires.file_found slot named).1
    have moved := @weight_setFileSlot client slot (after.fileResources slot)
      (Nat.lt_of_lt_of_le below bound) fd
    have here : after.weight fd =
        (client.setFileSlot slot (after.fileResources slot)).weight fd := by
      refine weight_congr fd socket received ?_
      intro place _
      by_cases same : place = slot
      · subst same
        rw [file_setFileSlot]
      · rw [file_setFileSlot_of_ne same, others place]
        intro _ other
        rw [named] at other
        exact same (Option.some.inj other).symm
    have empty : ¬ (after.fileResources slot).daemonFd = fd := by
      rw [same]
      exact ne_of_nonneg valid
    rw [if_neg empty, Nat.add_zero] at moved
    rw [here, List.count_singleton, descriptor]
    simp only [beq_iff_eq]
    exact moved
  · rename_i kind
    rw [List.count_nil, Nat.add_zero]
    apply weight_congr fd socket received
    intro slot _
    rw [others slot fun close => absurd close kind]

/-- A task that is started takes over what it will close. -/
theorem Started.kept {taskIndex : Nat} {started : Runtime} {fd : Fd}
    (start : Started rt index taskIndex env started) (housed : Housed rt)
    (client : index < rt.limits.maxClients) (valid : 0 ≤ fd) (usesCredit : Bool) :
    (started.countAccepted index usesCredit).limits = rt.limits ∧
    (started.countAccepted index usesCredit).kept fd + (started.tasks taskIndex).closes.count fd =
      rt.kept fd := by
  have entry : started.clients index = { rt.clients index with
      nextResourceId := (started.clients index).nextResourceId
      fileResources := (started.clients index).fileResources
      bufferResources := (started.clients index).bufferResources } := by
    conv_lhs => rw [start.frame]
    exact Function.update_self ..
  have weight := @Acquires.weight _ _ _ fd start.acquires start.carries (housed.bounded index)
    (fun slot => housed.free_slot) (by rw [entry]) (by rw [entry]) valid
  have closed : started.ring.kernel.closed = rt.ring.kernel.closed := by
    obtain ⟨table, -, -, count, -, same⟩ := start.submitted
    rw [same]
    rfl
  rw [start.countAccepted_eq]
  refine ⟨rfl, ?_⟩
  unfold Runtime.kept
  rw [closed]
  generalize last : ({ rt.clients index with
    nextResourceId := (started.clients index).nextResourceId
    fileResources := (started.clients index).fileResources
    bufferResources := (started.clients index).bufferResources
    outstandingTasks := (rt.clients index).outstandingTasks + 1
    outstandingCreditTasks := (rt.clients index).outstandingCreditTasks +
      (if usesCredit then 1 else 0) } : Client) = after
  have same : after.weight fd = (started.clients index).weight fd := by
    rw [← last]
    refine weight_congr fd ?_ ?_ fun _ _ => Iff.rfl
    · rw [entry]
    · rw [entry]
  have moved := @tally_update _ (Client.weight fd) rt.clients _ index client after
  dsimp only
  omega

/-- A dispatch only moves descriptors. -/
theorem Dispatched.conserved (change : Dispatched rt index env middle bytes)
    (housed : Housed rt) (client : index < rt.limits.maxClients) :
    Conserved rt middle [] [] := by
  have table : ∀ {entry : Nat} {fd : Fd} {outcome : UpdateOutcome} {ring : Ring},
      ringUpdateRegisteredFile rt.ring entry fd outcome = (ring, none) →
      ring.kernel.closed = rt.ring.kernel.closed := by
    intro entry fd outcome ring updated
    rw [ringUpdateRegisteredFile_ok updated]
  have counter : ∀ nextId : UInt32, Balanced rt
      (rt.setClient index { rt.clients index with nextResourceId := nextId }) [] :=
    fun nextId => balanced_setClient client fun fd _ => weight_congr fd rfl rfl fun _ _ => Iff.rfl
  rcases change.quiet_or_accepted with quiet | ⟨taskIndex, started, -, start, same, -⟩
  · refine Balanced.conserved ?_ quiet
    cases change with
    | resourceRefused nextId result type unheld => exact counter nextId
    | descriptorDropped nextId result operation held =>
        exact (counter nextId).then (dropReceivedFd_balanced client)
    | fileRegistered slot resourceId nextId ring result operation held found allocated valid
        updated => exact fileRegistered_balanced housed client found (table updated)
    | bufferRegistered slot resourceId nextId result operation found allocated valid =>
        refine balanced_of_weight client rfl rfl ?_ ?_
        · rw [Runtime.clients_setClient]
          rfl
        · intro fd _
          rw [Runtime.clients_setClient]
          exact weight_congr fd rfl rfl fun _ _ => Iff.rfl
    | fileReleased slot ring result operation found idle updated =>
        have base : Balanced rt { rt with ring } [] := balanced_of_same rfl rfl (table updated)
        have below := (findFileSlot_found found).1
        exact base.then (clearFileSlot_balanced client
          (Nat.lt_of_lt_of_le below (housed.bounded index)))
    | bufferReleased slot result operation found idle =>
        exact balanced_setBufferSlot .cleared client
    | stats operation => exact .refl rt
    | trace result events operation counted => exact .refl rt
    | refused _ errno credits type rolledBack => exact rolledBack.balanced housed client
    | accepted taskIndex started credits type admitted start =>
        have moved := quiet.outstandingTasks
        rw [start.countAccepted_eq] at moved
        exact absurd moved (Nat.succ_ne_self _)
  · subst same
    refine ⟨(start.kept housed client (Int32.le_refl 0) _).1, ?_⟩
    intro fd valid
    have kept := (start.kept housed client valid (rt.clients index).usesCredit).2
    have counted : (started.countAccepted index (rt.clients index).usesCredit).closing fd =
        rt.closing fd + (started.tasks taskIndex).closes.count fd := by
      rw [TaskSlot.count_closes]
      exact start.countTasks_eq (rt.clients index).usesCredit _
    rw [Runtime.account, Runtime.account, counted, List.count_nil]
    omega

end Dispatching

/-! ## Connections and sweeps -/

section Others

variable {rt next : Runtime} {index : Nat}

/-- An entry that is reused holds no descriptor. -/
theorem reusableClient_weight {fd : Fd} (mirrored : Mirrored rt) (housed : Housed rt)
    (parted : Parted rt) (found : reusableClient rt = some index) (valid : 0 ≤ fd) :
    (rt.clients index).weight fd = 0 := by
  obtain ⟨-, reusable⟩ := firstBelow_some found
  simp only [Bool.and_eq_true, Bool.not_eq_true'] at reusable
  have inactive : (rt.clients index).isActive = false := reusable.1.1
  have socket : ¬ (rt.clients index).fd = fd := by
    intro same
    rw [Client.isActive, same] at inactive
    exact absurd valid (of_decide_eq_false inactive)
  have received : ¬ (rt.clients index).receivedFd = fd := by
    intro same
    have below := parted index inactive
    rw [same] at below
    exact absurd valid (Int32.not_le.mpr below)
  have slots : Nat.count (fun slot => ((rt.clients index).fileResources slot).daemonFd = fd)
      maxRegisteredFds = 0 := by
    apply Nat.count_iff_forall_not.mpr
    intro slot _ same
    have unset := housed.vacant index slot (reusableClient_vacant mirrored found slot)
    rw [Runtime.file, same] at unset
    exact ne_of_nonneg valid unset.symm
  rw [Client.weight, Client.holds, if_neg socket, if_neg received, slots]

/-- A new connection is taken or closed. -/
theorem openClient_balanced {fd : Fd} {env : OpenEnv} (mirrored : Mirrored rt)
    (housed : Housed rt) (parted : Parted rt) : Balanced rt (openClient rt fd env) [fd] := by
  unfold openClient
  split
  · exact balanced_close fd
  · split
    · exact balanced_close fd
    · rename_i index found
      split
      · exact balanced_close fd
      · have below := (firstBelow_some found).1
        refine balanced_of_client below rfl ?_ ?_
        · simp only [Runtime.setClient, Function.update_self]
        · intro other valid
          have before := reusableClient_weight mirrored housed parted found valid
          have after : (openedClient rt index fd).weight other =
              (if fd = other then 1 else 0) + ((if -1 = other then 1 else 0) +
                Nat.count (fun _ => -1 = other) maxRegisteredFds) := rfl
          have empty : ¬ -1 = other := ne_of_nonneg valid
          have slots : Nat.count (fun _ => -1 = other) maxRegisteredFds = 0 :=
            Nat.count_iff_forall_not.mpr fun _ _ => empty
          simp only [Runtime.setClient, Function.update_self]
          rw [after, before, if_neg empty, slots, List.count_singleton]
          simp only [beq_iff_eq]
          omega

/-- A sweep closes what it takes out of the slots. -/
theorem sweepClosingResources_balanced {updates : Nat → Nat → UpdateOutcome}
    {result : Runtime × Bool} (housed : Housed rt)
    (swept : sweepClosingResources rt updates = .ok result) : Balanced rt result.1 [] := by
  have both := @sweepClosingResources_related rt
    (fun before after => before.limits = rt.limits → Housed before →
      Balanced before after [] ∧ Housed after) updates result
    (fun before _ inside => ⟨.refl before, inside⟩) ?_ ?_ ?_ swept
  · exact (both rfl housed).1
  · intro first second third one two limits inside
    obtain ⟨balanced, between⟩ := one limits inside
    obtain ⟨again, last⟩ := two (balanced.limits.trans limits) between
    exact ⟨balanced.then again, last⟩
  · intro before client slot update after below released limits inside
    refine ⟨tryReleaseFileSlot_balanced ?_ (inside.bounded client) released,
      (tryReleaseFileSlot_move released).housed inside⟩
    rw [limits]
    exact below
  · intro before client slot after below released limits inside
    refine ⟨tryReleaseBufferSlot_balanced ?_ released,
      (@FileMove.kept client _ _ (tryReleaseBufferSlot_same released)).housed inside⟩
    rw [limits]
    exact below

/-- Flushing sends bytes or closes the connection. -/
theorem flushOrClose_balanced {writes : List WriteOutcome} (client : index < rt.limits.maxClients) :
    Balanced rt (flushOrClose rt index writes).1 [] := by
  obtain ⟨output, sent, flushed⟩ := flushClientOutput_client (rt.clients index) writes
  have first : Balanced rt
      (rt.setClient index (flushClientOutput (rt.clients index) writes).1) [] := by
    refine balanced_setClient client fun fd _ => ?_
    rw [flushed]
    exact weight_congr fd rfl rfl fun _ _ => Iff.rfl
  unfold flushOrClose
  dsimp only
  split
  · exact first.then (closeClient_balanced client)
  · exact first

end Others

end Iouringd
