import Iouringd.Daemon.Isolation
import Iouringd.Daemon.Sweeping

/-! # Entries of connections that are gone

A connection can end while its tasks are running, so its entry is kept until the last of them
completes. The slots of an entry without a connection are all on their way out: what is
registered is closing. Once no task is left the next sweep frees them, and the entry can be
used for another connection, which it cannot before.
-/

namespace Iouringd

open Foundation

/-- What is registered is closing. -/
structure Retiring (client : Client) : Prop where
  file : ∀ slot, (client.fileResources slot).registered = true →
    (client.fileResources slot).closing = true
  buffer : ∀ slot, (client.bufferResources slot).registered = true →
    (client.bufferResources slot).closing = true

/-- An entry that `iouringd_open_client` may take. -/
def Client.isVacant (client : Client) : Bool :=
  !client.isActive && !clientHasRetainedResources client && client.outstandingTasks == 0

/-! ## Slots on their way out -/

section Retire

variable {config : Config} {rt next : Runtime} {action : Action} {client after : Client}

theorem closedClient_retiring (client : Client) : Retiring (closedClient client) := by
  constructor
  · intro slot registered
    change (if (client.fileResources slot).registered then
      { client.fileResources slot with closing := true } else
      client.fileResources slot).registered = true at registered
    change (if (client.fileResources slot).registered then
      { client.fileResources slot with closing := true } else
      client.fileResources slot).closing = true
    split
    · rfl
    · rename_i vacant
      rw [if_neg vacant] at registered
      exact absurd registered vacant
  · intro slot registered
    change (if (client.bufferResources slot).registered then
      { client.bufferResources slot with closing := true } else
      client.bufferResources slot).registered = true at registered
    change (if (client.bufferResources slot).registered then
      { client.bufferResources slot with closing := true } else
      client.bufferResources slot).closing = true
    split
    · rfl
    · rename_i vacant
      rw [if_neg vacant] at registered
      exact absurd registered vacant

/-- A slot that a task lets go of keeps its marks or is cleared. -/
theorem FileSlot.released_retiring {file : FileSlot} {frees : FileSlot → Bool}
    (retiring : file.registered = true → file.closing = true)
    (registered : (file.released frees).registered = true) :
    (file.released frees).closing = true := by
  unfold FileSlot.released at registered ⊢
  dsimp only at registered ⊢
  split at registered
  · cases registered
  · rename_i held
    rw [if_neg held]
    exact retiring registered

theorem BufferSlot.released_retiring {buffer : BufferSlot}
    (retiring : buffer.registered = true → buffer.closing = true)
    (registered : buffer.released.registered = true) : buffer.released.closing = true := by
  unfold BufferSlot.released at registered ⊢
  dsimp only at registered ⊢
  split at registered
  · cases registered
  · rename_i held
    rw [if_neg held]
    exact retiring registered

/-- A completion for a connection that is gone registers nothing. -/
theorem Releases.retiring {task : TaskSlot} {res : Int32}
    (releases : Releases rt task res after) (gone : (rt.clients task.clientIndex).isActive = false)
    (retiring : Retiring (rt.clients task.clientIndex)) : Retiring after := by
  constructor
  · intro slot registered
    by_cases named : task.fileSlotIndex = some slot
    · rw [releases.file slot named] at registered ⊢
      exact FileSlot.released_retiring (retiring.file slot) registered
    by_cases reserved : task.resultFileSlotIndex = some slot
    · rcases releases.result slot reserved with same | ⟨connected, -⟩
      · rw [same] at registered ⊢
        exact FileSlot.released_retiring (retiring.file slot) registered
      · rw [taskConnected, gone, Bool.false_and] at connected
        cases connected
    · rw [releases.file_other slot named reserved] at registered ⊢
      exact retiring.file slot registered
  · intro slot registered
    by_cases named : task.bufferSlotIndex = some slot
    · obtain ⟨length, same⟩ := releases.buffer slot named
      rw [same] at registered ⊢
      exact BufferSlot.released_retiring (retiring.buffer slot) registered
    · rw [releases.buffer_other slot named] at registered ⊢
      exact retiring.buffer slot registered

theorem Retiring.swept (retiring : Retiring client) : Retiring client.swept := by
  constructor
  · intro slot registered
    unfold Client.swept at registered ⊢
    dsimp only at registered ⊢
    split at registered
    · rename_i within
      rw [if_pos within]
      split at registered
      · cases registered
      · rename_i kept
        rw [if_neg kept]
        exact retiring.file slot registered
    · rename_i outside
      rw [if_neg outside]
      exact retiring.file slot registered
  · intro slot registered
    unfold Client.swept at registered ⊢
    dsimp only at registered ⊢
    split at registered
    · rename_i within
      rw [if_pos within]
      split at registered
      · cases registered
      · rename_i kept
        rw [if_neg kept]
        exact retiring.buffer slot registered
    · rename_i outside
      rw [if_neg outside]
      exact retiring.buffer slot registered

/-- A step changes an entry without a connection only by completing a task of it, by a sweep
or by opening it. -/
theorem Invariant.step_gone {index : Nat} (invariant : Invariant config rt)
    (taken : step rt action = .ok next) (gone : (rt.clients index).isActive = false)
    (retiring : Retiring (rt.clients index)) :
    (next.clients index).isActive = true ∨ Retiring (next.clients index) := by
  have elsewhere : ∀ {other : Nat}, rt.connected other = true → index ≠ other := by
    intro other connected same
    rw [Runtime.connected, ← same, gone, Bool.and_false] at connected
    cases connected
  have untouched : ∀ {other : Nat}, rt.actor action = some other → index ≠ other →
      Retiring (next.clients index) := by
    intro other actor apart
    rw [(step_effect invariant.grounded taken).client_other actor apart]
    exact retiring
  cases step_effect invariant.grounded taken with
  | opened other fd env valid found =>
      by_cases here : index = other
      · subst here
        left
        rw [Runtime.clients_setClient]
        exact decide_eq_true valid
      · right
        change Retiring (Function.update rt.clients other _ index)
        rw [Function.update_of_ne here]
        exact retiring
  | served other incoming _ connected only served =>
      exact Or.inr (untouched rfl (elsewhere connected))
  | dispatched other env middle bytes _ connected ready change answered =>
      exact Or.inr (untouched rfl (elsewhere connected))
  | flushed other writes _ connected only flushed =>
      exact Or.inr (untouched rfl (elsewhere connected))
  | disconnected other connected => exact Or.inr (untouched rfl (elsewhere connected))
  | completed _ taskIndex res ring _ occupied source completed =>
      right
      by_cases own : index = (rt.tasks taskIndex).clientIndex
      · rw [own] at gone retiring ⊢
        exact completed.releases.retiring gone retiring
      · rw [completed.frame]
        change Retiring (Function.update rt.clients _ _ index)
        rw [Function.update_of_ne own]
        exact retiring
  | swept updates _ swept slots =>
      right
      obtain ⟨result, released, done⟩ := bind_ok taken
      cases done
      rw [(sweepClosingResources_ok released).1 index]
      split
      · exact retiring.swept
      · exact retiring
  | stored store =>
      right
      cases store <;> exact retiring
  | _ => exact Or.inr retiring

/-- Reading a connection ends it by closing its entry. -/
theorem Served.retiring (served : Served client after) (active : client.isActive = true)
    (gone : after.isActive = false) : Retiring after := by
  have still : after.fd = client.fd → Retiring after := by
    intro same
    rw [Client.isActive, same] at gone
    rw [Client.isActive, gone] at active
    cases active
  cases served with
  | reading _ same busy ready => exact still (congrArg Client.fd same : _)
  | greeted result _ phase ready answer =>
      rcases answer with ⟨-, same⟩ | ⟨-, same⟩
      · exact still (congrArg Client.fd same : _)
      · exact still (congrArg Client.fd same : _)
  | closed last same => exact closedClient_retiring last

/-- So does everything else that ends it. -/
theorem ClientStep.retiring {index : Nat} (view : ClientStep rt next index)
    (active : (rt.clients index).isActive = true)
    (gone : (next.clients index).isActive = false) : Retiring (next.clients index) := by
  have still : (next.clients index).fd = (rt.clients index).fd →
      Retiring (next.clients index) := by
    intro same
    rw [Client.isActive, same] at gone
    rw [Client.isActive, gone] at active
    cases active
  cases view with
  | kept core pending => exact still (congrArg Client.fd core : _)
  | opened fd valid found entry =>
      rw [entry] at gone
      exact absurd (decide_eq_true valid) (Bool.eq_false_iff.mp gone)
  | served connected served => exact served.retiring active gone
  | answered env middle bytes connected ready dispatched core descriptor pending =>
      exact still (congrArg Client.fd core : _)
  | delivered taskIndex record payload occupied own connected taskId length core pending =>
      exact still (congrArg Client.fd core : _)
  | flushed count connected core pending => exact still (congrArg Client.fd core : _)
  | closed last connected same entry =>
      rw [entry]
      exact closedClient_retiring last

/-- In every reachable state what a disconnected client has registered is closing. -/
theorem Reachable.retiring (reachable : Reachable config rt) (index : Nat)
    (gone : (rt.clients index).isActive = false) : Retiring (rt.clients index) := by
  have both : Invariant config rt ∧
      ∀ index, (rt.clients index).isActive = false → Retiring (rt.clients index) := by
    refine @Reachable.induct _ _ (fun rt => Invariant config rt ∧
      ∀ index, (rt.clients index).isActive = false → Retiring (rt.clients index)) reachable ?_ ?_
    · exact ⟨.initial config, fun index _ => ⟨nofun, nofun⟩⟩
    · intro rt action next ⟨invariant, retiring⟩ taken
      refine ⟨invariant.stepped taken, fun index gone => ?_⟩
      by_cases active : (rt.clients index).isActive = true
      · exact (step_clients invariant.grounded taken index).retiring active gone
      · rw [Bool.not_eq_true] at active
        rcases invariant.step_gone taken active (retiring index active) with open' | done
        · rw [gone] at open'
          cases open'
        · exact done
  exact both.2 index gone

/-- The ring stays open, and its table has an entry for every slot. -/
theorem Reachable.table (reachable : Reachable config rt) :
    rt.ring.registeredFilesCount = rt.limits.maxClients * rt.limits.registeredFdsPerClient ∧
      0 ≤ rt.ring.ringFd := by
  have both : Invariant config rt ∧
      rt.ring.registeredFilesCount = rt.limits.maxClients * rt.limits.registeredFdsPerClient ∧
        0 ≤ rt.ring.ringFd := by
    refine @Reachable.induct _ _ (fun rt => Invariant config rt ∧ rt.ring.registeredFilesCount =
      rt.limits.maxClients * rt.limits.registeredFdsPerClient ∧ 0 ≤ rt.ring.ringFd) reachable ?_ ?_
    · exact ⟨.initial config, config.files_count, config.ring_open⟩
    · intro rt action next ⟨invariant, count, ringOpen⟩ taken
      obtain ⟨sameCount, sameRing⟩ := (step_effect invariant.grounded taken).filesCount
      have limits := (step_shape invariant.grounded taken).constants.1
      rw [sameCount, sameRing, limits]
      exact ⟨invariant.stepped taken, count, ringOpen⟩
  exact both.2

end Retire

/-! ## The sweep succeeds when the updates of the table do -/

section Total

variable {config : Config} {rt now : Runtime} {index slot : Nat}

/-- A state in the middle of a sweep that began in `rt`: everything the releases rely on is
still there. -/
structure Sweeping (rt now : Runtime) : Prop where
  ringOpen : 0 ≤ now.ring.ringFd
  within : ∀ index slot, (now.file index slot).registered = true →
    globalFileIndex now index slot < now.ring.registeredFilesCount
  files : ∀ index, (now.clients index).fileSlotLimit = (rt.clients index).fileSlotLimit
  buffers : ∀ index, (now.clients index).bufferSlotLimit = (rt.clients index).bufferSlotLimit

theorem Reachable.sweeping (reachable : Reachable config rt) : Sweeping rt rt := by
  obtain ⟨count, ringOpen⟩ := reachable.table
  refine ⟨ringOpen, ?_, fun _ => rfl, fun _ => rfl⟩
  intro index slot registered
  obtain ⟨client, below⟩ := reachable.mirrored.within index slot registered
  rw [count]
  exact globalFileIndex_lt client below

/-- Releases keep it. -/
theorem Sweeping.touched {next : Runtime} (sweeping : Sweeping rt now)
    (touches : Touches now index next)
    (files : ∀ slot, (next.file index slot).registered = true →
      globalFileIndex now index slot < now.ring.registeredFilesCount) : Sweeping rt next := by
  have sizes : ∀ other, (next.clients other).fileSlotLimit = (now.clients other).fileSlotLimit ∧
      (next.clients other).bufferSlotLimit = (now.clients other).bufferSlotLimit := by
    intro other
    rw [touches.clients]
    by_cases here : other = index
    · subst here
      rw [Function.update_self, touches.client]
      exact ⟨rfl, rfl⟩
    · rw [Function.update_of_ne here]
      exact ⟨rfl, rfl⟩
  have limits : next.limits = now.limits := by rw [touches.frame]
  refine ⟨?_, ?_, ?_, ?_⟩
  · rw [touches.ring]
    exact sweeping.ringOpen
  · intro other slot registered
    have count : next.ring.registeredFilesCount = now.ring.registeredFilesCount := by
      rw [touches.ring]
    rw [count, globalFileIndex_congr limits]
    by_cases here : other = index
    · subst here
      exact files slot registered
    · rw [Runtime.file, touches.clients, Function.update_of_ne here] at registered
      exact sweeping.within other slot registered
  · intro other
    rw [(sizes other).1, sweeping.files]
  · intro other
    rw [(sizes other).2, sweeping.buffers]

/-- With an update that succeeds, an entry of a slot can be replaced. -/
theorem updateRegisteredFile_total {entry : Nat} {fd : Fd} (ringOpen : 0 ≤ rt.ring.ringFd)
    (below : entry < rt.ring.registeredFilesCount) (valid : -1 ≤ fd) :
    updateRegisteredFile rt entry fd (.updated 1) = .ok { rt with
      ring := rt.ring.withFiles (Function.update rt.ring.kernel.registeredFiles entry fd) } := by
  have allowed : (decide (rt.ring.ringFd < 0) || decide (rt.ring.registeredFilesCount ≤ entry) ||
      decide (fd < -1)) = false := by
    rw [decide_eq_false (Int32.not_lt.mpr ringOpen), decide_eq_false (Nat.not_le.mpr below),
      decide_eq_false (Int32.not_lt.mpr valid)]
    rfl
  unfold updateRegisteredFile ringUpdateRegisteredFile
  rw [allowed]
  rfl

theorem Sweeping.setFileSlot {file : FileSlot} (sweeping : Sweeping rt now)
    (registration : file.registered = (now.file index slot).registered) :
    Sweeping rt (now.setClient index ((now.clients index).setFileSlot slot file)) := by
  apply sweeping.touched (Touches.setFileSlot slot file)
  intro other registered
  apply sweeping.within index other
  rw [Runtime.file, Runtime.clients_setClient] at registered
  change (Function.update (now.clients index).fileResources slot file other).registered = true
    at registered
  by_cases same : other = slot
  · subst same
    rw [Function.update_self, registration] at registered
    exact registered
  · rw [Function.update_of_ne same] at registered
    exact registered

theorem Sweeping.setBufferSlot {buffer : BufferSlot} (sweeping : Sweeping rt now) :
    Sweeping rt (now.setClient index ((now.clients index).setBufferSlot slot buffer)) := by
  apply sweeping.touched (Touches.setBufferSlot slot buffer)
  intro other registered
  rw [Runtime.file, Runtime.clients_setClient] at registered
  exact sweeping.within index other registered

theorem Sweeping.releaseFile (sweeping : Sweeping rt now)
    (below : slot < (rt.clients index).fileSlotLimit) :
    ∃ next, tryReleaseFileSlot now index slot (.updated 1) = .ok next ∧ Sweeping rt next := by
  have exists' : ∃ next, tryReleaseFileSlot now index slot (.updated 1) = .ok next := by
    unfold tryReleaseFileSlot
    dsimp only
    rw [sweeping.files, if_neg (Nat.not_le.mpr below)]
    split
    · split
      · exact ⟨_, rfl⟩
      · exact ⟨_, rfl⟩
    · rename_i held
      rw [Bool.not_eq_true', Bool.not_eq_false] at held
      split
      · exact ⟨_, rfl⟩
      · have position := sweeping.within index slot held
        rw [updateRegisteredFile_total sweeping.ringOpen position (by decide)]
        exact ⟨_, rfl⟩
  obtain ⟨next, released⟩ := exists'
  refine ⟨next, released, sweeping.touched (tryReleaseFileSlot_ok released).1 ?_⟩
  intro other registered
  rcases tryReleaseFileSlot_file released index other with same | cleared
  · rw [same] at registered
    exact sweeping.within index other registered
  · rw [cleared] at registered
    cases registered

theorem Sweeping.releaseBuffer (sweeping : Sweeping rt now)
    (below : slot < (rt.clients index).bufferSlotLimit) :
    ∃ next, tryReleaseBufferSlot now index slot = .ok next ∧ Sweeping rt next := by
  have exists' : ∃ next, tryReleaseBufferSlot now index slot = .ok next := by
    unfold tryReleaseBufferSlot
    dsimp only
    rw [sweeping.buffers, if_neg (Nat.not_le.mpr below)]
    split
    · split
      · exact ⟨_, rfl⟩
      · exact ⟨_, rfl⟩
    · split
      · exact ⟨_, rfl⟩
      · exact ⟨_, rfl⟩
  obtain ⟨next, released⟩ := exists'
  obtain ⟨touches, entry⟩ := tryReleaseBufferSlot_ok released
  refine ⟨next, released, sweeping.touched touches ?_⟩
  intro other registered
  rw [Runtime.file, entry] at registered
  split at registered
  · exact sweeping.within index other registered
  · exact sweeping.within index other registered

/-- With updates that succeed, so does the sweep. -/
theorem Reachable.sweeps {updates : Nat → Nat → UpdateOutcome} (reachable : Reachable config rt)
    (updated : ∀ index slot, updates index slot = .updated 1) :
    ∃ result, sweepClosingResources rt updates = .ok result := by
  have pass : ∀ (body : Runtime × Bool → Nat → Except Errno (Runtime × Bool)) (items : List Nat)
      (state : Runtime × Bool), Sweeping rt state.1 →
      (∀ state item, item ∈ items → Sweeping rt state.1 →
        ∃ next, body state item = .ok next ∧ Sweeping rt next.1) →
      ∃ next, items.foldlM body state = .ok next ∧ Sweeping rt next.1 := by
    intro body items state sweeping turn
    exact @run_total _ _ _ body state items (fun state => Sweeping rt state.1) turn sweeping
  have files : ∀ state index, Sweeping rt state.1 → ∃ next,
      (List.range (state.1.clients index).fileSlotLimit).foldlM (sweepFileSlot index updates)
        state = .ok next ∧ Sweeping rt next.1 := by
    intro state index sweeping
    apply pass _ _ _ sweeping
    intro now slot member sweeping'
    unfold sweepFileSlot
    dsimp only
    split
    · exact ⟨now, rfl, sweeping'⟩
    · rw [List.mem_range, sweeping.files] at member
      obtain ⟨next, released, still⟩ := sweeping'.releaseFile member
      rw [updated, released]
      exact ⟨_, rfl, still⟩
  have buffers : ∀ state index, Sweeping rt state.1 → ∃ next,
      (List.range (state.1.clients index).bufferSlotLimit).foldlM (sweepBufferSlot index) state =
        .ok next ∧ Sweeping rt next.1 := by
    intro state index sweeping
    apply pass _ _ _ sweeping
    intro now slot member sweeping'
    unfold sweepBufferSlot
    dsimp only
    split
    · exact ⟨now, rfl, sweeping'⟩
    · rw [List.mem_range, sweeping.buffers] at member
      obtain ⟨next, released, still⟩ := sweeping'.releaseBuffer member
      rw [released]
      exact ⟨_, rfl, still⟩
  obtain ⟨result, swept, -⟩ := pass (sweepClient updates) (List.range rt.limits.maxClients)
    (rt, false) reachable.sweeping (by
      intro state index _ sweeping
      obtain ⟨middle, first, between⟩ := files state index sweeping
      obtain ⟨next, second, after⟩ := buffers middle index between
      refine ⟨next, ?_, after⟩
      unfold sweepClient
      rw [first]
      exact second)
  exact ⟨result, swept⟩

end Total

/-! ## Reclaiming an entry -/

/-- Nothing of the last connection is left in the entry, and the next connection is put there
when no entry before it is free. -/
structure Reclaimed (rt : Runtime) (index : Nat) : Prop where
  unretained : clientHasRetainedResources (rt.clients index) = false
  outstandingTasks : (rt.clients index).outstandingTasks = 0
  table : ∀ slot < rt.limits.registeredFdsPerClient,
    rt.ring.kernel.registeredFiles (globalFileIndex rt index slot) = -1
  reopens : ∀ fd env, env.nonblocking = true → env.allocated = true →
    (∀ earlier < index, (rt.clients earlier).isVacant = false) →
    openClient rt fd env = { rt.setClient index (openedClient rt index fd) with
      nextClientGeneration := rt.nextClientGeneration + 1 }

section Reclaims

variable {config : Config} {rt next : Runtime} {index : Nat}

/-- A connection goes to the first entry that is vacant. -/
theorem openClient_of_vacant {fd : Fd} {env : OpenEnv} (below : index < rt.limits.maxClients)
    (vacant : (rt.clients index).isVacant = true)
    (first : ∀ earlier < index, (rt.clients earlier).isVacant = false)
    (nonblocking : env.nonblocking = true) (allocated : env.allocated = true) :
    openClient rt fd env = { rt.setClient index (openedClient rt index fd) with
      nextClientGeneration := rt.nextClientGeneration + 1 } := by
  have found : reusableClient rt = some index := firstBelow_eq_some below vacant first
  unfold openClient
  rw [nonblocking, found, allocated]
  rfl

/-- An entry that is swept holds nothing when its slots are retiring and not in flight. -/
theorem Retiring.unretained {client : Client} (retiring : Retiring client)
    (idle : ∀ slot, (client.fileResources slot).inFlight = 0 ∧
      (client.bufferResources slot).inFlight = 0) :
    clientHasRetainedResources client.swept = false := by
  have file : ∀ slot < client.fileSlotLimit, (client.swept.fileResources slot).isFree = true := by
    intro slot below
    change (if slot ∈ List.range client.fileSlotLimit then
      (if (client.fileResources slot).due then .cleared else client.fileResources slot)
      else client.fileResources slot).isFree = true
    rw [if_pos (List.mem_range.mpr below)]
    split
    · rfl
    · rename_i kept
      rw [FileSlot.due, (idle slot).1, Bool.and_eq_true, not_and] at kept
      have closing : (client.fileResources slot).closing = false :=
        Bool.eq_false_iff.mpr fun closing => kept closing rfl
      have registered : (client.fileResources slot).registered = false := by
        rw [Bool.eq_false_iff]
        intro registered
        rw [retiring.file slot registered] at closing
        cases closing
      exact FileSlot.isFree_iff.mpr ⟨registered, closing, (idle slot).1⟩
  have buffer : ∀ slot < client.bufferSlotLimit,
      (client.swept.bufferResources slot).isFree = true := by
    intro slot below
    change (if slot ∈ List.range client.bufferSlotLimit then
      (if (client.bufferResources slot).due then .cleared else client.bufferResources slot)
      else client.bufferResources slot).isFree = true
    rw [if_pos (List.mem_range.mpr below)]
    split
    · rfl
    · rename_i kept
      rw [BufferSlot.due, (idle slot).2, Bool.and_eq_true, not_and] at kept
      have closing : (client.bufferResources slot).closing = false :=
        Bool.eq_false_iff.mpr fun closing => kept closing rfl
      have registered : (client.bufferResources slot).registered = false := by
        rw [Bool.eq_false_iff]
        intro registered
        rw [retiring.buffer slot registered] at closing
        cases closing
      exact BufferSlot.isFree_iff.mpr ⟨registered, closing, (idle slot).2⟩
  unfold clientHasRetainedResources
  rw [Bool.or_eq_false_iff, List.any_eq_false, List.any_eq_false]
  refine ⟨fun slot member => ?_, fun slot member => ?_⟩
  · rw [file slot (List.mem_range.mp member)]
    decide
  · rw [buffer slot (List.mem_range.mp member)]
    decide

/-- A task of the entry counts for it. -/
theorem Invariant.busy_of_task {taskIndex : Nat} (invariant : Invariant config rt)
    (occupied : rt.occupied taskIndex = true) :
    (rt.clients (rt.tasks taskIndex).clientIndex).outstandingTasks ≠ 0 := by
  rw [invariant.ledger.clientTasks]
  exact Nat.ne_of_gt (countTasks_pos occupied (beq_self_eq_true _))

/-- Without a task of the entry nothing counts for it. -/
theorem Invariant.idle_of_no_task (invariant : Invariant config rt)
    (alone : ∀ taskIndex, rt.occupied taskIndex = true → (rt.tasks taskIndex).clientIndex ≠ index) :
    (rt.clients index).outstandingTasks = 0 := by
  rw [invariant.ledger.clientTasks]
  apply Nat.count_iff_forall_not.mpr
  intro taskIndex below counted
  rw [Bool.and_eq_true] at counted
  exact alone taskIndex (occupied_iff.mpr ⟨below, counted.1⟩) (beq_iff_eq.mp counted.2)

/-- A sweep reclaims the entry of a connection that is gone with all its tasks. -/
theorem Reachable.reclaimed {updates : Nat → Nat → UpdateOutcome} {result : Runtime × Bool}
    (reachable : Reachable config rt) (below : index < rt.limits.maxClients)
    (gone : (rt.clients index).isActive = false)
    (alone : ∀ taskIndex, rt.occupied taskIndex = true → (rt.tasks taskIndex).clientIndex ≠ index)
    (swept : sweepClosingResources rt updates = .ok result) : Reclaimed result.1 index := by
  have invariant := reachable.invariant
  have retiring := reachable.retiring index gone
  have drained := invariant.idle_of_no_task alone
  have idle := invariant.holds.idle invariant.ledger index drained
  have frame := sweepClosingResources_swept swept
  have limits : result.1.limits = rt.limits := by rw [frame.frame]
  have entry : result.1.clients index = (rt.clients index).swept := by
    rw [(sweepClosingResources_ok swept).1 index, if_pos (List.mem_range.mpr below)]
  have mirrored : Mirrored result.1 := by
    have taken : step rt (.sweep updates) = .ok result.1 := by
      simp only [step, swept]
      rfl
    exact (invariant.step_moves taken).mirrored reachable.mirrored
  have unretained : clientHasRetainedResources (result.1.clients index) = false := by
    rw [entry]
    exact retiring.unretained idle
  have tasks : (result.1.clients index).outstandingTasks = 0 := by
    rw [entry]
    exact drained
  refine ⟨unretained, tasks, ?_, ?_⟩
  · intro slot within
    rw [mirrored.entries index slot (limits ▸ below) within, FileSlot.entry]
    have vacant : (result.1.file index slot).registered = false := by
      have free := (Bool.or_eq_false_iff.mp unretained).1
      rw [List.any_eq_false] at free
      have small := Nat.lt_of_lt_of_le within (mirrored.sized index)
      have isFree := free slot (List.mem_range.mpr small)
      rw [Bool.not_eq_true, Bool.not_eq_false', FileSlot.isFree_iff] at isFree
      exact isFree.1
    rw [vacant]
    rfl
  · intro fd env nonblocking allocated first
    refine openClient_of_vacant (limits ▸ below) ?_ first nonblocking allocated
    have inactive : (result.1.clients index).isActive = false := by
      rw [entry]
      exact gone
    rw [Client.isVacant, inactive, unretained, tasks]
    rfl

/-- In every reachable state the slots of disconnected clients are closing. Once a
disconnected client has no task left, a sweep reclaims its entry; while it has one, no step
opens the entry again. -/
theorem disconnected_clients_reclaimed (reachable : Reachable config rt) :
    (∀ index, (rt.clients index).isActive = false → Retiring (rt.clients index)) ∧
    (∀ index updates, index < rt.limits.maxClients → (rt.clients index).isActive = false →
      (∀ taskIndex, rt.occupied taskIndex = true → (rt.tasks taskIndex).clientIndex ≠ index) →
      (∀ client slot, updates client slot = .updated 1) →
      ∃ result, sweepClosingResources rt updates = .ok result ∧ Reclaimed result.1 index) ∧
    (∀ taskIndex action next, rt.occupied taskIndex = true → step rt action = .ok next →
      opensAt rt next (rt.tasks taskIndex).clientIndex = false) := by
  have invariant := reachable.invariant
  refine ⟨reachable.retiring, ?_, ?_⟩
  · intro index updates below gone alone updated
    obtain ⟨result, swept⟩ := reachable.sweeps updated
    exact ⟨result, swept, reachable.reclaimed below gone alone swept⟩
  · intro taskIndex action next occupied taken
    rw [Bool.eq_false_iff]
    intro opens
    have view := step_clients invariant.grounded taken (rt.tasks taskIndex).clientIndex
    obtain ⟨fd, found, -⟩ := view.entry_of_opens opens
    have vacant := (firstBelow_some found).2
    simp only [Bool.and_eq_true, beq_iff_eq] at vacant
    exact invariant.busy_of_task occupied vacant.2

end Reclaims

/-- The client that registered descriptor 9 has left: the sweep frees its slot, and the next
connection gets its entry. -/
theorem disconnected_client_reclaimed_idle :
    ∃ rt result, run step (Runtime.initial (.small 1 (by decide) (by decide)))
        (joining 0 7 ++ registering 0 9 ++ [.disconnect 0]) = .ok rt ∧
      ((rt.clients 0).fileResources 0).registered = true ∧ Retiring (rt.clients 0) ∧
      sweepClosingResources rt (fun _ _ => .updated 1) = .ok result ∧ Reclaimed result.1 0 := by
  have seen : ((run step (Runtime.initial (.small 1 (by decide) (by decide)))
      (joining 0 7 ++ registering 0 9 ++ [.disconnect 0])).toOption.map fun rt =>
        decide (((rt.clients 0).fileResources 0).registered = true ∧ 0 < rt.limits.maxClients ∧
          (rt.clients 0).isActive = false ∧ rt.taskCapacity = 1 ∧
          (rt.tasks 0).active = false)) = some true := by decide +kernel
  obtain ⟨rt, ran, view⟩ := exists_of_toOption_map seen
  obtain ⟨registered, below, gone, capacity, inactive⟩ := of_decide_eq_true view
  obtain ⟨retiring, reclaims, -⟩ := disconnected_clients_reclaimed ⟨_, ran⟩
  obtain ⟨result, swept, reclaimed⟩ := reclaims 0 (fun _ _ => .updated 1) below gone (by
    intro taskIndex occupied
    obtain ⟨small, active⟩ := occupied_iff.mp occupied
    rw [capacity, Nat.lt_one_iff] at small
    rw [small, inactive] at active
    cases active) fun _ _ => rfl
  exact ⟨rt, result, ran, registered, retiring 0 gone, swept, reclaimed⟩

end Iouringd
