import Iouringd.Daemon.Provenance

/-! # The bytes of a registered buffer are its own

As long as no `io_uring_enter` fails, a completion that the daemon reads is that of the task
it completes. So the valid length of a buffer never covers a byte that was there before the
buffer was registered: a registration covers its payload and a fixed read what the kernel
stored for it. The bytes a fixed write sends are covered since it was accepted.
-/

namespace Iouringd

open Foundation

section Own

variable {config : Config} {rt next : Runtime} {provenance later : Provenance} {action : Action}
  {index slot : Nat}

/-- The first `length` bytes of the slot are its own. -/
def Provenance.Covers (provenance : Provenance) (rt : Runtime) (index slot length : Nat) : Prop :=
  ∀ offset < length, provenance.Own rt index slot (bufferStorageAt rt index slot + offset)

/-- A byte that is not written stays what it is. -/
theorem Provenance.Own.kept {address : Nat} (own : provenance.Own rt index slot address)
    (since : later.since index slot = provenance.since index slot)
    (generation : (next.clients index).generation = (rt.clients index).generation)
    (mark : later.mark address = provenance.mark address) : later.Own next index slot address := by
  obtain ⟨write, last, after, writer⟩ := own
  refine ⟨write, mark.trans last, ?_, ?_⟩
  · rw [since]
    exact after
  · rw [generation]
    exact writer

/-- The connection of an entry with an active task is that of the task. -/
theorem Reachable.generation {taskIndex : Nat} (reachable : Reachable config rt)
    (occupied : rt.occupied taskIndex = true) :
    (rt.clients (rt.tasks taskIndex).clientIndex).generation =
      (rt.tasks taskIndex).clientGeneration := by
  have hosted : ∃ world, Hosted config world ∧ world.rt = rt := by
    refine @Reachable.induct config rt (fun rt => ∃ world, Hosted config world ∧ world.rt = rt)
      reachable ⟨World.initial config, .initial config, rfl⟩ ?_
    rintro before action after ⟨world, hosted, rfl⟩ taken
    exact ⟨world.advance action after, hosted.stepped taken, rfl⟩
  obtain ⟨world, hosted, rfl⟩ := hosted
  exact (hosted.tasks taskIndex occupied).2.2

/-- What is known about a slot that a dispatch registers. -/
structure Registration (rt : Runtime) (index slot : Nat) : Prop where
  connected : rt.connected index = true
  operation : (rt.clients index).controlOp = some .registerBuffer
  free : ((rt.clients index).bufferResources slot).isFree = true
  within : slot < rt.limits.registeredBuffersPerClient
  fits : (rt.clients index).ioLength.toNat ≤ rt.limits.ioBytesMax

theorem Invariant.registration (invariant : Invariant config rt)
    (connected : rt.connected index = true) (ready : (rt.clients index).requestReady = true)
    (operation : (rt.clients index).controlOp = some .registerBuffer)
    (found : findFreeBufferSlot (rt.clients index) = some slot) : Registration rt index slot := by
  have active : (rt.clients index).isActive = true := by
    simp only [Runtime.connected, Bool.and_eq_true] at connected
    exact connected.2
  have sized := (invariant.entries index).sized (Or.inl active)
  obtain ⟨-, -, grammatical⟩ := (invariant.entries index).ready ready
  obtain ⟨below, free⟩ := firstBelow_some found
  have fits := grammatical.ioLength_le operation
  rw [sized.2.1, ← invariant.limits] at below
  rw [sized.2.2, ← invariant.limits] at fits
  exact ⟨connected, operation, free, below, fits⟩

/-- A slot that is not registered is registered by a dispatch only. -/
theorem Invariant.registeredSlot {env : DispatchEnv} (invariant : Invariant config rt)
    (taken : step rt (.dispatch index env) = .ok next)
    (some : registeredSlot rt next index = some slot) : Registration rt index slot := by
  obtain ⟨found, registered⟩ := Option.filter_eq_some_iff.mp some
  have free := (firstBelow_some found).2
  simp only [BufferSlot.isFree, Bool.and_eq_true, Bool.not_eq_true'] at free
  cases step_buffers invariant.grounded taken registered with
  | kept kept =>
      have before := kept.registered
      simp only [free, Bool.false_eq_true] at before
  | registered env _ connected ready operation found length =>
      exact invariant.registration connected ready operation found
  | filled taskIndex res ring occupied source => cases source

/-- An action adds to the history only when it registers a slot. -/
theorem Provenance.note_act (provenance : Provenance) (rt next : Runtime) (action : Action)
    (daemon : ∀ offset bytes, action ≠ .store (.storage offset bytes)) :
    provenance.note rt (.act action) next = { provenance with clock := provenance.clock + 1 } ∧
      (∀ index env, action = .dispatch index env → Iouringd.registeredSlot rt next index = none) ∨
    ∃ index env slot, action = .dispatch index env ∧
      Iouringd.registeredSlot rt next index = some slot ∧
      provenance.note rt (.act action) next =
        { provenance.written (bufferStorageAt rt index slot) (rt.clients index).ioLength.toNat
            (some (.payload index slot)) with
          clock := provenance.clock + 1
          since := Function.update provenance.since index
            (Function.update (provenance.since index) slot provenance.clock) } := by
  cases action with
  | dispatch index env =>
      cases registered : Iouringd.registeredSlot rt next index with
      | none =>
          refine .inl ⟨?_, ?_⟩
          · simp only [Provenance.note, registered]
          · intro other also same
            cases same
            exact registered
      | some slot =>
          refine .inr ⟨index, env, slot, rfl, registered, ?_⟩
          simp only [Provenance.note, registered]
  | store store =>
      cases store with
      | storage offset bytes => exact absurd rfl (daemon offset bytes)
      | ioBuffer taskIndex bytes => exact .inl ⟨rfl, by rintro _ _ ⟨⟩⟩
      | sockaddrLength taskIndex length => exact .inl ⟨rfl, by rintro _ _ ⟨⟩⟩
  | _ => exact .inl ⟨rfl, by rintro _ _ ⟨⟩⟩

/-- An address of one region is not in another. -/
theorem bufferStorageAt_outside {other otherSlot offset length : Nat}
    (within : slot < rt.limits.registeredBuffersPerClient)
    (otherWithin : otherSlot < rt.limits.registeredBuffersPerClient)
    (apart : index ≠ other ∨ slot ≠ otherSlot) (small : offset < rt.limits.ioBytesMax)
    (fits : length ≤ rt.limits.ioBytesMax) :
    ¬ (bufferStorageAt rt other otherSlot ≤ bufferStorageAt rt index slot + offset ∧
      bufferStorageAt rt index slot + offset < bufferStorageAt rt other otherSlot + length) := by
  rcases bufferStorageAt_apart within otherWithin apart with front | behind
  · omega
  · omega

theorem Reachable.bufferStorageAt_stepped (reachable : Reachable config rt)
    (taken : step rt action = .ok next) :
    bufferStorageAt next index slot = bufferStorageAt rt index slot := by
  unfold bufferStorageAt globalBufferIndex
  rw [(step_shape reachable.invariant.grounded taken).constants.1]

/-- The own bytes of a slot that stays registered, over an action. -/
theorem Provenance.Own.acted {offset : Nat}
    (own : provenance.Own rt index slot (bufferStorageAt rt index slot + offset))
    (invariant : Invariant config rt) (taken : step rt action = .ok next)
    (daemon : ∀ offset bytes, action ≠ .store (.storage offset bytes))
    (registered : ((rt.clients index).bufferResources slot).registered = true)
    (generation : (next.clients index).generation = (rt.clients index).generation)
    (within : slot < rt.limits.registeredBuffersPerClient)
    (small : offset < rt.limits.ioBytesMax) :
    (provenance.note rt (.act action) next).Own next index slot
      (bufferStorageAt rt index slot + offset) := by
  rcases provenance.note_act rt next action daemon with
    ⟨same, -⟩ | ⟨other, env, free, dispatch, fresh, same⟩
  · rw [same]
    exact own.kept rfl generation rfl
  · subst dispatch
    have registration := invariant.registeredSlot taken fresh
    -- the slot that is registered now was free
    have apart : index ≠ other ∨ slot ≠ free := by
      by_contra both
      simp only [not_or, not_not] at both
      obtain ⟨rfl, rfl⟩ := both
      have unused := registration.free
      simp only [BufferSlot.isFree, registered, Bool.not_true, Bool.false_and,
        Bool.false_eq_true] at unused
    rw [same]
    refine own.kept ?_ generation ?_
    · change Function.update provenance.since other _ index slot = _
      by_cases here : index = other
      · subst here
        rw [Function.update_self]
        exact Function.update_of_ne (apart.resolve_left (not_not.mpr rfl)) _ _
      · rw [Function.update_of_ne here]
    · exact if_neg (bufferStorageAt_outside within registration.within apart small
        registration.fits)

/-- The payload of a registration is the slot's own. -/
theorem Provenance.covers_registered {env : DispatchEnv} {after : Provenance}
    (noted : provenance.note rt (.act (.dispatch index env)) next = after)
    (fresh : registeredSlot rt next index = some slot) {offset : Nat}
    (below : offset < (rt.clients index).ioLength.toNat) :
    after.Own next index slot (bufferStorageAt rt index slot + offset) := by
  subst noted
  refine ⟨⟨provenance.clock, .payload index slot⟩, ?_, ?_, .inl rfl⟩
  · simp only [Provenance.note, fresh]
    refine if_pos ⟨Nat.le_add_right _ _, ?_⟩
    omega
  · simp only [Provenance.note, fresh, Function.update_self, Nat.le_refl]

end Own

/-! ## The invariant -/

/-- The valid length of a registered buffer, what was stored for an active fixed read and
what an active fixed write sends are covered; a completion counts no more than was stored. -/
structure Sourced (config : Config) (state : Runtime × Provenance) : Prop where
  reachable : Reachable config state.1
  matched : Matched state.1
  vetted : Vetted state.1
  since : ∀ index slot, state.2.since index slot ≤ state.2.clock
  marked : ∀ address mark, state.2.mark address = some mark → mark.time < state.2.clock
  known : ∀ id, state.2.stored id ≠ 0 → id < state.1.nextTaskId
  within : ∀ index slot, ((state.1.clients index).bufferResources slot).registered = true →
    slot < state.1.limits.registeredBuffersPerClient ∧
      ((state.1.clients index).bufferResources slot).validLength.toNat ≤ state.1.limits.ioBytesMax
  valid : ∀ index slot, ((state.1.clients index).bufferResources slot).registered = true →
    state.2.Covers state.1 index slot
      ((state.1.clients index).bufferResources slot).validLength.toNat
  reading : ∀ taskIndex slot, state.1.occupied taskIndex = true →
    (state.1.tasks taskIndex).taskKind = .sockReadFixed →
    (state.1.tasks taskIndex).bufferSlotIndex = some slot →
    state.2.stored (state.1.tasks taskIndex).taskId ≤ (state.1.tasks taskIndex).ioLength.toNat ∧
      state.2.Covers state.1 (state.1.tasks taskIndex).clientIndex slot
        (state.2.stored (state.1.tasks taskIndex).taskId)
  sending : ∀ taskIndex slot, state.1.occupied taskIndex = true →
    (state.1.tasks taskIndex).taskKind = .sockWriteFixed →
    (state.1.tasks taskIndex).bufferSlotIndex = some slot →
    (state.1.tasks taskIndex).ioLength.toNat ≤ state.1.limits.ioBytesMax ∧
      state.2.Covers state.1 (state.1.tasks taskIndex).clientIndex slot
        (state.1.tasks taskIndex).ioLength.toNat
  posted : ∀ cqe ∈ state.1.ring.posted, ∀ taskIndex, state.1.occupied taskIndex = true →
    (state.1.tasks taskIndex).taskId = cqe.userData →
    (state.1.tasks taskIndex).taskKind = .sockReadFixed → 0 ≤ cqe.res →
      cqe.res.toInt.toNat ≤ state.2.stored cqe.userData

/-- The kernel stores bytes for the active fixed read at `taskIndex`. -/
structure Fetches (rt : Runtime) (provenance : Provenance) (taskIndex slot : Nat)
    (data : List UInt8) (later : Provenance) : Prop where
  occupied : rt.occupied taskIndex = true
  kind : (rt.tasks taskIndex).taskKind = .sockReadFixed
  named : (rt.tasks taskIndex).bufferSlotIndex = some slot
  fits : data.length ≤ (rt.tasks taskIndex).ioLength.toNat
  since : later.since = provenance.since
  clock : later.clock = provenance.clock + 1
  mark : later.mark = (provenance.written (bufferStorageAt rt (rt.tasks taskIndex).clientIndex slot)
    data.length (some (.read (rt.tasks taskIndex).clientIndex
      (rt.tasks taskIndex).clientGeneration))).mark
  stored : later.stored = Function.update provenance.stored (rt.tasks taskIndex).taskId
    (max (provenance.stored (rt.tasks taskIndex).taskId) data.length)

namespace Sourced

variable {config : Config} {rt next : Runtime} {provenance : Provenance} {action : Action}
  {taskIndex index slot : Nat}

theorem initial (config : Config) : Sourced config (Runtime.initial config, .initial) := by
  have vacant : ∀ taskIndex, (Runtime.initial config).occupied taskIndex ≠ true := by
    intro taskIndex occupied
    simp only [Runtime.occupied, Runtime.initial, TaskSlot.cleared, Bool.and_false,
      Bool.false_eq_true] at occupied
  refine ⟨⟨[], rfl⟩, .initial config, fun taskIndex occupied => absurd occupied (vacant taskIndex),
    fun _ _ => Nat.le_refl 0, by rintro _ _ ⟨⟩, fun _ some => absurd rfl some, ?_, ?_,
    fun taskIndex _ occupied => absurd occupied (vacant taskIndex),
    fun taskIndex _ occupied => absurd occupied (vacant taskIndex),
    fun _ _ taskIndex occupied => absurd occupied (vacant taskIndex)⟩
  · intro index slot registered
    cases registered
  · intro index slot registered
    cases registered

section

variable (sourced : Sourced config (rt, provenance))

include sourced

/-- Every write is before the next move. -/
theorem written_before {offset length address : Nat} {writer : Option Writer} {mark : Mark}
    (marked : (provenance.written offset length writer).mark address = some mark) :
    mark.time < provenance.clock + 1 := by
  simp only [Provenance.written] at marked
  split at marked
  · obtain ⟨-, -, rfl⟩ := Option.map_eq_some_iff.mp marked
    exact Nat.lt_succ_self _
  · exact Nat.lt_succ_of_lt (sourced.marked address mark marked)

/-- The buffer of an active task is registered. -/
theorem task_registered (occupied : rt.occupied taskIndex = true)
    (named : (rt.tasks taskIndex).bufferSlotIndex = some slot) :
    ((rt.clients (rt.tasks taskIndex).clientIndex).bufferResources slot).registered = true :=
  ((sourced.reachable.invariant.holds.tied taskIndex occupied).buffer slot named).2

/-- What an active read has stored fits a buffer. -/
theorem stored_le (occupied : rt.occupied taskIndex = true)
    (kind : (rt.tasks taskIndex).taskKind = .sockReadFixed)
    (named : (rt.tasks taskIndex).bufferSlotIndex = some slot) :
    provenance.stored (rt.tasks taskIndex).taskId ≤ rt.limits.ioBytesMax := by
  have reads : (rt.tasks taskIndex).taskKind.reads = true := by
    rw [kind]
    rfl
  exact Nat.le_trans (sourced.reading taskIndex slot occupied kind named).1
    ((sourced.vetted taskIndex occupied).length reads)

/-- A completion that the daemon reads counts what its task has stored. -/
theorem completed_le {res : Int32} {ring : Ring} (clean : action.clean = true)
    (occupied : rt.occupied taskIndex = true)
    (source : CompletionSource rt taskIndex res ring action)
    (kind : (rt.tasks taskIndex).taskKind = .sockReadFixed) (success : 0 ≤ res) :
    res.toUInt32.toNat ≤ provenance.stored (rt.tasks taskIndex).taskId := by
  cases action with
  | reap env =>
      obtain ⟨cqe, peeked, found, rfl⟩ := source
      have listed : cqe ∈ rt.ring.posted := by
        rw [(ringPeekCompletion_some peeked).2.2]
        exact List.mem_cons_self
      have id := (firstBelow_some found).2
      simp only [Bool.and_eq_true, beq_iff_eq] at id
      have counted := sourced.posted cqe listed taskIndex occupied id.2 kind success
      rw [Int32.toNat_toUInt32_of_le success, id.2]
      exact counted
  | complete => cases clean
  | _ => cases source

/-- A completion posted before an action counts what is stored for its task. -/
theorem posted_acted (taken : step rt action = .ok next) {cqe : Cqe}
    (member : cqe ∈ rt.ring.posted) (occupied : next.occupied taskIndex = true)
    (id : (next.tasks taskIndex).taskId = cqe.userData)
    (kind : (next.tasks taskIndex).taskKind = .sockReadFixed) (success : 0 ≤ cqe.res) :
    cqe.res.toInt.toNat ≤ provenance.stored cqe.userData := by
  have shape := step_shape sourced.reachable.invariant.grounded taken
  have token : cqe.userData ∈ rt.ring.tokens :=
    List.mem_append_right _ (List.mem_map_of_mem member)
  obtain ⟨holder, held, holds⟩ := sourced.matched.found _ token
  have older : (next.tasks taskIndex).taskId < rt.nextTaskId := by
    rw [id, ← holds]
    exact (sourced.reachable.invariant.ledger.ids holder held).2
  obtain ⟨before, same⟩ := shape.occupied_before occupied older
  have task := shape.same_task before occupied
  rw [task] at kind
  exact sourced.posted cqe member taskIndex before (same.trans id) kind success

section Acted

variable (taken : step rt action = .ok next)
  (daemon : ∀ offset bytes, action ≠ .store (.storage offset bytes))

include taken daemon

/-- What is covered of a slot that stays registered. -/
theorem covers_acted {length : Nat} (covers : provenance.Covers rt index slot length)
    (registered : ((rt.clients index).bufferResources slot).registered = true)
    (generation : (next.clients index).generation = (rt.clients index).generation)
    (fits : length ≤ rt.limits.ioBytesMax) :
    (provenance.note rt (.act action) next).Covers next index slot length := by
  intro offset below
  rw [sourced.reachable.bufferStorageAt_stepped taken]
  exact (covers offset below).acted sourced.reachable.invariant taken daemon registered generation
    (sourced.within index slot registered).1 (Nat.lt_of_lt_of_le below fits)

/-- What is covered of the buffer of a task that stays active. -/
theorem covers_task_acted {length : Nat} (before : rt.occupied taskIndex = true)
    (after : next.occupied taskIndex = true)
    (named : (rt.tasks taskIndex).bufferSlotIndex = some slot)
    (covers : provenance.Covers rt (rt.tasks taskIndex).clientIndex slot length)
    (fits : length ≤ rt.limits.ioBytesMax) :
    (provenance.note rt (.act action) next).Covers next (rt.tasks taskIndex).clientIndex slot
      length := by
  have task := (step_shape sourced.reachable.invariant.grounded taken).same_task before after
  have generation := (sourced.reachable.stepped taken).generation after
  rw [task] at generation
  refine sourced.covers_acted taken daemon covers (sourced.task_registered before named) ?_ fits
  exact generation.trans (sourced.reachable.generation before).symm

/-- The slots after an action of the daemon. -/
theorem slots_acted (clean : action.clean = true)
    (registered : ((next.clients index).bufferResources slot).registered = true) :
    (slot < rt.limits.registeredBuffersPerClient ∧
      ((next.clients index).bufferResources slot).validLength.toNat ≤ rt.limits.ioBytesMax) ∧
    (provenance.note rt (.act action) next).Covers next index slot
      ((next.clients index).bufferResources slot).validLength.toNat := by
  cases step_buffers sourced.reachable.invariant.grounded taken registered with
  | kept kept =>
      rw [kept.validLength]
      have within := sourced.within index slot kept.registered
      exact ⟨within, sourced.covers_acted taken daemon
        (sourced.valid index slot kept.registered) kept.registered kept.generation within.2⟩
  | registered env dispatch connected ready operation found length =>
      subst dispatch
      have registration := sourced.reachable.invariant.registration connected ready operation found
      rw [length]
      refine ⟨⟨registration.within, registration.fits⟩, ?_⟩
      intro offset below
      rw [sourced.reachable.bufferStorageAt_stepped taken]
      exact Provenance.covers_registered rfl
        (Option.filter_eq_some_iff.mpr ⟨found, registered⟩) below
  | filled taskIndex res ring occupied source kind own named success before generation length =>
      subst own
      have counted := sourced.completed_le clean occupied source kind success
      have fits := sourced.stored_le occupied kind named
      rw [length]
      refine ⟨⟨(sourced.within _ slot before).1, Nat.le_trans counted fits⟩, ?_⟩
      refine sourced.covers_acted taken daemon ?_ before generation (Nat.le_trans counted fits)
      intro offset below
      exact (sourced.reading taskIndex slot occupied kind named).2 offset
        (Nat.lt_of_lt_of_le below counted)

/-- What is stored for the fixed reads that are active after an action. -/
theorem reading_acted (occupied : next.occupied taskIndex = true)
    (kind : (next.tasks taskIndex).taskKind = .sockReadFixed)
    (named : (next.tasks taskIndex).bufferSlotIndex = some slot) :
    provenance.stored (next.tasks taskIndex).taskId ≤ (next.tasks taskIndex).ioLength.toNat ∧
      (provenance.note rt (.act action) next).Covers next (next.tasks taskIndex).clientIndex slot
        (provenance.stored (next.tasks taskIndex).taskId) := by
  have shape := step_shape sourced.reachable.invariant.grounded taken
  by_cases older : (next.tasks taskIndex).taskId < rt.nextTaskId
  · obtain ⟨before, -⟩ := shape.occupied_before occupied older
    have task := shape.same_task before occupied
    rw [task] at kind named ⊢
    obtain ⟨short, covers⟩ := sourced.reading taskIndex slot before kind named
    exact ⟨short, sourced.covers_task_acted taken daemon before occupied named covers
      (sourced.stored_le before kind named)⟩
  · have nothing : provenance.stored (next.tasks taskIndex).taskId = 0 := by
      by_contra some
      exact older (sourced.known _ some)
    rw [nothing]
    exact ⟨Nat.zero_le _, fun offset below => absurd below (Nat.not_lt_zero _)⟩

/-- A fixed write is accepted for bytes that are valid. -/
theorem sending_started {env : DispatchEnv} {started : Runtime}
    (start : Started rt index taskIndex env started) (occupied : next.occupied taskIndex = true)
    (task : next.tasks taskIndex = { started.tasks taskIndex with
      ioBuffer := (next.tasks taskIndex).ioBuffer
      sockaddrLength := (next.tasks taskIndex).sockaddrLength })
    (kind : (next.tasks taskIndex).taskKind = .sockWriteFixed)
    (named : (next.tasks taskIndex).bufferSlotIndex = some slot) :
    (next.tasks taskIndex).ioLength.toNat ≤ rt.limits.ioBytesMax ∧
      (provenance.note rt (.act action) next).Covers next (next.tasks taskIndex).clientIndex slot
        (next.tasks taskIndex).ioLength.toNat := by
  have now := (sourced.reachable.stepped taken).generation occupied
  rw [task] at kind named now ⊢
  dsimp only at kind named now ⊢
  have own := start.identifies.clientIndex
  obtain ⟨-, registered, -, -, -⟩ := start.acquires.buffer slot named
  have filled := UInt32.le_iff_toNat_le.mp (start.acquires.filled kind slot named)
  rw [own] at now ⊢
  rw [start.identifies.clientGeneration] at now
  have fits := Nat.le_trans filled (sourced.within index slot registered).2
  refine ⟨fits, sourced.covers_acted taken daemon ?_ registered now fits⟩
  intro offset below
  exact sourced.valid index slot registered offset (Nat.lt_of_lt_of_le below filled)

/-- What is covered of the bytes that the active fixed writes send. -/
theorem sending_acted (occupied : next.occupied taskIndex = true)
    (kind : (next.tasks taskIndex).taskKind = .sockWriteFixed)
    (named : (next.tasks taskIndex).bufferSlotIndex = some slot) :
    (next.tasks taskIndex).ioLength.toNat ≤ rt.limits.ioBytesMax ∧
      (provenance.note rt (.act action) next).Covers next (next.tasks taskIndex).clientIndex slot
        (next.tasks taskIndex).ioLength.toNat := by
  have shape := step_shape sourced.reachable.invariant.grounded taken
  by_cases before : rt.occupied taskIndex = true
  · have task := shape.same_task before occupied
    rw [task] at kind named ⊢
    obtain ⟨fits, covers⟩ := sourced.sending taskIndex slot before kind named
    exact ⟨fits, sourced.covers_task_acted taken daemon before occupied named covers fits⟩
  · cases shape with
    | quiet quiet =>
        rw [quiet.occupied_eq] at occupied
        exact absurd occupied before
    | accepted client held env started connected admitted start answered ready type =>
        have still := occupied
        rw [answered.occupied_eq] at still
        by_cases same : taskIndex = held
        · subst same
          exact sourced.sending_started taken daemon start occupied (answered.task_eq still) kind
            named
        · rw [start.countAccepted_eq] at still
          simp only [Runtime.occupied, Function.update_of_ne same] at still before
          exact absurd still before
    | completed held res middle reaped active completed =>
        obtain ⟨-, still, -⟩ := Ledger.occupied_of_completed completed occupied
        rw [reaped.occupied_eq] at still
        exact absurd still before

end Acted

/-- Every step of the daemon or its kernel that is no read keeps the bytes apart. -/
theorem acted (fills : kernelFills (rt, provenance) (.act action) = true)
    (clean : action.clean = true) (taken : step rt action = .ok next) :
    Sourced config (next, provenance.note rt (.act action) next) := by
  have daemon : ∀ offset bytes, action ≠ .store (.storage offset bytes) := by
    rintro offset bytes rfl
    cases fills
  have invariant := sourced.reachable.invariant
  have limits := (step_shape invariant.grounded taken).constants.1
  have stored : (provenance.note rt (.act action) next).stored = provenance.stored := by
    rcases provenance.note_act rt next action daemon with
      ⟨same, -⟩ | ⟨other, env, free, -, -, same⟩
    · rw [same]
    · rw [same]
      rfl
  refine ⟨sourced.reachable.stepped taken, sourced.matched.stepped invariant clean taken,
    sourced.vetted.stepped invariant taken, ?_, ?_, ?_, ?_, ?_, ?_, ?_, ?_⟩
  · intro index slot
    rcases provenance.note_act rt next action daemon with
      ⟨same, -⟩ | ⟨other, env, free, -, -, same⟩
    · rw [same]
      exact Nat.le_succ_of_le (sourced.since index slot)
    · rw [same]
      apply Nat.le_succ_of_le
      change Function.update provenance.since other _ index slot ≤ _
      by_cases here : index = other
      · subst here
        rw [Function.update_self]
        by_cases this : slot = free
        · subst this
          rw [Function.update_self]
        · rw [Function.update_of_ne this]
          exact sourced.since index slot
      · rw [Function.update_of_ne here]
        exact sourced.since index slot
  · intro address mark marked
    rcases provenance.note_act rt next action daemon with
      ⟨same, -⟩ | ⟨other, env, free, -, -, same⟩
    · rw [same] at marked ⊢
      exact Nat.lt_succ_of_lt (sourced.marked address mark marked)
    · rw [same] at marked ⊢
      exact sourced.written_before marked
  · intro id some
    dsimp only at some ⊢
    rw [stored] at some
    exact UInt64.lt_of_lt_of_le (sourced.known id some)
      (step_shape invariant.grounded taken).nextTaskId_le
  · intro index slot registered
    dsimp only
    rw [limits]
    exact (sourced.slots_acted taken daemon clean registered).1
  · intro index slot registered
    exact (sourced.slots_acted taken daemon clean registered).2
  · intro taskIndex slot occupied kind named
    dsimp only at occupied kind named ⊢
    rw [stored]
    exact sourced.reading_acted taken daemon occupied kind named
  · intro taskIndex slot occupied kind named
    dsimp only at occupied kind named ⊢
    rw [limits]
    exact sourced.sending_acted taken daemon occupied kind named
  · intro cqe member taskIndex occupied id kind success
    dsimp only at member occupied id kind ⊢
    rw [stored]
    cases queueStep sourced.matched.sound invariant clean taken with
    | same _ _ unread unposted queues _ =>
        rw [queues.posted] at member
        exact sourced.posted_acted taken member occupied id kind success
    | started index env _ held sound submitted posted fresh _ others vacant =>
        rw [posted] at member
        exact sourced.posted_acted taken member occupied id kind success
    | reaped env _ held other peeked sound submitted posted before same _ =>
        refine sourced.posted_acted taken ?_ occupied id kind success
        rw [posted]
        exact List.mem_cons_of_mem _ member
    | posted position res =>
        rcases kernelPost_cases sourced.matched.sound position res with
          same | ⟨sqe, executing, -, -, -, posted⟩
        · rw [same] at member
          exact sourced.posted cqe member taskIndex occupied id kind success
        · rw [posted, List.mem_append, List.mem_singleton] at member
          rcases member with old | new
          · exact sourced.posted cqe old taskIndex occupied id kind success
          · subst new
            obtain ⟨holder, held, operation⟩ := sourced.matched.sqes sqe
              (List.mem_append_left _ (List.mem_of_getElem? executing))
            have own : holder = taskIndex := by
              apply invariant.ledger.distinct holder taskIndex held occupied
              rw [← taskSqe_userData rt holder, ← operation]
              exact id.symm
            subst own
            have opcode : sqe.opcode = .readFixed := by
              rw [operation]
              exact (taskSqe_fixed kind []).2.2.1
            simp only [kernelFills, executing, opcode, beq_self_eq_true, success, decide_true,
              Bool.and_self, Bool.not_true, Bool.false_or, decide_eq_true_eq] at fills
            exact fills

/-- An active task is found by its id. -/
theorem findTaskSlot_own (occupied : rt.occupied taskIndex = true) :
    findTaskSlot rt (rt.tasks taskIndex).taskId = some taskIndex := by
  cases found : findTaskSlot rt (rt.tasks taskIndex).taskId with
  | none =>
      have missing := firstBelow_eq_none.mp found taskIndex (occupied_iff.mp occupied).1
      simp only [(occupied_iff.mp occupied).2, beq_self_eq_true, Bool.and_self,
        Bool.true_eq_false] at missing
  | some other =>
      obtain ⟨below, same⟩ := firstBelow_some found
      simp only [Bool.and_eq_true, beq_iff_eq] at same
      rw [sourced.reachable.invariant.ledger.distinct other taskIndex
        (occupied_iff.mpr ⟨below, same.1⟩) occupied same.2]

end

/-! ## Fixed reads -/

section Fetched

variable {data : List UInt8} {later : Provenance} (sourced : Sourced config (rt, provenance))
  (fetches : Fetches rt provenance taskIndex slot data later)

include sourced fetches

/-- The stored bytes are the slot's own. -/
theorem own_fetched {offset : Nat} (below : offset < data.length) :
    later.Own rt (rt.tasks taskIndex).clientIndex slot
      (bufferStorageAt rt (rt.tasks taskIndex).clientIndex slot + offset) := by
  refine ⟨⟨provenance.clock, .read (rt.tasks taskIndex).clientIndex
    (rt.tasks taskIndex).clientGeneration⟩, ?_, ?_, .inr ?_⟩
  · rw [fetches.mark]
    exact if_pos ⟨Nat.le_add_right _ _, by omega⟩
  · rw [fetches.since]
    exact sourced.since _ _
  · rw [sourced.reachable.generation fetches.occupied]

/-- The other bytes of registered slots stay what they are. -/
theorem covers_fetched {other length : Nat} (covers : provenance.Covers rt index other length)
    (registered : ((rt.clients index).bufferResources other).registered = true)
    (small : length ≤ rt.limits.ioBytesMax) : later.Covers rt index other length := by
  intro offset below
  have within := (sourced.within _ slot
    (sourced.task_registered fetches.occupied fetches.named)).1
  have fits : data.length ≤ rt.limits.ioBytesMax := by
    have reads : (rt.tasks taskIndex).taskKind.reads = true := by
      rw [fetches.kind]
      rfl
    exact Nat.le_trans fetches.fits ((sourced.vetted taskIndex fetches.occupied).length reads)
  by_cases inside : bufferStorageAt rt (rt.tasks taskIndex).clientIndex slot ≤
      bufferStorageAt rt index other + offset ∧ bufferStorageAt rt index other + offset <
        bufferStorageAt rt (rt.tasks taskIndex).clientIndex slot + data.length
  · -- only the slot of the read itself has bytes there
    have same : index = (rt.tasks taskIndex).clientIndex ∧ other = slot := by
      by_contra apart
      exact bufferStorageAt_outside (sourced.within index other registered).1 within
        (not_and_or.mp apart) (Nat.lt_of_lt_of_le below small) fits inside
    obtain ⟨rfl, rfl⟩ := same
    exact sourced.own_fetched fetches (by omega)
  · refine (covers offset below).kept (by rw [fetches.since]) rfl ?_
    rw [fetches.mark]
    exact if_neg inside

/-- Storing the bytes of a fixed read keeps the bytes apart. -/
theorem fetched (offset : Nat) : Sourced config (rt.stored (.storage offset data), later) := by
  have taken : step rt (.store (.storage offset data)) =
      .ok (rt.stored (.storage offset data)) := rfl
  have invariant := sourced.reachable.invariant
  refine ⟨sourced.reachable.stepped taken, sourced.matched.stepped invariant rfl taken,
    sourced.vetted.stepped invariant taken, ?_, ?_, ?_, sourced.within, ?_, ?_, ?_, ?_⟩
  · intro index other
    dsimp only
    rw [fetches.since, fetches.clock]
    exact Nat.le_succ_of_le (sourced.since index other)
  · intro address mark marked
    dsimp only at marked ⊢
    rw [fetches.mark] at marked
    rw [fetches.clock]
    exact sourced.written_before marked
  · intro id some
    dsimp only at some
    rw [fetches.stored] at some
    by_cases own : id = (rt.tasks taskIndex).taskId
    · rw [own]
      exact (invariant.ledger.ids taskIndex fetches.occupied).2
    · rw [Function.update_of_ne own] at some
      exact sourced.known id some
  · intro index other registered
    exact sourced.covers_fetched fetches (sourced.valid index other registered) registered
      (sourced.within index other registered).2
  · intro reader other occupied kind named
    change rt.occupied reader = true at occupied
    change (rt.tasks reader).taskKind = .sockReadFixed at kind
    change (rt.tasks reader).bufferSlotIndex = some other at named
    obtain ⟨short, covers⟩ := sourced.reading reader other occupied kind named
    have before := sourced.covers_fetched fetches covers
      (sourced.task_registered occupied named) (sourced.stored_le occupied kind named)
    change later.stored (rt.tasks reader).taskId ≤ (rt.tasks reader).ioLength.toNat ∧
      later.Covers rt (rt.tasks reader).clientIndex other (later.stored (rt.tasks reader).taskId)
    rw [fetches.stored]
    by_cases own : reader = taskIndex
    · subst own
      obtain rfl : other = slot := Option.some.inj (named.symm.trans fetches.named)
      rw [Function.update_self]
      refine ⟨Nat.max_le.mpr ⟨short, fetches.fits⟩, ?_⟩
      intro place below
      rcases lt_max_iff.mp below with old | new
      · exact before place old
      · exact sourced.own_fetched fetches new
    · have apart : (rt.tasks reader).taskId ≠ (rt.tasks taskIndex).taskId := fun same =>
        own (invariant.ledger.distinct reader taskIndex occupied fetches.occupied same)
      rw [Function.update_of_ne apart]
      exact ⟨short, before⟩
  · intro sender other occupied kind named
    change rt.occupied sender = true at occupied
    change (rt.tasks sender).bufferSlotIndex = some other at named
    obtain ⟨fits, covers⟩ := sourced.sending sender other occupied kind named
    exact ⟨fits, sourced.covers_fetched fetches covers (sourced.task_registered occupied named)
      fits⟩
  · intro cqe member reader occupied id kind success
    have counted := sourced.posted cqe member reader occupied id kind success
    dsimp only
    rw [fetches.stored]
    by_cases own : cqe.userData = (rt.tasks taskIndex).taskId
    · rw [own, Function.update_self]
      rw [own] at counted
      exact Nat.le_trans counted (Nat.le_max_left _ _)
    · rw [Function.update_of_ne own]
      exact counted

end Fetched

/-- An operation that stores into the storage is that of an active fixed read. -/
theorem fetches {position offset : Nat} {data bytes : List UInt8} {sqe : Sqe}
    (sourced : Sourced config (rt, provenance))
    (fetching : fetchAt rt position data = some (sqe, .storage offset bytes))
    (fits : data.length ≤ sqe.wanted rt) :
    bytes = data ∧ ∃ taskIndex slot,
      offset = bufferStorageAt rt (rt.tasks taskIndex).clientIndex slot ∧
      Fetches rt provenance taskIndex slot data
        (provenance.note rt (.fetch position data) (rt.stored (.storage offset bytes))) := by
  obtain ⟨executing, stores, taskIndex, occupied, rfl⟩ := sourced.matched.fetching fetching
  have kind : (rt.tasks taskIndex).taskKind = .sockReadFixed := by
    by_contra plain
    rw [(taskSqe_plain (reads_of_store stores) plain data).1] at stores
    cases stores
  obtain ⟨slot, named⟩ := Option.ne_none_iff_exists'.mp
    ((sourced.reachable.invariant.holds.placed taskIndex occupied).fixed kind)
  obtain ⟨place, wanted, -, -⟩ := taskSqe_fixed kind data
  rw [stores, named, Option.getD_some, Option.some.injEq, KernelStore.storage.injEq] at place
  obtain ⟨rfl, rfl⟩ := place
  rw [wanted] at fits
  refine ⟨rfl, taskIndex, slot, rfl, occupied, kind, named, fits, ?_, ?_, ?_, ?_⟩
  · simp only [Provenance.note, fetching]
    rfl
  · simp only [Provenance.note]
  · simp only [Provenance.note, fetching, readerOf, taskSqe_userData,
      sourced.findTaskSlot_own occupied, Option.map_some]
  · simp only [Provenance.note, fetching, taskSqe_userData]

/-- Every move keeps the bytes apart. -/
theorem moved {move : ReadMove} {state after : Runtime × Provenance}
    (sourced : Sourced config state) (fills : kernelFills state move = true)
    (enters : move.enters = true)
    (taken : recorded readStep Provenance.note state move = .ok after) :
    Sourced config after := by
  obtain ⟨rt, provenance⟩ := state
  obtain ⟨next, final⟩ := after
  obtain ⟨moved, noted⟩ := recorded_ok taken
  dsimp only at moved noted
  subst noted
  cases move with
  | act action =>
      have clean : action.clean = true := by
        cases action with
        | dispatch index env => exact enters
        | complete taskIndex res env => cases fills
        | _ => rfl
      exact sourced.acted fills clean moved
  | fetch position data =>
      simp only [readStep] at moved
      cases fetching : fetchAt rt position data with
      | none =>
          rw [fetching] at moved
          cases moved
          rw [provenance.note_fetch_none fetching]
          -- the clock goes on as it does when the cursor is moved to where it is
          exact @acted config rt rt provenance (.moveCursor rt.dispatchCursor) sourced rfl rfl rfl
      | some found =>
          obtain ⟨sqe, store⟩ := found
          rw [fetching] at moved
          cases moved
          simp only [kernelFills, fetching, decide_eq_true_eq] at fills
          cases store with
          | storage offset bytes =>
              obtain ⟨rfl, taskIndex, slot, -, fetches⟩ := sourced.fetches fetching fills
              exact sourced.fetched fetches offset
          | ioBuffer taskIndex bytes =>
              rw [provenance.note_fetch_task fetching (by rintro _ _ ⟨⟩)]
              exact @acted config rt _ provenance (.store (.ioBuffer taskIndex bytes)) sourced rfl
                rfl rfl
          | sockaddrLength taskIndex length =>
              rw [provenance.note_fetch_task fetching (by rintro _ _ ⟨⟩)]
              exact @acted config rt _ provenance (.store (.sockaddrLength taskIndex length))
                sourced rfl rfl rfl

end Sourced

end Iouringd
