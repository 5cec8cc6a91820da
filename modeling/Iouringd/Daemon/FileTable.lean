import Iouringd.Foundation.History
import Iouringd.Daemon.Identifiers
import Iouringd.Daemon.World

/-! # The table of registered files mirrors the file slots

Every move of `FileMove` writes a slot and its table entry together, so in every reachable
state the table can be read off the slots. An operation on a fixed file then works on the
descriptor of the slot it was submitted for, and that is the one last registered under the
resource id of its task.
-/

namespace Iouringd

open Foundation

/-- The table entry a slot stands for. -/
def FileSlot.entry (file : FileSlot) : Fd := if file.registered then file.daemonFd else -1

/-- The table holds the entries of the slots. -/
structure Mirrored (rt : Runtime) : Prop where
  sized : ∀ index, rt.limits.registeredFdsPerClient ≤ (rt.clients index).fileSlotLimit
  within : ∀ index slot, (rt.file index slot).registered = true →
    index < rt.limits.maxClients ∧ slot < rt.limits.registeredFdsPerClient
  entries : ∀ index slot, index < rt.limits.maxClients →
    slot < rt.limits.registeredFdsPerClient →
    rt.ring.kernel.registeredFiles (globalFileIndex rt index slot) = (rt.file index slot).entry

section Moves

variable {rt next : Runtime} {index slot : Nat}

/-- Positions in the table determine the client and the slot. -/
theorem globalFileIndex_inj {client other : Nat} (below : slot < rt.limits.registeredFdsPerClient)
    (also : other < rt.limits.registeredFdsPerClient)
    (same : globalFileIndex rt index slot = globalFileIndex rt client other) :
    index = client ∧ slot = other := by
  have quotient : ∀ first second, second < rt.limits.registeredFdsPerClient →
      globalFileIndex rt first second / rt.limits.registeredFdsPerClient = first := by
    intro first second bound
    unfold globalFileIndex
    rw [Nat.mul_comm, Nat.mul_add_div (Nat.zero_lt_of_lt bound), Nat.div_eq_of_lt bound,
      Nat.add_zero]
  have clients : index = client := by
    rw [← quotient index slot below, same, quotient client other also]
  subst clients
  exact ⟨rfl, Nat.add_left_cancel same⟩

/-- Positions of the slots are below the size of the table. -/
theorem globalFileIndex_lt (client : index < rt.limits.maxClients)
    (below : slot < rt.limits.registeredFdsPerClient) :
    globalFileIndex rt index slot <
      rt.limits.maxClients * rt.limits.registeredFdsPerClient := by
  unfold globalFileIndex
  calc index * rt.limits.registeredFdsPerClient + slot
      < index * rt.limits.registeredFdsPerClient + rt.limits.registeredFdsPerClient := by omega
    _ = (index + 1) * rt.limits.registeredFdsPerClient := by rw [Nat.add_mul, Nat.one_mul]
    _ ≤ rt.limits.maxClients * rt.limits.registeredFdsPerClient :=
      Nat.mul_le_mul_right _ client

theorem globalFileIndex_congr (limits : next.limits = rt.limits) :
    globalFileIndex next index slot = globalFileIndex rt index slot := by
  rw [globalFileIndex, limits, globalFileIndex]

theorem FileSlot.Keeps.entry {file after : FileSlot} (keeps : file.Keeps after) :
    after.entry = file.entry := by
  unfold FileSlot.entry
  rw [keeps.registered]
  split
  · rename_i held
    exact (keeps.resource held).1
  · rfl

theorem Mirrored.same (mirrored : Mirrored rt) (same : SameFiles rt next) : Mirrored next := by
  refine ⟨?_, ?_, ?_⟩
  · intro index
    rw [same.limits, same.sizes]
    exact mirrored.sized index
  · intro index slot held
    rw [(same.files index slot).registered] at held
    rw [same.limits]
    exact mirrored.within index slot held
  · intro index slot client below
    rw [same.limits] at client below
    rw [same.table, globalFileIndex_congr same.limits, (same.files index slot).entry]
    exact mirrored.entries index slot client below

/-- A slot and its entry are written together. -/
theorem Mirrored.sets {fd : Fd} (mirrored : Mirrored rt) (sets : SetsFile rt index slot fd next)
    (client : index < rt.limits.maxClients) (below : slot < rt.limits.registeredFdsPerClient)
    (entry : (next.file index slot).entry = fd) : Mirrored next := by
  refine ⟨?_, ?_, ?_⟩
  · intro index
    rw [sets.limits, sets.sizes]
    exact mirrored.sized index
  · intro other place held
    rw [sets.limits]
    by_cases here : other = index ∧ place = slot
    · rw [here.1, here.2]
      exact ⟨client, below⟩
    · have keeps := sets.others other place (not_and_or.mp here)
      rw [keeps.registered] at held
      exact mirrored.within other place held
  · intro other place otherClient otherBelow
    rw [sets.limits] at otherClient otherBelow
    rw [sets.table, globalFileIndex_congr sets.limits]
    by_cases here : other = index ∧ place = slot
    · rw [here.1, here.2, Function.update_self, entry]
    · have apart : globalFileIndex rt other place ≠ globalFileIndex rt index slot :=
        fun same => here (globalFileIndex_inj otherBelow below same)
      rw [Function.update_of_ne apart, (sets.others other place (not_and_or.mp here)).entry]
      exact mirrored.entries other place otherClient otherBelow

/-- An entry that is reused has no registered slot left. -/
theorem reusableClient_vacant (mirrored : Mirrored rt) (found : reusableClient rt = some index)
    (slot : Nat) : (rt.file index slot).registered = false := by
  obtain ⟨-, reusable⟩ := firstBelow_some found
  simp only [Bool.and_eq_true, Bool.not_eq_true', clientHasRetainedResources,
    Bool.or_eq_false_iff, List.any_eq_false, List.mem_range] at reusable
  rw [Bool.eq_false_iff]
  intro held
  have below := (mirrored.within index slot held).2
  have kept := reusable.1.2.1 slot (Nat.lt_of_lt_of_le below (mirrored.sized index))
  rw [Bool.not_eq_false, FileSlot.isFree_iff] at kept
  rw [Runtime.file, kept.1] at held
  cases held

theorem FileMove.mirrored (move : FileMove index rt next) (mirrored : Mirrored rt) :
    Mirrored next := by
  cases move with
  | kept same => exact mirrored.same same
  | opened fd found limits table clients =>
      have others : ∀ other, other ≠ index → next.clients other = rt.clients other := by
        intro other apart
        rw [clients, Function.update_of_ne apart]
      have files : ∀ other slot,
          (next.file other slot).registered = (rt.file other slot).registered ∧
          (next.file other slot).entry = (rt.file other slot).entry := by
        intro other slot
        by_cases here : other = index
        · subst here
          have vacant := reusableClient_vacant mirrored found slot
          have empty : next.file other slot = .cleared := by
            rw [Runtime.file, clients, Function.update_self]
            rfl
          rw [empty, vacant, FileSlot.entry, FileSlot.entry, vacant]
          exact ⟨rfl, rfl⟩
        · rw [Runtime.file, Runtime.file, others other here]
          exact ⟨rfl, rfl⟩
      refine ⟨?_, ?_, ?_⟩
      · intro other
        rw [limits]
        by_cases here : other = index
        · rw [here, clients, Function.update_self]
          exact Nat.le_refl _
        · rw [others other here]
          exact mirrored.sized other
      · intro other slot held
        rw [(files other slot).1] at held
        rw [limits]
        exact mirrored.within other slot held
      · intro other slot client below
        rw [limits] at client below
        rw [table, globalFileIndex_congr limits, (files other slot).2]
        exact mirrored.entries other slot client below
  | registered slot fd client below vacant valid sets after =>
      apply mirrored.sets sets client below
      rw [FileSlot.entry, after.1, after.2]
      rfl
  | vacated slot held sets after =>
      obtain ⟨client, below⟩ := mirrored.within index slot held
      apply mirrored.sets sets client below
      rw [FileSlot.entry, after.1]
      rfl
  | refreshed slot held sets after =>
      obtain ⟨client, below⟩ := mirrored.within index slot held
      apply mirrored.sets sets client below
      rw [after.entry, FileSlot.entry, held]
      rfl

theorem FileMoves.mirrored {who : Nat → Prop} (moves : FileMoves who rt next)
    (mirrored : Mirrored rt) : Mirrored next := by
  induction moves with
  | refl => exact mirrored
  | tail earlier last ih =>
      obtain ⟨index, -, move⟩ := last
      exact move.mirrored ih

theorem Mirrored.initial (config : Config) : Mirrored (Runtime.initial config) := by
  refine ⟨?_, ?_, ?_⟩
  · intro index
    exact config.slots_le.2.1
  · intro index slot held
    cases held
  · intro index slot client below
    exact config.files_free _

end Moves

/-! ## The size of the table -/

section Size

variable {config : Config} {rt next : Runtime} {action : Action}

theorem RingAccepts.filesCount {sqe : Sqe} {enter : EnterOutcome} {ring taken : Ring}
    (accepts : RingAccepts sqe enter ring taken) :
    taken.registeredFilesCount = ring.registeredFilesCount ∧ taken.ringFd = ring.ringFd := by
  obtain ⟨-, count, -, same⟩ := accepts
  rw [same]
  exact ⟨rfl, rfl⟩

theorem RingRefuses.filesCount {enter : EnterOutcome} {ring refused : Ring}
    (refuses : RingRefuses enter ring refused) :
    refused.registeredFilesCount = ring.registeredFilesCount ∧
      refused.ringFd = ring.ringFd := by
  rcases refuses with same | ⟨sqe, errno, -, same⟩
  · rw [same]
    exact ⟨rfl, rfl⟩
  · rw [same]
    exact ⟨rfl, rfl⟩

theorem Dispatched.filesCount {index : Nat} {env : DispatchEnv} {middle : Runtime}
    {bytes : List UInt8} (dispatched : Dispatched rt index env middle bytes) :
    middle.ring.registeredFilesCount = rt.ring.registeredFilesCount ∧
      middle.ring.ringFd = rt.ring.ringFd := by
  cases dispatched with
  | fileRegistered slot resourceId nextId ring result operation held found allocated valid
      updated =>
      cases ringUpdateRegisteredFile_ok updated
      exact ⟨rfl, rfl⟩
  | fileReleased slot ring result operation found idle updated =>
      cases ringUpdateRegisteredFile_ok updated
      unfold clearFileSlot
      dsimp only
      split
      · exact ⟨rfl, rfl⟩
      · exact ⟨rfl, rfl⟩
  | refused middle errno credits type rolledBack =>
      obtain ⟨table, -, refuses⟩ := rolledBack.ring
      exact refuses.filesCount
  | accepted taskIndex started credits type admitted start =>
      obtain ⟨table, -, accepts⟩ := start.submitted
      exact accepts.filesCount
  | _ => exact ⟨rfl, rfl⟩

theorem CompletionSource.filesCount {taskIndex : Nat} {res : Int32} {ring : Ring}
    (source : CompletionSource rt taskIndex res ring action) :
    ring.registeredFilesCount = rt.ring.registeredFilesCount ∧
      ring.ringFd = rt.ring.ringFd := by
  rw [source.frame]
  exact ⟨rfl, rfl⟩

/-- The ring and the size of its table are the same for the whole run. -/
theorem StepEffect.filesCount (effect : StepEffect rt action next) :
    next.ring.registeredFilesCount = rt.ring.registeredFilesCount ∧
      next.ring.ringFd = rt.ring.ringFd := by
  cases effect with
  | served index incoming next connected only served =>
      rw [only.ring]
      exact ⟨rfl, rfl⟩
  | dispatched index env middle bytes next connected ready change answered =>
      rw [answered]
      exact change.filesCount
  | completed action taskIndex res ring next occupied source completed =>
      rw [completed.ring]
      exact source.filesCount
  | swept updates next swept slots =>
      rw [swept.ring]
      exact ⟨rfl, rfl⟩
  | flushed index writes next connected only flushed =>
      rw [only.ring]
      exact ⟨rfl, rfl⟩
  | disconnected index connected =>
      have only : OnlyClient rt index (closeClient rt index) := .closeClient
      rw [only.ring]
      exact ⟨rfl, rfl⟩
  | posted position res =>
      change (kernelPost rt.ring position res).registeredFilesCount = _ ∧
        (kernelPost rt.ring position res).ringFd = _
      rw [kernelPost_frame]
      exact ⟨rfl, rfl⟩
  | stored store => cases store <;> exact ⟨rfl, rfl⟩
  | _ => exact ⟨rfl, rfl⟩

end Size

/-! ## Registrations -/

/-- What was last registered under each id, by client entry; a connection starts with
nothing. A registration is a slot that becomes registered. -/
def noteRegistered (rt : Runtime) (_ : Action) (next : Runtime)
    (last : Nat → ResourceId → Option Fd) (index : Nat) (id : ResourceId) : Option Fd :=
  match firstBelow next.limits.registeredFdsPerClient fun slot =>
      !(rt.file index slot).registered && (next.file index slot).registered &&
        (next.file index slot).resourceId == id with
  | some slot => some (next.file index slot).daemonFd
  | none => if opensAt rt next index then none else last index id

section Registrations

variable {config : Config} {rt next : Runtime} {action : Action}

/-- A slot that is registered on both sides of a move is the same resource. -/
theorem FileMove.persists {client index slot : Nat} (move : FileMove client rt next)
    (before : (rt.file index slot).registered = true)
    (after : (next.file index slot).registered = true) :
    (next.file index slot).daemonFd = (rt.file index slot).daemonFd ∧
      (next.file index slot).resourceId = (rt.file index slot).resourceId := by
  cases move with
  | kept same => exact (same.files index slot).resource before
  | opened fd found limits table clients =>
      by_cases here : index = client
      · subst here
        rw [Runtime.file, clients, Function.update_self] at after
        cases after
      · rw [Runtime.file, Runtime.file, clients, Function.update_of_ne here]
        exact ⟨rfl, rfl⟩
  | registered place fd client below vacant valid sets after =>
      refine (sets.others index slot ?_).resource before
      by_contra same
      rw [not_or, not_not, not_not] at same
      rw [same.1, same.2, vacant] at before
      cases before
  | vacated place held sets cleared =>
      refine (sets.others index slot ?_).resource before
      by_contra same
      rw [not_or, not_not, not_not] at same
      rw [same.1, same.2, cleared.1] at after
      cases after
  | refreshed place held sets kept =>
      by_cases here : index = client ∧ slot = place
      · rw [here.1, here.2]
        exact kept.resource held
      · exact (sets.others index slot (not_and_or.mp here)).resource before

/-- A release clears slots or leaves them. -/
theorem tryReleaseFileSlot_file {client place : Nat} {update : UpdateOutcome}
    (released : tryReleaseFileSlot rt client place update = .ok next) (index slot : Nat) :
    next.file index slot = rt.file index slot ∨ next.file index slot = .cleared := by
  obtain ⟨touches, entry⟩ := tryReleaseFileSlot_ok released
  by_cases here : index = client
  · subst here
    rw [Runtime.file, entry]
    split
    · by_cases same : slot = place
      · subst same
        exact Or.inr file_setFileSlot
      · exact Or.inl (file_setFileSlot_of_ne same)
    · exact Or.inl rfl
  · have other : next.clients index = rt.clients index := by
      rw [touches.frame]
      exact Function.update_of_ne here _ _
    rw [Runtime.file, other]
    exact Or.inl rfl

/-- Slots are only given up by a sweep. -/
theorem sweepClosingResources_persists {updates : Nat → Nat → UpdateOutcome}
    {result : Runtime × Bool} (swept : sweepClosingResources rt updates = .ok result)
    (index slot : Nat) (after : (result.1.file index slot).registered = true) :
    (rt.file index slot).registered = true ∧
      (result.1.file index slot).daemonFd = (rt.file index slot).daemonFd ∧
      (result.1.file index slot).resourceId = (rt.file index slot).resourceId := by
  have files : ∀ (rt : Runtime) client place update next,
      tryReleaseFileSlot rt client place update = .ok next →
      (next.file index slot).registered = true → (rt.file index slot).registered = true ∧
        (next.file index slot).daemonFd = (rt.file index slot).daemonFd ∧
        (next.file index slot).resourceId = (rt.file index slot).resourceId := by
    intro rt client place update next released held
    rcases tryReleaseFileSlot_file released index slot with same | cleared
    · rw [same] at held ⊢
      exact ⟨held, rfl, rfl⟩
    · rw [cleared] at held
      cases held
  have buffers : ∀ (rt : Runtime) client place next,
      tryReleaseBufferSlot rt client place = .ok next →
      (next.file index slot).registered = true → (rt.file index slot).registered = true ∧
        (next.file index slot).daemonFd = (rt.file index slot).daemonFd ∧
        (next.file index slot).resourceId = (rt.file index slot).resourceId := by
    intro rt client place next released held
    have keeps := (tryReleaseBufferSlot_same released).files index slot
    rw [keeps.registered] at held
    exact ⟨held, keeps.resource held⟩
  exact @sweepClosingResources_related _
    (fun rt next => (next.file index slot).registered = true →
      (rt.file index slot).registered = true ∧
        (next.file index slot).daemonFd = (rt.file index slot).daemonFd ∧
        (next.file index slot).resourceId = (rt.file index slot).resourceId) _ _
    (fun _ held => ⟨held, rfl, rfl⟩)
    (fun _ _ _ first second held => by
      obtain ⟨between, fd, id⟩ := second held
      obtain ⟨before, fd', id'⟩ := first between
      exact ⟨before, fd.trans fd', id.trans id'⟩)
    (fun rt client place update next _ => files rt client place update next)
    (fun rt client place next _ => buffers rt client place next) swept after

/-- A slot that is registered on both sides of a step is the same resource. -/
theorem Invariant.step_persists {index slot : Nat} (invariant : Invariant config rt)
    (taken : step rt action = .ok next) (before : (rt.file index slot).registered = true)
    (after : (next.file index slot).registered = true) :
    (next.file index slot).daemonFd = (rt.file index slot).daemonFd ∧
      (next.file index slot).resourceId = (rt.file index slot).resourceId := by
  have elsewhere : ∀ {client : Nat}, index ≠ client →
      next.clients = Function.update rt.clients client (next.clients client) →
      (next.file index slot).daemonFd = (rt.file index slot).daemonFd ∧
        (next.file index slot).resourceId = (rt.file index slot).resourceId := by
    intro client apart clients
    rw [Runtime.file, Runtime.file, clients, Function.update_of_ne apart]
    exact ⟨rfl, rfl⟩
  have marked : ∀ {client : Nat}, SlotsStay (rt.clients client) (next.clients client) →
      next.clients = Function.update rt.clients client (next.clients client) →
      (next.file index slot).daemonFd = (rt.file index slot).daemonFd ∧
        (next.file index slot).resourceId = (rt.file index slot).resourceId := by
    intro client stay clients
    by_cases here : index = client
    · subst here
      exact (stay.keeps.2 slot).resource before
    · exact elsewhere here clients
  have effect := step_effect invariant.grounded taken
  cases effect with
  | opened client fd env valid found =>
      have move : FileMove client rt { rt.setClient client (openedClient rt client fd) with
          nextClientGeneration := rt.nextClientGeneration + 1 } := .opened fd found rfl rfl rfl
      exact move.persists before after
  | served client incoming next connected only served =>
      apply marked served.slots
      conv_lhs => rw [only.frame]
  | dispatched client env middle bytes next connected ready change answered =>
      have active := (invariant.entries client).ready ready
      have sized := ((invariant.entries client).sized (Or.inl active.1)).1
      rw [← invariant.limits] at sized
      have bound : client < rt.limits.maxClients := by
        unfold Runtime.connected at connected
        rw [Bool.and_eq_true, decide_eq_true_eq] at connected
        exact connected.1
      have keeps := answered.sameFiles.files index slot
      have between := keeps.registered.symm.trans after
      obtain ⟨fd, id⟩ := keeps.resource between
      obtain ⟨fd', id'⟩ := (change.move bound sized).persists before between
      exact ⟨fd.trans fd', id.trans id'⟩
  | completed action taskIndex res ring next occupied source completed =>
      by_cases here : index = (rt.tasks taskIndex).clientIndex
      · subst here
        have tied := invariant.holds.tied taskIndex occupied
        have releases := completed.releases
        by_cases result : (rt.tasks taskIndex).resultFileSlotIndex = some slot
        · rw [Runtime.file, (tied.result slot result).2.1] at before
          cases before
        · by_cases named : (rt.tasks taskIndex).fileSlotIndex = some slot
          · have released := releases.file slot named
            rw [FileSlot.released] at released
            split at released
            · rw [Runtime.file, released] at after
              cases after
            · rw [Runtime.file, Runtime.file, released]
              exact ⟨rfl, rfl⟩
          · rw [Runtime.file, Runtime.file, releases.file_other slot named result]
            exact ⟨rfl, rfl⟩
      · apply elsewhere here
        rw [completed.frame]
        simp only [Function.update_self]
  | swept updates next swept slots =>
      obtain ⟨result, released, done⟩ := bind_ok taken
      cases done
      exact (sweepClosingResources_persists released index slot after).2
  | flushed client writes next connected only flushed =>
      simp only [step, connected, ↓reduceIte] at taken
      cases taken
      apply marked (flushOrClose_slots rt client writes)
      conv_lhs => rw [only.frame]
  | disconnected client connected =>
      have only : OnlyClient rt client (closeClient rt client) := .closeClient
      refine marked (.closed _ ⟨rfl, rfl, rfl, rfl⟩ (closeClient_client rt client)) ?_
      conv_lhs => rw [only.frame]
  | stored store => cases store <;> exact ⟨rfl, rfl⟩
  | _ => exact ⟨rfl, rfl⟩

/-- Registered slots show in the notes. -/
def Recorded (rt : Runtime) (last : Nat → ResourceId → Option Fd) : Prop :=
  ∀ index slot, (rt.file index slot).registered = true →
    last index (rt.file index slot).resourceId = some (rt.file index slot).daemonFd

/-- Every step notes the slots it registers. -/
theorem Recorded.noted {last : Nat → ResourceId → Option Fd} (recorded : Recorded rt last)
    (invariant : Invariant config rt) (labelled : ∀ index, Labelled (next.clients index))
    (mirrored : Mirrored next) (taken : step rt action = .ok next) :
    Recorded next (noteRegistered rt action next last) := by
  intro index slot held
  -- a slot that is found under the id of `slot` is `slot` itself
  have unique : ∀ other, (next.file index other).registered = true →
      (next.file index other).resourceId = (next.file index slot).resourceId → other = slot := by
    intro other also same
    have label : ∀ place, (next.file index place).registered = true →
        (next.clients index).label (.inl place) = some (next.file index place).resourceId := by
      intro place registered
      refine FileSlot.label_eq_some.mpr ⟨?_, rfl⟩
      rw [FileSlot.isFree, ← Runtime.file, registered]
      rfl
    have first := label other also
    rw [same] at first
    exact Sum.inl.inj ((labelled index).distinct _ _ _ first (label slot held))
  unfold noteRegistered
  split
  · rename_i found searched
    obtain ⟨-, matched⟩ := firstBelow_some searched
    simp only [Bool.and_eq_true, beq_iff_eq] at matched
    rw [unique found matched.1.2 matched.2]
  · rename_i searched
    have before : (rt.file index slot).registered = true := by
      by_contra vacant
      have missing := firstBelow_eq_none.mp searched slot (mirrored.within index slot held).2
      simp only [held, (Bool.not_eq_true _).mp vacant, Bool.not_false, Bool.and_true,
        beq_self_eq_true, Bool.true_eq_false] at missing
    have kept : ¬ opensAt rt next index = true := by
      intro opens
      obtain ⟨fd, -, entry⟩ := (step_clients invariant.grounded taken index).entry_of_opens opens
      rw [Runtime.file, entry] at held
      cases held
    obtain ⟨fd, id⟩ := invariant.step_persists taken before held
    rw [if_neg kept, fd, id]
    exact recorded index slot before

end Registrations

/-! ## Operations on fixed files -/

/-- The descriptor an operation works on. -/
def Ring.target (ring : Ring) (sqe : Sqe) : Fd :=
  if sqe.fixedFile then ring.kernel.registeredFiles sqe.fd.toInt.toNat else sqe.fd

/-- Reads, writes, polls and the fixed-buffer operations. -/
def Opcode.onFixedFile : Opcode → Bool
  | .readv | .writev | .readFixed | .writeFixed | .pollAdd => true
  | _ => false

section Operations

variable {config : Config} {rt next : Runtime} {index taskIndex : Nat}

/-- The operations on fixed files belong to the kinds that use a file. -/
theorem taskSqe_onFixedFile (fixed : (taskSqe rt taskIndex).opcode.onFixedFile = true) :
    (rt.tasks taskIndex).taskKind.usesFile = true ∧ (rt.tasks taskIndex).taskKind ≠ .close ∧
      (taskSqe rt taskIndex).fixedFile = true ∧
      (taskSqe rt taskIndex).fd = Int32.ofNat (globalFileIndex rt (rt.tasks taskIndex).clientIndex
        ((rt.tasks taskIndex).fileSlotIndex.getD 0)) := by
  unfold taskSqe at fixed ⊢
  dsimp only at fixed ⊢
  cases kind : (rt.tasks taskIndex).taskKind with
  | sockRead | sockWrite | fileRead | fileWrite | poll | sockReadFixed | sockWriteFixed =>
      exact ⟨rfl, nofun, rfl, rfl⟩
  | _ =>
      rw [kind] at fixed
      cases fixed

/-- The descriptor behind a position of the table. -/
theorem target_of_position {sqe : Sqe} {ring : Ring} {position : Nat}
    (fixed : sqe.fixedFile = true) (fd : sqe.fd = Int32.ofNat position)
    (small : position < 2 ^ 31) : ring.target sqe = ring.kernel.registeredFiles position := by
  rw [Ring.target, if_pos fixed, fd, Int32.toInt_ofNat_of_lt small, Int.toNat_natCast]

/-- Positions of slots fit the descriptor field of a submission. -/
theorem Invariant.position_small {slot : Nat} (invariant : Invariant config rt)
    (client : index < rt.limits.maxClients) (below : slot < rt.limits.registeredFdsPerClient) :
    globalFileIndex rt index slot < 2 ^ 31 := by
  have bound := globalFileIndex_lt client below
  obtain ⟨clients, files, -⟩ := config.slots_le
  rw [← invariant.limits] at clients files
  have product : rt.limits.maxClients * rt.limits.registeredFdsPerClient ≤
      maxClientsLimit * maxRegisteredFds := Nat.mul_le_mul clients files
  have small : maxClientsLimit * maxRegisteredFds < 2 ^ 31 := by decide
  omega

/-- A slot of a client that is registered under an id leads to what was last registered
under it. -/
theorem Invariant.target_recorded {last : Nat → ResourceId → Option Fd} {sqe : Sqe} {slot : Nat}
    (invariant : Invariant config rt) (mirrored : Mirrored rt) (recorded : Recorded rt last)
    (held : (rt.file index slot).registered = true) (fixed : sqe.fixedFile = true)
    (fd : sqe.fd = Int32.ofNat (globalFileIndex rt index slot)) :
    last index (rt.file index slot).resourceId = some (rt.ring.target sqe) := by
  obtain ⟨client, below⟩ := mirrored.within index slot held
  rw [target_of_position fixed fd (invariant.position_small client below),
    mirrored.entries index slot client below, FileSlot.entry, if_pos held]
  exact recorded index slot held

/-- What a dispatch publishes is the operation of its request. -/
theorem Dispatched.offered {env : DispatchEnv} {middle : Runtime} {bytes : List UInt8}
    (dispatched : Dispatched rt index env middle bytes) : Offered rt index middle.ring := by
  cases dispatched with
  | fileRegistered slot resourceId nextId ring result operation held found allocated valid
      updated =>
      cases ringUpdateRegisteredFile_ok updated
      exact offered_of_tail rfl
  | fileReleased slot ring result operation found idle updated =>
      cases ringUpdateRegisteredFile_ok updated
      apply offered_of_tail
      unfold clearFileSlot
      dsimp only
      split
      · rfl
      · rfl
  | refused middle errno credits type rolledBack => exact rolledBack.offered
  | accepted taskIndex started credits type admitted start =>
      obtain ⟨table, -, accepts⟩ := start.submitted
      obtain ⟨-, count, -, same⟩ := accepts
      have shown : rt.ring.published started.ring = some (taskSqe started taskIndex) := by
        rw [same]
        exact Ring.published_publish rfl rfl rfl
      intro sqe published
      refine ⟨taskIndex, started,
        ⟨admitted, start.frame, start.identifies, start.carries, start.acquires, start.numbered⟩,
        ?_⟩
      exact (Option.some.inj (shown.symm.trans published)).symm
  | _ => exact offered_of_tail rfl

/-- Tasks on a file name a slot. -/
def Named (rt : Runtime) : Prop :=
  ∀ taskIndex, rt.occupied taskIndex = true →
    (rt.tasks taskIndex).taskKind.usesFile = true ∨ (rt.tasks taskIndex).taskKind = .close →
    (rt.tasks taskIndex).fileSlotIndex ≠ none

theorem Named.stepped (named : Named rt) (shape : StepShape rt next) : Named next :=
  @StepShape.every_task _ _ (fun task => task.taskKind.usesFile = true ∨ task.taskKind = .close →
    task.fileSlotIndex ≠ none) shape (fun _ _ _ names => names)
    (fun _ _ _ _ start => start.carries.file) named

end Operations

section Runs

variable {config : Config} {actions : List Action}
  {state : Runtime × (Nat → ResourceId → Option Fd)}

/-- What a run with notes satisfies. -/
structure Noted (config : Config) (state : Runtime × (Nat → ResourceId → Option Fd)) : Prop where
  invariant : Invariant config state.1
  labelled : ∀ index, Labelled (state.1.clients index)
  mirrored : Mirrored state.1
  recorded : Recorded state.1 state.2
  named : Named state.1
  count : state.1.ring.registeredFilesCount =
    state.1.limits.maxClients * state.1.limits.registeredFdsPerClient

theorem Noted.initial (config : Config) :
    Noted config (Runtime.initial config, fun _ _ => none) where
  invariant := .initial config
  labelled := by
    refine fun index => labelled_of_clear ?_
    rintro (slot | slot)
    · rfl
    · rfl
  mirrored := .initial config
  recorded := by
    intro index slot held
    cases held
  named := by
    intro taskIndex occupied
    rw [Runtime.occupied, Bool.and_eq_true] at occupied
    cases occupied.2
  count := config.files_count

theorem Noted.stepped {action : Action} {next : Runtime × (Nat → ResourceId → Option Fd)}
    (noted : Noted config state)
    (taken : Foundation.recorded step noteRegistered state action = .ok next) :
    Noted config next := by
  obtain ⟨stepped, notes⟩ := recorded_ok taken
  have invariant := noted.invariant
  have shape := step_shape invariant.grounded stepped
  have labelled : ∀ index, Labelled (next.1.clients index) := fun index =>
    (noted.labelled index).relabelled (invariant.step_relabelled stepped index)
  have mirrored := (invariant.step_moves stepped).mirrored noted.mirrored
  refine ⟨invariant.stepped stepped, labelled, mirrored, ?_, noted.named.stepped shape, ?_⟩
  · rw [notes]
    exact noted.recorded.noted invariant labelled mirrored stepped
  · rw [shape.constants.1, (step_effect invariant.grounded stepped).filesCount.1]
    exact noted.count

theorem run_noted (ran : run (recorded step noteRegistered)
      (Runtime.initial config, fun _ _ => none) actions = .ok state) : Noted config state := by
  refine run_preserves ?_ (.initial config) ran
  intro before action after _ noted taken
  exact noted.stepped taken

/-- In every state of every run the table holds the descriptors of the registered slots
and -1 elsewhere, each slot has a position of its own below the size of the table, and
what a dispatch publishes for a fixed file works on the descriptor last registered under
the resource id of the request. When no `io_uring_enter` fails, so does every operation
on a fixed file that the kernel has taken or will take, for as long as it is there. -/
theorem file_table_mirrors_slots
    (ran : run (recorded step noteRegistered) (Runtime.initial config, fun _ _ => none) actions =
      .ok state) :
    (∀ index slot, index < state.1.limits.maxClients →
      slot < state.1.limits.registeredFdsPerClient →
      state.1.ring.kernel.registeredFiles (globalFileIndex state.1 index slot) =
          (if (state.1.file index slot).registered then (state.1.file index slot).daemonFd else
            -1) ∧
        globalFileIndex state.1 index slot < state.1.ring.registeredFilesCount ∧
        ∀ client other, client < state.1.limits.maxClients →
          other < state.1.limits.registeredFdsPerClient →
          globalFileIndex state.1 index slot = globalFileIndex state.1 client other →
          index = client ∧ slot = other) ∧
    (∀ index env next sqe, step state.1 (.dispatch index env) = .ok next →
      state.1.ring.published next.ring = some sqe → sqe.opcode.onFixedFile = true →
      sqe.fixedFile = true ∧ state.2 index (state.1.clients index).resourceId =
        some (state.1.ring.target sqe)) ∧
    ((∀ action ∈ actions, action.clean = true) → ∀ sqe ∈ state.1.ring.submitted,
      sqe.opcode.onFixedFile = true → sqe.fixedFile = true ∧
        ∃ taskIndex, state.1.occupied taskIndex = true ∧
          (state.1.tasks taskIndex).taskId = sqe.userData ∧
          state.2 (state.1.tasks taskIndex).clientIndex (state.1.tasks taskIndex).resourceId =
            some (state.1.ring.target sqe)) := by
  have noted := run_noted ran
  have invariant := noted.invariant
  refine ⟨?_, ?_, ?_⟩
  · intro index slot client below
    refine ⟨noted.mirrored.entries index slot client below, ?_, ?_⟩
    · rw [noted.count]
      exact globalFileIndex_lt client below
    · intro other place _ alsoBelow same
      exact globalFileIndex_inj below alsoBelow same
  · intro index env next sqe taken published onFixed
    cases step_effect invariant.grounded taken with
    | idle =>
        rw [Ring.published, if_pos rfl] at published
        cases published
    | dispatched _ _ middle bytes _ connected ready change answered =>
        have ring : next.ring = middle.ring := by rw [answered]
        rw [ring] at published
        obtain ⟨taskIndex, attempt, made, same⟩ := change.offered sqe published
        subst same
        obtain ⟨uses, notClose, fixed, fd⟩ := taskSqe_onFixedFile onFixed
        obtain ⟨slot, named⟩ := Option.ne_none_iff_exists'.mp (made.carries.file (Or.inl uses))
        obtain ⟨-, held, -, id⟩ := made.acquires.file_found slot named
        have limits : attempt.limits = state.1.limits := by rw [made.frame]
        have own := made.identifies.clientIndex
        rw [named, Option.getD_some, own, globalFileIndex_congr limits] at fd
        refine ⟨fixed, ?_⟩
        rw [← made.carries.resourceId (named ▸ Option.some_ne_none slot), ← id]
        exact invariant.target_recorded noted.mirrored noted.recorded held fixed fd
    | completed _ slot res ring _ occupied source completed => cases source
  · intro clean sqe member onFixed
    obtain ⟨-, matched⟩ := run_matched (run_of_recorded ran) clean
    obtain ⟨taskIndex, occupied, same⟩ := matched.sqes sqe member
    subst same
    obtain ⟨uses, notClose, fixed, fd⟩ := taskSqe_onFixedFile onFixed
    obtain ⟨slot, named⟩ :=
      Option.ne_none_iff_exists'.mp (noted.named taskIndex occupied (Or.inl uses))
    have tied := invariant.holds.tied taskIndex occupied
    rw [named, Option.getD_some] at fd
    refine ⟨fixed, taskIndex, occupied, (taskSqe_userData _ _).symm, ?_⟩
    rw [← tied.file slot named]
    exact invariant.target_recorded noted.mirrored noted.recorded
      (tied.source slot named notClose) fixed fd

end Runs

/-- A read on the descriptor that was registered as 1 is in the kernel's hands. -/
theorem file_table_mirrors_slots_reading :
    ∃ state, run (recorded step noteRegistered)
        (Runtime.initial (.small 1 (by decide) (by decide)), fun _ _ => none) readInFlight =
        .ok state ∧ state.2 0 1 = some 9 ∧ state.1.ring.submitted ≠ [] ∧
      state.1.ring.kernel.registeredFiles (globalFileIndex state.1 0 0) =
        (if (state.1.file 0 0).registered then (state.1.file 0 0).daemonFd else -1) ∧
      ∀ sqe ∈ state.1.ring.submitted, sqe.opcode.onFixedFile = true → sqe.fixedFile = true ∧
        ∃ taskIndex, state.1.occupied taskIndex = true ∧
          (state.1.tasks taskIndex).taskId = sqe.userData ∧
          state.2 (state.1.tasks taskIndex).clientIndex (state.1.tasks taskIndex).resourceId =
            some (state.1.ring.target sqe) := by
  have seen : ((run (recorded step noteRegistered)
      (Runtime.initial (.small 1 (by decide) (by decide)), fun _ _ => none)
      readInFlight).toOption.map fun state =>
        decide (state.2 0 1 = some 9 ∧ state.1.ring.submitted ≠ [] ∧
          0 < state.1.limits.maxClients ∧ 0 < state.1.limits.registeredFdsPerClient)) =
      some true := by decide +kernel
  obtain ⟨state, ran, view⟩ := exists_of_toOption_map seen
  obtain ⟨noted, running, client, below⟩ := of_decide_eq_true view
  obtain ⟨mirrors, -, operates⟩ := file_table_mirrors_slots ran
  exact ⟨state, ran, noted, running, (mirrors 0 0 client below).1, operates (by decide)⟩

/-- A descriptor arrives and is registered. -/
def registering (index : Nat) (fd : Fd) : List Action :=
  [.input index [.data (requestHeader .registerFd).encode [⟨true, [fd]⟩] false],
    .dispatch index .smooth]

/-- Descriptor 9 is registered as 1, a POLL of resource 1 is refused because its
`io_uring_enter` fails, 1 is released, and descriptor 10 gets the slot as 2. The NOP
after that makes the kernel take the POLL, which now works on descriptor 10. -/
theorem poll_on_descriptor_of_other_resource :
    ∃ state, run (recorded step noteRegistered)
        (Runtime.initial (.small 1 (by decide) (by decide)), fun _ _ => none)
        (joining 0 7 ++ registering 0 9 ++
          requesting 0 (PollRequest.encode ⟨requestHeader .poll, 1, 1, 0⟩) .enterFails ++
          requesting 0 (ResourceRequest.encode ⟨requestHeader .releaseResource, 1, 0⟩) .smooth ++
          registering 0 10 ++ requesting 0 (requestHeader .nop).encode .smooth) = .ok state ∧
      state.1.ring.kernel.executing.map (fun sqe => (sqe.opcode, state.1.ring.target sqe)) =
        [(.pollAdd, 10)] ∧
      state.2 0 1 = some 9 ∧ state.2 0 2 = some 10 ∧ 9 ∈ state.1.ring.kernel.closed := by
  have seen : ((run (recorded step noteRegistered)
      (Runtime.initial (.small 1 (by decide) (by decide)), fun _ _ => none)
      (joining 0 7 ++ registering 0 9 ++
        requesting 0 (PollRequest.encode ⟨requestHeader .poll, 1, 1, 0⟩) .enterFails ++
        requesting 0 (ResourceRequest.encode ⟨requestHeader .releaseResource, 1, 0⟩) .smooth ++
        registering 0 10 ++ requesting 0 (requestHeader .nop).encode .smooth)).toOption.map
      fun state => decide (state.1.ring.kernel.executing.map
          (fun sqe => (sqe.opcode, state.1.ring.target sqe)) = [(.pollAdd, 10)] ∧
        state.2 0 1 = some 9 ∧ state.2 0 2 = some 10 ∧ 9 ∈ state.1.ring.kernel.closed)) =
      some true := by decide +kernel
  obtain ⟨state, ran, view⟩ := exists_of_toOption_map seen
  exact ⟨state, ran, of_decide_eq_true view⟩

end Iouringd
