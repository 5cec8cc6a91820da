import Iouringd.Daemon.FileMoves

/-! # Resource ids in use

A slot that is registered, closing or in flight has its id in use, and every other slot is
clear. A step keeps the ids in use, gives some up, or adds one that was drawn by
`iouringd_allocate_resource_id`, so the ids in use of a client are pairwise distinct over
both tables.
-/

namespace Iouringd

open Foundation

/-- The id a file slot has in use. -/
def FileSlot.label (file : FileSlot) : Option ResourceId :=
  if file.isFree then none else some file.resourceId

@[inherit_doc FileSlot.label]
def BufferSlot.label (buffer : BufferSlot) : Option ResourceId :=
  if buffer.isFree then none else some buffer.resourceId

/-- The ids in use by slot; file slots are on the left. -/
def Client.label (client : Client) : Nat ⊕ Nat → Option ResourceId
  | .inl slot => (client.fileResources slot).label
  | .inr slot => (client.bufferResources slot).label

/-- The slot is one the client may use. -/
def Client.owns (client : Client) : Nat ⊕ Nat → Prop
  | .inl slot => slot < client.fileSlotLimit
  | .inr slot => slot < client.bufferSlotLimit

/-- The slot is as `iouringd_clear_file_slot` or `iouringd_clear_buffer_slot` leaves it. -/
def Client.isClear (client : Client) : Nat ⊕ Nat → Prop
  | .inl slot => client.fileResources slot = .cleared
  | .inr slot => client.bufferResources slot = .cleared

/-- The ids in use are valid and distinct and belong to slots of the client; the other slots
are clear. -/
structure Labelled (client : Client) : Prop where
  distinct : ∀ first second id, client.label first = some id → client.label second = some id →
    first = second
  owned : ∀ place id, client.label place = some id → client.owns place
  valid : ∀ place id, client.label place = some id → id ≠ resourceIdInvalid
  tidy : ∀ place, client.label place = none → client.isClear place

/-- The slot at `place` keeps its id or is cleared. -/
def Client.gives (client next : Client) (place : Nat ⊕ Nat) : Prop :=
  next.isClear place ∨
    (next.label place = client.label place ∧ (client.isClear place → next.isClear place))

/-- Ids are kept or given up. -/
structure Shrinks (client next : Client) : Prop where
  files : next.fileSlotLimit = client.fileSlotLimit
  buffers : next.bufferSlotLimit = client.bufferSlotLimit
  labels : ∀ place, client.gives next place

/-- One slot gets the id that was drawn, the others keep theirs or give them up. -/
structure Labels (client next : Client) (place : Nat ⊕ Nat) : Prop where
  files : next.fileSlotLimit = client.fileSlotLimit
  buffers : next.bufferSlotLimit = client.bufferSlotLimit
  within : client.owns place
  valid : (allocateResourceId client).1 ≠ resourceIdInvalid
  fresh : next.label place = some (allocateResourceId client).1
  labels : ∀ other, other ≠ place → client.gives next other

section Slots

/-- What a free slot is. -/
theorem FileSlot.isFree_iff {file : FileSlot} :
    file.isFree = true ↔ file.registered = false ∧ file.closing = false ∧ file.inFlight = 0 := by
  simp only [isFree, Bool.and_eq_true, Bool.not_eq_true', beq_iff_eq, and_assoc]

@[inherit_doc FileSlot.isFree_iff]
theorem BufferSlot.isFree_iff {buffer : BufferSlot} :
    buffer.isFree = true ↔
      buffer.registered = false ∧ buffer.closing = false ∧ buffer.inFlight = 0 := by
  simp only [isFree, Bool.and_eq_true, Bool.not_eq_true', beq_iff_eq, and_assoc]

/-- A slot carries an id while it is not free. -/
theorem FileSlot.label_eq_some {file : FileSlot} {id : ResourceId} :
    file.label = some id ↔ file.isFree = false ∧ file.resourceId = id := by
  unfold label
  cases file.isFree <;> simp

@[inherit_doc FileSlot.label_eq_some]
theorem BufferSlot.label_eq_some {buffer : BufferSlot} {id : ResourceId} :
    buffer.label = some id ↔ buffer.isFree = false ∧ buffer.resourceId = id := by
  unfold label
  cases buffer.isFree <;> simp

/-- A cleared slot carries none. -/
@[simp] theorem FileSlot.label_cleared : FileSlot.cleared.label = none := rfl

@[simp, inherit_doc FileSlot.label_cleared]
theorem BufferSlot.label_cleared : BufferSlot.cleared.label = none := rfl

/-- A slot in use that keeps its id keeps its label. -/
theorem FileSlot.label_kept {file next : FileSlot} (used : file.isFree = false)
    (after : next.isFree = false) (same : next.resourceId = file.resourceId) :
    next.label = file.label := by
  unfold label
  rw [used, after, same]

/-- A buffer slot that stays in use keeps its id. -/
theorem BufferSlot.label_kept {buffer next : BufferSlot} (used : buffer.isFree = false)
    (after : next.isFree = false) (same : next.resourceId = buffer.resourceId) :
    next.label = buffer.label := by
  unfold label
  rw [used, after, same]

/-- A clear slot has no id in use. -/
theorem Client.label_of_isClear {client : Client} {place : Nat ⊕ Nat}
    (clear : client.isClear place) : client.label place = none := by
  cases place with
  | inl slot =>
      change (client.fileResources slot).label = none
      rw [show client.fileResources slot = .cleared from clear, FileSlot.label_cleared]
  | inr slot =>
      change (client.bufferResources slot).label = none
      rw [show client.bufferResources slot = .cleared from clear, BufferSlot.label_cleared]

/-- Nothing happened to a place. -/
theorem Client.gives_refl (client : Client) (place : Nat ⊕ Nat) : client.gives client place :=
  Or.inr ⟨rfl, id⟩

/-- A file slot in use that stays in use under its id. -/
theorem gives_file {client next : Client} {slot : Nat}
    (used : (client.fileResources slot).isFree = false)
    (after : (next.fileResources slot).isFree = false)
    (same : (next.fileResources slot).resourceId = (client.fileResources slot).resourceId) :
    client.gives next (.inl slot) := by
  refine Or.inr ⟨FileSlot.label_kept used after same, ?_⟩
  intro clear
  rw [show client.fileResources slot = .cleared from clear] at used
  cases used

/-- A buffer slot that stays in use. -/
theorem gives_buffer {client next : Client} {slot : Nat}
    (used : (client.bufferResources slot).isFree = false)
    (after : (next.bufferResources slot).isFree = false)
    (same : (next.bufferResources slot).resourceId = (client.bufferResources slot).resourceId) :
    client.gives next (.inr slot) := by
  refine Or.inr ⟨BufferSlot.label_kept used after same, ?_⟩
  intro clear
  rw [show client.bufferResources slot = .cleared from clear] at used
  cases used

/-- A slot that is left alone. -/
theorem gives_file_same {client next : Client} {slot : Nat}
    (same : next.fileResources slot = client.fileResources slot) :
    client.gives next (.inl slot) := by
  refine Or.inr ⟨?_, fun clear => same.trans clear⟩
  change (next.fileResources slot).label = (client.fileResources slot).label
  rw [same]

/-- A buffer slot that stays as it is. -/
theorem gives_buffer_same {client next : Client} {slot : Nat}
    (same : next.bufferResources slot = client.bufferResources slot) :
    client.gives next (.inr slot) := by
  refine Or.inr ⟨?_, fun clear => same.trans clear⟩
  change (next.bufferResources slot).label = (client.bufferResources slot).label
  rw [same]

/-- A registered slot is in use. -/
theorem FileSlot.isFree_of_registered {file : FileSlot} (registered : file.registered = true) :
    file.isFree = false := by
  simp only [isFree, registered, Bool.not_true, Bool.false_and]

@[inherit_doc FileSlot.isFree_of_registered]
theorem BufferSlot.isFree_of_registered {buffer : BufferSlot}
    (registered : buffer.registered = true) : buffer.isFree = false := by
  simp only [isFree, registered, Bool.not_true, Bool.false_and]

end Slots

section Relabelling

variable {client middle next : Client} {place : Nat ⊕ Nat}

/-- One after the other. -/
theorem gives_trans (first : client.gives middle place) (second : middle.gives next place) :
    client.gives next place := by
  rcases second with cleared | ⟨same, clear⟩
  · exact Or.inl cleared
  · rcases first with cleared | ⟨before, earlier⟩
    · exact Or.inl (clear cleared)
    · exact Or.inr ⟨same.trans before, fun held => clear (earlier held)⟩

/-- Nothing is given up. -/
theorem Shrinks.refl (client : Client) : Shrinks client client :=
  ⟨rfl, rfl, client.gives_refl⟩

/-- Slots are given up one after the other. -/
theorem Shrinks.trans (first : Shrinks client middle) (second : Shrinks middle next) :
    Shrinks client next := by
  refine ⟨second.files.trans first.files, second.buffers.trans first.buffers, ?_⟩
  exact fun place => gives_trans (first.labels place) (second.labels place)

/-- An id in use after the step was in use before. -/
theorem gives_label {id : ResourceId} (gives : client.gives next place)
    (used : next.label place = some id) : client.label place = some id := by
  rcases gives with cleared | ⟨same, -⟩
  · rw [Client.label_of_isClear cleared] at used
    cases used
  · rw [← same]
    exact used

/-- A slot that has no id in use after the step is clear. -/
theorem gives_tidy (tidy : client.label place = none → client.isClear place)
    (gives : client.gives next place) (unused : next.label place = none) : next.isClear place := by
  rcases gives with cleared | ⟨same, clear⟩
  · exact cleared
  · exact clear (tidy (same ▸ unused))

/-- The id of a slot in use is found by `iouringd_resource_id_in_use`. -/
theorem inUse_of_label {id : ResourceId} (owned : client.owns place)
    (used : client.label place = some id) : resourceIdInUse client id = true := by
  simp only [resourceIdInUse, Bool.or_eq_true, List.any_eq_true, List.mem_range]
  cases place with
  | inl slot =>
      obtain ⟨busy, named⟩ := FileSlot.label_eq_some.mp used
      refine Or.inl ⟨slot, owned, ?_⟩
      simp only [named, beq_self_eq_true, Bool.and_true, Bool.true_and, Bool.or_eq_true, bne_iff_ne,
        ne_eq]
      simp only [FileSlot.isFree, Bool.and_eq_false_iff, Bool.not_eq_false', beq_eq_false_iff_ne,
        ne_eq] at busy
      tauto
  | inr slot =>
      obtain ⟨busy, named⟩ := BufferSlot.label_eq_some.mp used
      refine Or.inr ⟨slot, owned, ?_⟩
      simp only [named, beq_self_eq_true, Bool.and_true, Bool.true_and, Bool.or_eq_true, bne_iff_ne,
        ne_eq]
      simp only [BufferSlot.isFree, Bool.and_eq_false_iff, Bool.not_eq_false', beq_eq_false_iff_ne,
        ne_eq] at busy
      tauto

/-- An id that is not in use labels no slot. -/
theorem Labelled.not_in_use (labelled : Labelled client) {id : ResourceId}
    (unused : resourceIdInUse client id = false) (place : Nat ⊕ Nat) :
    client.label place ≠ some id := by
  intro used
  rw [inUse_of_label (labelled.owned place id used) used] at unused
  cases unused

/-- A place the client has, by the limits alone. -/
theorem owns_of_limits (files : next.fileSlotLimit = client.fileSlotLimit)
    (buffers : next.bufferSlotLimit = client.bufferSlotLimit) (owned : client.owns place) :
    next.owns place := by
  cases place with
  | inl slot =>
      change slot < next.fileSlotLimit
      rw [files]
      exact owned
  | inr slot =>
      change slot < next.bufferSlotLimit
      rw [buffers]
      exact owned

/-- Giving slots up keeps ids distinct. -/
theorem Labelled.shrinks (labelled : Labelled client) (shrinks : Shrinks client next) :
    Labelled next := by
  have kept : ∀ place id, next.label place = some id → client.label place = some id :=
    fun place id used => gives_label (shrinks.labels place) used
  refine ⟨?_, ?_, ?_, ?_⟩
  · intro first second id usedFirst usedSecond
    exact labelled.distinct first second id (kept first id usedFirst) (kept second id usedSecond)
  · intro place id used
    exact owns_of_limits shrinks.files shrinks.buffers
      (labelled.owned place id (kept place id used))
  · intro place id used
    exact labelled.valid place id (kept place id used)
  · intro place unused
    exact gives_tidy (labelled.tidy place) (shrinks.labels place) unused

/-- A fresh id keeps the ids distinct. -/
theorem Labelled.labels (labelled : Labelled client) (labels : Labels client next place) :
    Labelled next := by
  have unused := allocateResourceId_unused labels.valid
  have kept : ∀ other label, other ≠ place → next.label other = some label →
      client.label other = some label :=
    fun other label apart used => gives_label (labels.labels other apart) used
  refine ⟨?_, ?_, ?_, ?_⟩
  · intro first second label usedFirst usedSecond
    by_cases atFirst : first = place
    · by_cases atSecond : second = place
      · rw [atFirst, atSecond]
      · rw [atFirst, labels.fresh, Option.some.injEq] at usedFirst
        subst usedFirst
        exact absurd (kept second _ atSecond usedSecond) (labelled.not_in_use unused second)
    · by_cases atSecond : second = place
      · rw [atSecond, labels.fresh, Option.some.injEq] at usedSecond
        subst usedSecond
        exact absurd (kept first _ atFirst usedFirst) (labelled.not_in_use unused first)
      · exact labelled.distinct first second label (kept first label atFirst usedFirst)
          (kept second label atSecond usedSecond)
  · intro other label used
    by_cases here : other = place
    · rw [here]
      exact owns_of_limits labels.files labels.buffers labels.within
    · exact owns_of_limits labels.files labels.buffers
        (labelled.owned other label (kept other label here used))
  · intro other label used
    by_cases here : other = place
    · rw [here, labels.fresh, Option.some.injEq] at used
      rw [← used]
      exact labels.valid
    · exact labelled.valid other label (kept other label here used)
  · intro other none
    by_cases here : other = place
    · rw [here, labels.fresh] at none
      cases none
    · exact gives_tidy (labelled.tidy other) (labels.labels other here) none

/-- A client without ids in use. -/
theorem labelled_of_clear (clear : ∀ place, client.isClear place) : Labelled client := by
  have none : ∀ place, client.label place = none := fun place =>
    Client.label_of_isClear (clear place)
  refine ⟨?_, ?_, ?_, fun place _ => clear place⟩
  · intro first second id used
    rw [none] at used
    cases used
  · intro place id used
    rw [none] at used
    cases used
  · intro place id used
    rw [none] at used
    cases used

end Relabelling

/-! ## What a step does to the ids in use -/

/-- The same slots carry the same ids. -/
theorem SameSlots.label {client next : Client} (same : SameSlots client next) (place : Nat ⊕ Nat) :
    next.label place = client.label place := by
  cases place with
  | inl slot =>
      change (next.fileResources slot).label = _
      rw [same.fileResources]
      rfl
  | inr slot =>
      change (next.bufferResources slot).label = _
      rw [same.bufferResources]
      rfl

/-- The same slots have been given nothing new. -/
theorem SameSlots.gives {client next : Client} (same : SameSlots client next) (place : Nat ⊕ Nat) :
    client.gives next place := by
  cases place with
  | inl slot => exact gives_file_same (by rw [same.fileResources])
  | inr slot => exact gives_buffer_same (by rw [same.bufferResources])

/-- The same slots have given nothing up. -/
theorem SameSlots.shrinks {client next : Client} (same : SameSlots client next) :
    Shrinks client next :=
  ⟨same.fileSlotLimit, same.bufferSlotLimit, same.gives⟩

/-- The ids and the id counter of a client after a step. -/
inductive Relabelled (client next : Client) : Prop where
  | shrunk (shrinks : Shrinks client next) (counter : CounterAfter client next.nextResourceId)
  | drawn (place : Nat ⊕ Nat) (labels : Labels client next place)
      (counter : next.nextResourceId = (allocateResourceId client).2.nextResourceId)
  | emptied (clear : ∀ place, next.isClear place) (counter : next.nextResourceId = 1)
      (opens : client.isActive = false ∧ next.isActive = true)

/-- A change to the rest of the client behind a change of ids. -/
theorem Relabelled.after {client middle next : Client} (relabelled : Relabelled client middle)
    (same : SameSlots middle next) (counter : next.nextResourceId = middle.nextResourceId)
    (active : next.isActive = middle.isActive) : Relabelled client next := by
  cases relabelled with
  | shrunk shrinks before => exact .shrunk (shrinks.trans same.shrinks) (counter ▸ before)
  | drawn place labels before =>
      refine .drawn place ⟨same.fileSlotLimit.trans labels.files,
        same.bufferSlotLimit.trans labels.buffers, labels.within, labels.valid, ?_, ?_⟩
        (counter.trans before)
      · rw [same.label]
        exact labels.fresh
      · exact fun other apart => gives_trans (labels.labels other apart) (same.gives other)
  | emptied clear before opens =>
      refine .emptied (fun place => ?_) (counter.trans before) ⟨opens.1, active.trans opens.2⟩
      rcases same.gives place with cleared | ⟨-, kept⟩
      · exact cleared
      · exact kept (clear place)

/-- Ids stay distinct and below the counter. -/
theorem Labelled.relabelled {client next : Client} (labelled : Labelled client)
    (relabelled : Relabelled client next) : Labelled next := by
  cases relabelled with
  | shrunk shrinks => exact labelled.shrinks shrinks
  | drawn place labels => exact labelled.labels labels
  | emptied clear => exact labelled_of_clear clear

section Slots

variable {client next : Client}

/-- A registered slot that is marked keeps its id in use. -/
theorem closedClient_gives (client : Client) (place : Nat ⊕ Nat) :
    client.gives (closedClient client) place := by
  cases place with
  | inl slot =>
      by_cases held : (client.fileResources slot).registered = true
      · have marked : (closedClient client).fileResources slot =
            { client.fileResources slot with closing := true } := if_pos held
        apply gives_file (FileSlot.isFree_of_registered held)
        · rw [marked]
          exact FileSlot.isFree_of_registered held
        · rw [marked]
      · exact gives_file_same (if_neg held)
  | inr slot =>
      by_cases held : (client.bufferResources slot).registered = true
      · have marked : (closedClient client).bufferResources slot =
            { client.bufferResources slot with closing := true } := if_pos held
        apply gives_buffer (BufferSlot.isFree_of_registered held)
        · rw [marked]
          exact BufferSlot.isFree_of_registered held
        · rw [marked]
      · exact gives_buffer_same (if_neg held)

/-- Slots that stay have given nothing up. -/
theorem SlotsStay.shrinks (stay : SlotsStay client next) : Shrinks client next := by
  cases stay with
  | same slots => exact slots.shrinks
  | closed base slots entry =>
      subst entry
      exact slots.shrinks.trans ⟨rfl, rfl, closedClient_gives base⟩

/-- Clearing a file slot gives it up. -/
theorem shrinks_clearFile (client : Client) (slot : Nat) :
    Shrinks client (client.setFileSlot slot .cleared) := by
  refine ⟨rfl, rfl, ?_⟩
  rintro (other | other)
  · by_cases same : other = slot
    · subst same
      exact Or.inl (Function.update_self ..)
    · exact gives_file_same (Function.update_of_ne same ..)
  · exact gives_buffer_same rfl

/-- Clearing a buffer slot gives it up. -/
theorem shrinks_clearBuffer (client : Client) (slot : Nat) :
    Shrinks client (client.setBufferSlot slot .cleared) := by
  refine ⟨rfl, rfl, ?_⟩
  rintro (other | other)
  · exact gives_file_same rfl
  · by_cases same : other = slot
    · subst same
      exact Or.inl (Function.update_self ..)
    · exact gives_buffer_same (Function.update_of_ne same ..)

end Slots

section Dispatches

variable {rt middle next : Runtime} {index : Nat} {env : DispatchEnv}

/-- Queueing an answer leaves the slots alone. -/
theorem Answered.slots {bytes : List UInt8} (answered : Answered rt index bytes next) :
    SameSlots (rt.clients index) (next.clients index) := by
  rw [answered]
  simp only [Function.update_self]
  exact ⟨rfl, rfl, rfl, rfl⟩

/-- A rolled back attempt leaves the ids in use alone. -/
theorem RolledBack.shrinks (rolledBack : RolledBack rt index env middle) :
    Shrinks (rt.clients index) (middle.clients index) := by
  have own : middle.clients index = { rt.clients index with
      nextResourceId := (middle.clients index).nextResourceId
      fileResources := (middle.clients index).fileResources } := by
    conv_lhs => rw [rolledBack.frame]
    exact Function.update_self _ _ _
  refine ⟨by rw [own], by rw [own], ?_⟩
  rintro (slot | slot)
  · rcases rolledBack.files slot with same | ⟨-, cleared⟩
    · exact gives_file_same same
    · exact Or.inl cleared
  · exact gives_buffer_same (by rw [own])

/-- The slots a task works on keep their ids. -/
theorem Acquires.gives_file {client taken : Client} {task : TaskSlot}
    (acquires : Acquires client taken task) {slot : Nat}
    (other : task.resultFileSlotIndex ≠ some slot) : client.gives taken (.inl slot) := by
  by_cases named : task.fileSlotIndex = some slot
  · obtain ⟨-, held, -, -⟩ := acquires.file_found slot named
    apply Iouringd.gives_file (FileSlot.isFree_of_registered held)
    · by_cases kind : task.taskKind = .close
      · rw [(acquires.file_close slot named kind).2.2.2]
        rfl
      · rw [acquires.file slot named kind]
        exact FileSlot.isFree_of_registered held
    · by_cases kind : task.taskKind = .close
      · rw [(acquires.file_close slot named kind).2.2.2]
      · rw [acquires.file slot named kind]
  · exact gives_file_same (acquires.file_other slot named other)

/-- Taking slots for a task gives no buffer an id. -/
theorem Acquires.gives_buffer {client taken : Client} {task : TaskSlot}
    (acquires : Acquires client taken task) (slot : Nat) : client.gives taken (.inr slot) := by
  by_cases named : task.bufferSlotIndex = some slot
  · obtain ⟨-, held, -, -, same⟩ := acquires.buffer slot named
    apply Iouringd.gives_buffer (BufferSlot.isFree_of_registered held)
    · rw [same]
      exact BufferSlot.isFree_of_registered held
    · rw [same]
  · exact gives_buffer_same (acquires.buffer_other slot named)

/-- A task that is started reserves at most one slot, under an id that was not in use. -/
theorem Started.relabelled {taskIndex : Nat} {started : Runtime}
    (start : Started rt index taskIndex env started) :
    Relabelled (rt.clients index) (started.clients index) := by
  have acquires := start.acquires
  have own : started.clients index = { rt.clients index with
      nextResourceId := (started.clients index).nextResourceId
      fileResources := (started.clients index).fileResources
      bufferResources := (started.clients index).bufferResources } := by
    conv_lhs => rw [start.frame]
    exact Function.update_self _ _ _
  cases named : (started.tasks taskIndex).resultFileSlotIndex with
  | none =>
      have counter : CounterAfter (rt.clients index) (started.clients index).nextResourceId := by
        rcases start.numbered with ⟨-, same⟩ | ⟨-, same⟩
        · exact .kept same
        · exact .moved same
      refine .shrunk ⟨by rw [own], by rw [own], ?_⟩ counter
      rintro (slot | slot)
      · apply acquires.gives_file
        rw [named]
        exact nofun
      · exact acquires.gives_buffer slot
  | some slot =>
      obtain ⟨below, -, valid, -, reserved⟩ := acquires.result slot named
      obtain ⟨none, -⟩ | ⟨drawn, counter⟩ := start.numbered
      · rw [named] at none
        cases none
      · rw [drawn] at valid reserved
        refine .drawn (.inl slot) ⟨by rw [own], by rw [own], below, valid, ?_, ?_⟩ counter
        · change ((started.clients index).fileResources slot).label = _
          rw [reserved]
          rfl
        · rintro (other | other) apart
          · apply acquires.gives_file
            rw [named]
            intro same
            exact apart (by rw [Option.some.inj same])
          · exact acquires.gives_buffer other

/-- What a request does to the ids of its client. -/
theorem Dispatched.relabelled {bytes : List UInt8}
    (dispatched : Dispatched rt index env middle bytes) :
    Relabelled (rt.clients index) (middle.clients index) := by
  cases dispatched with
  | resourceRefused nextId result type unheld refuses counter =>
      rw [Runtime.clients_setClient]
      exact .shrunk ⟨rfl, rfl, SameSlots.gives ⟨rfl, rfl, rfl, rfl⟩⟩ counter
  | descriptorDropped nextId result operation held refuses counter =>
      unfold dropReceivedFd
      simp only [Runtime.setClient, Runtime.close, Function.update_self]
      exact .shrunk ⟨rfl, rfl, SameSlots.gives ⟨rfl, rfl, rfl, rfl⟩⟩ counter
  | fileRegistered slot resourceId nextId ring result operation held found allocated valid
      updated =>
      obtain ⟨below, -⟩ := findFreeFileSlot_found found
      rw [Runtime.clients_setClient]
      refine .drawn (.inl slot) ⟨rfl, rfl, below, ?_, ?_, ?_⟩ (by rw [allocated])
      · rw [allocated]
        exact valid
      · change (Function.update (rt.clients index).fileResources slot _ slot).label = _
        rw [Function.update_self, allocated]
        rfl
      · rintro (other | other) apart
        · exact gives_file_same (Function.update_of_ne (fun same => apart (by rw [same])) ..)
        · exact gives_buffer_same rfl
  | bufferRegistered slot resourceId nextId result operation found allocated valid =>
      obtain ⟨below, -⟩ := firstBelow_some found
      rw [Runtime.clients_setClient]
      refine .drawn (.inr slot) ⟨rfl, rfl, below, ?_, ?_, ?_⟩ (by rw [allocated])
      · rw [allocated]
        exact valid
      · change (Function.update (rt.clients index).bufferResources slot _ slot).label = _
        rw [Function.update_self, allocated]
        rfl
      · rintro (other | other) apart
        · exact gives_file_same rfl
        · exact gives_buffer_same (Function.update_of_ne (fun same => apart (by rw [same])) ..)
  | fileReleased slot ring result operation found idle updated =>
      rw [clearFileSlot_client]
      exact .shrunk (shrinks_clearFile _ slot) (.kept rfl)
  | bufferReleased slot result operation found idle =>
      unfold clearBufferSlot
      rw [Runtime.clients_setClient]
      exact .shrunk (shrinks_clearBuffer _ slot) (.kept rfl)
  | stats operation => exact .shrunk (.refl _) (.kept rfl)
  | trace result events operation counted => exact .shrunk (.refl _) (.kept rfl)
  | refused middle errno credits type rolledBack =>
      exact .shrunk rolledBack.shrinks rolledBack.counter
  | accepted taskIndex started credits type admitted start =>
      have entry : (started.countAccepted index (rt.clients index).usesCredit).clients index =
          { started.clients index with
            outstandingTasks := (started.clients index).outstandingTasks + 1
            outstandingCreditTasks := (started.clients index).outstandingCreditTasks +
              (if (rt.clients index).usesCredit then 1 else 0) } :=
        Function.update_self ..
      rw [entry]
      exact start.relabelled.after ⟨rfl, rfl, rfl, rfl⟩ rfl rfl

end Dispatches

section Steps

variable {config : Config} {rt next : Runtime} {action : Action}

/-- A completion frees slots of its client or registers the one reserved for its result,
which keeps its id. -/
theorem Invariant.completed_shrinks {taskIndex : Nat} {res : Int32} {env : CompleteEnv}
    {ring : Ring}
    (invariant : Invariant config rt) (occupied : rt.occupied taskIndex = true)
    (completed : Completed { rt with ring } taskIndex res env next) :
    Shrinks (rt.clients (rt.tasks taskIndex).clientIndex)
      (next.clients (rt.tasks taskIndex).clientIndex) := by
  have tied := invariant.holds.tied taskIndex occupied
  have releases := completed.releases
  have fileUsed : ∀ {slot}, (rt.tasks taskIndex).fileSlotIndex = some slot ∨
      (rt.tasks taskIndex).resultFileSlotIndex = some slot →
      ((rt.clients (rt.tasks taskIndex).clientIndex).fileResources slot).isFree = false := by
    intro slot names
    have held := invariant.holds.file_held occupied names
    simp only [FileSlot.isFree, Bool.and_eq_false_iff, beq_eq_false_iff_ne]
    exact Or.inr held
  have frame := completed.frame
  dsimp only at frame
  have files : (next.clients (rt.tasks taskIndex).clientIndex).fileSlotLimit =
      (rt.clients (rt.tasks taskIndex).clientIndex).fileSlotLimit := by
    rw [frame]
    simp only [Function.update_self]
  have buffers : (next.clients (rt.tasks taskIndex).clientIndex).bufferSlotLimit =
      (rt.clients (rt.tasks taskIndex).clientIndex).bufferSlotLimit := by
    rw [frame]
    simp only [Function.update_self]
  refine ⟨files, buffers, ?_⟩
  rintro (slot | slot)
  · by_cases result : (rt.tasks taskIndex).resultFileSlotIndex = some slot
    · obtain ⟨id, unregistered, -, single⟩ := tied.result slot result
      rcases releases.result slot result with same | ⟨-, same⟩
      · refine Or.inl (same.trans ?_)
        dsimp only [FileSlot.released, FileSlot.unused]
        rw [unregistered, single]
        rfl
      · refine gives_file (fileUsed (Or.inr result)) ?_ ?_
        · rw [same]
          rfl
        · rw [same]
          exact id.symm
    · by_cases named : (rt.tasks taskIndex).fileSlotIndex = some slot
      · have same := releases.file slot named
        by_cases close : (rt.tasks taskIndex).taskKind = .close
        · obtain ⟨-, closing, single⟩ := tied.closing slot named close
          refine Or.inl (same.trans ?_)
          dsimp only [FileSlot.released]
          rw [closing, single]
          rfl
        · have registered := tied.source slot named close
          unfold FileSlot.released at same
          dsimp only at same
          split at same
          · exact Or.inl same
          · refine gives_file (fileUsed (Or.inl named)) ?_ ?_
            · rw [same]
              exact FileSlot.isFree_of_registered registered
            · rw [same]
      · exact gives_file_same (releases.file_other slot named result)
  · by_cases named : (rt.tasks taskIndex).bufferSlotIndex = some slot
    · obtain ⟨length, same⟩ := releases.buffer slot named
      have registered := (tied.buffer slot named).2
      unfold BufferSlot.released at same
      dsimp only at same
      split at same
      · exact Or.inl same
      · apply gives_buffer (BufferSlot.isFree_of_registered registered)
        · rw [same]
          exact BufferSlot.isFree_of_registered registered
        · rw [same]
    · exact gives_buffer_same (releases.buffer_other slot named)

/-- A release of a slot gives its id up or keeps it, and leaves the counter alone. -/
theorem sweepClosingResources_shrinks {updates : Nat → Nat → UpdateOutcome}
    {result : Runtime × Bool} (swept : sweepClosingResources rt updates = .ok result)
    (index : Nat) : Shrinks (rt.clients index) (result.1.clients index) ∧
      (result.1.clients index).nextResourceId = (rt.clients index).nextResourceId := by
  have files : ∀ (rt : Runtime) client slot update next,
      tryReleaseFileSlot rt client slot update = .ok next →
      Shrinks (rt.clients index) (next.clients index) ∧
        (next.clients index).nextResourceId = (rt.clients index).nextResourceId := by
    intro rt client slot update next released
    obtain ⟨touches, entry⟩ := tryReleaseFileSlot_ok released
    by_cases same : index = client
    · subst same
      rw [entry]
      split
      · exact ⟨shrinks_clearFile _ _, rfl⟩
      · exact ⟨.refl _, rfl⟩
    · rw [touches.frame]
      simp only [Function.update_of_ne same]
      exact ⟨.refl _, trivial⟩
  have buffers : ∀ (rt : Runtime) client slot next,
      tryReleaseBufferSlot rt client slot = .ok next →
      Shrinks (rt.clients index) (next.clients index) ∧
        (next.clients index).nextResourceId = (rt.clients index).nextResourceId := by
    intro rt client slot next released
    obtain ⟨touches, entry⟩ := tryReleaseBufferSlot_ok released
    by_cases same : index = client
    · subst same
      rw [entry]
      split
      · exact ⟨shrinks_clearBuffer _ _, rfl⟩
      · exact ⟨.refl _, rfl⟩
    · rw [touches.frame]
      simp only [Function.update_of_ne same]
      exact ⟨.refl _, trivial⟩
  exact @sweepClosingResources_related _
    (fun rt next => Shrinks (rt.clients index) (next.clients index) ∧
      (next.clients index).nextResourceId = (rt.clients index).nextResourceId) _ _
    (fun _ => ⟨.refl _, rfl⟩)
    (fun _ _ _ first second => ⟨first.1.trans second.1, second.2.trans first.2⟩)
    (fun rt client place update next _ => files rt client place update next)
    (fun rt client place next _ => buffers rt client place next) swept

/-- Reading an entry leaves the id counter alone. -/
theorem Served.nextResourceId {client after : Client} (served : Served client after) :
    after.nextResourceId = client.nextResourceId := by
  cases served with
  | reading _ same busy ready => exact (congrArg Client.nextResourceId same : _)
  | greeted result _ phase ready answer =>
      rcases answer with ⟨-, same⟩ | ⟨-, same⟩
      · exact (congrArg Client.nextResourceId same : _)
      · exact (congrArg Client.nextResourceId same : _)
  | closed last same => exact (congrArg Client.nextResourceId same : _)

/-- So does writing to it. -/
theorem flushOrClose_nextResourceId (rt : Runtime) (index : Nat) (writes : List WriteOutcome) :
    ((flushOrClose rt index writes).1.clients index).nextResourceId =
      (rt.clients index).nextResourceId := by
  obtain ⟨output, sent, flushed⟩ := flushClientOutput_client (rt.clients index) writes
  unfold flushOrClose
  dsimp only
  split
  · rw [closeClient_client, Runtime.clients_setClient, flushed]
    rfl
  · rw [Runtime.clients_setClient, flushed]

/-- What every step does to the ids in use of every client. -/
theorem Invariant.step_relabelled (invariant : Invariant config rt)
    (taken : step rt action = .ok next) (other : Nat) :
    Relabelled (rt.clients other) (next.clients other) := by
  have same : Relabelled (rt.clients other) (rt.clients other) :=
    .shrunk (.refl _) (.kept rfl)
  have elsewhere : ∀ {index : Nat} {client : Client}, other ≠ index →
      next.clients = Function.update rt.clients index client →
      Relabelled (rt.clients other) (next.clients other) := by
    intro index client apart clients
    rw [clients, Function.update_of_ne apart]
    exact same
  have effect := step_effect invariant.grounded taken
  cases effect with
  | idle action unread => exact same
  | turnedAway fd env => exact same
  | opened index fd env valid found =>
      by_cases here : other = index
      · subst here
        rw [Runtime.clients_setClient]
        have vacant := (firstBelow_some found).2
        simp only [Bool.and_eq_true, Bool.not_eq_true'] at vacant
        refine .emptied (fun place => ?_) rfl ⟨vacant.1.1, decide_eq_true valid⟩
        cases place with
        | inl slot => rfl
        | inr slot => rfl
      · exact elsewhere here rfl
  | served index incoming next connected only served =>
      by_cases here : other = index
      · subst here
        exact .shrunk served.slots.shrinks (.kept served.nextResourceId)
      · exact elsewhere here (by rw [only.frame])
  | dispatched index env middle bytes next connected ready change answered =>
      by_cases here : other = index
      · subst here
        apply change.relabelled.after answered.slots
        · rw [answered]
          simp only [Function.update_self]
          rfl
        · rw [answered]
          simp only [Function.update_self]
          rfl
      · rw [answered.client_other here, change.client_other here]
        exact same
  | completed action taskIndex res ring next occupied source completed =>
      by_cases here : other = (rt.tasks taskIndex).clientIndex
      · subst here
        refine .shrunk (invariant.completed_shrinks occupied completed) (.kept ?_)
        rw [completed.frame]
        simp only [Function.update_self]
      · exact elsewhere here (by rw [completed.frame])
  | swept updates next swept slots =>
      obtain ⟨result, released, done⟩ := bind_ok taken
      cases done
      obtain ⟨shrinks, counter⟩ := sweepClosingResources_shrinks released other
      exact .shrunk shrinks (.kept counter)
  | flushed index writes next connected only flushed =>
      by_cases here : other = index
      · subst here
        simp only [step, connected, ↓reduceIte] at taken
        cases taken
        exact .shrunk (flushOrClose_slots rt other writes).shrinks
          (.kept (flushOrClose_nextResourceId rt other writes))
      · exact elsewhere here (by rw [only.frame])
  | disconnected index connected =>
      by_cases here : other = index
      · subst here
        rw [closeClient_client]
        exact .shrunk (SlotsStay.closed _ ⟨rfl, rfl, rfl, rfl⟩ rfl).shrinks (.kept rfl)
      · have only : OnlyClient rt index (closeClient rt index) := .closeClient
        exact elsewhere here (by rw [only.frame])
  | cursorMoved cursor => exact same
  | posted position res => exact same
  | stored store =>
      cases store with
      | ioBuffer taskIndex bytes => exact same
      | sockaddrLength taskIndex length => exact same
      | storage offset bytes => exact same

/-- In every reachable state the ids in use of a client are distinct. -/
theorem Reachable.labelled (reachable : Reachable config rt) (index : Nat) :
    Labelled (rt.clients index) := by
  have both : Invariant config rt ∧ ∀ index, Labelled (rt.clients index) := by
    refine @Reachable.induct _ _
      (fun rt => Invariant config rt ∧ ∀ index, Labelled (rt.clients index)) reachable ?_ ?_
    · refine ⟨.initial config, fun index => labelled_of_clear ?_⟩
      rintro (slot | slot)
      · rfl
      · rfl
    · intro rt action next ⟨invariant, labelled⟩ taken
      exact ⟨invariant.stepped taken, fun index =>
        (labelled index).relabelled (invariant.step_relabelled taken index)⟩
  exact both.2 index

end Steps

end Iouringd
