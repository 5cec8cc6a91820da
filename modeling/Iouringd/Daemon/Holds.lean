import Iouringd.Daemon.Ledger

/-! # What tasks hold

A task in flight names up to two file slots and a buffer slot of its client. `Holds`
says that the `in_flight` of every slot is the number of tasks that name it and that a
named slot is still the resource the task was started on, so that neither a release nor
a registration nor a disconnect can take it away.
-/

namespace Iouringd

open Foundation

/-- Tasks of a client that work on a file slot. -/
def usesFile (index slot : Nat) (task : TaskSlot) : Bool :=
  task.clientIndex == index && task.fileSlotIndex == some slot

/-- Tasks of a client that have reserved a file slot for their result. -/
def reservesFile (index slot : Nat) (task : TaskSlot) : Bool :=
  task.clientIndex == index && task.resultFileSlotIndex == some slot

/-- Tasks of a client that work on a buffer slot. -/
def usesBuffer (index slot : Nat) (task : TaskSlot) : Bool :=
  task.clientIndex == index && task.bufferSlotIndex == some slot

/-- The slots a task names are what it was started on. -/
structure Tied (client : Client) (task : TaskSlot) : Prop where
  file : ∀ slot, task.fileSlotIndex = some slot →
    (client.fileResources slot).resourceId = task.resourceId
  source : ∀ slot, task.fileSlotIndex = some slot → task.taskKind ≠ .close →
    (client.fileResources slot).registered = true
  closing : ∀ slot, task.fileSlotIndex = some slot → task.taskKind = .close →
    (client.fileResources slot).registered = false ∧
      (client.fileResources slot).closing = true ∧ (client.fileResources slot).inFlight = 1
  result : ∀ slot, task.resultFileSlotIndex = some slot →
    (client.fileResources slot).resourceId = task.resultResourceId ∧
      (client.fileResources slot).registered = false ∧
      (client.fileResources slot).closing = false ∧ (client.fileResources slot).inFlight = 1
  buffer : ∀ slot, task.bufferSlotIndex = some slot →
    (client.bufferResources slot).resourceId = task.bufferResourceId ∧
      (client.bufferResources slot).registered = true

/-- Every slot in flight is accounted for by the tasks that name it. -/
structure Holds (rt : Runtime) : Prop where
  files : ∀ index slot, ((rt.clients index).fileResources slot).inFlight =
    rt.countTasks (usesFile index slot) + rt.countTasks (reservesFile index slot)
  buffers : ∀ index slot, ((rt.clients index).bufferResources slot).inFlight =
    rt.countTasks (usesBuffer index slot)
  placed : ∀ taskIndex, rt.occupied taskIndex = true → Placed rt (rt.tasks taskIndex)
  tied : ∀ taskIndex, rt.occupied taskIndex = true →
    Tied (rt.clients (rt.tasks taskIndex).clientIndex) (rt.tasks taskIndex)

/-- Quiet changes leave the tasks of a file slot. -/
theorem QuietFile.inFlight {file next : FileSlot} (quiet : QuietFile file next) :
    next.inFlight = file.inFlight := by
  by_cases idle : file.inFlight = 0
  · rw [quiet.idle idle, idle]
  · rcases quiet.held idle with same | ⟨-, same⟩ <;> rw [same]

/-- Quiet changes leave the tasks of a buffer slot. -/
theorem QuietBuffer.inFlight {buffer next : BufferSlot} (quiet : QuietBuffer buffer next) :
    next.inFlight = buffer.inFlight := by
  by_cases idle : buffer.inFlight = 0
  · rw [quiet.idle idle, idle]
  · rcases quiet.held idle with same | ⟨-, same⟩ <;> rw [same]

/-- A file slot that is given back has one task less. -/
theorem FileSlot.released_inFlight (file : FileSlot) (frees : FileSlot → Bool) :
    (file.released frees).inFlight = file.inFlight - 1 := by
  unfold FileSlot.released
  dsimp only
  split
  · rename_i due
    exact due.2.symm
  · rfl

/-- Letting go of a slot that others hold only moves the count. -/
theorem FileSlot.released_of_held {file : FileSlot} {frees : FileSlot → Bool}
    (held : file.inFlight - 1 ≠ 0) :
    file.released frees = { file with inFlight := file.inFlight - 1 } := by
  unfold FileSlot.released
  dsimp only
  rw [if_neg fun due => held due.2]

/-- A buffer slot that is given back has one task less. -/
theorem BufferSlot.released_inFlight (buffer : BufferSlot) :
    buffer.released.inFlight = buffer.inFlight - 1 := by
  unfold BufferSlot.released
  dsimp only
  split
  · rename_i due
    exact due.2.symm
  · rfl

/-- A buffer slot that other tasks hold only loses the one. -/
theorem BufferSlot.released_of_held {buffer : BufferSlot} (held : buffer.inFlight - 1 ≠ 0) :
    buffer.released = { buffer with inFlight := buffer.inFlight - 1 } := by
  unfold BufferSlot.released
  dsimp only
  rw [if_neg fun due => held due.2]

/-- Ties only look at the slots. -/
theorem Tied.congr {client after : Client} {task : TaskSlot} (tied : Tied client task)
    (files : after.fileResources = client.fileResources)
    (buffers : after.bufferResources = client.bufferResources) : Tied after task := by
  refine ⟨?_, ?_, ?_, ?_, ?_⟩
  · rw [files]
    exact tied.file
  · rw [files]
    exact tied.source
  · rw [files]
    exact tied.closing
  · rw [files]
    exact tied.result
  · rw [buffers]
    exact tied.buffer

/-- A placement, with the client of the task written out. -/
theorem Placed.iff_of_client {rt : Runtime} {task : TaskSlot} {index : Nat}
    (own : task.clientIndex = index) :
    Placed rt task ↔ index < rt.limits.maxClients ∧
      (∀ slot, task.fileSlotIndex = some slot → slot < (rt.clients index).fileSlotLimit) ∧
      (∀ slot, task.resultFileSlotIndex = some slot →
        slot < (rt.clients index).fileSlotLimit ∧ task.fileSlotIndex ≠ some slot) ∧
      (∀ slot, task.bufferSlotIndex = some slot → slot < (rt.clients index).bufferSlotLimit) ∧
      (task.taskKind = .sockReadFixed → task.bufferSlotIndex ≠ none) := by
  subst own
  exact ⟨fun placed => ⟨placed.client, placed.file, placed.result, placed.buffer, placed.fixed⟩,
    fun ⟨client, file, result, buffer, fixed⟩ => ⟨client, file, result, buffer, fixed⟩⟩

namespace Holds

section Named

variable {rt : Runtime} {taskIndex slot : Nat}

/-- A file slot that an active task names is in flight. -/
theorem file_counted (files : ∀ index slot, ((rt.clients index).fileResources slot).inFlight =
      rt.countTasks (usesFile index slot) + rt.countTasks (reservesFile index slot))
    (occupied : rt.occupied taskIndex = true)
    (names : (rt.tasks taskIndex).fileSlotIndex = some slot ∨
      (rt.tasks taskIndex).resultFileSlotIndex = some slot) :
    ((rt.clients (rt.tasks taskIndex).clientIndex).fileResources slot).inFlight ≠ 0 := by
  rw [files]
  rcases names with named | named
  · have counted : 0 < rt.countTasks (usesFile (rt.tasks taskIndex).clientIndex slot) :=
      countTasks_pos occupied (by simp only [usesFile, named, beq_self_eq_true, Bool.and_self])
    omega
  · have counted : 0 < rt.countTasks (reservesFile (rt.tasks taskIndex).clientIndex slot) :=
      countTasks_pos occupied
        (by simp only [reservesFile, named, beq_self_eq_true, Bool.and_self])
    omega

/-- So is a buffer slot. -/
theorem buffer_counted (buffers : ∀ index slot,
      ((rt.clients index).bufferResources slot).inFlight = rt.countTasks (usesBuffer index slot))
    (occupied : rt.occupied taskIndex = true)
    (named : (rt.tasks taskIndex).bufferSlotIndex = some slot) :
    ((rt.clients (rt.tasks taskIndex).clientIndex).bufferResources slot).inFlight ≠ 0 := by
  rw [buffers]
  exact Nat.ne_of_gt (countTasks_pos occupied
    (by simp only [usesBuffer, named, beq_self_eq_true, Bool.and_self]))

/-- A file slot that a task names is held. -/
theorem file_held (holds : Holds rt) (occupied : rt.occupied taskIndex = true)
    (names : (rt.tasks taskIndex).fileSlotIndex = some slot ∨
      (rt.tasks taskIndex).resultFileSlotIndex = some slot) :
    ((rt.clients (rt.tasks taskIndex).clientIndex).fileResources slot).inFlight ≠ 0 :=
  file_counted holds.files occupied names

/-- A buffer slot that a task names is held. -/
theorem buffer_held (holds : Holds rt) (occupied : rt.occupied taskIndex = true)
    (named : (rt.tasks taskIndex).bufferSlotIndex = some slot) :
    ((rt.clients (rt.tasks taskIndex).clientIndex).bufferResources slot).inFlight ≠ 0 :=
  buffer_counted holds.buffers occupied named

/-- A client without tasks has nothing in flight. -/
theorem idle (holds : Holds rt) (ledger : Ledger rt) (index : Nat)
    (drained : (rt.clients index).outstandingTasks = 0) (slot : Nat) :
    ((rt.clients index).fileResources slot).inFlight = 0 ∧
      ((rt.clients index).bufferResources slot).inFlight = 0 := by
  rw [ledger.clientTasks] at drained
  have none : ∀ test : TaskSlot → Bool, (∀ task, test task = true → ofClient index task = true) →
      rt.countTasks test = 0 := by
    intro test implied
    have fewer : rt.countTasks test ≤ rt.countTasks (ofClient index) :=
      countTasks_le_of_imp implied
    omega
  have own : ∀ (task : TaskSlot) (names : Bool),
      (task.clientIndex == index && names) = true → ofClient index task = true := by
    intro task names both
    exact (Bool.and_eq_true_iff.mp both).1
  rw [holds.files, holds.buffers, none (usesFile index slot) fun task => own task _,
    none (reservesFile index slot) fun task => own task _,
    none (usesBuffer index slot) fun task => own task _]
  exact ⟨rfl, rfl⟩

end Named

/-! ## The three shapes -/

section Shapes

variable {rt started next : Runtime} {index taskIndex : Nat} {env : DispatchEnv}

/-- A tie survives when the named slots change at most their closing mark, and that only
when they are registered. -/
theorem tied_of_quiet {client after : Client} {task : TaskSlot} {buffer : Memory}
    {length : UInt32} (tied : Tied client task)
    (file : ∀ slot, task.fileSlotIndex = some slot ∨ task.resultFileSlotIndex = some slot →
      after.fileResources slot = client.fileResources slot ∨
        ((client.fileResources slot).registered = true ∧
          after.fileResources slot = { client.fileResources slot with closing := true }))
    (bufferSlot : ∀ slot, task.bufferSlotIndex = some slot →
      after.bufferResources slot = client.bufferResources slot ∨
        ((client.bufferResources slot).registered = true ∧
          after.bufferResources slot = { client.bufferResources slot with closing := true })) :
    Tied after { task with ioBuffer := buffer, sockaddrLength := length } where
  file := by
    intro slot named
    rcases file slot (Or.inl named) with same | ⟨-, same⟩ <;> rw [same] <;>
      exact tied.file slot named
  source := by
    intro slot named kind
    rcases file slot (Or.inl named) with same | ⟨-, same⟩ <;> rw [same] <;>
      exact tied.source slot named kind
  closing := by
    intro slot named kind
    have closed := tied.closing slot named kind
    rcases file slot (Or.inl named) with same | ⟨registered, -⟩
    · rw [same]
      exact closed
    · rw [closed.1] at registered
      cases registered
  result := by
    intro slot named
    have reserved := tied.result slot named
    rcases file slot (Or.inr named) with same | ⟨registered, -⟩
    · rw [same]
      exact reserved
    · rw [reserved.2.1] at registered
      cases registered
  buffer := by
    intro slot named
    rcases bufferSlot slot named with same | ⟨-, same⟩ <;> rw [same] <;>
      exact tied.buffer slot named

/-- Quiet steps change no hold. -/
theorem quiet (holds : Holds rt) (ledger : Ledger rt) (quiet : Quiet rt next) : Holds next where
  files := by
    intro index slot
    rw [((quiet.client index).file slot).inFlight, holds.files,
      quiet.countTasks_eq fun _ _ _ => rfl, quiet.countTasks_eq fun _ _ _ => rfl]
  buffers := by
    intro index slot
    rw [((quiet.client index).buffer slot).inFlight, holds.buffers,
      quiet.countTasks_eq fun _ _ _ => rfl]
  placed := by
    intro taskIndex occupied
    rw [quiet.occupied_eq] at occupied
    have placed := holds.placed taskIndex occupied
    have busy : (rt.clients (rt.tasks taskIndex).clientIndex).outstandingTasks ≠ 0 := by
      rw [ledger.clientTasks]
      exact Nat.ne_of_gt (countTasks_pos occupied (beq_self_eq_true _))
    obtain ⟨fileLimit, bufferLimit⟩ := (quiet.client _).limits busy
    rw [quiet.task_eq occupied]
    refine ⟨?_, ?_, ?_, ?_, placed.fixed⟩
    · rw [quiet.limits]
      exact placed.client
    · rw [fileLimit]
      exact placed.file
    · rw [fileLimit]
      exact placed.result
    · rw [bufferLimit]
      exact placed.buffer
  tied := by
    intro taskIndex occupied
    rw [quiet.occupied_eq] at occupied
    have client := quiet.client (rt.tasks taskIndex).clientIndex
    rw [quiet.task_eq occupied]
    apply tied_of_quiet (holds.tied taskIndex occupied)
    · intro slot named
      exact (client.file slot).held (holds.file_held occupied named)
    · intro slot named
      exact (client.buffer slot).held (holds.buffer_held occupied named)

/-- The file slots of the client that starts a task. -/
theorem files_of_started (start : Started rt index taskIndex env started)
    (slot : Nat) :
    ((started.clients index).fileResources slot).inFlight =
      ((rt.clients index).fileResources slot).inFlight +
        (if (started.tasks taskIndex).fileSlotIndex = some slot then 1 else 0) +
        (if (started.tasks taskIndex).resultFileSlotIndex = some slot then 1 else 0) := by
  have acquires := start.acquires
  by_cases used : (started.tasks taskIndex).fileSlotIndex = some slot
  · have notReserved : (started.tasks taskIndex).resultFileSlotIndex ≠ some slot := by
      intro reserved
      exact (acquires.result slot reserved).2.2.2.1 used
    simp only [used, notReserved, ↓reduceIte, Nat.add_zero]
    by_cases close : (started.tasks taskIndex).taskKind = .close
    · obtain ⟨idle, -, -, same⟩ := acquires.file_close slot used close
      rw [same, idle]
    · rw [acquires.file slot used close]
  · by_cases reserved : (started.tasks taskIndex).resultFileSlotIndex = some slot
    · obtain ⟨-, free, -, -, same⟩ := acquires.result slot reserved
      simp only [FileSlot.isFree, Bool.and_eq_true, beq_iff_eq] at free
      simp only [used, reserved, ↓reduceIte, Nat.add_zero]
      rw [same, free.2]
      rfl
    · simp only [used, reserved, ↓reduceIte, Nat.add_zero]
      rw [acquires.file_other slot used reserved]

/-- A task that is started holds the buffer it names. -/
theorem buffers_of_started (start : Started rt index taskIndex env started) (slot : Nat) :
    ((started.clients index).bufferResources slot).inFlight =
      ((rt.clients index).bufferResources slot).inFlight +
        (if (started.tasks taskIndex).bufferSlotIndex = some slot then 1 else 0) := by
  by_cases used : (started.tasks taskIndex).bufferSlotIndex = some slot
  · obtain ⟨-, -, -, -, same⟩ := start.acquires.buffer slot used
    simp only [used, ↓reduceIte]
    rw [same]
  · simp only [used, ↓reduceIte, Nat.add_zero]
    rw [start.acquires.buffer_other slot used]

/-- A slot that was in flight is at most held once more. -/
theorem file_kept_of_started (start : Started rt index taskIndex env started) {slot : Nat}
    (held : ((rt.clients index).fileResources slot).inFlight ≠ 0) :
    (started.clients index).fileResources slot = (rt.clients index).fileResources slot ∨
      (((rt.clients index).fileResources slot).registered = true ∧
        (started.clients index).fileResources slot = { (rt.clients index).fileResources slot with
          inFlight := ((rt.clients index).fileResources slot).inFlight + 1 }) := by
  have acquires := start.acquires
  by_cases used : (started.tasks taskIndex).fileSlotIndex = some slot
  · by_cases close : (started.tasks taskIndex).taskKind = .close
    · exact absurd (acquires.file_close slot used close).1 held
    · exact Or.inr ⟨(acquires.file_found slot used).2.1, acquires.file slot used close⟩
  · by_cases reserved : (started.tasks taskIndex).resultFileSlotIndex = some slot
    · have free := (acquires.result slot reserved).2.1
      simp only [FileSlot.isFree, Bool.and_eq_true, beq_iff_eq] at free
      exact absurd free.2 held
    · exact Or.inl (acquires.file_other slot used reserved)

/-- A task that is started changes nothing else about a buffer. -/
theorem buffer_kept_of_started (start : Started rt index taskIndex env started) (slot : Nat) :
    (started.clients index).bufferResources slot = (rt.clients index).bufferResources slot ∨
      (started.clients index).bufferResources slot = { (rt.clients index).bufferResources slot with
        inFlight := ((rt.clients index).bufferResources slot).inFlight + 1 } := by
  by_cases used : (started.tasks taskIndex).bufferSlotIndex = some slot
  · exact Or.inr (start.acquires.buffer slot used).2.2.2.2
  · exact Or.inl (start.acquires.buffer_other slot used)

/-- The ties of the tasks that were there before. -/
theorem tied_before_started (holds : Holds rt) (start : Started rt index taskIndex env started)
    {other : Nat} (occupied : rt.occupied other = true)
    (own : (rt.tasks other).clientIndex = index) :
    Tied (started.clients index) (rt.tasks other) := by
  have tied := holds.tied other occupied
  have file : ∀ slot, (rt.tasks other).fileSlotIndex = some slot ∨
      (rt.tasks other).resultFileSlotIndex = some slot →
      (started.clients index).fileResources slot = (rt.clients index).fileResources slot ∨
      (((rt.clients index).fileResources slot).registered = true ∧
        (started.clients index).fileResources slot = { (rt.clients index).fileResources slot with
          inFlight := ((rt.clients index).fileResources slot).inFlight + 1 }) := by
    intro slot named
    apply file_kept_of_started start
    rw [← own]
    exact holds.file_held occupied named
  rw [own] at tied
  refine ⟨?_, ?_, ?_, ?_, ?_⟩
  · intro slot named
    rcases file slot (Or.inl named) with same | ⟨-, same⟩ <;> rw [same] <;>
      exact tied.file slot named
  · intro slot named kind
    rcases file slot (Or.inl named) with same | ⟨-, same⟩ <;> rw [same] <;>
      exact tied.source slot named kind
  · intro slot named kind
    have closed := tied.closing slot named kind
    rcases file slot (Or.inl named) with same | ⟨registered, -⟩
    · rw [same]
      exact closed
    · rw [closed.1] at registered
      cases registered
  · intro slot named
    have reserved := tied.result slot named
    rcases file slot (Or.inr named) with same | ⟨registered, -⟩
    · rw [same]
      exact reserved
    · rw [reserved.2.1] at registered
      cases registered
  · intro slot named
    rcases buffer_kept_of_started start slot with same | same <;> rw [same] <;>
      exact tied.buffer slot named

/-- The ties of the task that is started. -/
theorem tied_started (start : Started rt index taskIndex env started) :
    Tied (started.clients index) (started.tasks taskIndex) := by
  have acquires := start.acquires
  refine ⟨?_, ?_, ?_, ?_, ?_⟩
  · intro slot named
    have found := acquires.file_found slot named
    by_cases close : (started.tasks taskIndex).taskKind = .close
    · rw [(acquires.file_close slot named close).2.2.2]
      exact found.2.2.2
    · rw [acquires.file slot named close]
      exact found.2.2.2
  · intro slot named kind
    rw [acquires.file slot named kind]
    exact (acquires.file_found slot named).2.1
  · intro slot named kind
    rw [(acquires.file_close slot named kind).2.2.2]
    exact ⟨rfl, rfl, rfl⟩
  · intro slot named
    rw [(acquires.result slot named).2.2.2.2]
    exact ⟨rfl, rfl, rfl, rfl⟩
  · intro slot named
    obtain ⟨-, registered, -, same, held⟩ := acquires.buffer slot named
    rw [held]
    exact ⟨same, registered⟩

/-- An accepted submission takes hold of exactly the slots its task names. -/
theorem accepted (holds : Holds rt) (connected : rt.connected index = true)
    (start : Started rt index taskIndex env started) (usesCredit : Bool) :
    Holds (started.countAccepted index usesCredit) := by
  have counts := start.countTasks_eq usesCredit
  have identifies := start.identifies
  have acquires := start.acquires
  have self := start.client_self usesCredit
  have limits : (started.countAccepted index usesCredit).limits = rt.limits := by
    rw [start.countAccepted_eq]
  simp only [Runtime.connected, Bool.and_eq_true, decide_eq_true_eq] at connected
  refine ⟨?_, ?_, ?_, ?_⟩
  · intro other slot
    rw [counts, counts]
    by_cases same : other = index
    · subst same
      rw [self, files_of_started start slot, holds.files]
      simp only [usesFile, reservesFile, identifies.clientIndex, beq_self_eq_true, Bool.true_and,
        beq_iff_eq]
      omega
    · simp only [start.client_other usesCredit same, usesFile, reservesFile,
        identifies.clientIndex, Bool.and_eq_true, beq_iff_eq, Ne.symm same, false_and, ↓reduceIte,
        Nat.add_zero]
      exact holds.files other slot
  · intro other slot
    rw [counts]
    by_cases same : other = index
    · subst same
      rw [self, buffers_of_started start slot, holds.buffers]
      simp only [usesBuffer, identifies.clientIndex, beq_self_eq_true, Bool.true_and, beq_iff_eq]
    · simp only [start.client_other usesCredit same, usesBuffer, identifies.clientIndex,
        Bool.and_eq_true, beq_iff_eq, Ne.symm same, false_and, ↓reduceIte, Nat.add_zero]
      exact holds.buffers other slot
  · intro other held
    by_cases new : other = taskIndex
    · subst new
      rw [countAccepted_tasks, Placed.iff_of_client identifies.clientIndex, self, limits]
      exact ⟨connected.1, fun slot named => (acquires.file_found slot named).1,
        fun slot named => ⟨(acquires.result slot named).1, (acquires.result slot named).2.2.2.1⟩,
        fun slot named => (acquires.buffer slot named).1, fun kind => acquires.fixed (Or.inl kind)⟩
    · rw [start.occupied_other usesCredit new] at held
      have placed := holds.placed other held
      rw [start.task_other usesCredit new]
      by_cases own : (rt.tasks other).clientIndex = index
      · rw [Placed.iff_of_client own, self, limits]
        exact (Placed.iff_of_client own).mp placed
      · rw [Placed.iff_of_client rfl] at placed ⊢
        rw [start.client_other usesCredit own, limits]
        exact placed
  · intro other held
    by_cases new : other = taskIndex
    · subst new
      rw [countAccepted_tasks, identifies.clientIndex, self]
      exact (tied_started start).congr rfl rfl
    · rw [start.occupied_other usesCredit new] at held
      rw [start.task_other usesCredit new]
      by_cases own : (rt.tasks other).clientIndex = index
      · rw [own, self]
        exact (tied_before_started holds start held own).congr rfl rfl
      · rw [start.client_other usesCredit own]
        exact holds.tied other held

/-- The slots of the client whose task completes. -/
theorem files_of_completed {res : Int32} {env : CompleteEnv} (holds : Holds rt)
    (occupied : rt.occupied taskIndex = true) (completed : Completed rt taskIndex res env next)
    (slot : Nat) :
    ((next.clients (rt.tasks taskIndex).clientIndex).fileResources slot).inFlight =
      ((rt.clients (rt.tasks taskIndex).clientIndex).fileResources slot).inFlight -
        (if (rt.tasks taskIndex).fileSlotIndex = some slot then 1 else 0) -
        (if (rt.tasks taskIndex).resultFileSlotIndex = some slot then 1 else 0) := by
  have releases := completed.releases
  by_cases used : (rt.tasks taskIndex).fileSlotIndex = some slot
  · have notReserved : (rt.tasks taskIndex).resultFileSlotIndex ≠ some slot := by
      intro reserved
      exact ((holds.placed taskIndex occupied).result slot reserved).2 used
    simp only [used, notReserved, ↓reduceIte, Nat.sub_zero]
    rw [releases.file slot used, FileSlot.released_inFlight]
  · by_cases reserved : (rt.tasks taskIndex).resultFileSlotIndex = some slot
    · simp only [used, reserved, ↓reduceIte, Nat.sub_zero]
      rcases releases.result slot reserved with same | ⟨-, same⟩
      · rw [same, FileSlot.released_inFlight]
      · rw [same]
    · simp only [used, reserved, ↓reduceIte, Nat.sub_zero]
      rw [releases.file_other slot used reserved]

/-- A task that is completed holds no buffer any more. -/
theorem buffers_of_completed {res : Int32} {env : CompleteEnv}
    (completed : Completed rt taskIndex res env next)
    (slot : Nat) :
    ((next.clients (rt.tasks taskIndex).clientIndex).bufferResources slot).inFlight =
      ((rt.clients (rt.tasks taskIndex).clientIndex).bufferResources slot).inFlight -
        (if (rt.tasks taskIndex).bufferSlotIndex = some slot then 1 else 0) := by
  by_cases used : (rt.tasks taskIndex).bufferSlotIndex = some slot
  · obtain ⟨length, same⟩ := completed.releases.buffer slot used
    simp only [used, ↓reduceIte]
    rw [same, BufferSlot.released_inFlight]
  · simp only [used, ↓reduceIte, Nat.sub_zero]
    rw [completed.releases.buffer_other slot used]

/-- A slot that is still in flight after a completion is the resource it was. -/
theorem file_kept_of_completed {res : Int32} {env : CompleteEnv} (holds : Holds rt)
    (occupied : rt.occupied taskIndex = true) (completed : Completed rt taskIndex res env next)
    {slot : Nat}
    (held : ((next.clients (rt.tasks taskIndex).clientIndex).fileResources slot).inFlight ≠ 0) :
    (next.clients (rt.tasks taskIndex).clientIndex).fileResources slot =
        (rt.clients (rt.tasks taskIndex).clientIndex).fileResources slot ∨
      (2 ≤ ((rt.clients (rt.tasks taskIndex).clientIndex).fileResources slot).inFlight ∧
        (next.clients (rt.tasks taskIndex).clientIndex).fileResources slot =
          { (rt.clients (rt.tasks taskIndex).clientIndex).fileResources slot with
            inFlight :=
              ((rt.clients (rt.tasks taskIndex).clientIndex).fileResources
                slot).inFlight - 1 }) := by
  have releases := completed.releases
  have moved := files_of_completed holds occupied completed slot
  rw [moved] at held
  by_cases used : (rt.tasks taskIndex).fileSlotIndex = some slot
  · simp only [used, ↓reduceIte] at held
    refine Or.inr ⟨by omega, ?_⟩
    rw [releases.file slot used, FileSlot.released_of_held (by omega)]
  · by_cases reserved : (rt.tasks taskIndex).resultFileSlotIndex = some slot
    · -- the slot a task reserves is held by no other task
      have alone := ((holds.tied taskIndex occupied).result slot reserved).2.2.2
      simp only [used, reserved, alone, ↓reduceIte] at held
      exact absurd rfl held
    · exact Or.inl (releases.file_other slot used reserved)

/-- A buffer that other tasks hold stays what it is. -/
theorem buffer_kept_of_completed {res : Int32} {env : CompleteEnv}
    (completed : Completed rt taskIndex res env next)
    {slot : Nat}
    (held : ((next.clients (rt.tasks taskIndex).clientIndex).bufferResources slot).inFlight ≠ 0) :
    ((next.clients (rt.tasks taskIndex).clientIndex).bufferResources slot).resourceId =
        ((rt.clients (rt.tasks taskIndex).clientIndex).bufferResources slot).resourceId ∧
      ((next.clients (rt.tasks taskIndex).clientIndex).bufferResources slot).registered =
        ((rt.clients (rt.tasks taskIndex).clientIndex).bufferResources slot).registered := by
  have moved := buffers_of_completed completed slot
  rw [moved] at held
  by_cases used : (rt.tasks taskIndex).bufferSlotIndex = some slot
  · simp only [used, ↓reduceIte] at held
    obtain ⟨length, same⟩ := completed.releases.buffer slot used
    rw [same, BufferSlot.released_of_held (by dsimp only; omega)]
    exact ⟨rfl, rfl⟩
  · rw [completed.releases.buffer_other slot used]
    exact ⟨rfl, rfl⟩

/-- A completion gives back exactly the slots its task names. -/
theorem completed {res : Int32} {env : CompleteEnv} (holds : Holds rt)
    (occupied : rt.occupied taskIndex = true)
    (completed : Completed rt taskIndex res env next) : Holds next := by
  have counts := completed.countTasks_eq occupied
  have others : ∀ index, index ≠ (rt.tasks taskIndex).clientIndex →
      next.clients index = rt.clients index := by
    intro index apart
    rw [completed.frame]
    exact Function.update_of_ne apart _ _
  have files : ∀ index slot, ((next.clients index).fileResources slot).inFlight =
      next.countTasks (usesFile index slot) + next.countTasks (reservesFile index slot) := by
    intro index slot
    have used := counts (usesFile index slot)
    have reserved := counts (reservesFile index slot)
    have before := holds.files index slot
    by_cases same : index = (rt.tasks taskIndex).clientIndex
    · subst same
      rw [files_of_completed holds occupied completed slot]
      simp only [usesFile, reservesFile, beq_self_eq_true, Bool.true_and, beq_iff_eq]
        at used reserved before ⊢
      omega
    · rw [others index same]
      simp only [usesFile, reservesFile, Bool.and_eq_true, beq_iff_eq, Ne.symm same, false_and,
        ↓reduceIte, Nat.add_zero] at used reserved before ⊢
      omega
  have buffers : ∀ index slot, ((next.clients index).bufferResources slot).inFlight =
      next.countTasks (usesBuffer index slot) := by
    intro index slot
    have used := counts (usesBuffer index slot)
    have before := holds.buffers index slot
    by_cases same : index = (rt.tasks taskIndex).clientIndex
    · subst same
      rw [buffers_of_completed completed slot]
      simp only [usesBuffer, beq_self_eq_true, Bool.true_and, beq_iff_eq] at used before ⊢
      omega
    · rw [others index same]
      simp only [usesBuffer, Bool.and_eq_true, beq_iff_eq, Ne.symm same, false_and,
        ↓reduceIte, Nat.add_zero] at used before ⊢
      omega
  refine ⟨files, buffers, ?_, ?_⟩
  · intro other held
    obtain ⟨-, before, same⟩ := Ledger.occupied_of_completed completed held
    have placed := holds.placed other before
    rw [same, completed.frame]
    rw [Placed.iff_of_client rfl] at placed ⊢
    by_cases own : (rt.tasks other).clientIndex = (rt.tasks taskIndex).clientIndex
    · rw [own] at placed ⊢
      dsimp only
      rw [Function.update_self]
      exact placed
    · dsimp only
      rw [Function.update_of_ne own]
      exact placed
  · intro other held
    obtain ⟨-, before, same⟩ := Ledger.occupied_of_completed completed held
    have tied := holds.tied other before
    by_cases own : (rt.tasks other).clientIndex = (rt.tasks taskIndex).clientIndex
    · have fileHeld : ∀ slot, (rt.tasks other).fileSlotIndex = some slot ∨
          (rt.tasks other).resultFileSlotIndex = some slot →
          ((next.clients (rt.tasks taskIndex).clientIndex).fileResources slot).inFlight ≠ 0 := by
        intro slot named
        have counted := file_counted files held (by rw [same]; exact named)
        rwa [same, own] at counted
      have bufferHeld : ∀ slot, (rt.tasks other).bufferSlotIndex = some slot →
          ((next.clients (rt.tasks taskIndex).clientIndex).bufferResources slot).inFlight ≠ 0 := by
        intro slot named
        have counted := buffer_counted buffers held (by rw [same]; exact named)
        rwa [same, own] at counted
      have file := fun slot named =>
        file_kept_of_completed holds occupied completed (fileHeld slot named)
      rw [own] at tied
      rw [same, own]
      refine ⟨?_, ?_, ?_, ?_, ?_⟩
      · intro slot named
        rcases file slot (Or.inl named) with kept | ⟨-, kept⟩ <;> rw [kept] <;>
          exact tied.file slot named
      · intro slot named kind
        rcases file slot (Or.inl named) with kept | ⟨-, kept⟩ <;> rw [kept] <;>
          exact tied.source slot named kind
      · intro slot named kind
        have closing := tied.closing slot named kind
        rcases file slot (Or.inl named) with kept | ⟨shared, -⟩
        · rw [kept]
          exact closing
        · omega
      · intro slot named
        have reserved := tied.result slot named
        rcases file slot (Or.inr named) with kept | ⟨shared, -⟩
        · rw [kept]
          exact reserved
        · omega
      · intro slot named
        obtain ⟨resourceId, registered⟩ :=
          buffer_kept_of_completed completed (bufferHeld slot named)
        rw [resourceId, registered]
        exact tied.buffer slot named
    · rw [same, others _ own]
      exact tied

/-- Every step keeps the holds. -/
theorem stepped (holds : Holds rt) (ledger : Ledger rt) (shape : StepShape rt next) :
    Holds next := by
  cases shape with
  | quiet quiet => exact holds.quiet ledger quiet
  | accepted index taskIndex env started connected admitted start answered =>
      exact (holds.accepted connected start _).quiet (ledger.accepted admitted start) answered
  | completed taskIndex res middle reaped occupied completed =>
      exact (holds.quiet ledger reaped).completed occupied completed

/-- Nothing is held at the start. -/
theorem initial (config : Config) : Holds (Runtime.initial config) := by
  have nothing : ∀ test, (Runtime.initial config).countTasks test = 0 := by
    intro test
    apply Nat.count_of_forall_not
    intro taskIndex _
    simp only [Runtime.initial, TaskSlot.cleared, Bool.false_and, Bool.false_eq_true,
      not_false_eq_true]
  have vacant : ∀ taskIndex, (Runtime.initial config).occupied taskIndex ≠ true := by
    intro taskIndex
    simp only [Runtime.occupied, Runtime.initial, TaskSlot.cleared, Bool.and_false, ne_eq,
      Bool.false_eq_true, not_false_eq_true]
  refine ⟨?_, ?_, fun taskIndex held => absurd held (vacant taskIndex),
    fun taskIndex held => absurd held (vacant taskIndex)⟩
  · intro index slot
    rw [nothing, nothing]
    rfl
  · intro index slot
    rw [nothing]
    rfl

end Shapes

end Holds

end Iouringd
