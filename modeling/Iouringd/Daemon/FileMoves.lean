import Mathlib.Logic.Relation
import Iouringd.Daemon.CompletionCases
import Iouringd.Daemon.Submissions

/-! # The table of registered files and the file slots

The kernel's table and the slots are written by separate calls. `FileMove` pairs them: a
slot is registered, vacated or refreshed together with its table entry, and everything else
leaves both alone. Every step is a sequence of such moves, each for one client.
-/

namespace Iouringd

open Foundation

/-- The client a step is taken for, if it is taken for one. -/
def Runtime.actor (rt : Runtime) : Action → Option Nat
  | .input index _ | .dispatch index _ | .flush index _ | .disconnect index => some index
  | .complete taskIndex _ _ => some (rt.tasks taskIndex).clientIndex
  | .reap _ =>
      (ringPeekCompletion rt.ring).2.bind fun cqe =>
        (findTaskSlot rt cqe.userData).map fun taskIndex => (rt.tasks taskIndex).clientIndex
  | .connect _ _ | .sweep _ | .moveCursor _ | .post _ _ | .store _ => none

/-- A registered slot keeps its resource, and an unregistered one gets no descriptor. -/
structure FileSlot.Keeps (file next : FileSlot) : Prop where
  registered : next.registered = file.registered
  resource : file.registered = true →
    next.daemonFd = file.daemonFd ∧ next.resourceId = file.resourceId
  vacant : file.registered = false → next.daemonFd = file.daemonFd ∨ next.daemonFd = -1

namespace FileSlot.Keeps

/-- Nothing happened to a slot. -/
theorem refl (file : FileSlot) : file.Keeps file :=
  ⟨rfl, fun _ => ⟨rfl, rfl⟩, fun _ => Or.inl rfl⟩

/-- A slot whose descriptor and id stay. -/
theorem of_fields {file next : FileSlot} (registered : next.registered = file.registered)
    (daemonFd : next.daemonFd = file.daemonFd) (resourceId : next.resourceId = file.resourceId) :
    file.Keeps next :=
  ⟨registered, fun _ => ⟨daemonFd, resourceId⟩, fun _ => Or.inl daemonFd⟩

/-- A slot that is not registered may be cleared. -/
theorem cleared {file : FileSlot} (vacant : file.registered = false) : file.Keeps .cleared := by
  refine ⟨vacant.symm, ?_, fun _ => Or.inr rfl⟩
  intro registered
  rw [vacant] at registered
  cases registered

end FileSlot.Keeps

/-- A client keeps its slots. -/
structure SameSlots (client next : Client) : Prop where
  fileSlotLimit : next.fileSlotLimit = client.fileSlotLimit
  bufferSlotLimit : next.bufferSlotLimit = client.bufferSlotLimit
  fileResources : next.fileResources = client.fileResources
  bufferResources : next.bufferResources = client.bufferResources

/-- The slot `slot` of client `index`. -/
def Runtime.file (rt : Runtime) (index slot : Nat) : FileSlot :=
  (rt.clients index).fileResources slot

/-- The table and the registrations are left alone. -/
structure SameFiles (rt next : Runtime) : Prop where
  limits : next.limits = rt.limits
  table : next.ring.kernel.registeredFiles = rt.ring.kernel.registeredFiles
  sizes : ∀ index, (next.clients index).fileSlotLimit = (rt.clients index).fileSlotLimit
  files : ∀ index slot, (rt.file index slot).Keeps (next.file index slot)

/-- One table entry is written, and only the slot it belongs to may change. -/
structure SetsFile (rt : Runtime) (index slot : Nat) (fd : Fd) (next : Runtime) : Prop where
  limits : next.limits = rt.limits
  table : next.ring.kernel.registeredFiles =
    Function.update rt.ring.kernel.registeredFiles (globalFileIndex rt index slot) fd
  sizes : ∀ client, (next.clients client).fileSlotLimit = (rt.clients client).fileSlotLimit
  others : ∀ client other, client ≠ index ∨ other ≠ slot →
    (rt.file client other).Keeps (next.file client other)

/-- The changes of the table and the slots of one client. -/
inductive FileMove (index : Nat) (rt next : Runtime) : Prop where
  | kept (same : SameFiles rt next)
  | opened (fd : Fd) (found : reusableClient rt = some index) (limits : next.limits = rt.limits)
      (table : next.ring.kernel.registeredFiles = rt.ring.kernel.registeredFiles)
      (clients : next.clients = Function.update rt.clients index (openedClient rt index fd))
  | registered (slot : Nat) (fd : Fd) (client : index < rt.limits.maxClients)
      (below : slot < rt.limits.registeredFdsPerClient)
      (vacant : (rt.file index slot).registered = false) (valid : 0 ≤ fd)
      (sets : SetsFile rt index slot fd next)
      (after : (next.file index slot).registered = true ∧ (next.file index slot).daemonFd = fd)
  | vacated (slot : Nat) (held : (rt.file index slot).registered = true)
      (sets : SetsFile rt index slot (-1) next)
      (after : (next.file index slot).registered = false ∧
        (next.file index slot).daemonFd = -1)
  | refreshed (slot : Nat) (held : (rt.file index slot).registered = true)
      (sets : SetsFile rt index slot (rt.file index slot).daemonFd next)
      (after : (rt.file index slot).Keeps (next.file index slot))

/-- A sequence of moves for some of the clients. -/
def FileMoves (who : Nat → Prop) : Runtime → Runtime → Prop :=
  Relation.ReflTransGen fun rt next => ∃ index, who index ∧ FileMove index rt next

section Moves

variable {rt next middle : Runtime} {index slot : Nat} {who : Nat → Prop}

/-- One move is a list of moves. -/
theorem FileMove.moves (move : FileMove index rt next) (one : who index) :
    FileMoves who rt next := .single ⟨index, one, move⟩

/-- Nothing happened to the files. -/
theorem SameFiles.refl (rt : Runtime) : SameFiles rt rt :=
  ⟨rfl, rfl, fun _ => rfl, fun _ _ => .refl _⟩

/-- Changes of one client that keep its file slots. -/
theorem sameFiles_of_client (index : Nat) (limits : next.limits = rt.limits)
    (table : next.ring.kernel.registeredFiles = rt.ring.kernel.registeredFiles)
    (clients : next.clients = Function.update rt.clients index (next.clients index))
    (size : (next.clients index).fileSlotLimit = (rt.clients index).fileSlotLimit)
    (files : ∀ slot, (rt.file index slot).Keeps (next.file index slot)) : SameFiles rt next := by
  have others : ∀ other, other ≠ index → next.clients other = rt.clients other := by
    intro other apart
    rw [clients, Function.update_of_ne apart]
  refine ⟨limits, table, ?_, ?_⟩
  · intro other
    by_cases same : other = index
    · subst same
      exact size
    · rw [others other same]
  · intro other slot
    by_cases same : other = index
    · subst same
      exact files slot
    · rw [Runtime.file, Runtime.file, others other same]
      exact .refl _

/-- Writing one slot of one client together with its table entry. -/
theorem setsFile_of_client {fd : Fd} (index : Nat) (limits : next.limits = rt.limits)
    (table : next.ring.kernel.registeredFiles =
      Function.update rt.ring.kernel.registeredFiles (globalFileIndex rt index slot) fd)
    (clients : next.clients = Function.update rt.clients index (next.clients index))
    (size : (next.clients index).fileSlotLimit = (rt.clients index).fileSlotLimit)
    (files : ∀ other, other ≠ slot → (rt.file index other).Keeps (next.file index other)) :
    SetsFile rt index slot fd next := by
  have others : ∀ other, other ≠ index → next.clients other = rt.clients other := by
    intro other apart
    rw [clients, Function.update_of_ne apart]
  refine ⟨limits, table, ?_, ?_⟩
  · intro other
    by_cases same : other = index
    · subst same
      exact size
    · rw [others other same]
  · intro client other apart
    by_cases same : client = index
    · subst same
      apply files other
      rcases apart with different | different
      · exact absurd rfl different
      · exact different
    · rw [Runtime.file, Runtime.file, others client same]
      exact .refl _

/-- A client whose file slots are not touched. -/
theorem sameFiles_of_same (index : Nat) (limits : next.limits = rt.limits)
    (table : next.ring.kernel.registeredFiles = rt.ring.kernel.registeredFiles)
    (clients : next.clients = Function.update rt.clients index (next.clients index))
    (size : (next.clients index).fileSlotLimit = (rt.clients index).fileSlotLimit)
    (files : (next.clients index).fileResources = (rt.clients index).fileResources) :
    SameFiles rt next := by
  refine sameFiles_of_client _ limits table clients size fun slot => ?_
  rw [Runtime.file, Runtime.file, files]
  exact .refl _

/-- Closing a client marks slots, which keeps them. -/
theorem closedClient_keeps (client : Client) (slot : Nat) :
    (client.fileResources slot).Keeps ((closedClient client).fileResources slot) := by
  change (client.fileResources slot).Keeps (if (client.fileResources slot).registered then
    { client.fileResources slot with closing := true } else client.fileResources slot)
  split
  · exact .of_fields rfl rfl rfl
  · exact .refl _

/-! ## Releases and completions -/

/-- What clearing a slot leaves. -/
theorem clearFileSlot_fields (rt : Runtime) (index slot : Nat) :
    (clearFileSlot rt index slot).limits = rt.limits ∧
      (clearFileSlot rt index slot).ring.kernel.registeredFiles =
        rt.ring.kernel.registeredFiles ∧
      (clearFileSlot rt index slot).clients =
        Function.update rt.clients index ((rt.clients index).setFileSlot slot .cleared) := by
  unfold clearFileSlot
  dsimp only
  split <;> exact ⟨rfl, rfl, rfl⟩

/-- Setting a slot leaves the others alone. -/
theorem file_setFileSlot_of_ne {client : Client} {other : Nat} {file : FileSlot}
    (apart : other ≠ slot) :
    (client.setFileSlot slot file).fileResources other = client.fileResources other :=
  Function.update_of_ne apart _ _

/-- The slot that was set. -/
theorem file_setFileSlot {client : Client} {file : FileSlot} :
    (client.setFileSlot slot file).fileResources slot = file := Function.update_self _ _ _

/-- A release of a file slot: nothing, a slot that is not registered is cleared, or a slot
is cleared together with its table entry. -/
theorem tryReleaseFileSlot_cases {update : UpdateOutcome}
    (released : tryReleaseFileSlot rt index slot update = .ok next) :
    next = rt ∨
      ((rt.file index slot).registered = false ∧ (rt.file index slot).inFlight = 0 ∧
        next = clearFileSlot rt index slot) ∨
      ((rt.file index slot).registered = true ∧ (rt.file index slot).inFlight = 0 ∧
        (rt.file index slot).closing = true ∧
        next = clearFileSlot { rt with ring := rt.ring.withFiles (Function.update
          rt.ring.kernel.registeredFiles (globalFileIndex rt index slot) (-1)) } index slot) := by
  unfold tryReleaseFileSlot at released
  dsimp only at released
  split at released
  · cases released
  · split at released
    · rename_i vacant
      rw [Bool.not_eq_true'] at vacant
      split at released
      · rename_i idle
        cases released
        exact Or.inr (Or.inl ⟨vacant, idle, rfl⟩)
      · cases released
        exact Or.inl rfl
    · rename_i held
      rw [Bool.not_eq_true', Bool.not_eq_false] at held
      split at released
      · cases released
        exact Or.inl rfl
      · rename_i due
        simp only [ne_eq, decide_not, Bool.or_eq_true, Bool.not_eq_eq_eq_not, Bool.not_true,
          decide_eq_false_iff_not, not_or, not_not, Bool.not_eq_false] at due
        obtain ⟨updated, update, done⟩ := bind_ok released
        cases done
        cases updateRegisteredFile_ok update
        exact Or.inr (Or.inr ⟨held, due.1, due.2, rfl⟩)

/-- Giving a file slot up, or keeping it, is one move. -/
theorem tryReleaseFileSlot_move {update : UpdateOutcome}
    (released : tryReleaseFileSlot rt index slot update = .ok next) : FileMove index rt next := by
  rcases tryReleaseFileSlot_cases released with same | ⟨vacant, -, same⟩ | ⟨held, -, -, same⟩
  · rw [same]
    exact .kept (.refl rt)
  · subst same
    obtain ⟨limits, table, clients⟩ := clearFileSlot_fields rt index slot
    refine .kept (sameFiles_of_client index limits table ?_ ?_ ?_)
    · rw [clients, Function.update_self]
    · rw [clients, Function.update_self]
      rfl
    · intro other
      rw [Runtime.file, Runtime.file, clients, Function.update_self]
      by_cases same : other = slot
      · subst same
        rw [file_setFileSlot]
        exact .cleared vacant
      · rw [file_setFileSlot_of_ne same]
        exact .refl _
  · subst same
    obtain ⟨limits, table, clients⟩ := clearFileSlot_fields { rt with
      ring := rt.ring.withFiles (Function.update rt.ring.kernel.registeredFiles
        (globalFileIndex rt index slot) (-1)) } index slot
    refine .vacated slot held (setsFile_of_client index limits table ?_ ?_ ?_) ?_
    · rw [clients, Function.update_self]
    · rw [clients, Function.update_self]
      rfl
    · intro other apart
      rw [Runtime.file, Runtime.file, clients, Function.update_self, file_setFileSlot_of_ne apart]
      exact .refl _
    · rw [Runtime.file, clients, Function.update_self, file_setFileSlot]
      exact ⟨rfl, rfl⟩

/-- A buffer slot is kept or cleared. -/
theorem tryReleaseBufferSlot_cases (released : tryReleaseBufferSlot rt index slot = .ok next) :
    next = rt ∨ next = clearBufferSlot rt index slot := by
  unfold tryReleaseBufferSlot at released
  dsimp only at released
  split at released
  · cases released
  · split at released
    · split at released
      · cases released
        exact Or.inr rfl
      · cases released
        exact Or.inl rfl
    · split at released
      · cases released
        exact Or.inl rfl
      · cases released
        exact Or.inr rfl

/-- Buffers are no files. -/
theorem setBufferSlot_sameFiles (buffer : BufferSlot) :
    SameFiles rt (rt.setClient index ((rt.clients index).setBufferSlot slot buffer)) := by
  refine sameFiles_of_same index rfl rfl ?_ ?_ ?_
  · rw [Runtime.clients_setClient]
    rfl
  · rw [Runtime.clients_setClient]
    rfl
  · rw [Runtime.clients_setClient]
    rfl

@[inherit_doc setBufferSlot_sameFiles]
theorem tryReleaseBufferSlot_same (released : tryReleaseBufferSlot rt index slot = .ok next) :
    SameFiles rt next := by
  rcases tryReleaseBufferSlot_cases released with same | same
  · rw [same]
    exact .refl rt
  · rw [same]
    exact setBufferSlot_sameFiles .cleared

/-- Writing a slot that keeps its resource. -/
theorem setFileSlot_sameFiles {file : FileSlot} (keeps : (rt.file index slot).Keeps file) :
    SameFiles rt (rt.setClient index ((rt.clients index).setFileSlot slot file)) := by
  refine sameFiles_of_client index rfl rfl ?_ ?_ ?_
  · rw [Runtime.clients_setClient]
    rfl
  · rw [Runtime.clients_setClient]
    rfl
  · intro other
    rw [Runtime.file, Runtime.file, Runtime.clients_setClient]
    by_cases same : other = slot
    · subst same
      rw [file_setFileSlot]
      exact keeps
    · rw [file_setFileSlot_of_ne same]
      exact .refl _

/-- A task that gives its file back makes at most one move. -/
theorem releaseTaskFile_moves {held : Option Nat} {frees : FileSlot → Bool}
    {update : UpdateOutcome} (one : who index)
    (released : releaseTaskFile rt index held frees update = .ok next) :
    FileMoves who rt next := by
  unfold releaseTaskFile at released
  cases held with
  | none =>
      cases released
      exact .refl
  | some slot =>
      dsimp only at released
      split at released
      · have first : FileMoves who rt (rt.setClient index ((rt.clients index).setFileSlot slot
            { (rt.clients index).fileResources slot with
              inFlight := ((rt.clients index).fileResources slot).inFlight - 1 })) :=
          FileMove.moves (.kept (setFileSlot_sameFiles (.of_fields rfl rfl rfl))) one
        split at released
        · exact first.tail ⟨index, one, tryReleaseFileSlot_move released⟩
        · cases released
          exact first
      · cases released
        exact .refl

/-- A task that gives its buffer back makes none. -/
theorem releaseTaskBuffer_moves {held : Option Nat} (one : who index)
    (released : releaseTaskBuffer rt index held = .ok next) : FileMoves who rt next := by
  unfold releaseTaskBuffer at released
  cases held with
  | none =>
      cases released
      exact .refl
  | some slot =>
      dsimp only at released
      split at released
      · have first : FileMoves who rt (rt.setClient index ((rt.clients index).setBufferSlot slot
            { (rt.clients index).bufferResources slot with
              inFlight := ((rt.clients index).bufferResources slot).inFlight - 1 })) :=
          FileMove.moves (.kept (setBufferSlot_sameFiles _)) one
        split at released
        · exact first.tail ⟨index, one, .kept (tryReleaseBufferSlot_same released)⟩
        · cases released
          exact first
      · cases released
        exact .refl

/-- Queueing a message touches no file. -/
theorem queue_sameFiles {bytes : List UInt8} (queued : rt.queue index bytes = .ok next) :
    SameFiles rt next := by
  rw [Runtime.queue_ok queued]
  refine sameFiles_of_same index rfl rfl ?_ ?_ ?_ <;> rw [Runtime.clients_setClient] <;> rfl

/-- Delivering a completion moves the files of its client at most. -/
theorem deliverCompletion_moves {task : TaskSlot} {prepared : Preparation}
    (one : who task.clientIndex) (delivered : deliverCompletion task prepared = .ok next) :
    FileMoves who prepared.rt next := by
  unfold deliverCompletion at delivered
  split at delivered
  · obtain ⟨queued, taken, rest⟩ := bind_ok delivered
    have first : FileMoves who prepared.rt queued :=
      FileMove.moves (.kept (queue_sameFiles taken)) one
    split at rest
    · split at rest
      · exact first.tail ⟨_, one, .kept (queue_sameFiles rest)⟩
      · cases rest
        exact first
    · cases rest
      exact first
  · cases delivered
    exact .refl

/-- A payload is copied without touching a file. -/
theorem readPayload_moves {task : TaskSlot} {res : Int32} {prepared : Preparation}
    (one : who task.clientIndex) :
    FileMoves who prepared.rt (readPayload task res prepared).rt := by
  rcases readPayload_rt task res prepared with same | ⟨slot, -, -, -, filled⟩
  · rw [same]
    exact .refl
  · rw [filled]
    exact FileMove.moves (.kept (setBufferSlot_sameFiles _)) one

/-- The end of a completion keeps the files. -/
theorem settle_sameFiles (task : TaskSlot) (taskIndex : Nat) (res : Int32) (now : UInt64) :
    SameFiles rt (settle rt task taskIndex res now) := by
  unfold settle countCompletion
  dsimp only
  split
  · refine sameFiles_of_same task.clientIndex rfl rfl ?_ ?_ ?_
    · simp only [Runtime.setTask, emitTraceEvent, Runtime.setClient, Function.update_self]
    · simp only [Runtime.setTask, emitTraceEvent, Runtime.setClient, Function.update_self]
    · simp only [Runtime.setTask, emitTraceEvent, Runtime.setClient, Function.update_self]
  · exact ⟨rfl, rfl, fun _ => rfl, fun _ _ => .refl _⟩

/-- Preparing a completion registers at most the slot reserved for its result. -/
theorem Prepared.moves {task : TaskSlot} {res : Int32} {update : UpdateOutcome}
    {prepared : Preparation} (how : Prepared rt task res update prepared)
    (client : task.clientIndex < rt.limits.maxClients)
    (below : ∀ slot, task.resultFileSlotIndex = some slot →
      slot < rt.limits.registeredFdsPerClient ∧
        (rt.file task.clientIndex slot).registered = false)
    (one : who task.clientIndex) : FileMoves who rt prepared.rt := by
  cases how with
  | plain nothing => exact .refl
  | abandoned final produces reason =>
      exact FileMove.moves (.kept ⟨rfl, rfl, fun _ => rfl, fun _ _ => .refl _⟩) one
  | registered slot length payload produces reserved connected valid updated address =>
      obtain ⟨within, vacant⟩ := below slot reserved
      have nonnegative : 0 ≤ res := by
        unfold TaskSlot.produces at produces
        simp only [Bool.and_eq_true, decide_eq_true_eq] at produces
        exact produces.2
      refine FileMove.moves (.registered slot res client within vacant nonnegative
        (setsFile_of_client _ rfl rfl ?_ ?_ ?_) ?_) one
      · rw [Runtime.clients_setClient]
        rfl
      · rw [Runtime.clients_setClient]
        rfl
      · intro other apart
        rw [Runtime.file, Runtime.file, Runtime.clients_setClient, file_setFileSlot_of_ne apart]
        exact .refl _
      · rw [Runtime.file, Runtime.clients_setClient, file_setFileSlot]
        exact ⟨rfl, rfl⟩

/-- A completion moves the files of its client only. -/
theorem completeTask_moves {taskIndex : Nat} {res : Int32} {env : CompleteEnv}
    (client : (rt.tasks taskIndex).clientIndex < rt.limits.maxClients)
    (below : ∀ slot, (rt.tasks taskIndex).resultFileSlotIndex = some slot →
      slot < rt.limits.registeredFdsPerClient ∧
        (rt.file (rt.tasks taskIndex).clientIndex slot).registered = false)
    (one : who (rt.tasks taskIndex).clientIndex)
    (completed : completeTask rt taskIndex res env = .ok next) : FileMoves who rt next := by
  obtain ⟨prepared, delivered, first, second, final, how, queued, file, result, buffer, same, -⟩ :=
    completeTask_parts client completed
  rw [same]
  have prepares : FileMoves who rt prepared.rt := how.moves client below one
  have delivers := (readPayload_moves one).trans (deliverCompletion_moves one queued)
  have releases := (releaseTaskFile_moves one file).trans
    ((releaseTaskFile_moves one result).trans (releaseTaskBuffer_moves one buffer))
  exact ((prepares.trans delivers).trans releases).tail ⟨_, one, .kept (settle_sameFiles _ _ _ _)⟩

/-- The sweep makes moves of any client. -/
theorem sweepClosingResources_moves {updates : Nat → Nat → UpdateOutcome}
    {result : Runtime × Bool} (swept : sweepClosingResources rt updates = .ok result) :
    FileMoves (fun _ => True) rt result.1 :=
  sweepClosingResources_related (fun _ => .refl) (fun _ _ _ => .trans)
    (fun _ _ _ _ _ _ released => (tryReleaseFileSlot_move released).moves trivial)
    (fun _ index _ _ _ released => @FileMove.moves _ _ index _
      (.kept (tryReleaseBufferSlot_same released)) trivial) swept

/-! ## Dispatches -/

/-- The table of files is not what a submission changes. -/
theorem RingAccepts.registeredFiles {sqe : Sqe} {enter : EnterOutcome} {ring taken : Ring}
    (accepts : RingAccepts sqe enter ring taken) :
    taken.kernel.registeredFiles = ring.kernel.registeredFiles := by
  obtain ⟨-, count, -, same⟩ := accepts
  rw [same]
  rfl

@[inherit_doc RingAccepts.registeredFiles]
theorem RingRefuses.registeredFiles {enter : EnterOutcome} {ring refused : Ring}
    (refuses : RingRefuses enter ring refused) :
    refused.kernel.registeredFiles = ring.kernel.registeredFiles := by
  rcases refuses with same | ⟨sqe, errno, -, same⟩
  · rw [same]
  · rw [same]
    rfl

/-- The free slot that is found is not registered. -/
theorem findFreeFileSlot_found {client : Client} (found : findFreeFileSlot client = some slot) :
    slot < client.fileSlotLimit ∧ (client.fileResources slot).registered = false := by
  obtain ⟨below, free⟩ := firstBelow_some found
  simp only [FileSlot.isFree, Bool.and_eq_true, Bool.not_eq_true'] at free
  exact ⟨below, free.1.1⟩

/-- The slot that is found holds the id. -/
theorem findFileSlot_found {client : Client} {resourceId : ResourceId}
    (found : findFileSlot client resourceId = some slot) :
    slot < client.fileSlotLimit ∧ (client.fileResources slot).registered = true ∧
      (client.fileResources slot).resourceId = resourceId := by
  obtain ⟨below, named⟩ := firstBelow_some found
  simp only [Bool.and_eq_true, beq_iff_eq] at named
  exact ⟨below, named⟩

/-- A rolled back attempt leaves the slots and at most writes an entry once more. -/
theorem RolledBack.move {env : DispatchEnv} (rolledBack : RolledBack rt index env middle) :
    FileMove index rt middle := by
  have limits : middle.limits = rt.limits := by rw [rolledBack.frame]
  have own : middle.clients index = { rt.clients index with
      nextResourceId := (middle.clients index).nextResourceId
      fileResources := (middle.clients index).fileResources } := by
    conv_lhs => rw [rolledBack.frame]
    exact Function.update_self _ _ _
  have clients : middle.clients = Function.update rt.clients index (middle.clients index) := by
    conv_rhs => rw [own]
    conv_lhs => rw [rolledBack.frame]
  have size : (middle.clients index).fileSlotLimit = (rt.clients index).fileSlotLimit := by
    rw [own]
  have files : ∀ slot, (rt.file index slot).Keeps (middle.file index slot) := by
    intro slot
    rcases rolledBack.files slot with same | ⟨free, cleared⟩
    · rw [Runtime.file, Runtime.file, same]
      exact .refl _
    · simp only [FileSlot.isFree, Bool.and_eq_true, Bool.not_eq_true'] at free
      rw [Runtime.file, Runtime.file, cleared]
      exact .cleared free.1.1
  obtain ⟨table, written, refuses⟩ := rolledBack.ring
  have after : middle.ring.kernel.registeredFiles = table := refuses.registeredFiles
  rcases written with same | ⟨slot, held, same⟩
  · exact .kept (sameFiles_of_client index limits (after.trans same) clients size files)
  · exact .refreshed slot held (setsFile_of_client index limits (after.trans same) clients size
      fun other _ => files other) (files slot)

/-- A task that is started takes its slots; a CLOSE vacates its own. -/
theorem Started.move {taskIndex : Nat} {env : DispatchEnv} {started : Runtime}
    (start : Started rt index taskIndex env started) (usesCredit : Bool) :
    FileMove index rt (started.countAccepted index usesCredit) := by
  have acquires := start.acquires
  have own : started.clients index = { rt.clients index with
      nextResourceId := (started.clients index).nextResourceId
      fileResources := (started.clients index).fileResources
      bufferResources := (started.clients index).bufferResources } := by
    conv_lhs => rw [start.frame]
    exact Function.update_self _ _ _
  have entry : (started.countAccepted index usesCredit).clients index =
      { started.clients index with
        outstandingTasks := (started.clients index).outstandingTasks + 1
        outstandingCreditTasks := (started.clients index).outstandingCreditTasks +
          if usesCredit then 1 else 0 } := Function.update_self _ _ _
  have limits : (started.countAccepted index usesCredit).limits = rt.limits := by
    change started.limits = rt.limits
    rw [start.frame]
  have clients : (started.countAccepted index usesCredit).clients =
      Function.update rt.clients index
        ((started.countAccepted index usesCredit).clients index) := by
    have base : started.clients = Function.update rt.clients index (started.clients index) := by
      conv_rhs => rw [own]
      conv_lhs => rw [start.frame]
    have others : ∀ client, Function.update started.clients index client =
        Function.update rt.clients index client := by
      intro client
      rw [base, Function.update_idem]
    rw [entry]
    exact others _
  have size : ((started.countAccepted index usesCredit).clients index).fileSlotLimit =
      (rt.clients index).fileSlotLimit := by
    rw [entry, own]
  have same : ∀ slot, (started.countAccepted index usesCredit).file index slot =
      (started.clients index).fileResources slot := by
    intro slot
    rw [Runtime.file, entry]
  have reserved : ∀ slot, (started.tasks taskIndex).resultFileSlotIndex = some slot →
      (rt.file index slot).Keeps ((started.clients index).fileResources slot) := by
    intro slot named
    obtain ⟨-, free, -, -, taken⟩ := acquires.result slot named
    simp only [FileSlot.isFree, Bool.and_eq_true, Bool.not_eq_true'] at free
    rw [taken]
    refine ⟨free.1.1.symm, ?_, fun _ => Or.inr rfl⟩
    intro registered
    rw [Runtime.file, free.1.1] at registered
    cases registered
  have files : ∀ slot, ((started.tasks taskIndex).fileSlotIndex = some slot →
      (started.tasks taskIndex).taskKind ≠ .close) →
      (rt.file index slot).Keeps ((started.clients index).fileResources slot) := by
    intro slot kept
    by_cases result : (started.tasks taskIndex).resultFileSlotIndex = some slot
    · exact reserved slot result
    · by_cases named : (started.tasks taskIndex).fileSlotIndex = some slot
      · rw [acquires.file slot named (kept named)]
        exact .of_fields rfl rfl rfl
      · rw [acquires.file_other slot named result]
        exact .refl _
  obtain ⟨table, written, accepts⟩ := start.submitted
  have after : (started.countAccepted index usesCredit).ring.kernel.registeredFiles = table :=
    accepts.registeredFiles
  rcases written with ⟨kind, unwritten⟩ | ⟨kind, slot, named, written⟩
  · refine .kept (sameFiles_of_client index limits (after.trans unwritten) clients size ?_)
    intro slot
    rw [same]
    exact files slot fun _ => kind
  · obtain ⟨-, -, -, closed⟩ := acquires.file_close slot named kind
    refine .vacated slot (acquires.file_found slot named).2.1
      (setsFile_of_client index limits (after.trans written) clients size ?_) ?_
    · intro other apart
      rw [same]
      refine files other fun also => ?_
      rw [named, Option.some.injEq] at also
      exact absurd also.symm apart
    · rw [same, closed]
      exact ⟨rfl, rfl⟩

/-- A client is replaced by one with the same files. -/
theorem setClient_sameFiles {client : Client}
    (size : client.fileSlotLimit = (rt.clients index).fileSlotLimit)
    (files : client.fileResources = (rt.clients index).fileResources) :
    SameFiles rt (rt.setClient index client) := by
  refine sameFiles_of_same index rfl rfl ?_ ?_ ?_
  · rw [Runtime.clients_setClient]
    rfl
  · rw [Runtime.clients_setClient]
    exact size
  · rw [Runtime.clients_setClient]
    exact files

/-- The change of a dispatch is one move of the dispatching client. -/
theorem Dispatched.move {env : DispatchEnv} {bytes : List UInt8}
    (dispatched : Dispatched rt index env middle bytes) (client : index < rt.limits.maxClients)
    (sized : (rt.clients index).fileSlotLimit = rt.limits.registeredFdsPerClient) :
    FileMove index rt middle := by
  cases dispatched with
  | resourceRefused nextId result type unheld => exact .kept (setClient_sameFiles rfl rfl)
  | descriptorDropped nextId result operation held =>
      unfold dropReceivedFd
      refine .kept (sameFiles_of_same index rfl rfl ?_ ?_ ?_)
      · simp only [Runtime.setClient, Runtime.close, Function.update_self, Function.update_idem]
      · simp only [Runtime.setClient, Runtime.close, Function.update_self]
      · simp only [Runtime.setClient, Runtime.close, Function.update_self]
  | fileRegistered slot resourceId nextId ring result operation held found allocated valid
      updated =>
      obtain ⟨below, vacant⟩ := findFreeFileSlot_found found
      rw [sized] at below
      cases ringUpdateRegisteredFile_ok updated
      refine .registered slot _ client below vacant held
        (setsFile_of_client index rfl rfl ?_ ?_ ?_) ?_
      · rw [Runtime.clients_setClient]
        rfl
      · rw [Runtime.clients_setClient]
        rfl
      · intro other apart
        rw [Runtime.file, Runtime.file, Runtime.clients_setClient]
        dsimp only
        rw [file_setFileSlot_of_ne apart]
        exact .refl _
      · rw [Runtime.file, Runtime.clients_setClient]
        dsimp only
        rw [file_setFileSlot]
        exact ⟨rfl, rfl⟩
  | bufferRegistered slot resourceId nextId result operation found allocated valid =>
      refine .kept (sameFiles_of_same index rfl rfl ?_ ?_ ?_) <;> rw [Runtime.clients_setClient] <;>
        rfl
  | fileReleased slot ring result operation found idle updated =>
      obtain ⟨-, held, -⟩ := findFileSlot_found found
      cases ringUpdateRegisteredFile_ok updated
      obtain ⟨limits, table, clients⟩ := clearFileSlot_fields { rt with
        ring := rt.ring.withFiles (Function.update rt.ring.kernel.registeredFiles
          (globalFileIndex rt index slot) (-1)) } index slot
      refine .vacated slot held (setsFile_of_client index limits table ?_ ?_ ?_) ?_
      · rw [Ring.withFiles] at clients
        rw [clients, Function.update_self]
      · rw [Ring.withFiles] at clients
        rw [clients, Function.update_self]
        rfl
      · intro other apart
        rw [Ring.withFiles] at clients
        rw [Runtime.file, Runtime.file, clients, Function.update_self,
          file_setFileSlot_of_ne apart]
        exact .refl _
      · rw [Ring.withFiles] at clients
        rw [Runtime.file, clients, Function.update_self, file_setFileSlot]
        exact ⟨rfl, rfl⟩
  | bufferReleased slot result operation found idle =>
      exact .kept (setBufferSlot_sameFiles .cleared)
  | stats operation => exact .kept (.refl rt)
  | trace result events operation counted => exact .kept (.refl rt)
  | refused middle errno credits type rolledBack => exact rolledBack.move
  | accepted taskIndex started credits type admitted start => exact start.move _

/-- An answer touches no file. -/
theorem Answered.sameFiles {bytes : List UInt8} (answered : Answered rt index bytes next) :
    SameFiles rt next := by
  rw [answered]
  refine sameFiles_of_same index rfl rfl ?_ ?_ ?_ <;> simp only [Function.update_self] <;> rfl

/-! ## Steps -/

/-- What concerns one client leaves the files of the others. -/
theorem OnlyClient.sameFiles (only : OnlyClient rt index next)
    (size : (next.clients index).fileSlotLimit = (rt.clients index).fileSlotLimit)
    (files : ∀ slot, (rt.file index slot).Keeps (next.file index slot)) : SameFiles rt next := by
  refine sameFiles_of_client index ?_ ?_ ?_ size files
  · rw [only.frame]
  · rw [only.ring]
  · conv_lhs => rw [only.frame]

end Moves

section Steps

variable {config : Config} {rt next : Runtime} {action : Action}

/-- The client of an active task has the sizes the configuration gives it. -/
theorem Invariant.task_files {taskIndex : Nat} (invariant : Invariant config rt)
    (occupied : rt.occupied taskIndex = true) :
    (rt.clients (rt.tasks taskIndex).clientIndex).fileSlotLimit =
      rt.limits.registeredFdsPerClient := by
  have busy : (rt.clients (rt.tasks taskIndex).clientIndex).outstandingTasks ≠ 0 := by
    rw [invariant.ledger.clientTasks]
    exact Nat.ne_of_gt (countTasks_pos occupied (by simp only [ofClient, beq_self_eq_true]))
  rw [invariant.limits]
  exact ((invariant.entries _).sized (Or.inr busy)).1

/-- A completion of an active task, on a ring that may have lost its oldest entry. -/
theorem Invariant.completion_moves {taskIndex : Nat} {res : Int32} {env : CompleteEnv} {ring : Ring}
    {who : Nat → Prop} (invariant : Invariant config rt) (occupied : rt.occupied taskIndex = true)
    (table : ring.kernel.registeredFiles = rt.ring.kernel.registeredFiles)
    (one : who (rt.tasks taskIndex).clientIndex)
    (completed : completeTask { rt with ring } taskIndex res env = .ok next) :
    FileMoves who rt next := by
  have placed := invariant.holds.placed taskIndex occupied
  have tied := invariant.holds.tied taskIndex occupied
  have first : FileMoves who rt { rt with ring } :=
    FileMove.moves (.kept ⟨rfl, table, fun _ => rfl, fun _ _ => .refl _⟩) one
  refine first.trans (completeTask_moves placed.client ?_ one completed)
  intro slot reserved
  have below := (placed.result slot reserved).1
  rw [invariant.task_files occupied] at below
  exact ⟨below, (tied.result slot reserved).2.1⟩

/-- Closing a connection marks slots, everything else about it leaves them alone. -/
inductive SlotsStay (client next : Client) : Prop where
  | same (slots : SameSlots client next)
  | closed (base : Client) (slots : SameSlots client base) (entry : next = closedClient base)

/-- Slots that stay keep their descriptors. -/
theorem SlotsStay.keeps {client last : Client} (stay : SlotsStay client last) :
    last.fileSlotLimit = client.fileSlotLimit ∧
      ∀ slot, (client.fileResources slot).Keeps (last.fileResources slot) := by
  cases stay with
  | same slots =>
      refine ⟨slots.fileSlotLimit, fun slot => ?_⟩
      rw [slots.fileResources]
      exact .refl _
  | closed base slots entry =>
      subst entry
      refine ⟨slots.fileSlotLimit, fun slot => ?_⟩
      rw [← slots.fileResources]
      exact closedClient_keeps base slot

/-- What the decoder changes is no slot. -/
theorem sameSlots_of_eraseDecoder {client next : Client}
    (same : next.eraseDecoder = client.eraseDecoder) : SameSlots client next where
  fileSlotLimit := (congrArg Client.fileSlotLimit same : _)
  bufferSlotLimit := (congrArg Client.bufferSlotLimit same : _)
  fileResources := (congrArg Client.fileResources same : _)
  bufferResources := (congrArg Client.bufferResources same : _)

/-- Reading a connection keeps the slots. -/
theorem Served.slots {client last : Client} (served : Served client last) :
    SlotsStay client last := by
  cases served with
  | reading last same busy ready => exact .same (sameSlots_of_eraseDecoder same)
  | greeted result last phase ready answer =>
      rcases answer with ⟨-, same⟩ | ⟨-, same⟩
      · exact .same ⟨(congrArg Client.fileSlotLimit same : _),
          (congrArg Client.bufferSlotLimit same : _), (congrArg Client.fileResources same : _),
          (congrArg Client.bufferResources same : _)⟩
      · exact .same ⟨(congrArg Client.fileSlotLimit same : _),
          (congrArg Client.bufferSlotLimit same : _), (congrArg Client.fileResources same : _),
          (congrArg Client.bufferResources same : _)⟩
  | closed base same => exact .closed base (sameSlots_of_eraseDecoder same) rfl

/-- Writing to one, or closing it, keeps the slots. -/
theorem flushOrClose_slots (rt : Runtime) (index : Nat) (writes : List WriteOutcome) :
    SlotsStay (rt.clients index) ((flushOrClose rt index writes).1.clients index) := by
  obtain ⟨output, sent, flushed⟩ := flushClientOutput_client (rt.clients index) writes
  have slots : SameSlots (rt.clients index) (flushClientOutput (rt.clients index) writes).1 := by
    rw [flushed]
    exact ⟨rfl, rfl, rfl, rfl⟩
  unfold flushOrClose
  dsimp only
  split
  · refine .closed _ slots ?_
    rw [closeClient_client, Runtime.clients_setClient]
  · rw [Runtime.clients_setClient]
    exact .same slots

/-- A completion is taken for the client of the task. -/
theorem CompletionSource.actor {taskIndex : Nat} {res : Int32} {ring : Ring}
    (source : CompletionSource rt taskIndex res ring action) :
    rt.actor action = some (rt.tasks taskIndex).clientIndex := by
  cases action with
  | complete index result env =>
      obtain ⟨same, -, -⟩ := source
      rw [← same]
      rfl
  | reap env =>
      obtain ⟨cqe, peeked, found, -⟩ := source
      simp only [Runtime.actor, peeked, Option.bind_some, found, Option.map_some]
  | _ => cases source

/-- Every step is a sequence of moves, for its client if it is taken for one. -/
theorem Invariant.step_moves (invariant : Invariant config rt)
    (taken : step rt action = .ok next) :
    FileMoves (fun index => rt.actor action = some index ∨ rt.actor action = none) rt next := by
  have connectedBound : ∀ {index}, rt.connected index = true → index < rt.limits.maxClients := by
    intro index connected
    unfold Runtime.connected at connected
    rw [Bool.and_eq_true, decide_eq_true_eq] at connected
    exact connected.1
  cases step_cases taken with
  | idle => exact .refl
  | accepted fd env valid =>
      have closed : SameFiles rt (rt.close fd) := ⟨rfl, rfl, fun _ => rfl, fun _ _ => .refl _⟩
      unfold openClient
      split
      · exact @FileMove.moves _ _ 0 _ (.kept closed) (Or.inr rfl)
      · split
        · exact @FileMove.moves _ _ 0 _ (.kept closed) (Or.inr rfl)
        · rename_i index found
          split
          · exact @FileMove.moves _ _ 0 _ (.kept closed) (Or.inr rfl)
          · exact FileMove.moves (.opened fd found rfl rfl rfl) (Or.inr rfl)
  | served index incoming _ connected only served =>
      exact FileMove.moves (.kept (only.sameFiles served.slots.keeps.1 served.slots.keeps.2))
        (Or.inl rfl)
  | dispatched index env middle bytes _ connected ready change answered =>
      have active := (invariant.entries index).ready ready
      have sized := ((invariant.entries index).sized (Or.inl active.1)).1
      rw [← invariant.limits] at sized
      exact Relation.ReflTransGen.tail
        (.single ⟨index, Or.inl rfl, change.move (connectedBound connected) sized⟩)
        ⟨index, Or.inl rfl, .kept answered.sameFiles⟩
  | completed _ taskIndex res ring _ occupied source completed =>
      refine invariant.completion_moves occupied ?_ (Or.inl source.actor) completed
      rw [source.frame]
  | swept updates result swept =>
      refine Relation.ReflTransGen.mono ?_ _ _ (sweepClosingResources_moves swept)
      rintro before after ⟨index, -, move⟩
      exact ⟨index, Or.inr rfl, move⟩
  | flushed index writes connected =>
      obtain ⟨size, files⟩ := (flushOrClose_slots rt index writes).keeps
      exact FileMove.moves (.kept ((flushOrClose_only rt index writes).sameFiles size files))
        (Or.inl rfl)
  | disconnected index connected =>
      have only : OnlyClient rt index (closeClient rt index) := .closeClient
      refine FileMove.moves (.kept (only.sameFiles ?_ ?_)) (Or.inl rfl)
      · rw [closeClient_client]
        rfl
      · intro slot
        rw [Runtime.file, Runtime.file, closeClient_client]
        exact closedClient_keeps _ slot
  | cursorMoved cursor =>
      exact @FileMove.moves _ _ 0 _ (.kept ⟨rfl, rfl, fun _ => rfl, fun _ _ => .refl _⟩)
        (Or.inr rfl)
  | posted position res =>
      have table : (kernelPost rt.ring position res).kernel.registeredFiles =
          rt.ring.kernel.registeredFiles := by
        rw [kernelPost_frame]
      exact @FileMove.moves _ _ 0 _ (.kept ⟨rfl, table, fun _ => rfl, fun _ _ => .refl _⟩)
        (Or.inr rfl)
  | stored store =>
      have same : SameFiles rt (rt.stored store) := by
        cases store <;> exact ⟨rfl, rfl, fun _ => rfl, fun _ _ => .refl _⟩
      exact @FileMove.moves _ _ 0 _ (.kept same) (Or.inr rfl)

end Steps

end Iouringd
