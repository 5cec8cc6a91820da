import Iouringd.Daemon.Accounting
import Iouringd.Daemon.StepEffects

/-! # What a task keeps while it runs

The counts of `Holds` seen over time: as long as a task is active no step takes one of
its slots away, whatever the steps are, and the part of the buffer storage it works on
is left to the kernel. Task ids are never used twice, so a task that is active at both
ends of a run was active all along.
-/

namespace Iouringd

open Foundation

/-! ## The same task before and after -/

section Tasks

variable {config : Config} {rt middle next : Runtime} {taskIndex : Nat}

/-- A task that was there before the step, by its id. -/
theorem StepShape.occupied_before (shape : StepShape rt next)
    (occupied : next.occupied taskIndex = true)
    (older : (next.tasks taskIndex).taskId < rt.nextTaskId) :
    rt.occupied taskIndex = true ∧ (rt.tasks taskIndex).taskId = (next.tasks taskIndex).taskId := by
  by_contra differs
  have within : taskIndex < next.taskCapacity := (occupied_iff.mp occupied).1
  have member : taskIndex ∈ startedSlots rt next := by
    simp only [startedSlots, List.mem_filter, List.mem_range, within, occupied, Bool.true_and,
      true_and, Bool.not_eq_true', ← Bool.not_eq_true, Bool.and_eq_true, beq_iff_eq]
    exact differs
  rw [(shape.started_id member).1] at older
  exact UInt64.lt_irrefl _ older

/-- A slot that is occupied on both sides of a step holds the same task. -/
theorem StepShape.same_task (shape : StepShape rt next) (before : rt.occupied taskIndex = true)
    (after : next.occupied taskIndex = true) :
    next.tasks taskIndex = { rt.tasks taskIndex with
      ioBuffer := (next.tasks taskIndex).ioBuffer
      sockaddrLength := (next.tasks taskIndex).sockaddrLength } := by
  cases shape with
  | quiet quiet => exact quiet.task_eq before
  | accepted index slot env started connected admitted start answered =>
      have apart : taskIndex ≠ slot := by
        intro same
        subst same
        rw [Runtime.occupied, start.slot.2, Bool.and_false] at before
        cases before
      rw [answered.occupied_eq] at after
      have same := answered.task_eq after
      rwa [start.task_other _ apart] at same
  | completed slot res middle reaped held completed =>
      obtain ⟨-, -, same⟩ := Ledger.occupied_of_completed completed after
      rw [same]
      exact reaped.task_eq before

/-- What holds of every task when it is started, and does not depend on what the kernel may
write, holds of every task. -/
theorem StepShape.every_task {property : TaskSlot → Prop} (shape : StepShape rt next)
    (kept : ∀ task ioBuffer sockaddrLength, property task →
      property { task with ioBuffer, sockaddrLength })
    (starts : ∀ index slot env started, Started rt index slot env started →
      property (started.tasks slot))
    (before : ∀ taskIndex, rt.occupied taskIndex = true → property (rt.tasks taskIndex)) :
    ∀ taskIndex, next.occupied taskIndex = true → property (next.tasks taskIndex) := by
  intro taskIndex occupied
  by_cases earlier : rt.occupied taskIndex = true
  · rw [shape.same_task earlier occupied]
    exact kept _ _ _ (before taskIndex earlier)
  · cases shape with
    | quiet quiet =>
        rw [quiet.occupied_eq] at occupied
        exact absurd occupied earlier
    | accepted index slot env started connected admitted start answered =>
        rw [answered.occupied_eq] at occupied
        by_cases same : taskIndex = slot
        · subst same
          rw [answered.task_eq occupied, countAccepted_tasks]
          exact kept _ _ _ (starts index taskIndex env started start)
        · rw [start.occupied_other _ same] at occupied
          exact absurd occupied earlier
    | completed slot res middle reaped held completed =>
        obtain ⟨-, before, -⟩ := Ledger.occupied_of_completed completed occupied
        rw [reaped.occupied_eq] at before
        exact absurd before earlier

end Tasks

/-! ## Slots -/

/-- The same resource, up to its count, the closing mark and the valid length. -/
structure Retained (client next : Client) (task : TaskSlot) : Prop where
  file : ∀ slot, task.fileSlotIndex = some slot ∨ task.resultFileSlotIndex = some slot →
    (next.fileResources slot).resourceId = (client.fileResources slot).resourceId ∧
      (next.fileResources slot).daemonFd = (client.fileResources slot).daemonFd ∧
      (next.fileResources slot).registered = (client.fileResources slot).registered
  buffer : ∀ slot, task.bufferSlotIndex = some slot →
    (next.bufferResources slot).resourceId = (client.bufferResources slot).resourceId ∧
      (next.bufferResources slot).registered = (client.bufferResources slot).registered

section Slots

variable {config : Config} {rt next : Runtime} {taskIndex : Nat}

theorem Retained.refl (client : Client) (task : TaskSlot) : Retained client client task :=
  ⟨fun _ _ => ⟨rfl, rfl, rfl⟩, fun _ _ => ⟨rfl, rfl⟩⟩

theorem Retained.trans {client middle after : Client} {task : TaskSlot}
    (first : Retained client middle task) (second : Retained middle after task) :
    Retained client after task := by
  constructor
  · intro slot named
    obtain ⟨id, fd, registered⟩ := first.file slot named
    obtain ⟨id', fd', registered'⟩ := second.file slot named
    exact ⟨id'.trans id, fd'.trans fd, registered'.trans registered⟩
  · intro slot named
    obtain ⟨id, registered⟩ := first.buffer slot named
    obtain ⟨id', registered'⟩ := second.buffer slot named
    exact ⟨id'.trans id, registered'.trans registered⟩

/-- A quiet change keeps what is in flight. -/
theorem QuietClient.retained {client after : Client} {task : TaskSlot}
    (quiet : QuietClient client after)
    (files : ∀ slot, task.fileSlotIndex = some slot ∨ task.resultFileSlotIndex = some slot →
      (client.fileResources slot).inFlight ≠ 0)
    (buffers : ∀ slot, task.bufferSlotIndex = some slot →
      (client.bufferResources slot).inFlight ≠ 0) : Retained client after task := by
  constructor
  · intro slot named
    rcases (quiet.file slot).held (files slot named) with same | ⟨-, same⟩ <;> rw [same] <;>
      exact ⟨rfl, rfl, rfl⟩
  · intro slot named
    rcases (quiet.buffer slot).held (buffers slot named) with same | ⟨-, same⟩ <;> rw [same] <;>
      exact ⟨rfl, rfl⟩

/-- The slots of an active task are in flight. -/
theorem Holds.quiet_retained (holds : Holds rt) (quiet : Quiet rt next)
    (occupied : rt.occupied taskIndex = true) :
    Retained (rt.clients (rt.tasks taskIndex).clientIndex)
      (next.clients (rt.tasks taskIndex).clientIndex) (rt.tasks taskIndex) :=
  (quiet.client _).retained (fun _ named => holds.file_held occupied named)
    (fun _ named => holds.buffer_held occupied named)

/-- Starting another task keeps the slots of the tasks that run. -/
theorem Holds.started_retained {index slot : Nat} {env : DispatchEnv} {started : Runtime}
    (holds : Holds rt) (start : Started rt index slot env started) (usesCredit : Bool)
    (occupied : rt.occupied taskIndex = true) :
    Retained (rt.clients (rt.tasks taskIndex).clientIndex)
      ((started.countAccepted index usesCredit).clients (rt.tasks taskIndex).clientIndex)
      (rt.tasks taskIndex) := by
  by_cases own : (rt.tasks taskIndex).clientIndex = index
  · rw [own, start.client_self usesCredit]
    constructor
    · intro file named
      have held := holds.file_held occupied named
      rw [own] at held
      dsimp only
      rcases Holds.file_kept_of_started start held with same | ⟨-, same⟩ <;> rw [same] <;>
        exact ⟨rfl, rfl, rfl⟩
    · intro buffer _
      dsimp only
      rcases Holds.buffer_kept_of_started start buffer with same | same <;> rw [same] <;>
        exact ⟨rfl, rfl⟩
  · rw [start.client_other usesCredit own]
    exact .refl _ _

/-- So does completing another task. -/
theorem Holds.completed_retained {slot : Nat} {res : Int32} {env : CompleteEnv} (holds : Holds rt)
    (held : rt.occupied slot = true) (completed : Completed rt slot res env next)
    (after : Holds next) (occupied : next.occupied taskIndex = true) :
    Retained (rt.clients (rt.tasks taskIndex).clientIndex)
      (next.clients (rt.tasks taskIndex).clientIndex) (rt.tasks taskIndex) := by
  obtain ⟨-, -, same⟩ := Ledger.occupied_of_completed completed occupied
  have files : ∀ file, (rt.tasks taskIndex).fileSlotIndex = some file ∨
      (rt.tasks taskIndex).resultFileSlotIndex = some file →
      ((next.clients (rt.tasks taskIndex).clientIndex).fileResources file).inFlight ≠ 0 := by
    intro file named
    have counted := @Holds.file_held next taskIndex file after occupied (by rwa [same])
    rwa [same] at counted
  have buffers : ∀ buffer, (rt.tasks taskIndex).bufferSlotIndex = some buffer →
      ((next.clients (rt.tasks taskIndex).clientIndex).bufferResources buffer).inFlight ≠ 0 := by
    intro buffer named
    have counted := @Holds.buffer_held next taskIndex buffer after occupied (by rwa [same])
    rwa [same] at counted
  by_cases own : (rt.tasks taskIndex).clientIndex = (rt.tasks slot).clientIndex
  · rw [own] at files buffers ⊢
    constructor
    · intro file named
      rcases Holds.file_kept_of_completed holds held completed (files file named) with
        kept | ⟨-, kept⟩ <;> rw [kept] <;> exact ⟨rfl, rfl, rfl⟩
    · intro buffer named
      exact Holds.buffer_kept_of_completed completed (buffers buffer named)
  · have unchanged : next.clients (rt.tasks taskIndex).clientIndex =
        rt.clients (rt.tasks taskIndex).clientIndex := by
      rw [completed.frame]
      exact Function.update_of_ne own _ _
    rw [unchanged]
    exact .refl _ _

/-- No step takes a slot away from a task that is active before and after. -/
theorem Invariant.step_retained (invariant : Invariant config rt) (shape : StepShape rt next)
    (after : Holds next) (before : rt.occupied taskIndex = true)
    (occupied : next.occupied taskIndex = true) :
    Retained (rt.clients (rt.tasks taskIndex).clientIndex)
      (next.clients (rt.tasks taskIndex).clientIndex) (rt.tasks taskIndex) := by
  have holds := invariant.holds
  cases shape with
  | quiet quiet => exact holds.quiet_retained quiet before
  | accepted index slot env started connected admitted start answered =>
      have apart : taskIndex ≠ slot := by
        intro same
        subst same
        rw [Runtime.occupied, start.slot.2, Bool.and_false] at before
        cases before
      have middle := holds.accepted connected start (rt.clients index).usesCredit
      have still : (started.countAccepted index (rt.clients index).usesCredit).occupied
          taskIndex = true := by
        rw [start.occupied_other _ apart]
        exact before
      have kept := middle.quiet_retained answered still
      rw [start.task_other _ apart] at kept
      exact (holds.started_retained start _ before).trans kept
  | completed slot res middle reaped held completed =>
      have quiet := holds.quiet_retained reaped before
      have reapedHolds := holds.quiet invariant.ledger reaped
      have kept := reapedHolds.completed_retained held completed after occupied
      have same : middle.tasks taskIndex = _ := reaped.task_eq before
      rw [same] at kept
      exact quiet.trans ⟨kept.file, kept.buffer⟩

end Slots

/-! ## Buffer storage -/

/-- Besides the kernel only the registration of a free slot writes the storage. -/
theorem StepEffect.storage {rt next : Runtime} {action : Action}
    (effect : StepEffect rt action next) :
    (∃ store, action = .store store) ∨
      next.registeredBufferStorage = rt.registeredBufferStorage ∨
      ∃ index slot env, action = .dispatch index env ∧ rt.connected index = true ∧
        (rt.clients index).requestReady = true ∧
        (rt.clients index).controlOp = some .registerBuffer ∧
        findFreeBufferSlot (rt.clients index) = some slot ∧
        next.registeredBufferStorage = rt.registeredBufferStorage.write
          (bufferStorageAt rt index slot)
          ((rt.clients index).ioPayload.read 0 (rt.clients index).ioLength.toNat) := by
  cases effect with
  | stored store => exact Or.inl ⟨store, rfl⟩
  | dispatched index env middle bytes _ connected ready change answered =>
      right
      have kept : next.registeredBufferStorage = middle.registeredBufferStorage := by
        rw [answered]
      rw [kept]
      cases change with
      | bufferRegistered slot resourceId nextId result operation found allocated valid =>
          exact Or.inr ⟨index, slot, env, rfl, connected, ready, operation, found, rfl⟩
      | descriptorDropped nextId result operation held => exact Or.inl rfl
      | fileReleased slot ring result operation found idle updated =>
          left
          unfold clearFileSlot
          dsimp only
          split <;> rfl
      | refused _ errno credits type rolledBack =>
          left
          rw [rolledBack.frame]
      | accepted taskIndex started credits type admitted start =>
          left
          rw [start.countAccepted_eq]
      | _ => exact Or.inl rfl
  | served index incoming _ connected only served =>
      refine Or.inr (Or.inl ?_)
      rw [only.frame]
  | flushed index writes _ connected only flushed =>
      refine Or.inr (Or.inl ?_)
      rw [only.frame]
  | disconnected index connected =>
      have only : OnlyClient rt index (closeClient rt index) := .closeClient
      refine Or.inr (Or.inl ?_)
      rw [only.frame]
  | completed action taskIndex res ring _ occupied source completed =>
      refine Or.inr (Or.inl ?_)
      rw [completed.frame]
  | swept updates _ swept slots =>
      refine Or.inr (Or.inl ?_)
      rw [swept.frame]
  | _ => exact Or.inr (Or.inl rfl)

section Storage

variable {config : Config} {rt next : Runtime} {taskIndex : Nat}

/-- A REGISTER_BUFFER request that is ready fits a buffer. -/
theorem Grammatical.ioLength_le {client : Client} (grammatical : Grammatical client)
    (operation : client.controlOp = some .registerBuffer) :
    client.ioLength.toNat ≤ client.ioBytesMax := by
  have kind : client.request.taskKind = .registerBuffer := by
    have control := grammatical.controlOp
    rw [operation, RequestKind.controlOp] at control
    split at control
    · exact (Option.some.inj control).symm
    · cases control
  obtain ⟨stream, rest, parsed⟩ := grammatical.parsed
  unfold parseRequest at parsed
  dsimp only at parsed
  split_ifs at parsed with header valid fixed accepted payload wanted
  obtain ⟨request, -⟩ := Parsed.message.inj parsed
  have front : (frontHeader stream).taskKind = .registerBuffer :=
    (congrArg Request.kind request).trans kind
  have body := congrArg Request.body request
  simp only [frontRequest, Client.decodedRequest, Client.decodedBody, requestBody, front, kind,
    RequestBody.buffer.injEq] at body
  have length := congrArg List.length body
  rw [Memory.length_read] at length
  have declared : (frontPayload stream).length ≤
      payloadSize (frontHeader stream).taskKind (frontFixed stream) := List.length_take_le _ _
  simp only [front, fixedAccepted, payloadSize, Bool.not_eq_true', Bool.not_eq_false,
    Bool.and_eq_true, decide_eq_true_eq] at accepted declared
  omega

/-- Slots of buffers that exist have regions of their own. -/
theorem bufferStorageAt_apart {client slot other otherSlot : Nat}
    (within : slot < rt.limits.registeredBuffersPerClient)
    (otherWithin : otherSlot < rt.limits.registeredBuffersPerClient)
    (apart : client ≠ other ∨ slot ≠ otherSlot) :
    bufferStorageAt rt client slot + rt.limits.ioBytesMax ≤ bufferStorageAt rt other otherSlot ∨
      bufferStorageAt rt other otherSlot + rt.limits.ioBytesMax ≤
        bufferStorageAt rt client slot := by
  unfold bufferStorageAt globalBufferIndex
  have successor : ∀ left right : Nat, left < right →
      left * rt.limits.ioBytesMax + rt.limits.ioBytesMax ≤ right * rt.limits.ioBytesMax := by
    intro left right less
    rw [← Nat.succ_mul]
    exact Nat.mul_le_mul_right _ less
  have different : client * rt.limits.registeredBuffersPerClient + slot ≠
      other * rt.limits.registeredBuffersPerClient + otherSlot := by
    intro same
    have clients := congrArg (· / rt.limits.registeredBuffersPerClient) same
    have slots := congrArg (· % rt.limits.registeredBuffersPerClient) same
    have positive : 0 < rt.limits.registeredBuffersPerClient := by omega
    simp only [Nat.mul_comm _ rt.limits.registeredBuffersPerClient,
      Nat.mul_add_div positive, Nat.div_eq_of_lt within, Nat.div_eq_of_lt otherWithin,
      Nat.mul_add_mod, Nat.mod_eq_of_lt within, Nat.mod_eq_of_lt otherWithin,
      Nat.add_zero] at clients slots
    rcases apart with unequal | unequal
    · exact unequal clients
    · exact unequal slots
  rcases Nat.lt_or_gt_of_ne different with less | greater
  · exact Or.inl (successor _ _ less)
  · exact Or.inr (successor _ _ greater)

/-- The bytes of the storage that belong to a buffer slot. -/
def bufferRegion (rt : Runtime) (client slot : Nat) : List UInt8 :=
  rt.registeredBufferStorage.read (bufferStorageAt rt client slot) rt.limits.ioBytesMax

/-- The client of an active task has the slots the configuration gives it. -/
theorem Invariant.task_sized (invariant : Invariant config rt)
    (occupied : rt.occupied taskIndex = true) :
    (rt.clients (rt.tasks taskIndex).clientIndex).bufferSlotLimit =
      rt.limits.registeredBuffersPerClient := by
  have busy : (rt.clients (rt.tasks taskIndex).clientIndex).outstandingTasks ≠ 0 := by
    rw [invariant.ledger.clientTasks]
    exact Nat.ne_of_gt (countTasks_pos occupied (by simp only [ofClient, beq_self_eq_true]))
  rw [invariant.limits]
  exact ((invariant.entries _).sized (Or.inr busy)).2.1

/-- No step but a write by the kernel touches the region of a buffer in use. -/
theorem Invariant.step_region (invariant : Invariant config rt) {action : Action}
    (taken : step rt action = .ok next) (daemon : ∀ store, action ≠ .store store)
    (occupied : rt.occupied taskIndex = true) {slot : Nat}
    (named : (rt.tasks taskIndex).bufferSlotIndex = some slot) :
    bufferRegion next (rt.tasks taskIndex).clientIndex slot =
      bufferRegion rt (rt.tasks taskIndex).clientIndex slot := by
  have limits := (step_shape invariant.grounded taken).constants.1
  have place : bufferStorageAt next (rt.tasks taskIndex).clientIndex slot =
      bufferStorageAt rt (rt.tasks taskIndex).clientIndex slot := by
    unfold bufferStorageAt globalBufferIndex
    rw [limits]
  unfold bufferRegion
  rw [place, limits]
  rcases (step_effect invariant.grounded taken).storage with
    ⟨store, kernel⟩ | same | ⟨index, free, -, -, connected, ready, operation, found, written⟩
  · exact absurd kernel (daemon store)
  · rw [same]
  · rw [written]
    simp only [Runtime.connected, Bool.and_eq_true] at connected
    have sized := (invariant.entries index).sized (Or.inl connected.2)
    obtain ⟨-, -, grammatical⟩ := (invariant.entries index).ready ready
    obtain ⟨below, isFree⟩ := firstBelow_some found
    rw [sized.2.1, ← invariant.limits] at below
    have within := (invariant.holds.placed taskIndex occupied).buffer slot named
    rw [invariant.task_sized occupied] at within
    have length := grammatical.ioLength_le operation
    rw [sized.2.2, ← invariant.limits] at length
    have apart : (rt.tasks taskIndex).clientIndex ≠ index ∨ slot ≠ free := by
      by_contra both
      simp only [not_or, not_not] at both
      obtain ⟨client, same⟩ := both
      have held := invariant.holds.buffer_held occupied named
      rw [client, same] at held
      simp only [BufferSlot.isFree, Bool.and_eq_true, beq_iff_eq] at isFree
      exact held isFree.2
    rcases bufferStorageAt_apart within below apart with before | after
    · exact Memory.read_write_before _ _ _ _ _ before
    · apply Memory.read_write_after _ _ _ _ _
      rw [Memory.length_read]
      omega

end Storage

/-! ## Runs -/

/-- What a task that is active at both ends of a run has kept. -/
structure Kept (rt next : Runtime) (taskIndex : Nat) (actions : List Action) : Prop where
  task : next.tasks taskIndex = { rt.tasks taskIndex with
    ioBuffer := (next.tasks taskIndex).ioBuffer
    sockaddrLength := (next.tasks taskIndex).sockaddrLength }
  slots : Retained (rt.clients (rt.tasks taskIndex).clientIndex)
    (next.clients (rt.tasks taskIndex).clientIndex) (rt.tasks taskIndex)
  region : (∀ action ∈ actions, ∀ store, action ≠ .store store) →
    ∀ slot, (rt.tasks taskIndex).bufferSlotIndex = some slot →
      bufferRegion next (rt.tasks taskIndex).clientIndex slot =
        bufferRegion rt (rt.tasks taskIndex).clientIndex slot

section Runs

variable {config : Config} {rt next : Runtime} {taskIndex : Nat}

/-- The invariant and the id counter along a run. -/
theorem Invariant.ran {actions : List Action} (invariant : Invariant config rt)
    (ran : run step rt actions = .ok next) :
    Invariant config next ∧ rt.nextTaskId ≤ next.nextTaskId := by
  refine @run_preserves _ _ _ step rt next actions
    (fun state => Invariant config state ∧ rt.nextTaskId ≤ state.nextTaskId) ?_
    ⟨invariant, UInt64.le_refl _⟩ ran
  intro before action after _ holds taken
  have shape := step_shape holds.1.grounded taken
  exact ⟨holds.1.stepped taken, UInt64.le_trans holds.2 shape.nextTaskId_le⟩

/-- Induction on the run from its end: the task is also active before the last step,
because its id was drawn before the run started. -/
theorem Invariant.run_kept {actions : List Action} (invariant : Invariant config rt)
    (ran : run step rt actions = .ok next) (before : rt.occupied taskIndex = true)
    (after : next.occupied taskIndex = true)
    (same : (next.tasks taskIndex).taskId = (rt.tasks taskIndex).taskId) :
    Kept rt next taskIndex actions := by
  induction actions using List.reverseRecOn generalizing next with
  | nil =>
      cases ran
      exact ⟨rfl, .refl _ _, fun _ _ _ => rfl⟩
  | append_singleton actions action ih =>
      obtain ⟨middle, front, last⟩ := run_concat_ok ran
      obtain ⟨middleInvariant, upwards⟩ := invariant.ran front
      have shape := step_shape middleInvariant.grounded last
      have older : (next.tasks taskIndex).taskId < middle.nextTaskId := by
        rw [same]
        exact UInt64.lt_of_lt_of_le (invariant.ledger.ids taskIndex before).2 upwards
      obtain ⟨occupied, sameId⟩ := shape.occupied_before after older
      have kept := ih front occupied (sameId.trans same)
      have task := shape.same_task occupied after
      have slots := middleInvariant.step_retained shape (middleInvariant.stepped last).holds
        occupied after
      have identity := kept.task
      rw [identity] at task slots
      refine ⟨task, kept.slots.trans ⟨slots.file, slots.buffer⟩, ?_⟩
      intro daemon slot named
      have earlier := kept.region (fun other member => daemon other
        (List.mem_append_left _ member)) slot named
      have stepRegion := middleInvariant.step_region last
        (daemon action (List.mem_append_right _ List.mem_cons_self)) occupied
        (by rw [identity]; exact named)
      rw [identity] at stepRegion
      exact stepRegion.trans earlier

/-- In every reachable state the `in_flight` of each slot counts the active tasks that
name it. A slot an active task names is the resource the task recorded and is not found
free, and for as long as the task stays active, whatever the steps are, the slot keeps
its resource, its registration and its descriptor, and its buffer region is written by
nobody but the kernel. -/
theorem slots_held_while_active {front : List Action}
    (ran : run step (Runtime.initial config) front = .ok rt) :
    (∀ index slot, ((rt.clients index).fileResources slot).inFlight =
      rt.countTasks (usesFile index slot) + rt.countTasks (reservesFile index slot)) ∧
    (∀ index slot, ((rt.clients index).bufferResources slot).inFlight =
      rt.countTasks (usesBuffer index slot)) ∧
    ∀ taskIndex, rt.occupied taskIndex = true →
      Tied (rt.clients (rt.tasks taskIndex).clientIndex) (rt.tasks taskIndex) ∧
      (∀ slot, (rt.tasks taskIndex).fileSlotIndex = some slot ∨
        (rt.tasks taskIndex).resultFileSlotIndex = some slot →
        findFreeFileSlot (rt.clients (rt.tasks taskIndex).clientIndex) ≠ some slot) ∧
      (∀ slot, (rt.tasks taskIndex).bufferSlotIndex = some slot →
        findFreeBufferSlot (rt.clients (rt.tasks taskIndex).clientIndex) ≠ some slot) ∧
      ∀ back next, run step rt back = .ok next → next.occupied taskIndex = true →
        (next.tasks taskIndex).taskId = (rt.tasks taskIndex).taskId →
        Kept rt next taskIndex back := by
  have invariant : Invariant config rt := Reachable.invariant ⟨front, ran⟩
  have holds := invariant.holds
  refine ⟨holds.files, holds.buffers, ?_⟩
  intro taskIndex occupied
  refine ⟨holds.tied taskIndex occupied, ?_, ?_, ?_⟩
  · intro slot named found
    have free := (firstBelow_some found).2
    simp only [FileSlot.isFree, Bool.and_eq_true, beq_iff_eq] at free
    exact holds.file_held occupied named free.2
  · intro slot named found
    have free := (firstBelow_some found).2
    simp only [BufferSlot.isFree, Bool.and_eq_true, beq_iff_eq] at free
    exact holds.buffer_held occupied named free.2
  · intro back next continued after same
    exact invariant.run_kept continued occupied after same

end Runs

/-- A client registers a descriptor and reads from it. -/
def readInFlight : List Action :=
  joining 0 7 ++
    [.input 0 [.data (requestHeader .registerFd).encode [⟨true, [9]⟩] false],
      .dispatch 0 .smooth] ++
    requesting 0 (IoRequest.encode ⟨requestHeader .sockRead, 1, 8⟩) .smooth

/-- The client leaves while its read is in flight: the slot keeps its descriptor. -/
theorem slots_held_while_reading :
    ∃ rt next, run step (Runtime.initial (.small 1 (by decide) (by decide))) readInFlight = .ok rt ∧
      (rt.tasks 0).fileSlotIndex = some 0 ∧ run step rt [.disconnect 0] = .ok next ∧
      ((rt.clients 0).fileResources 0).daemonFd = 9 ∧ Kept rt next 0 [.disconnect 0] := by
  have seen : ((run step (Runtime.initial (.small 1 (by decide) (by decide)))
      readInFlight).toOption.map fun rt =>
        (decide (rt.occupied 0 = true ∧ (rt.tasks 0).fileSlotIndex = some 0 ∧
          ((rt.clients 0).fileResources 0).daemonFd = 9),
        (run step rt [.disconnect 0]).toOption.map fun next =>
          decide (next.occupied 0 = true ∧ (next.tasks 0).taskId = (rt.tasks 0).taskId))) =
      some (true, some true) := by decide +kernel
  obtain ⟨rt, ran, view⟩ := exists_of_toOption_map seen
  obtain ⟨before, left⟩ := Prod.mk.inj view
  obtain ⟨occupied, named, descriptor⟩ := of_decide_eq_true before
  obtain ⟨next, continued, after⟩ := exists_of_toOption_map left
  obtain ⟨still, same⟩ := of_decide_eq_true after
  exact ⟨rt, next, ran, named, continued, descriptor,
    ((slots_held_while_active ran).2.2 0 occupied).2.2.2 _ next continued still same⟩

end Iouringd
