import Iouringd.Foundation.Lockstep
import Iouringd.Daemon.StepEffects

/-! # What depends on the storage

The storage of the registered buffers is one block of memory that is never wiped. A run that
starts with another block goes the same way: apart from a registration, which writes into it,
and the completion of a fixed read, whose payload is taken from it, no call of the daemon looks
at it.
-/

namespace Iouringd

open Foundation

/-- The same daemon on another block of memory. -/
def Runtime.withStorage (rt : Runtime) (storage : Memory) : Runtime :=
  { rt with registeredBufferStorage := storage }

/-- The second is the first with `other` in the place of `storage`. -/
def Twins (storage other : Memory) (rt twin : Runtime) : Prop :=
  rt.registeredBufferStorage = storage ∧ twin = rt.withStorage other

section Twins

variable {storage other : Memory} {rt twin : Runtime} {index : Nat}

/-- A daemon and itself on another block. -/
theorem Twins.of_withStorage (rt : Runtime) (other : Memory) :
    Twins rt.registeredBufferStorage other rt (rt.withStorage other) := ⟨rfl, rfl⟩

/-- Setting a task keeps twins twins. -/
theorem Twins.setTask {task : TaskSlot} (twins : Twins storage other rt twin) :
    Twins storage other (rt.setTask index task) (twin.setTask index task) := by
  obtain ⟨rfl, rfl⟩ := twins
  exact ⟨rfl, rfl⟩

/-- The block is not among the clients. -/
theorem Runtime.withStorage_clients : (rt.withStorage other).clients = rt.clients := rfl

/-- The block is not among the tasks. -/
theorem Runtime.withStorage_tasks : (rt.withStorage other).tasks = rt.tasks := rfl

/-- The block is not in the ring. -/
theorem Runtime.withStorage_ring : (rt.withStorage other).ring = rt.ring := rfl

/-- The block is not among the limits. -/
theorem Runtime.withStorage_limits : (rt.withStorage other).limits = rt.limits := rfl

/-- Setting a client and changing the block commute. -/
theorem Runtime.withStorage_setClient {client : Client} :
    (rt.withStorage other).setClient index client = (rt.setClient index client).withStorage other :=
  rfl

/-- So do setting a task and changing the block. -/
theorem Runtime.withStorage_setTask {task : TaskSlot} :
    (rt.withStorage other).setTask index task = (rt.setTask index task).withStorage other := rfl

/-- The position of a file is the same. -/
theorem globalFileIndex_withStorage {slot : Nat} :
    globalFileIndex (rt.withStorage other) index slot = globalFileIndex rt index slot := rfl

/-- The free task slot is the same. -/
theorem findFreeTaskSlot_withStorage :
    findFreeTaskSlot (rt.withStorage other) = findFreeTaskSlot rt := rfl

/-- Admission is decided the same way. -/
theorem admissionRefusal_withStorage {client : Client} :
    admissionRefusal (rt.withStorage other) client = admissionRefusal rt client := rfl

/-- Twins queue the same bytes. -/
theorem Runtime.queue_twins {bytes : List UInt8} (twins : Twins storage other rt twin) :
    Lockstep (Twins storage other) (rt.queue index bytes) (twin.queue index bytes) := by
  obtain ⟨rfl, rfl⟩ := twins
  rw [Runtime.queue_eq, Runtime.queue_eq]
  exact .ite (fun _ => .error _) (fun _ => .ok ⟨rfl, rfl⟩)

/-- Queue a reply, then change anything but the storage. -/
theorem Twins.queued {bytes : List UInt8} {after afterTwin : Runtime → Runtime}
    (twins : Twins storage other rt twin)
    (same : ∀ rt, afterTwin (rt.withStorage other) = (after rt).withStorage other)
    (kept : ∀ rt, (after rt).registeredBufferStorage = rt.registeredBufferStorage) :
    Lockstep (Twins storage other) (rt.queue index bytes >>= fun rt => .ok (after rt))
      (twin.queue index bytes >>= fun rt => .ok (afterTwin rt)) := by
  refine (Runtime.queue_twins twins).bind ?_
  rintro value _ ⟨held, rfl⟩
  exact .ok ⟨(kept value).trans held, same value⟩

/-! ## Control requests -/

/-- Twins answer a resource request the same way. -/
theorem answerResource_twins {resourceId : ResourceId} {res : Int32} {available : UInt32}
    (twins : Twins storage other rt twin) :
    Lockstep (Twins storage other) (answerResource rt index resourceId res available)
      (answerResource twin index resourceId res available) :=
  twins.queued (fun _ => rfl) (fun _ => rfl)

/-- They note a change of the table the same way. -/
theorem answerResourceChange_twins {eventKind : TraceEventKind} {resourceId : ResourceId}
    {available : UInt32} {now : UInt64} (twins : Twins storage other rt twin) :
    Lockstep (Twins storage other)
      (answerResourceChange rt index eventKind resourceId available now)
      (answerResourceChange twin index eventKind resourceId available now) :=
  twins.queued (fun _ => rfl) (fun _ => rfl)

/-- They register a file the same way. -/
theorem dispatchRegisterFd_twins {env : DispatchEnv} (twins : Twins storage other rt twin) :
    Lockstep (Twins storage other) (dispatchRegisterFd rt index env)
      (dispatchRegisterFd twin index env) := by
  obtain ⟨rfl, rfl⟩ := twins
  unfold dispatchRegisterFd
  refine .ite (fun _ => answerResource_twins ⟨rfl, rfl⟩) fun _ => ?_
  simp only [Runtime.withStorage_clients, Runtime.withStorage_setClient,
    Runtime.withStorage_ring, globalFileIndex_withStorage]
  cases findFreeFileSlot (rt.clients index) with
  | none => exact (Twins.of_withStorage rt other).queued (fun _ => rfl) (fun _ => rfl)
  | some slotIndex =>
      refine .ite (fun _ => ?_) fun _ => ?_
      · exact Twins.queued ⟨rfl, rfl⟩ (fun _ => rfl) (fun _ => rfl)
      · rcases ringUpdateRegisteredFile _ _ _ env.update with ⟨ring, _ | errno⟩
        · exact answerResourceChange_twins ⟨rfl, rfl⟩
        · exact answerResource_twins ⟨rfl, rfl⟩

/-- A request on two blocks: it leaves both alone, or it is a registration and both take the
payload. A registration that is refused leaves the slots alone too. -/
inductive Registers (rt : Runtime) (other : Memory) (index : Nat) (next nextTwin : Runtime) : Prop
  | apart (twins : Twins rt.registeredBufferStorage other next nextTwin)
      (slots : (rt.clients index).controlOp = some .registerBuffer →
        (next.clients index).bufferResources = (rt.clients index).bufferResources)
  | registered (slot : Nat) (found : findFreeBufferSlot (rt.clients index) = some slot)
      (twins : Twins
        (rt.registeredBufferStorage.write (bufferStorageAt rt index slot)
          ((rt.clients index).ioPayload.read 0 (rt.clients index).ioLength.toNat))
        (other.write (bufferStorageAt rt index slot)
          ((rt.clients index).ioPayload.read 0 (rt.clients index).ioLength.toNat)) next nextTwin)

/-- An answer behind a registration leaves what the registration wrote. -/
theorem answerResource_registers {before : Runtime} {resourceId : ResourceId} {res : Int32}
    {available : UInt32} (twins : Twins rt.registeredBufferStorage other before twin)
    (slots : (before.clients index).bufferResources = (rt.clients index).bufferResources) :
    Lockstep (Registers rt other index) (answerResource before index resourceId res available)
      (answerResource twin index resourceId res available) := by
  have kept : ∀ next, answerResource before index resourceId res available = .ok next →
      (next.clients index).bufferResources = (rt.clients index).bufferResources := by
    intro next answered
    rw [(answerResource_ok answered).client]
    exact slots
  exact ((answerResource_twins twins).and_left kept).mono fun _ _ same =>
    .apart same.2 fun _ => same.1

/-- A registration writes the payload over what is there. -/
theorem dispatchRegisterBuffer_registers {env : DispatchEnv} (rt : Runtime) (other : Memory) :
    Lockstep (Registers rt other index) (dispatchRegisterBuffer rt index env)
      (dispatchRegisterBuffer (rt.withStorage other) index env) := by
  -- a copy of no bytes is no copy
  have copied : ∀ (storage : Memory) (offset : Nat),
      (if (rt.clients index).ioLength ≠ 0 then
        storage.write offset ((rt.clients index).ioPayload.read 0
          (rt.clients index).ioLength.toNat) else storage) =
        storage.write offset ((rt.clients index).ioPayload.read 0
          (rt.clients index).ioLength.toNat) := by
    intro storage offset
    split
    · rfl
    · rename_i empty
      rw [not_not.mp empty]
      exact (Memory.write_nil _ _).symm
  unfold dispatchRegisterBuffer
  simp only [Runtime.withStorage_clients, Runtime.withStorage_setClient]
  cases found : findFreeBufferSlot (rt.clients index) with
  | none => exact answerResource_registers ⟨rfl, rfl⟩ rfl
  | some slotIndex =>
      obtain ⟨nextId, moved⟩ := allocateResourceId_snd (rt.clients index)
      refine .ite (fun _ => ?_) fun _ => ?_
      · refine answerResource_registers ⟨rfl, rfl⟩ ?_
        rw [Runtime.clients_setClient, moved]
      · apply Lockstep.mono (fun _ _ same => .registered slotIndex found same)
        refine answerResourceChange_twins ⟨copied _ _, ?_⟩
        rw [← copied other]
        rfl

/-- They update the ring's table the same way. -/
theorem updateRegisteredFile_twins {entry : Nat} {fd : Fd} {outcome : UpdateOutcome}
    (twins : Twins storage other rt twin) :
    Lockstep (Twins storage other) (updateRegisteredFile rt entry fd outcome)
      (updateRegisteredFile twin entry fd outcome) := by
  obtain ⟨rfl, rfl⟩ := twins
  unfold updateRegisteredFile
  rw [Runtime.withStorage_ring]
  rcases ringUpdateRegisteredFile rt.ring entry fd outcome with ⟨ring, _ | errno⟩
  · exact .ok ⟨rfl, rfl⟩
  · exact .error errno

/-- They clear the same file slot. -/
theorem clearFileSlot_twins {slot : Nat} (twins : Twins storage other rt twin) :
    Twins storage other (clearFileSlot rt index slot) (clearFileSlot twin index slot) := by
  obtain ⟨rfl, rfl⟩ := twins
  unfold clearFileSlot
  rw [Runtime.withStorage_clients]
  dsimp only
  split <;> exact ⟨rfl, rfl⟩

/-- They release the same file slot. -/
theorem tryReleaseFileSlot_twins {slot : Nat} {update : UpdateOutcome}
    (twins : Twins storage other rt twin) :
    Lockstep (Twins storage other) (tryReleaseFileSlot rt index slot update)
      (tryReleaseFileSlot twin index slot update) := by
  obtain ⟨rfl, rfl⟩ := twins
  have same := Twins.of_withStorage rt other
  unfold tryReleaseFileSlot
  refine .ite (fun _ => .error _) fun _ => .ite (fun _ => ?_) fun _ => .ite (fun _ => .ok same) ?_
  · exact .ite (fun _ => .ok (clearFileSlot_twins same)) fun _ => .ok same
  · intro _
    exact (updateRegisteredFile_twins same).bind fun _ _ after => .ok (clearFileSlot_twins after)

/-- They release the same buffer slot: its bytes are not wiped. -/
theorem tryReleaseBufferSlot_twins {slot : Nat} (twins : Twins storage other rt twin) :
    Lockstep (Twins storage other) (tryReleaseBufferSlot rt index slot)
      (tryReleaseBufferSlot twin index slot) := by
  obtain ⟨rfl, rfl⟩ := twins
  have same := Twins.of_withStorage rt other
  have cleared : Twins rt.registeredBufferStorage other (clearBufferSlot rt index slot)
      (clearBufferSlot (rt.withStorage other) index slot) := ⟨rfl, rfl⟩
  unfold tryReleaseBufferSlot
  refine .ite (fun _ => .error _) fun _ => .ite (fun _ => ?_) fun _ =>
    .ite (fun _ => .ok same) fun _ => .ok cleared
  exact .ite (fun _ => .ok cleared) fun _ => .ok same

/-- They release a resource the same way. -/
theorem dispatchReleaseResource_twins {env : DispatchEnv} (twins : Twins storage other rt twin) :
    Lockstep (Twins storage other) (dispatchReleaseResource rt index env)
      (dispatchReleaseResource twin index env) := by
  obtain ⟨rfl, rfl⟩ := twins
  have refused : ∀ {res : Int32} {available : UInt32}, Lockstep
      (Twins rt.registeredBufferStorage other)
      (answerResource rt index resourceIdInvalid res available)
      (answerResource (rt.withStorage other) index resourceIdInvalid res available) :=
    answerResource_twins (.of_withStorage rt other)
  unfold dispatchReleaseResource
  refine .ite (fun _ => refused) fun _ => ?_
  simp only [Runtime.withStorage_clients]
  cases findFileSlot (rt.clients index) (rt.clients index).resourceId with
  | some slotIndex =>
      refine .ite (fun _ => refused) fun _ => ?_
      refine (tryReleaseFileSlot_twins ⟨rfl, rfl⟩).bind ?_
      rintro next _ ⟨held, rfl⟩
      exact answerResourceChange_twins ⟨held, rfl⟩
  | none =>
      cases findBufferSlot (rt.clients index) (rt.clients index).resourceId with
      | some slotIndex =>
          refine .ite (fun _ => refused) fun _ => ?_
          refine (tryReleaseBufferSlot_twins ⟨rfl, rfl⟩).bind ?_
          rintro next _ ⟨held, rfl⟩
          exact answerResourceChange_twins ⟨held, rfl⟩
      | none => exact refused

/-- They report the same counters. -/
theorem dispatchGetStats_twins (twins : Twins storage other rt twin) :
    Lockstep (Twins storage other) (dispatchGetStats rt index) (dispatchGetStats twin index) := by
  obtain ⟨rfl, rfl⟩ := twins
  exact (Twins.of_withStorage rt other).queued (fun _ => rfl) (fun _ => rfl)

/-- They send the same events. -/
theorem queueTraceEvents_twins {latest : UInt64} {remaining : Nat} {sequence : UInt64}
    (twins : Twins storage other rt twin) :
    Lockstep (Twins storage other) (queueTraceEvents index latest remaining sequence rt)
      (queueTraceEvents index latest remaining sequence twin) := by
  induction remaining generalizing sequence rt twin with
  | zero => exact .ok twins
  | succ remaining ih =>
      obtain ⟨rfl, rfl⟩ := twins
      refine .ite (fun _ => ?_) fun _ => .ok ⟨rfl, rfl⟩
      exact (Runtime.queue_twins (.of_withStorage rt other)).bind fun _ _ same => ih same

/-- They send the same trace result. -/
theorem queueTraceResult_twins (twins : Twins storage other rt twin) :
    Lockstep (Twins storage other) (queueTraceResult rt index) (queueTraceResult twin index) := by
  obtain ⟨rfl, rfl⟩ := twins
  unfold queueTraceResult
  refine (Runtime.queue_twins (.of_withStorage rt other)).bind fun value valueTwin same => ?_
  exact .ite (fun _ => .ok same) fun _ => queueTraceEvents_twins same

/-- They answer a trace request the same way. -/
theorem dispatchGetTrace_twins (twins : Twins storage other rt twin) :
    Lockstep (Twins storage other) (dispatchGetTrace rt index) (dispatchGetTrace twin index) := by
  refine (queueTraceResult_twins twins).bind ?_
  rintro next _ ⟨held, rfl⟩
  exact .ok ⟨held, rfl⟩

/-! ## Submissions -/

/-- They reject a submission the same way. -/
theorem rejectSubmit_twins {res : Int32} {now : UInt64} (twins : Twins storage other rt twin) :
    Lockstep (Twins storage other) (rejectSubmit rt index res now)
      (rejectSubmit twin index res now) := by
  obtain ⟨rfl, rfl⟩ := twins
  refine (Runtime.queue_twins ⟨rfl, rfl⟩).bind ?_
  rintro next _ ⟨held, rfl⟩
  exact .ok ⟨held, rfl⟩

/-- They refuse a submission the same way. -/
theorem refuse_twins {errno : Errno} {now : UInt64} (twins : Twins storage other rt twin) :
    Lockstep (Twins storage other) (refuse rt index errno now) (refuse twin index errno now) := by
  refine (rejectSubmit_twins twins).bind ?_
  rintro next _ ⟨held, rfl⟩
  exact .ok ⟨held, rfl⟩

/-- They accept a submission the same way. -/
theorem acceptSubmit_twins {taskIndex : Nat} {usesCredit : Bool} {now : UInt64}
    (twins : Twins storage other rt twin) :
    Lockstep (Twins storage other) (acceptSubmit rt index taskIndex usesCredit now)
      (acceptSubmit twin index taskIndex usesCredit now) := by
  obtain ⟨rfl, rfl⟩ := twins
  unfold acceptSubmit queueSubmitResult
  refine (Runtime.queue_twins ⟨rfl, rfl⟩).bind ?_
  rintro next _ ⟨held, rfl⟩
  exact .ok ⟨held, rfl⟩

/-- The task of a plain request is the same. -/
theorem plainTask_withStorage : plainTask (rt.withStorage other) index = plainTask rt index := rfl

/-- The task of an OPENAT is the same. -/
theorem openatTask_withStorage {resultIndex : Nat} {resourceId : ResourceId} :
    openatTask (rt.withStorage other) index resultIndex resourceId =
      openatTask rt index resultIndex resourceId := rfl

/-- The task of a CLOSE is the same. -/
theorem closeTask_withStorage {slot : Nat} {fd : Fd} :
    closeTask (rt.withStorage other) index slot fd = closeTask rt index slot fd := rfl

/-- The task of a request with a resource is the same. -/
theorem resourceTask_withStorage {slot : Nat} {buffer : Option Nat} :
    resourceTask (rt.withStorage other) index slot buffer = resourceTask rt index slot buffer := rfl

/-- The ring makes the same of a request with a resource. -/
theorem resourceSubmission_withStorage {taskIndex slot : Nat} {task : TaskSlot}
    {env : DispatchEnv} :
    resourceSubmission (rt.withStorage other) index taskIndex slot task env =
      resourceSubmission rt index taskIndex slot task env := rfl

/-- A plain request goes the same way. -/
theorem dispatchPlain_twins {env : DispatchEnv} (twins : Twins storage other rt twin) :
    Lockstep (Twins storage other) (dispatchPlain rt index env) (dispatchPlain twin index env) := by
  obtain ⟨rfl, rfl⟩ := twins
  unfold dispatchPlain
  refine .ite (fun _ => refuse_twins ⟨rfl, rfl⟩) fun _ => ?_
  simp only [findFreeTaskSlot_withStorage, plainTask_withStorage, Runtime.withStorage_setTask,
    Runtime.withStorage_ring]
  cases findFreeTaskSlot rt with
  | none => exact refuse_twins ⟨rfl, rfl⟩
  | some taskIndex =>
      dsimp only
      rcases plainSubmission taskIndex _ _ env.enter with ⟨ring, _ | errno⟩
      · exact acceptSubmit_twins ⟨rfl, rfl⟩
      · exact refuse_twins ⟨rfl, rfl⟩

/-- A reservation is taken back the same way. -/
theorem releaseReservation_twins {resultIndex : Nat} {resourceId : ResourceId}
    (twins : Twins storage other rt twin) :
    Twins storage other (releaseReservation rt index resultIndex resourceId)
      (releaseReservation twin index resultIndex resourceId) := by
  unfold releaseReservation
  obtain ⟨held, same⟩ := @clearFileSlot_twins _ _ _ _ index resultIndex twins
  dsimp only
  rw [same]
  exact ⟨held, rfl⟩

/-- An OPENAT goes the same way. -/
theorem dispatchOpenat_twins {env : DispatchEnv} (twins : Twins storage other rt twin) :
    Lockstep (Twins storage other) (dispatchOpenat rt index env)
      (dispatchOpenat twin index env) := by
  obtain ⟨rfl, rfl⟩ := twins
  unfold dispatchOpenat
  refine .ite (fun _ => refuse_twins ⟨rfl, rfl⟩) fun _ => ?_
  simp only [Runtime.withStorage_clients, Runtime.withStorage_setClient,
    findFreeTaskSlot_withStorage, openatTask_withStorage, Runtime.withStorage_setTask,
    Runtime.withStorage_ring]
  cases findFreeFileSlot (rt.clients index) with
  | none => exact refuse_twins ⟨rfl, rfl⟩
  | some resultIndex =>
      refine .ite (fun _ => refuse_twins ⟨rfl, rfl⟩) fun _ => ?_
      cases findFreeTaskSlot (rt.setClient index (allocateResourceId (rt.clients index)).2) with
      | none => exact refuse_twins ⟨rfl, rfl⟩
      | some taskIndex =>
          dsimp only
          rcases ringSubmitOpenat _ _ _ _ _ _ _ env.enter with ⟨ring, _ | errno⟩
          · exact acceptSubmit_twins ⟨rfl, rfl⟩
          · exact refuse_twins (.setTask (releaseReservation_twins ⟨rfl, rfl⟩))

/-- A CLOSE goes the same way. -/
theorem dispatchClose_twins {env : DispatchEnv} (twins : Twins storage other rt twin) :
    Lockstep (Twins storage other) (dispatchClose rt index env) (dispatchClose twin index env) := by
  obtain ⟨rfl, rfl⟩ := twins
  have refused : ∀ {errno : Errno}, Lockstep (Twins rt.registeredBufferStorage other)
      (refuse rt index errno env.now) (refuse (rt.withStorage other) index errno env.now) :=
    refuse_twins (.of_withStorage rt other)
  unfold dispatchClose
  simp only [Runtime.withStorage_clients, findFreeTaskSlot_withStorage,
    globalFileIndex_withStorage]
  cases findFileSlot (rt.clients index) (rt.clients index).resourceId with
  | none => exact refused
  | some slotIndex =>
      refine .ite (fun _ => refused) fun _ => .ite (fun _ => refused) fun _ =>
        .ite (fun _ => refused) fun _ => ?_
      cases findFreeTaskSlot rt with
      | none => exact refused
      | some taskIndex =>
          refine (updateRegisteredFile_twins (.of_withStorage rt other)).bind ?_
          rintro next _ ⟨held, rfl⟩
          simp only [closeTask_withStorage, Runtime.withStorage_setTask,
            Runtime.withStorage_setClient, Runtime.withStorage_ring]
          rcases ringSubmitClose _ _ _ _ env.enter with ⟨ring, _ | errno⟩
          · exact acceptSubmit_twins ⟨held, rfl⟩
          · refine .bind (updateRegisteredFile_twins ⟨held, rfl⟩) fun _ _ restored => ?_
            exact refuse_twins restored.setTask

/-- The submission of a task with a resource goes the same way. -/
theorem submitResourceTask_twins {env : DispatchEnv} {taskIndex slot : Nat}
    {reservation : Option (Nat × ResourceId)} (twins : Twins storage other rt twin) :
    Lockstep (Twins storage other) (submitResourceTask rt index taskIndex slot reservation env)
      (submitResourceTask twin index taskIndex slot reservation env) := by
  obtain ⟨rfl, rfl⟩ := twins
  unfold submitResourceTask
  simp only [Runtime.withStorage_tasks, resourceSubmission_withStorage, Runtime.withStorage_ring]
  rcases resourceSubmission rt index taskIndex slot (rt.tasks taskIndex) env rt.ring env.enter
    with ⟨ring, _ | errno⟩
  · exact acceptSubmit_twins ⟨rfl, rfl⟩
  · refine refuse_twins (.setTask ?_)
    rcases reservation with _ | ⟨resultIndex, resourceId⟩
    · exact ⟨rfl, rfl⟩
    · exact releaseReservation_twins ⟨rfl, rfl⟩

/-- A request with a resource goes the same way. -/
theorem dispatchResourceTask_twins {env : DispatchEnv} (twins : Twins storage other rt twin) :
    Lockstep (Twins storage other) (dispatchResourceTask rt index env)
      (dispatchResourceTask twin index env) := by
  obtain ⟨rfl, rfl⟩ := twins
  have refused : ∀ {errno : Errno}, Lockstep (Twins rt.registeredBufferStorage other)
      (refuse rt index errno env.now) (refuse (rt.withStorage other) index errno env.now) :=
    refuse_twins (.of_withStorage rt other)
  unfold dispatchResourceTask
  simp only [Runtime.withStorage_clients, findFreeTaskSlot_withStorage, resourceTask_withStorage]
  cases findFileSlot (rt.clients index) (rt.clients index).resourceId with
  | none => exact refused
  | some slotIndex =>
      refine .ite (fun _ => refused) fun _ => .ite (fun _ => refused) fun _ => ?_
      cases taskBuffer (rt.clients index) with
      | error errno => exact refused
      | ok bufferIndex =>
          refine .ite (fun _ => refused) fun _ => ?_
          cases findFreeTaskSlot rt with
          | none => exact refused
          | some taskIndex =>
              refine .ite (fun _ => ?_) fun _ => submitResourceTask_twins ⟨rfl, rfl⟩
              cases findFreeFileSlot (acquireSlots (rt.clients index) slotIndex bufferIndex) with
              | none => exact refuse_twins ⟨rfl, rfl⟩
              | some resultIndex =>
                  exact .ite (fun _ => refuse_twins ⟨rfl, rfl⟩) fun _ =>
                    submitResourceTask_twins ⟨rfl, rfl⟩

/-- Every submission goes the same way. -/
theorem dispatchSubmission_twins {env : DispatchEnv} (twins : Twins storage other rt twin) :
    Lockstep (Twins storage other) (dispatchSubmission rt index env)
      (dispatchSubmission twin index env) := by
  obtain ⟨rfl, rfl⟩ := twins
  unfold dispatchSubmission
  rw [Runtime.withStorage_clients]
  cases (rt.clients index).request.taskKind with
  | openat => exact dispatchOpenat_twins ⟨rfl, rfl⟩
  | close => exact dispatchClose_twins ⟨rfl, rfl⟩
  | sockRead | sockWrite | fileRead | fileWrite | poll | connect | accept | sockReadFixed
  | sockWriteFixed => exact dispatchResourceTask_twins ⟨rfl, rfl⟩
  | _ => exact dispatchPlain_twins ⟨rfl, rfl⟩

/-- Every request but a registration. -/
theorem dispatchRequest_twins {env : DispatchEnv} (twins : Twins storage other rt twin)
    (plain : (rt.clients index).controlOp ≠ some .registerBuffer) :
    Lockstep (Twins storage other) (dispatchRequest rt index env)
      (dispatchRequest twin index env) := by
  obtain ⟨rfl, rfl⟩ := twins
  unfold dispatchRequest
  rw [Runtime.withStorage_clients, admissionRefusal_withStorage]
  cases operation : (rt.clients index).controlOp with
  | none =>
      cases admissionRefusal rt (rt.clients index) with
      | some errno => exact refuse_twins ⟨rfl, rfl⟩
      | none => exact dispatchSubmission_twins ⟨rfl, rfl⟩
  | some control =>
      cases control with
      | registerFd => exact dispatchRegisterFd_twins ⟨rfl, rfl⟩
      | registerBuffer => exact absurd operation plain
      | releaseResource => exact dispatchReleaseResource_twins ⟨rfl, rfl⟩
      | getStats => exact dispatchGetStats_twins ⟨rfl, rfl⟩
      | getTrace => exact dispatchGetTrace_twins ⟨rfl, rfl⟩
      | _ =>
          cases admissionRefusal rt (rt.clients index) with
          | some errno => exact refuse_twins ⟨rfl, rfl⟩
          | none => exact dispatchSubmission_twins ⟨rfl, rfl⟩

/-! ## Completions -/

/-- The same preparation on another block of memory. -/
def PreparedTwins (storage other : Memory) (prepared twin : Preparation) : Prop :=
  prepared.rt.registeredBufferStorage = storage ∧
    twin = { prepared with rt := prepared.rt.withStorage other }

/-- Both branches of a decision that does not look at the block. -/
theorem PreparedTwins.ite {condition : Prop} [Decidable condition]
    {prepared twin preparedElse twinElse : Preparation}
    (yes : PreparedTwins storage other prepared twin)
    (no : PreparedTwins storage other preparedElse twinElse) :
    PreparedTwins storage other (if condition then prepared else preparedElse)
      (if condition then twin else twinElse) := by
  split
  · exact yes
  · exact no

/-- The slot for the result of a completion is filled the same way. -/
theorem Preparation.registerResult_twins {prepared twin : Preparation} {task : TaskSlot}
    {slot : Nat} {fd : Fd} {update : UpdateOutcome} {attach : Preparation → Preparation}
    (twins : PreparedTwins storage other prepared twin)
    (attached : ∀ prepared twin, PreparedTwins storage other prepared twin →
      PreparedTwins storage other (attach prepared) (attach twin)) :
    PreparedTwins storage other (prepared.registerResult task slot fd update attach)
      (twin.registerResult task slot fd update attach) := by
  obtain ⟨rfl, rfl⟩ := twins
  unfold Preparation.registerResult
  simp only [Runtime.withStorage_ring, Runtime.withStorage_clients, globalFileIndex_withStorage]
  rcases ringUpdateRegisteredFile _ _ fd update with ⟨ring, _ | errno⟩
  · exact attached _ _ ⟨rfl, rfl⟩
  · exact ⟨rfl, rfl⟩

/-- The task's connection is there or not. -/
theorem taskConnected_withStorage {task : TaskSlot} :
    taskConnected (rt.withStorage other) task = taskConnected rt task := rfl

/-- The completion of an ACCEPT is prepared the same way. -/
theorem prepareAcceptCompletion_twins {task : TaskSlot} {update : UpdateOutcome}
    {prepared twin : Preparation} (twins : PreparedTwins storage other prepared twin) :
    PreparedTwins storage other (prepareAcceptCompletion task update prepared)
      (prepareAcceptCompletion task update twin) := by
  obtain ⟨rfl, rfl⟩ := twins
  unfold prepareAcceptCompletion
  refine .ite ⟨rfl, rfl⟩ ?_
  cases task.resultFileSlotIndex with
  | none => exact ⟨rfl, rfl⟩
  | some slotIndex =>
      refine .ite ⟨rfl, rfl⟩ (.ite ⟨rfl, rfl⟩ (.ite ⟨rfl, rfl⟩ (.ite ⟨rfl, rfl⟩ ?_)))
      refine Preparation.registerResult_twins ⟨rfl, rfl⟩ ?_
      rintro _ _ ⟨held, rfl⟩
      exact .ite ⟨held, rfl⟩ ⟨held, rfl⟩

/-- The completion of an OPENAT is prepared the same way. -/
theorem prepareOpenatCompletion_twins {task : TaskSlot} {update : UpdateOutcome}
    {prepared twin : Preparation} (twins : PreparedTwins storage other prepared twin) :
    PreparedTwins storage other (prepareOpenatCompletion task update prepared)
      (prepareOpenatCompletion task update twin) := by
  obtain ⟨rfl, rfl⟩ := twins
  unfold prepareOpenatCompletion
  refine .ite ⟨rfl, rfl⟩ ?_
  cases task.resultFileSlotIndex with
  | none => exact ⟨rfl, rfl⟩
  | some slotIndex =>
      refine .ite ⟨rfl, rfl⟩ (.ite ⟨rfl, rfl⟩ (.ite ⟨rfl, rfl⟩ ?_))
      exact Preparation.registerResult_twins ⟨rfl, rfl⟩ fun _ _ same => same

/-- Every completion but that of a fixed read is prepared the same way. -/
theorem prepareCompletion_twins {task : TaskSlot} {res : Int32} {env : CompleteEnv}
    (twins : Twins storage other rt twin) :
    PreparedTwins storage other (prepareCompletion rt task res env)
      (prepareCompletion twin task res env) := by
  obtain ⟨rfl, rfl⟩ := twins
  exact prepareOpenatCompletion_twins (prepareAcceptCompletion_twins ⟨rfl, rfl⟩)

/-- Deliver preparations whose payloads are the same bytes. -/
theorem deliverCompletion_twins {task : TaskSlot} {prepared twin : Preparation}
    (twins : Twins storage other prepared.rt twin.rt) (record : twin.record = prepared.record)
    (payload : twin.payload.map (fun place => place.1.read place.2
        prepared.record.payloadLength.toNat) =
      prepared.payload.map fun place => place.1.read place.2
        prepared.record.payloadLength.toNat) :
    Lockstep (Twins storage other) (deliverCompletion task prepared)
      (deliverCompletion task twin) := by
  obtain ⟨held, same⟩ := twins
  unfold deliverCompletion
  rw [record, same, taskConnected_withStorage]
  refine .ite (fun _ => ?_) fun _ => .ok ⟨held, rfl⟩
  refine (Runtime.queue_twins ⟨held, rfl⟩).bind fun rt _ queued => ?_
  rcases place : prepared.payload with _ | ⟨memory, offset⟩
  · rw [place, Option.map_none, Option.map_eq_none_iff] at payload
    rw [payload]
    exact .ok queued
  · rw [place, Option.map_some, Option.map_eq_some_iff] at payload
    obtain ⟨⟨memoryTwin, offsetTwin⟩, placeTwin, bytes⟩ := payload
    rw [placeTwin]
    refine .ite (fun _ => ?_) fun _ => .ok queued
    dsimp only at bytes ⊢
    rw [bytes]
    exact Runtime.queue_twins queued

/-- The payload of a fixed read is taken from the storage. -/
theorem deliverRead_twins {task : TaskSlot} {res : Int32} {prepared twin : Preparation}
    (twins : PreparedTwins storage other prepared twin)
    (payload : task.taskKind = .sockReadFixed → ∀ slot, task.bufferSlotIndex = some slot → 0 < res →
      other.read (bufferStorageAt prepared.rt task.clientIndex slot)
          prepared.record.payloadLength.toNat =
        storage.read (bufferStorageAt prepared.rt task.clientIndex slot)
          prepared.record.payloadLength.toNat) :
    Lockstep (Twins storage other) (deliverCompletion task (readPayload task res prepared))
      (deliverCompletion task (readPayload task res twin)) := by
  obtain ⟨rfl, rfl⟩ := twins
  unfold readPayload
  cases kind : task.taskKind with
  | sockRead | fileRead =>
      dsimp only
      split <;> exact deliverCompletion_twins ⟨rfl, rfl⟩ rfl rfl
  | sockReadFixed =>
      simp only [Runtime.withStorage_clients]
      rcases named : task.bufferSlotIndex with _ | slot
      · exact deliverCompletion_twins ⟨rfl, rfl⟩ rfl rfl
      · dsimp only
        by_cases below : slot < (prepared.rt.clients task.clientIndex).bufferSlotLimit
        · by_cases positive : 0 < res
          · simp only [below, positive, Int32.le_of_lt positive, ↓reduceIte]
            refine deliverCompletion_twins ⟨rfl, rfl⟩ rfl ?_
            exact congrArg some (payload kind slot named positive)
          · by_cases success : 0 ≤ res
            · simp only [below, positive, success, ↓reduceIte]
              exact deliverCompletion_twins ⟨rfl, rfl⟩ rfl rfl
            · simp only [below, positive, success, ↓reduceIte]
              exact deliverCompletion_twins ⟨rfl, rfl⟩ rfl rfl
        · simp only [below, ↓reduceIte]
          exact deliverCompletion_twins ⟨rfl, rfl⟩ rfl rfl
  | _ => exact deliverCompletion_twins ⟨rfl, rfl⟩ rfl rfl

/-- The file of a task is given back the same way. -/
theorem releaseTaskFile_twins {slot : Option Nat} {frees : FileSlot → Bool}
    {update : UpdateOutcome} (twins : Twins storage other rt twin) :
    Lockstep (Twins storage other) (releaseTaskFile rt index slot frees update)
      (releaseTaskFile twin index slot frees update) := by
  obtain ⟨rfl, rfl⟩ := twins
  unfold releaseTaskFile
  cases slot with
  | none => exact .ok ⟨rfl, rfl⟩
  | some slot =>
      refine .ite (fun _ => ?_) fun _ => .ok ⟨rfl, rfl⟩
      exact .ite (fun _ => tryReleaseFileSlot_twins ⟨rfl, rfl⟩) fun _ => .ok ⟨rfl, rfl⟩

/-- The buffer of a task is given back the same way. -/
theorem releaseTaskBuffer_twins {slot : Option Nat} (twins : Twins storage other rt twin) :
    Lockstep (Twins storage other) (releaseTaskBuffer rt index slot)
      (releaseTaskBuffer twin index slot) := by
  obtain ⟨rfl, rfl⟩ := twins
  unfold releaseTaskBuffer
  cases slot with
  | none => exact .ok ⟨rfl, rfl⟩
  | some slot =>
      refine .ite (fun _ => ?_) fun _ => .ok ⟨rfl, rfl⟩
      exact .ite (fun _ => tryReleaseBufferSlot_twins ⟨rfl, rfl⟩) fun _ => .ok ⟨rfl, rfl⟩

/-- The completion is counted the same way. -/
theorem countCompletion_twins {task : TaskSlot} (twins : Twins storage other rt twin) :
    Twins storage other (countCompletion rt task) (countCompletion twin task) := by
  obtain ⟨rfl, rfl⟩ := twins
  unfold countCompletion
  rw [Runtime.withStorage_limits]
  dsimp only
  split <;> exact ⟨rfl, rfl⟩

/-- The payload that a completion takes from the storage is the same on both blocks. -/
def SamePayload (rt : Runtime) (other : Memory) (taskIndex : Nat) (res : Int32) : Prop :=
  (rt.tasks taskIndex).taskKind = .sockReadFixed →
    ∀ slot, (rt.tasks taskIndex).bufferSlotIndex = some slot → 0 < res →
      other.read (bufferStorageAt rt (rt.tasks taskIndex).clientIndex slot)
          res.toUInt32.toUInt16.toNat =
        rt.registeredBufferStorage.read
          (bufferStorageAt rt (rt.tasks taskIndex).clientIndex slot) res.toUInt32.toUInt16.toNat

/-- A completion whose payload is the same on both blocks goes the same way. -/
theorem completeTask_twins {taskIndex : Nat} {res : Int32} {env : CompleteEnv}
    (twins : Twins storage other rt twin) (payload : SamePayload rt other taskIndex res) :
    Lockstep (Twins storage other) (completeTask rt taskIndex res env)
      (completeTask twin taskIndex res env) := by
  obtain ⟨rfl, rfl⟩ := twins
  have prepared := @prepareCompletion_twins _ _ _ _ (rt.tasks taskIndex) res env
    (.of_withStorage rt other)
  -- the preparations of ACCEPT and OPENAT leave a fixed read alone
  have plain : (rt.tasks taskIndex).taskKind = .sockReadFixed →
      prepareCompletion rt (rt.tasks taskIndex) res env =
        ⟨rt, completionRecord (rt.tasks taskIndex) res, none⟩ := by
    intro kind
    simp only [prepareCompletion, prepareAcceptCompletion, prepareOpenatCompletion, kind, ne_eq,
      reduceCtorEq, not_false_eq_true, true_or, ↓reduceIte]
  have forClient : Lockstep (Twins rt.registeredBufferStorage other)
      (completeForClient (rt.tasks taskIndex) res env
        (prepareCompletion rt (rt.tasks taskIndex) res env))
      (completeForClient (rt.tasks taskIndex) res env
        (prepareCompletion (rt.withStorage other) (rt.tasks taskIndex) res env)) := by
    refine .bind (deliverRead_twins prepared ?_) fun _ _ delivered => ?_
    · intro kind slot named positive
      have length : (completionRecord (rt.tasks taskIndex) res).payloadLength =
          res.toUInt32.toUInt16 := by
        simp only [completionRecord, kind, positive, ↓reduceIte]
      rw [plain kind]
      dsimp only
      rw [length]
      exact payload kind slot named positive
    · refine (releaseTaskFile_twins delivered).bind fun _ _ released => ?_
      exact (releaseTaskFile_twins released).bind fun _ _ result => releaseTaskBuffer_twins result
  obtain ⟨held, twin⟩ := prepared
  -- what follows once the client has been told
  have finish : ∀ next nextTwin, Twins rt.registeredBufferStorage other next nextTwin →
      Twins rt.registeredBufferStorage other
        (settle next (rt.tasks taskIndex) taskIndex
          (prepareCompletion rt (rt.tasks taskIndex) res env).record.res env.now)
        (settle nextTwin (rt.tasks taskIndex) taskIndex
          (prepareCompletion rt (rt.tasks taskIndex) res env).record.res env.now) := by
    intro next nextTwin same
    obtain ⟨kept, counted⟩ := @countCompletion_twins _ _ _ _ (rt.tasks taskIndex) same
    unfold settle
    rw [counted]
    exact ⟨kept, rfl⟩
  unfold completeTask
  rw [Runtime.withStorage_tasks, Runtime.withStorage_limits]
  dsimp only
  refine .ite (fun _ => ?_) fun _ => ?_
  · refine forClient.bind fun next nextTwin same => ?_
    rw [twin]
    exact .ok (finish next nextTwin same)
  · rw [twin]
    exact .ok (finish _ _ ⟨held, rfl⟩)

/-! ## Sweeping, input and output -/

/-- What a loop with a flag keeps. -/
def FlaggedTwins (storage other : Memory) (state twin : Runtime × Bool) : Prop :=
  Twins storage other state.1 twin.1 ∧ twin.2 = state.2

/-- A turn of the sweep over the files goes the same way. -/
theorem sweepFileSlot_twins {updates : Nat → Nat → UpdateOutcome} {slot : Nat}
    {state stateTwin : Runtime × Bool} (twins : FlaggedTwins storage other state stateTwin) :
    Lockstep (FlaggedTwins storage other) (sweepFileSlot index updates state slot)
      (sweepFileSlot index updates stateTwin slot) := by
  obtain ⟨rt, flag⟩ := state
  obtain ⟨twin, flagTwin⟩ := stateTwin
  obtain ⟨⟨rfl, same⟩, flags⟩ := twins
  dsimp only at same flags
  subst same flags
  refine .ite (fun _ => .ok ⟨⟨rfl, rfl⟩, rfl⟩) fun _ => ?_
  exact .bind (tryReleaseFileSlot_twins ⟨rfl, rfl⟩) fun _ _ released => .ok ⟨released, rfl⟩

/-- A turn of the sweep over the buffers goes the same way. -/
theorem sweepBufferSlot_twins {slot : Nat} {state stateTwin : Runtime × Bool}
    (twins : FlaggedTwins storage other state stateTwin) :
    Lockstep (FlaggedTwins storage other) (sweepBufferSlot index state slot)
      (sweepBufferSlot index stateTwin slot) := by
  obtain ⟨rt, flag⟩ := state
  obtain ⟨twin, flagTwin⟩ := stateTwin
  obtain ⟨⟨rfl, same⟩, flags⟩ := twins
  dsimp only at same flags
  subst same flags
  refine .ite (fun _ => .ok ⟨⟨rfl, rfl⟩, rfl⟩) fun _ => ?_
  exact .bind (tryReleaseBufferSlot_twins ⟨rfl, rfl⟩) fun _ _ released => .ok ⟨released, rfl⟩

/-- The whole sweep goes the same way. -/
theorem sweepClosingResources_twins {updates : Nat → Nat → UpdateOutcome}
    (twins : Twins storage other rt twin) :
    Lockstep (FlaggedTwins storage other) (sweepClosingResources rt updates)
      (sweepClosingResources twin updates) := by
  obtain ⟨rfl, rfl⟩ := twins
  refine .foldlM ⟨.of_withStorage rt other, rfl⟩ ?_
  intro state stateTwin client same
  unfold sweepClient
  rw [same.1.2, Runtime.withStorage_clients]
  refine .bind (.foldlM same fun _ _ _ => sweepFileSlot_twins) fun swept sweptTwin files => ?_
  rw [files.1.2, Runtime.withStorage_clients]
  exact .foldlM files fun _ _ _ => sweepBufferSlot_twins

/-- Twins close the same descriptors. -/
theorem closeAll_twins {fds : List Fd} (twins : Twins storage other rt twin) :
    Twins storage other (fds.foldl Runtime.close rt) (fds.foldl Runtime.close twin) := by
  induction fds generalizing rt twin with
  | nil => exact twins
  | cons fd fds ih =>
      obtain ⟨rfl, rfl⟩ := twins
      exact ih ⟨rfl, rfl⟩

/-- Twins close the same connection. -/
theorem closeClient_twins (twins : Twins storage other rt twin) :
    Twins storage other (closeClient rt index) (closeClient twin index) := by
  obtain ⟨rfl, rfl⟩ := twins
  unfold closeClient
  rw [Runtime.withStorage_clients]
  dsimp only
  split <;> split <;> exact ⟨rfl, rfl⟩

/-- Twins open the same connection. -/
theorem openClient_twins {fd : Fd} {env : OpenEnv} (twins : Twins storage other rt twin) :
    Twins storage other (openClient rt fd env) (openClient twin fd env) := by
  obtain ⟨rfl, rfl⟩ := twins
  have reused : reusableClient (rt.withStorage other) = reusableClient rt := rfl
  unfold openClient
  rw [reused]
  split
  · exact ⟨rfl, rfl⟩
  · split
    · exact ⟨rfl, rfl⟩
    · split <;> exact ⟨rfl, rfl⟩

/-- They flush the same bytes. -/
theorem flushOrClose_twins {writes : List WriteOutcome} (twins : Twins storage other rt twin) :
    Twins storage other (flushOrClose rt index writes).1 (flushOrClose twin index writes).1 := by
  obtain ⟨rfl, rfl⟩ := twins
  unfold flushOrClose
  rw [Runtime.withStorage_clients]
  dsimp only
  split
  · exact closeClient_twins ⟨rfl, rfl⟩
  · exact ⟨rfl, rfl⟩

/-- They answer a handshake the same way. -/
theorem queueHandshakeResult_twins {request : HandshakeRequest}
    (twins : Twins storage other rt twin) :
    Lockstep (Twins storage other) (queueHandshakeResult rt index request)
      (queueHandshakeResult twin index request) := by
  obtain ⟨rfl, rfl⟩ := twins
  unfold queueHandshakeResult
  refine .bind (Runtime.queue_twins ⟨rfl, rfl⟩) ?_
  rintro next _ ⟨held, rfl⟩
  exact .ok ⟨held, rfl⟩

/-- They read the same from a client. -/
theorem serviceLoop_twins {fuel : Nat} {progress : Bool} {incoming : List RecvOutcome}
    (twins : Twins storage other rt twin) :
    Lockstep (fun result resultTwin => Twins storage other result.1 resultTwin.1 ∧
        resultTwin.2 = result.2)
      (serviceLoop index fuel rt progress incoming)
      (serviceLoop index fuel twin progress incoming) := by
  induction fuel generalizing rt twin progress incoming with
  | zero => exact .ok ⟨twins, rfl⟩
  | succ fuel ih =>
      obtain ⟨rfl, rfl⟩ := twins
      unfold serviceLoop
      rw [Runtime.withStorage_clients]
      refine .ite (fun _ => .ok ⟨.of_withStorage rt other, rfl⟩) fun _ => ?_
      generalize readClientInput (rt.clients index) incoming = read
      obtain ⟨held, same⟩ : Twins rt.registeredBufferStorage other
          (read.closedFds.foldl Runtime.close (rt.setClient index read.client))
          (read.closedFds.foldl Runtime.close
            ((rt.withStorage other).setClient index read.client)) := closeAll_twins ⟨rfl, rfl⟩
      dsimp only
      rw [same]
      generalize read.closedFds.foldl Runtime.close (rt.setClient index read.client) = middle
        at held
      cases read.status with
      | closed => exact .ok ⟨closeClient_twins ⟨held, rfl⟩, rfl⟩
      | failed errno => exact .ok ⟨closeClient_twins ⟨held, rfl⟩, rfl⟩
      | again => exact .ok ⟨⟨held, rfl⟩, rfl⟩
      | full =>
          dsimp only
          cases read.client.phase with
          | handshake =>
              refine .bind (queueHandshakeResult_twins ⟨held, rfl⟩) fun _ _ answered => ?_
              exact .ok ⟨answered, rfl⟩
          | submit =>
              dsimp only
              cases processSubmitInput read.client with
              | error _ => exact .ok ⟨closeClient_twins ⟨held, rfl⟩, rfl⟩
              | ok client => exact .ite (fun _ => .ok ⟨⟨held, rfl⟩, rfl⟩) fun _ => ih ⟨held, rfl⟩

/-! ## Steps -/

/-- A dispatched request goes the same way, and a registration writes the same bytes into both
blocks. -/
theorem dispatchClientRequest_registers {env : DispatchEnv} (rt : Runtime) (other : Memory)
    (index : Nat) :
    Lockstep (fun result resultTwin => Registers rt other index result.1 resultTwin.1)
      (dispatchClientRequest rt index env)
      (dispatchClientRequest (rt.withStorage other) index env) := by
  have dispatched : Lockstep (Registers rt other index) (dispatchRequest rt index env)
      (dispatchRequest (rt.withStorage other) index env) := by
    by_cases registers : (rt.clients index).controlOp = some .registerBuffer
    · unfold dispatchRequest
      rw [Runtime.withStorage_clients, registers]
      exact dispatchRegisterBuffer_registers rt other
    · exact (dispatchRequest_twins ⟨rfl, rfl⟩ registers).mono fun _ _ twins =>
        .apart twins fun registration => absurd registration registers
  unfold dispatchClientRequest
  rw [Runtime.withStorage_clients]
  refine .ite (fun _ => dispatched.bind fun _ _ both => .ok both) fun _ => ?_
  exact .ok (.apart ⟨rfl, rfl⟩ fun _ => rfl)

/-- The task that an action completes, and its result. -/
def Runtime.completing (rt : Runtime) : Action → Option (Nat × Int32)
  | .complete taskIndex res _ => if rt.occupied taskIndex then some (taskIndex, res) else none
  | .reap _ => (ringPeekCompletion rt.ring).2.bind fun cqe =>
      (findTaskSlot rt cqe.userData).map fun taskIndex => (taskIndex, cqe.res)
  | _ => none

/-- They reap the same completion, if its payload is the same on both blocks. -/
theorem reapCompletion_twins {env : CompleteEnv}
    (payload : ∀ taskIndex res, rt.completing (.reap env) = some (taskIndex, res) →
      SamePayload rt other taskIndex res) :
    Lockstep (fun result resultTwin =>
        Twins rt.registeredBufferStorage other (result.getD rt)
          (resultTwin.getD (rt.withStorage other)))
      (reapCompletion rt env) (reapCompletion (rt.withStorage other) env) := by
  unfold reapCompletion
  simp only [Runtime.completing] at payload
  rw [Runtime.withStorage_ring]
  rcases peeked : ringPeekCompletion rt.ring with ⟨ring, _ | cqe⟩
  · exact .ok ⟨rfl, rfl⟩
  · have place : findTaskSlot ({ rt.withStorage other with ring }) cqe.userData =
        findTaskSlot { rt with ring } cqe.userData := rfl
    dsimp only
    rw [place]
    cases found : findTaskSlot { rt with ring } cqe.userData with
    | none => exact .error _
    | some taskIndex =>
        have located : findTaskSlot rt cqe.userData = some taskIndex := found
        rw [peeked] at payload
        have same : SamePayload rt other taskIndex cqe.res := by
          apply payload taskIndex cqe.res
          rw [Option.bind_some, located, Option.map_some]
        have twins : Twins rt.registeredBufferStorage other { rt with ring }
            { rt.withStorage other with ring } := ⟨rfl, rfl⟩
        refine (completeTask_twins twins same).bind fun _ _ twins => ?_
        exact .ok twins

/-- How a step goes on two blocks: both stay as they are or take the same write. -/
inductive StepTwins (rt : Runtime) (other : Memory) (action : Action) (next nextTwin : Runtime) :
    Prop
  | apart (twins : Twins rt.registeredBufferStorage other next nextTwin)
      (daemon : ∀ offset bytes, action ≠ .store (.storage offset bytes))
      (slots : ∀ index env, action = .dispatch index env →
        (rt.clients index).controlOp = some .registerBuffer →
          (next.clients index).bufferResources = (rt.clients index).bufferResources)
  | registered (index slot : Nat) (env : DispatchEnv) (dispatch : action = .dispatch index env)
      (found : findFreeBufferSlot (rt.clients index) = some slot)
      (twins : Twins
        (rt.registeredBufferStorage.write (bufferStorageAt rt index slot)
          ((rt.clients index).ioPayload.read 0 (rt.clients index).ioLength.toNat))
        (other.write (bufferStorageAt rt index slot)
          ((rt.clients index).ioPayload.read 0 (rt.clients index).ioLength.toNat)) next nextTwin)
  | stored (offset : Nat) (bytes : List UInt8) (kernel : action = .store (.storage offset bytes))
      (twins : Twins (rt.registeredBufferStorage.write offset bytes) (other.write offset bytes) next
        nextTwin)

/-- A step on two blocks fails on both or goes the same way on both. -/
theorem step_twins {action : Action} (payload : ∀ taskIndex res,
    rt.completing action = some (taskIndex, res) → SamePayload rt other taskIndex res) :
    Lockstep (StepTwins rt other action) (step rt action) (step (rt.withStorage other) action) := by
  have same : ∀ {next nextTwin : Runtime},
      (∀ offset bytes, action ≠ .store (.storage offset bytes)) →
      (∀ index env, action ≠ .dispatch index env) →
      Twins rt.registeredBufferStorage other next nextTwin →
      StepTwins rt other action next nextTwin := by
    intro next nextTwin daemon plain twins
    exact .apart twins daemon fun index env dispatch => absurd dispatch (plain index env)
  cases action with
  | connect fd env =>
      exact .ite (fun _ => .ok (same nofun nofun (openClient_twins ⟨rfl, rfl⟩))) fun _ =>
        .ok (same nofun nofun ⟨rfl, rfl⟩)
  | input index incoming =>
      refine .ite (fun _ => ?_) fun _ => .ok (same nofun nofun ⟨rfl, rfl⟩)
      refine .bind (serviceLoop_twins ⟨rfl, rfl⟩) fun _ _ both => ?_
      exact .ok (same nofun nofun both.1)
  | dispatch index env =>
      refine .ite (fun _ => ?_) fun _ => ?_
      · refine (dispatchClientRequest_registers rt other index).bind fun _ _ both => .ok ?_
        cases both with
        | apart twins slots =>
            refine .apart twins nofun ?_
            intro client calls dispatch operation
            cases dispatch
            exact slots operation
        | registered slot found twins => exact .registered index slot env rfl found twins
      · refine .ok (.apart ⟨rfl, rfl⟩ nofun ?_)
        intro client calls dispatch operation
        rfl
  | complete taskIndex res env =>
      refine .ite (fun held => ?_) fun _ => .ok (same nofun nofun ⟨rfl, rfl⟩)
      refine (completeTask_twins ⟨rfl, rfl⟩ ?_).mono fun _ _ => same nofun nofun
      exact payload taskIndex res (if_pos held)
  | reap env =>
      exact (reapCompletion_twins payload).bind fun _ _ both => .ok (same nofun nofun both)
  | sweep updates =>
      refine .bind (sweepClosingResources_twins ⟨rfl, rfl⟩) fun _ _ both => ?_
      exact .ok (same nofun nofun both.1)
  | flush index writes =>
      exact .ite (fun _ => .ok (same nofun nofun (flushOrClose_twins ⟨rfl, rfl⟩))) fun _ =>
        .ok (same nofun nofun ⟨rfl, rfl⟩)
  | disconnect index =>
      exact .ite (fun _ => .ok (same nofun nofun (closeClient_twins ⟨rfl, rfl⟩))) fun _ =>
        .ok (same nofun nofun ⟨rfl, rfl⟩)
  | moveCursor cursor => exact .ok (same nofun nofun ⟨rfl, rfl⟩)
  | post position res => exact .ok (same nofun nofun ⟨rfl, rfl⟩)
  | store store =>
      cases store with
      | storage offset bytes => exact .ok (.stored offset bytes rfl ⟨rfl, rfl⟩)
      | ioBuffer taskIndex bytes => exact .ok (same nofun nofun ⟨rfl, rfl⟩)
      | sockaddrLength taskIndex length => exact .ok (same nofun nofun ⟨rfl, rfl⟩)

end Twins

end Iouringd
