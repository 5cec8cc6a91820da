import Iouringd.Foundation.History
import Iouringd.Daemon.Admission
import Iouringd.Daemon.Submissions

/-! # The data of reads

The kernel runs a read by storing its data at the submitted address and posting the number
of bytes. The data of SOCK_READ and FILE_READ goes into a buffer of the task; the data of
SOCK_READ_FIXED goes into the storage of a registered buffer, which other fixed reads of
the client may use at the same time, and the payload of a completion is taken from there
when the completion is read.
-/

namespace Iouringd

open Foundation

/-! ## The kernel's side of a read -/

/-- The write by which the kernel hands over the data of a read. -/
def Sqe.store (sqe : Sqe) (data : List UInt8) : Option KernelStore :=
  match sqe.opcode, sqe.addr with
  | .readv, .ioVector taskIndex => some (.ioBuffer taskIndex data)
  | .readFixed, .storage offset => some (.storage offset data)
  | _, _ => none

/-- The number of bytes a read asks for. -/
def Sqe.wanted (sqe : Sqe) (rt : Runtime) : Nat :=
  match sqe.addr with
  | .ioVector taskIndex => (rt.tasks taskIndex).ioVectorLen.toNat
  | _ => sqe.len.toNat

/-- A step of the daemon or its kernel, where the kernel may also store the data of the
read at a position of the operations it runs. -/
inductive ReadMove where
  | act (action : Action)
  | fetch (position : Nat) (data : List UInt8)

/-- The read at a position of the running operations, with the write that hands over its
data. -/
def fetchAt (rt : Runtime) (position : Nat) (data : List UInt8) : Option (Sqe × KernelStore) :=
  match rt.ring.kernel.executing[position]? with
  | some sqe => (sqe.store data).map fun store => (sqe, store)
  | none => none

def readStep (rt : Runtime) : ReadMove → Except Errno Runtime
  | .act action => step rt action
  | .fetch position data =>
      match fetchAt rt position data with
      | some (_, store) => step rt (.store store)
      | none => .ok rt

/-- The data the kernel stored, by task, and the completions that were delivered, each with
its payload. -/
structure Reads where
  fetched : TaskId → List UInt8
  delivered : List (CompletionRecord × List UInt8)

def Reads.initial : Reads := ⟨fun _ => [], []⟩

/-- The task whose completion is read next. -/
def reapedTask (rt : Runtime) : Option Nat :=
  (ringPeekCompletion rt.ring).2.bind fun cqe => findTaskSlot rt cqe.userData

/-- The completion among the bytes that reading it queued. -/
def deliveredCompletion (bytes : List UInt8) : List (CompletionRecord × List UInt8) :=
  if bytes = [] then []
  else [(.decode (bytes.take CompletionRecord.size), bytes.drop CompletionRecord.size)]

def Reads.note (rt : Runtime) (move : ReadMove) (next : Runtime) (reads : Reads) : Reads :=
  match move with
  | .fetch position data =>
      match fetchAt rt position data with
      | some (sqe, _) => { reads with fetched := Function.update reads.fetched sqe.userData data }
      | none => reads
  | .act (.reap _) =>
      match reapedTask rt with
      | some taskIndex =>
          { reads with
            delivered := reads.delivered ++
              deliveredCompletion (queuedBytes rt next (rt.tasks taskIndex).clientIndex) }
      | none => reads
  | _ => reads

/-- What the kernel does: it stores the data of a read once and no more than was asked for,
posts the number of bytes it stored, and besides reads writes only the address of an
ACCEPT. -/
def kernelKeeps (state : Runtime × Reads) : ReadMove → Bool
  | .fetch position data =>
      match fetchAt state.1 position data with
      | some (sqe, _) =>
          (state.2.fetched sqe.userData).isEmpty && decide (data.length ≤ sqe.wanted state.1)
      | none => true
  | .act (.post position res) =>
      match fetchAt state.1 position [] with
      | some (sqe, _) => decide (res.toInt.toNat = (state.2.fetched sqe.userData).length)
      | none => true
  | .act (.store (.storage _ _)) => false
  | .act (.store (.ioBuffer taskIndex _)) => (state.1.tasks taskIndex).taskKind == .accept
  | .act action => action.looped

/-- No `io_uring_enter` fails, and data stored in a registered buffer agrees with the data
of every other fixed read into that buffer that was stored and not yet delivered. -/
def undisturbed (state : Runtime × Reads) : ReadMove → Bool
  | .act (.dispatch index env) => (Action.dispatch index env).clean
  | .act _ => true
  | .fetch position data =>
      match fetchAt state.1 position data with
      | some (sqe, _) => (List.range state.1.taskCapacity).all fun other =>
          let stored := state.2.fetched (state.1.tasks other).taskId
          !(state.1.occupied other && (taskSqe state.1 other).opcode == .readFixed &&
            sqe.opcode == .readFixed && (taskSqe state.1 other).addr == sqe.addr) ||
          data.take stored.length == stored.take data.length
      | none => true

/-- Every completion of a read was delivered with the data that was stored for it. -/
def Reads.faithful (reads : Reads) : Prop :=
  ∀ entry ∈ reads.delivered, (RequestKind.ofWire entry.1.taskKind).reads = true →
    entry.2 = reads.fetched entry.1.taskId

/-! ## What an active read has in its buffer -/

/-- The data stored for a read is where its completion will look for it. -/
structure Stored (rt : Runtime) (taskIndex : Nat) (data : List UInt8) : Prop where
  length : data.length ≤ (rt.tasks taskIndex).ioLength.toNat
  plain : (rt.tasks taskIndex).taskKind ≠ .sockReadFixed →
    (rt.tasks taskIndex).ioBuffer.read 0 data.length = data
  fixed : (rt.tasks taskIndex).taskKind = .sockReadFixed →
    ∀ slot, (rt.tasks taskIndex).bufferSlotIndex = some slot →
      rt.registeredBufferStorage.read
        (bufferStorageAt rt (rt.tasks taskIndex).clientIndex slot) data.length = data

section Steps

variable {config : Config} {rt next : Runtime} {action : Action} {taskIndex : Nat}

theorem Stored.nothing (rt : Runtime) (taskIndex : Nat) : Stored rt taskIndex [] :=
  ⟨Nat.zero_le _, fun _ => rfl, fun _ _ _ => rfl⟩

/-- Besides the kernel nothing writes the buffer of a task that stays active. -/
theorem Invariant.ioBuffer_kept (invariant : Invariant config rt)
    (taken : step rt action = .ok next) (daemon : ∀ store, action ≠ .store store)
    (before : rt.occupied taskIndex = true) (after : next.occupied taskIndex = true) :
    (next.tasks taskIndex).ioBuffer = (rt.tasks taskIndex).ioBuffer := by
  cases step_effect invariant.grounded taken with
  | stored store => exact absurd rfl (daemon store)
  | served index incoming _ connected only served => rw [only.frame]
  | flushed index writes _ connected only flushed => rw [only.frame]
  | disconnected index connected =>
      have only : OnlyClient rt index (closeClient rt index) := .closeClient
      rw [only.frame]
  | swept updates _ swept slots => rw [swept.frame]
  | completed action slot res ring _ occupied source completed =>
      obtain ⟨-, -, same⟩ := Ledger.occupied_of_completed completed after
      rw [same]
  | dispatched index env middle bytes _ connected ready change answered =>
      have answer : next.tasks = middle.tasks := by rw [answered]
      rw [answer]
      cases change with
      | accepted slot started credits type admitted start =>
          have apart : taskIndex ≠ slot := by
            intro same
            subst same
            rw [Runtime.occupied, start.slot.2, Bool.and_false] at before
            cases before
          rw [start.task_other _ apart]
      | fileReleased slot ring result operation found idle updated =>
          unfold clearFileSlot
          dsimp only
          split <;> rfl
      | refused _ errno credits type rolledBack =>
          rcases rolledBack.tasks taskIndex with same | ⟨vacant, -⟩
          · rw [same]
          · rw [Runtime.occupied, vacant, Bool.and_false] at before
            cases before
      | _ => rfl
  | _ => rfl

/-- What was stored for a task stays, but for writes by the kernel. -/
theorem Stored.stepped {data : List UInt8} (stored : Stored rt taskIndex data)
    (invariant : Invariant config rt) (vetted : Vetted rt) (taken : step rt action = .ok next)
    (reads : (rt.tasks taskIndex).taskKind.reads = true)
    (daemon : ∀ store, action ≠ .store store) (before : rt.occupied taskIndex = true)
    (after : next.occupied taskIndex = true) : Stored next taskIndex data := by
  have shape := step_shape invariant.grounded taken
  have limits := shape.constants.1
  have buffer := invariant.ioBuffer_kept taken daemon before after
  have fits := Nat.le_trans stored.length ((vetted taskIndex before).length reads)
  refine ⟨?_, ?_, ?_⟩
  · rw [shape.same_task before after]
    exact stored.length
  · intro kind
    rw [shape.same_task before after] at kind
    rw [buffer]
    exact stored.plain kind
  · intro kind slot named
    rw [shape.same_task before after] at kind named ⊢
    have region := invariant.step_region taken daemon before named
    have held := stored.fixed kind slot named
    have place : bufferStorageAt next (rt.tasks taskIndex).clientIndex slot =
        bufferStorageAt rt (rt.tasks taskIndex).clientIndex slot := by
      unfold bufferStorageAt globalBufferIndex
      rw [limits]
    unfold bufferRegion at region
    rw [place, limits] at region
    have part := congrArg (List.take data.length) region
    rw [Memory.take_read _ _ _ _ fits, Memory.take_read _ _ _ _ fits] at part
    rw [place]
    exact part.trans held

end Steps

/-! ## The payload of a completed read -/

section Payload

variable {rt : Runtime} {task : TaskSlot} {res : Int32}

/-- A result that is no error and fits the length field is that length. -/
theorem payloadLength_of_positive (positive : 0 < res) (small : res.toInt.toNat < 65536) :
    res.toUInt32.toUInt16.toNat = res.toInt.toNat := by
  have wide : res.toUInt32.toNat = res.toInt.toNat :=
    Int32.toNat_toUInt32_of_le (Int32.le_of_lt positive)
  rw [UInt32.toNat_toUInt16, wide, Nat.mod_eq_of_lt small]

/-- A completion that counts the stored bytes carries them. -/
theorem readPayload_stored {taskIndex : Nat} {data : List UInt8} {ring : Ring}
    (stored : Stored rt taskIndex data) (placed : Placed rt (rt.tasks taskIndex))
    (reads : (rt.tasks taskIndex).taskKind.reads = true) (small : data.length < 65536)
    (counted : res.toInt.toNat = data.length) :
    (readPayload (rt.tasks taskIndex) res
      ⟨{ rt with ring }, completionRecord (rt.tasks taskIndex) res, none⟩).payloadBytes = data := by
  by_cases positive : 0 < res
  · have length : res.toUInt32.toUInt16.toNat = data.length := by
      rw [payloadLength_of_positive positive (counted ▸ small), counted]
    cases kind : (rt.tasks taskIndex).taskKind with
    | sockRead | fileRead =>
        have held := stored.plain (by rw [kind]; nofun)
        simp only [readPayload, kind, positive, ↓reduceIte, Preparation.payloadBytes,
          completionRecord, length, held]
    | sockReadFixed =>
        obtain ⟨slot, named⟩ := Option.ne_none_iff_exists'.mp (placed.fixed kind)
        have held := stored.fixed kind slot named
        have below := placed.buffer slot named
        have nonnegative : 0 ≤ res := Int32.le_of_lt positive
        simp only [readPayload, kind, named, below, positive, nonnegative, ↓reduceIte,
          Preparation.payloadBytes, completionRecord, length]
        exact held
    | _ =>
        rw [kind] at reads
        cases reads
  · have nothing : data = [] := by
      have below : res.toInt ≤ 0 := Int32.le_iff_toInt_le.mp (Int32.not_lt.mp positive)
      apply List.eq_nil_of_length_eq_zero
      omega
    cases kind : (rt.tasks taskIndex).taskKind with
    | sockRead | fileRead =>
        simp only [readPayload, kind, positive, ↓reduceIte, Preparation.payloadBytes, nothing]
    | sockReadFixed =>
        obtain ⟨slot, named⟩ := Option.ne_none_iff_exists'.mp (placed.fixed kind)
        have below := placed.buffer slot named
        simp only [readPayload, kind, named, below, positive, ↓reduceIte,
          Preparation.payloadBytes, nothing]
    | _ =>
        rw [kind] at reads
        cases reads

end Payload

/-! ## Runs -/

/-- The stored data is in place for every active read, the posted results count it, and
what was delivered is settled. -/
structure Faithful (config : Config) (state : Runtime × Reads) : Prop where
  invariant : Invariant config state.1
  matched : Matched state.1
  vetted : Vetted state.1
  known : ∀ id, state.2.fetched id ≠ [] → id < state.1.nextTaskId
  stored : ∀ taskIndex, state.1.occupied taskIndex = true →
    (state.1.tasks taskIndex).taskKind.reads = true →
      Stored state.1 taskIndex (state.2.fetched (state.1.tasks taskIndex).taskId)
  posted : ∀ cqe ∈ state.1.ring.posted, ∀ taskIndex, state.1.occupied taskIndex = true →
    (state.1.tasks taskIndex).taskId = cqe.userData →
      (state.1.tasks taskIndex).taskKind.reads = true →
        cqe.res.toInt.toNat = (state.2.fetched cqe.userData).length
  settled : ∀ entry ∈ state.2.delivered, entry.1.taskId < state.1.nextTaskId ∧
    ∀ taskIndex, state.1.occupied taskIndex = true →
      (state.1.tasks taskIndex).taskId ≠ entry.1.taskId
  faithful : state.2.faithful

section Runs

variable {config : Config} {rt next : Runtime} {reads : Reads} {action : Action}

/-- Where the data of a plain read goes. -/
theorem taskSqe_plain {taskIndex : Nat} (isRead : (rt.tasks taskIndex).taskKind.reads = true)
    (plain : (rt.tasks taskIndex).taskKind ≠ .sockReadFixed) (data : List UInt8) :
    (taskSqe rt taskIndex).store data = some (.ioBuffer taskIndex data) ∧
      (taskSqe rt taskIndex).wanted rt = (rt.tasks taskIndex).ioVectorLen.toNat := by
  cases kind : (rt.tasks taskIndex).taskKind with
  | sockRead | fileRead => simp only [taskSqe, kind, Sqe.store, Sqe.wanted, and_self]
  | sockReadFixed => exact absurd kind plain
  | _ =>
      rw [kind] at isRead
      cases isRead

/-- Where the data of a fixed read goes. -/
theorem taskSqe_fixed {taskIndex : Nat} (kind : (rt.tasks taskIndex).taskKind = .sockReadFixed)
    (data : List UInt8) :
    (taskSqe rt taskIndex).store data = some (.storage (bufferStorageAt rt
      (rt.tasks taskIndex).clientIndex ((rt.tasks taskIndex).bufferSlotIndex.getD 0)) data) ∧
    (taskSqe rt taskIndex).wanted rt = (rt.tasks taskIndex).ioLength.toNat ∧
    (taskSqe rt taskIndex).opcode = .readFixed ∧
    (taskSqe rt taskIndex).addr = .storage (bufferStorageAt rt (rt.tasks taskIndex).clientIndex
      ((rt.tasks taskIndex).bufferSlotIndex.getD 0)) := by
  simp only [taskSqe, kind, Sqe.store, Sqe.wanted, and_self]

/-- The operation of a read stores its data. -/
theorem taskSqe_store {taskIndex : Nat} (isRead : (rt.tasks taskIndex).taskKind.reads = true)
    (data : List UInt8) : ∃ store, (taskSqe rt taskIndex).store data = some store := by
  by_cases kind : (rt.tasks taskIndex).taskKind = .sockReadFixed
  · exact ⟨_, (taskSqe_fixed kind data).1⟩
  · exact ⟨_, (taskSqe_plain isRead kind data).1⟩

/-- No other operation does. -/
theorem reads_of_store {taskIndex : Nat} {data : List UInt8} {store : KernelStore}
    (stores : (taskSqe rt taskIndex).store data = some store) :
    (rt.tasks taskIndex).taskKind.reads = true := by
  unfold taskSqe at stores
  cases kind : (rt.tasks taskIndex).taskKind with
  | sockRead | fileRead | sockReadFixed => rfl
  | _ =>
      simp only [kind] at stores
      cases stores

/-- An operation that stores data is that of an active read. -/
theorem Matched.fetching (matched : Matched rt) {position : Nat} {data : List UInt8} {sqe : Sqe}
    {store : KernelStore} (fetching : fetchAt rt position data = some (sqe, store)) :
    rt.ring.kernel.executing[position]? = some sqe ∧ sqe.store data = some store ∧
      ∃ taskIndex, rt.occupied taskIndex = true ∧ sqe = taskSqe rt taskIndex := by
  unfold fetchAt at fetching
  split at fetching
  · rename_i executing
    obtain ⟨written, stores, same⟩ := Option.map_eq_some_iff.mp fetching
    cases same
    exact ⟨executing, stores, matched.sqes sqe
      (List.mem_append_left _ (List.mem_of_getElem? executing))⟩
  · cases fetching

/-- Ids that were read about lie behind the counter. -/
theorem Faithful.stepped_known {after : Reads} (faithful : Faithful config (rt, reads))
    (taken : step rt action = .ok next) (same : after.fetched = reads.fetched) :
    ∀ id, after.fetched id ≠ [] → id < next.nextTaskId := by
  intro id some
  rw [same] at some
  exact UInt64.lt_of_lt_of_le (faithful.known id some)
    (step_shape faithful.invariant.grounded taken).nextTaskId_le

/-- The data of the reads that are active after a step that is no write by the kernel. -/
theorem Faithful.stepped_stored (faithful : Faithful config (rt, reads))
    (taken : step rt action = .ok next) (daemon : ∀ store, action ≠ .store store)
    (taskIndex : Nat) (after : next.occupied taskIndex = true)
    (isRead : (next.tasks taskIndex).taskKind.reads = true) :
    Stored next taskIndex (reads.fetched (next.tasks taskIndex).taskId) := by
  have shape := step_shape faithful.invariant.grounded taken
  by_cases older : (next.tasks taskIndex).taskId < rt.nextTaskId
  · obtain ⟨before, id⟩ := shape.occupied_before after older
    have task := shape.same_task before after
    have kind : (rt.tasks taskIndex).taskKind.reads = true := by
      rw [task] at isRead
      exact isRead
    rw [← id]
    exact (faithful.stored taskIndex before kind).stepped faithful.invariant faithful.vetted taken
      kind daemon before after
  · have nothing : reads.fetched (next.tasks taskIndex).taskId = [] := by
      by_contra some
      exact older (faithful.known _ some)
    rw [nothing]
    exact .nothing next taskIndex

/-- The completions that were posted before a step still count the stored bytes. -/
theorem Faithful.stepped_posted (faithful : Faithful config (rt, reads))
    (taken : step rt action = .ok next) {cqe : Cqe} (member : cqe ∈ rt.ring.posted)
    {taskIndex : Nat} (after : next.occupied taskIndex = true)
    (id : (next.tasks taskIndex).taskId = cqe.userData)
    (isRead : (next.tasks taskIndex).taskKind.reads = true) :
    cqe.res.toInt.toNat = (reads.fetched cqe.userData).length := by
  have shape := step_shape faithful.invariant.grounded taken
  have token : cqe.userData ∈ rt.ring.tokens :=
    List.mem_append_right _ (List.mem_map_of_mem member)
  obtain ⟨holder, held, holds⟩ := faithful.matched.found _ token
  have older : (next.tasks taskIndex).taskId < rt.nextTaskId := by
    rw [id, ← holds]
    exact (faithful.invariant.ledger.ids holder held).2
  obtain ⟨before, same⟩ := shape.occupied_before after older
  have task := shape.same_task before after
  rw [task] at isRead
  exact faithful.posted cqe member taskIndex before (same.trans id) isRead

theorem Faithful.stepped_settled (faithful : Faithful config (rt, reads))
    (taken : step rt action = .ok next) {entry : CompletionRecord × List UInt8}
    (member : entry ∈ reads.delivered) : entry.1.taskId < next.nextTaskId ∧
      ∀ taskIndex, next.occupied taskIndex = true →
        (next.tasks taskIndex).taskId ≠ entry.1.taskId := by
  have shape := step_shape faithful.invariant.grounded taken
  obtain ⟨known, gone⟩ := faithful.settled entry member
  refine ⟨UInt64.lt_of_lt_of_le known shape.nextTaskId_le, ?_⟩
  intro taskIndex after same
  obtain ⟨before, id⟩ := shape.occupied_before after (same ▸ known)
  exact gone taskIndex before (id.trans same)

/-- The completion of an active task as the connection sees it. -/
theorem deliveredCompletion_encode (record : CompletionRecord) (payload : List UInt8) :
    deliveredCompletion (record.encode ++ payload) = [(record, payload)] := by
  have length : record.encode.length = CompletionRecord.size := record.length_encode
  have some : record.encode ++ payload ≠ [] := by
    intro empty
    have none := congrArg List.length empty
    rw [List.length_append, length] at none
    cases Nat.eq_zero_of_add_eq_zero_right none
  unfold deliveredCompletion
  rw [if_neg some, List.take_left' length, List.drop_left' length, CompletionRecord.decode_encode]

/-- Reading the completion of a read delivers the data that was stored for it. -/
theorem Faithful.delivers {env : CompleteEnv} {taskIndex : Nat}
    (faithful : Faithful config (rt, reads)) (taken : step rt (.reap env) = .ok next)
    (reaped : reapedTask rt = some taskIndex) {entry : CompletionRecord × List UInt8}
    (member : entry ∈ deliveredCompletion
      (queuedBytes rt next (rt.tasks taskIndex).clientIndex)) :
    rt.occupied taskIndex = true ∧ next.occupied taskIndex = false ∧
      entry.1.taskId = (rt.tasks taskIndex).taskId ∧
      ((RequestKind.ofWire entry.1.taskKind).reads = true →
        entry.2 = reads.fetched entry.1.taskId) := by
  unfold reapedTask at reaped
  cases step_effect faithful.invariant.grounded taken with
  | idle _ unread unposted =>
      rw [unread env rfl] at reaped
      cases reaped
  | completed _ slot res ring _ occupied source completed =>
      obtain ⟨cqe, peeked, found, result⟩ := source
      rw [peeked, Option.bind_some, found] at reaped
      cases reaped
      subst result
      have vacated : next.occupied taskIndex = false := by
        rw [Bool.eq_false_iff]
        intro after
        exact (Ledger.occupied_of_completed completed after).1 rfl
      have id := (firstBelow_some found).2
      simp only [Bool.and_eq_true, beq_iff_eq] at id
      have listed : cqe ∈ rt.ring.posted := by
        rw [(ringPeekCompletion_some peeked).2.2]
        exact List.mem_cons_self
      have isActive : (next.clients (rt.tasks taskIndex).clientIndex).isActive =
          (rt.clients (rt.tasks taskIndex).clientIndex).isActive := by
        rw [completed.frame]
        simp only [Client.isActive, Function.update_self]
      have delivery := completed.delivers
      unfold queuedBytes at member
      rw [isActive] at member
      by_cases connected : taskConnected { rt with ring } (rt.tasks taskIndex) = true
      · obtain ⟨record, payload, taskId, taskKind, -, pending, prepared, cases, recorded, sent⟩ :=
          delivery.connected connected
        have active : (rt.clients (rt.tasks taskIndex).clientIndex).isActive = true := by
          simp only [taskConnected, Bool.and_eq_true] at connected
          exact connected.1
        rw [if_pos active, pending, List.drop_left, deliveredCompletion_encode,
          List.mem_singleton] at member
        subst member
        refine ⟨occupied, vacated, taskId, ?_⟩
        intro isRead
        have vetted := faithful.vetted taskIndex occupied
        dsimp only at isRead ⊢
        rw [taskKind, RequestKind.ofWire_toWire _ (Or.inl vetted.kind)] at isRead
        have stored : Stored rt taskIndex (reads.fetched (rt.tasks taskIndex).taskId) :=
          faithful.stored taskIndex occupied isRead
        have counted := faithful.posted cqe listed taskIndex occupied id.2 isRead
        have produces : (rt.tasks taskIndex).produces cqe.res = false := by
          unfold TaskSlot.produces
          cases kind : (rt.tasks taskIndex).taskKind with
          | sockRead | fileRead | sockReadFixed => rfl
          | _ =>
              rw [kind] at isRead
              cases isRead
        have small : (reads.fetched (rt.tasks taskIndex).taskId).length < 65536 := by
          have fits : _ ≤ rt.limits.ioBytesMax :=
            Nat.le_trans stored.length (vetted.length isRead)
          have bounded : rt.limits.ioBytesMax ≤ maxIoBytes :=
            faithful.invariant.limits ▸ config.ioBytesMax_le
          have most : maxIoBytes < 65536 := by decide
          omega
        cases cases with
        | plain nothing =>
            rw [taskId, sent]
            exact @readPayload_stored rt cqe.res taskIndex _ ring stored
              (faithful.invariant.holds.placed taskIndex occupied) isRead small
              (by rw [counted, id.2])
        | abandoned final produced =>
            rw [produces] at produced
            cases produced
        | registered slot length payload produced =>
            rw [produces] at produced
            cases produced
      · obtain ⟨output, outputSent⟩ := delivery.apart (Bool.eq_false_iff.mpr connected)
        have same : (next.clients (rt.tasks taskIndex).clientIndex).pendingOutput =
            (rt.clients (rt.tasks taskIndex).clientIndex).pendingOutput := by
          unfold Client.pendingOutput
          rw [output, outputSent]
        rw [same, List.drop_length, ite_self] at member
        cases member

/-- The step that the kernel takes on its own for the address of an ACCEPT. -/
theorem Faithful.stored_elsewhere {store : KernelStore} (faithful : Faithful config (rt, reads))
    (keeps : kernelKeeps (rt, reads) (.act (.store store)) = true) (taskIndex : Nat)
    (occupied : (rt.stored store).occupied taskIndex = true)
    (isRead : ((rt.stored store).tasks taskIndex).taskKind.reads = true) :
    Stored (rt.stored store) taskIndex
      (reads.fetched ((rt.stored store).tasks taskIndex).taskId) := by
  have quiet := stored_quiet rt store
  rw [quiet.occupied_eq] at occupied
  cases store with
  | storage offset bytes => cases keeps
  | ioBuffer slot bytes =>
      have accept : (rt.tasks slot).taskKind = .accept := beq_iff_eq.mp keeps
      have apart : taskIndex ≠ slot := by
        intro same
        subst same
        simp only [Runtime.stored, Runtime.setTask, Function.update_self, accept] at isRead
        cases isRead
      have same : (rt.stored (.ioBuffer slot bytes)).tasks taskIndex = rt.tasks taskIndex :=
        Function.update_of_ne apart _ _
      rw [same] at isRead ⊢
      have stored := faithful.stored taskIndex occupied isRead
      exact ⟨by rw [same]; exact stored.length, by rw [same]; exact stored.plain,
        by rw [same]; exact stored.fixed⟩
  | sockaddrLength slot length =>
      by_cases own : taskIndex = slot
      · subst own
        simp only [Runtime.stored, Runtime.setTask, Function.update_self] at isRead ⊢
        have stored := faithful.stored taskIndex occupied isRead
        constructor
        · simp only [Function.update_self]
          exact stored.length
        · simp only [Function.update_self]
          exact stored.plain
        · simp only [Function.update_self]
          exact stored.fixed
      · have same : (rt.stored (.sockaddrLength slot length)).tasks taskIndex =
            rt.tasks taskIndex := Function.update_of_ne own _ _
        rw [same] at isRead ⊢
        have stored := faithful.stored taskIndex occupied isRead
        exact ⟨by rw [same]; exact stored.length, by rw [same]; exact stored.plain,
          by rw [same]; exact stored.fixed⟩

theorem Reads.note_fetched (rt : Runtime) (action : Action) (next : Runtime) (reads : Reads) :
    (Reads.note rt (.act action) next reads).fetched = reads.fetched := by
  cases action with
  | reap env =>
      simp only [Reads.note]
      split <;> rfl
  | _ => rfl

/-- Only reading a completion delivers. -/
theorem Reads.note_delivered {entry : CompletionRecord × List UInt8}
    (member : entry ∈ (Reads.note rt (.act action) next reads).delivered) :
    entry ∈ reads.delivered ∨ ∃ env taskIndex, action = .reap env ∧
      reapedTask rt = some taskIndex ∧ entry ∈ deliveredCompletion
        (queuedBytes rt next (rt.tasks taskIndex).clientIndex) := by
  cases action with
  | reap env =>
      simp only [Reads.note] at member
      split at member
      · rename_i taskIndex reaped
        rcases List.mem_append.mp member with old | new
        · exact Or.inl old
        · exact Or.inr ⟨env, taskIndex, rfl, reaped, new⟩
      · exact Or.inl member
  | _ => exact Or.inl member

/-- Every step of the daemon or the kernel that is no read keeps the data in place. -/
theorem Faithful.acted (faithful : Faithful config (rt, reads))
    (keeps : kernelKeeps (rt, reads) (.act action) = true) (clean : action.clean = true)
    (taken : step rt action = .ok next) :
    Faithful config (next, Reads.note rt (.act action) next reads) := by
  have fetched := Reads.note_fetched rt action next reads
  refine ⟨faithful.invariant.stepped taken,
    faithful.matched.stepped faithful.invariant clean taken,
    faithful.vetted.stepped faithful.invariant taken, ?_, ?_, ?_, ?_, ?_⟩
  · exact faithful.stepped_known taken fetched
  · intro taskIndex after isRead
    dsimp only at after isRead ⊢
    rw [fetched]
    by_cases daemon : ∀ store, action ≠ .store store
    · exact faithful.stepped_stored taken daemon taskIndex after isRead
    · simp only [not_forall, not_not] at daemon
      obtain ⟨store, same⟩ := daemon
      subst same
      cases taken
      exact faithful.stored_elsewhere keeps taskIndex after isRead
  · intro cqe member taskIndex after id isRead
    dsimp only at member after id isRead ⊢
    rw [fetched]
    cases queueStep faithful.matched.sound faithful.invariant clean taken with
    | same _ _ unread unposted queues occupied =>
        rw [queues.posted] at member
        exact faithful.stepped_posted taken member after id isRead
    | started index env _ slot sound submitted posted fresh occupied others vacant =>
        rw [posted] at member
        exact faithful.stepped_posted taken member after id isRead
    | reaped env _ slot other peeked sound submitted posted before same occupied =>
        refine faithful.stepped_posted taken ?_ after id isRead
        rw [posted]
        exact List.mem_cons_of_mem _ member
    | posted position res =>
        rcases kernelPost_cases faithful.matched.sound position res with
          same | ⟨sqe, executing, -, -, -, posted⟩
        · rw [same] at member
          exact faithful.posted cqe member taskIndex after id isRead
        · rw [posted, List.mem_append, List.mem_singleton] at member
          rcases member with old | new
          · exact faithful.posted cqe old taskIndex after id isRead
          · subst new
            obtain ⟨holder, held, operation⟩ := faithful.matched.sqes sqe
              (List.mem_append_left _ (List.mem_of_getElem? executing))
            have own : holder = taskIndex := by
              apply faithful.invariant.ledger.distinct holder taskIndex held after
              rw [← taskSqe_userData rt holder, ← operation]
              exact id.symm
            subst own
            obtain ⟨store, stores⟩ := @taskSqe_store rt holder isRead []
            simp only [kernelKeeps, fetchAt, executing, operation, stores, Option.map_some,
              decide_eq_true_eq] at keeps
            rw [operation]
            exact keeps
  · intro entry member
    rcases Reads.note_delivered member with old | ⟨env, taskIndex, same, reaped, new⟩
    · exact faithful.stepped_settled taken old
    · subst same
      obtain ⟨before, vacated, id, -⟩ := faithful.delivers taken reaped new
      have older : entry.1.taskId < rt.nextTaskId := by
        rw [id]
        exact (faithful.invariant.ledger.ids taskIndex before).2
      have shape := step_shape faithful.invariant.grounded taken
      refine ⟨UInt64.lt_of_lt_of_le older shape.nextTaskId_le, ?_⟩
      intro other after same
      obtain ⟨held, sameId⟩ := shape.occupied_before after (same ▸ older)
      have own := faithful.invariant.ledger.distinct other taskIndex held before
        (sameId.trans (same.trans id))
      rw [own] at after
      rw [vacated] at after
      cases after
  · intro entry member isRead
    dsimp only
    rw [fetched]
    rcases Reads.note_delivered member with old | ⟨env, taskIndex, same, reaped, new⟩
    · exact faithful.faithful entry old isRead
    · subst same
      exact (faithful.delivers taken reaped new).2.2.2 isRead

/-- The reads of other tasks keep their data when the kernel stores that of one. -/
theorem Faithful.fetched_other {taskIndex other : Nat} {data : List UInt8} {store : KernelStore}
    (faithful : Faithful config (rt, reads)) (occupied : rt.occupied taskIndex = true)
    (stores : (taskSqe rt taskIndex).store data = some store)
    (fits : data.length ≤ (taskSqe rt taskIndex).wanted rt)
    (agrees : (taskSqe rt other).opcode = .readFixed →
      (taskSqe rt taskIndex).opcode = .readFixed →
      (taskSqe rt other).addr = (taskSqe rt taskIndex).addr →
      data.take (reads.fetched (rt.tasks other).taskId).length =
        (reads.fetched (rt.tasks other).taskId).take data.length)
    (apart : other ≠ taskIndex) (held : rt.occupied other = true)
    (isRead : (rt.tasks other).taskKind.reads = true) :
    Stored (rt.stored store) other (reads.fetched (rt.tasks other).taskId) := by
  have stored : Stored rt other (reads.fetched (rt.tasks other).taskId) :=
    faithful.stored other held isRead
  have source := reads_of_store stores
  by_cases kind : (rt.tasks taskIndex).taskKind = .sockReadFixed
  · obtain ⟨stores', wanted, opcode, addr⟩ := taskSqe_fixed kind data
    rw [stores'] at stores
    cases stores
    refine ⟨stored.length, stored.plain, ?_⟩
    intro otherKind slot named
    change (rt.tasks other).taskKind = .sockReadFixed at otherKind
    change (rt.tasks other).bufferSlotIndex = some slot at named
    have before := stored.fixed otherKind slot named
    obtain ⟨own, ownNamed⟩ := Option.ne_none_iff_exists'.mp
      ((faithful.invariant.holds.placed taskIndex occupied).fixed kind)
    obtain ⟨-, -, otherOpcode, otherAddr⟩ := taskSqe_fixed otherKind data
    rw [named, Option.getD_some] at otherAddr
    rw [ownNamed, Option.getD_some] at addr
    change (rt.registeredBufferStorage.write _ _).read (bufferStorageAt rt
      (rt.tasks other).clientIndex slot) _ = _
    rw [ownNamed, Option.getD_some]
    by_cases same : (rt.tasks other).clientIndex = (rt.tasks taskIndex).clientIndex ∧ slot = own
    · rw [← same.1, ← same.2]
      refine Memory.read_write_agree _ _ _ _ before (agrees otherOpcode opcode ?_)
      rw [otherAddr, addr, same.1, same.2]
    · have within : slot < rt.limits.registeredBuffersPerClient := by
        rw [← faithful.invariant.task_sized held]
        exact (faithful.invariant.holds.placed other held).buffer slot named
      have ownWithin : own < rt.limits.registeredBuffersPerClient := by
        rw [← faithful.invariant.task_sized occupied]
        exact (faithful.invariant.holds.placed taskIndex occupied).buffer own ownNamed
      have different : (rt.tasks other).clientIndex ≠ (rt.tasks taskIndex).clientIndex ∨
          slot ≠ own := not_and_or.mp same
      have short : (reads.fetched (rt.tasks other).taskId).length ≤ rt.limits.ioBytesMax :=
        Nat.le_trans stored.length ((faithful.vetted other held).length isRead)
      have small : data.length ≤ rt.limits.ioBytesMax := by
        rw [wanted] at fits
        exact Nat.le_trans fits ((faithful.vetted taskIndex occupied).length source)
      rcases bufferStorageAt_apart within ownWithin different with front | behind
      · rw [Memory.read_write_before _ _ _ _ _ (by omega)]
        exact before
      · rw [Memory.read_write_after _ _ _ _ _ (by omega)]
        exact before
  · rw [(taskSqe_plain source kind data).1] at stores
    cases stores
    have same : (rt.stored (.ioBuffer taskIndex data)).tasks other = rt.tasks other :=
      Function.update_of_ne apart _ _
    exact ⟨by rw [same]; exact stored.length, by rw [same]; exact stored.plain,
      by rw [same]; exact stored.fixed⟩

/-- The kernel stores the data of a read at the submitted address. -/
theorem Faithful.fetched_own {taskIndex : Nat} {data : List UInt8} {store : KernelStore}
    (faithful : Faithful config (rt, reads)) (occupied : rt.occupied taskIndex = true)
    (stores : (taskSqe rt taskIndex).store data = some store)
    (fits : data.length ≤ (taskSqe rt taskIndex).wanted rt) :
    Stored (rt.stored store) taskIndex data := by
  have source := reads_of_store stores
  by_cases kind : (rt.tasks taskIndex).taskKind = .sockReadFixed
  · obtain ⟨stores', wanted, -, -⟩ := taskSqe_fixed kind data
    rw [stores'] at stores
    cases stores
    rw [wanted] at fits
    refine ⟨fits, fun plain => absurd kind plain, ?_⟩
    intro _ slot named
    change (rt.tasks taskIndex).bufferSlotIndex = some slot at named
    rw [named, Option.getD_some]
    exact Memory.read_write_self _ _ _
  · obtain ⟨stores', wanted⟩ := taskSqe_plain source kind data
    rw [stores'] at stores
    cases stores
    rw [wanted, (faithful.vetted taskIndex occupied).vector source] at fits
    have same : (rt.stored (.ioBuffer taskIndex data)).tasks taskIndex =
        { rt.tasks taskIndex with ioBuffer := (rt.tasks taskIndex).ioBuffer.write 0 data } :=
      Function.update_self ..
    refine ⟨?_, ?_, ?_⟩
    · rw [same]
      exact fits
    · intro _
      rw [same]
      exact Memory.read_write_self (rt.tasks taskIndex).ioBuffer 0 data
    · intro fixed
      rw [same] at fixed
      exact absurd fixed kind

/-- Storing the data of a read, where it agrees with what other reads have there. -/
theorem Faithful.fetched {position : Nat} {data : List UInt8} {sqe : Sqe} {store : KernelStore}
    (faithful : Faithful config (rt, reads))
    (fetching : fetchAt rt position data = some (sqe, store))
    (fits : data.length ≤ sqe.wanted rt)
    (agrees : undisturbed (rt, reads) (.fetch position data) = true) :
    Faithful config (rt.stored store,
      { reads with fetched := Function.update reads.fetched sqe.userData data }) := by
  obtain ⟨executing, stores, taskIndex, occupied, operation⟩ := faithful.matched.fetching fetching
  have taken : step rt (.store store) = .ok (rt.stored store) := rfl
  have quiet := stored_quiet rt store
  have token : sqe.userData = (rt.tasks taskIndex).taskId := by
    rw [operation, taskSqe_userData]
  have ids := faithful.invariant.ledger.ids taskIndex occupied
  simp only [undisturbed, fetching, List.all_eq_true, List.mem_range] at agrees
  -- Other tasks are read about under their own ids.
  have elsewhere : ∀ other, other ≠ taskIndex → rt.occupied other = true →
      (rt.tasks other).taskId ≠ sqe.userData := by
    intro other apart held same
    exact apart (faithful.invariant.ledger.distinct other taskIndex held occupied
      (same.trans token))
  have sameTask : ∀ other, rt.occupied other = true →
      ((rt.stored store).tasks other).taskId = (rt.tasks other).taskId ∧
        ((rt.stored store).tasks other).taskKind = (rt.tasks other).taskKind := by
    intro other held
    rw [quiet.task_eq held]
    exact ⟨rfl, rfl⟩
  refine ⟨faithful.invariant.stepped taken, faithful.matched.stepped faithful.invariant rfl taken,
    faithful.vetted.stepped faithful.invariant taken, ?_, ?_, ?_, ?_, ?_⟩
  · intro id some
    change id < (rt.stored store).nextTaskId
    rw [quiet.nextTaskId]
    by_cases own : id = sqe.userData
    · rw [own, token]
      exact ids.2
    · simp only [Function.update_of_ne own] at some
      exact faithful.known id some
  · intro other after isRead
    dsimp only at after isRead ⊢
    rw [quiet.occupied_eq] at after
    rw [(sameTask other after).2] at isRead
    rw [(sameTask other after).1]
    by_cases own : other = taskIndex
    · subst own
      rw [token, Function.update_self]
      rw [operation] at stores fits
      exact faithful.fetched_own occupied stores fits
    · rw [Function.update_of_ne (elsewhere other own after)]
      rw [operation] at stores fits
      refine faithful.fetched_other occupied stores fits ?_ own after isRead
      intro opcode ownOpcode addr
      have shared := agrees other (occupied_iff.mp after).1
      simp only [after, opcode, operation, ownOpcode, addr, beq_self_eq_true, Bool.and_self,
        Bool.not_true, Bool.false_or, beq_iff_eq] at shared
      exact shared
  · intro cqe member other after id isRead
    dsimp only at member after id isRead ⊢
    have ring : (rt.stored store).ring = rt.ring := by cases store <;> rfl
    rw [ring] at member
    rw [quiet.occupied_eq] at after
    rw [(sameTask other after).2] at isRead
    rw [(sameTask other after).1] at id
    have apart : cqe.userData ≠ sqe.userData := by
      intro same
      have nodup := faithful.matched.nodup
      refine (List.nodup_append.mp nodup).2.2 sqe.userData ?_ cqe.userData ?_ same.symm
      · exact List.mem_map_of_mem (List.mem_append_left _ (List.mem_of_getElem? executing))
      · exact List.mem_map_of_mem member
    rw [Function.update_of_ne apart]
    exact faithful.posted cqe member other after id isRead
  · intro entry member
    exact faithful.stepped_settled taken member
  · intro entry member isRead
    have gone := (faithful.settled entry member).2 taskIndex occupied
    dsimp only
    rw [Function.update_of_ne (by rw [token]; exact gone.symm)]
    exact faithful.faithful entry member isRead

theorem Faithful.initial (config : Config) :
    Faithful config (Runtime.initial config, .initial) := by
  have vacant : ∀ taskIndex, (Runtime.initial config).occupied taskIndex ≠ true := by
    intro taskIndex occupied
    simp only [Runtime.occupied, Runtime.initial, TaskSlot.cleared, Bool.and_false,
      Bool.false_eq_true] at occupied
  refine ⟨.initial config, .initial config, fun taskIndex occupied =>
    absurd occupied (vacant taskIndex), fun _ some => absurd rfl some, fun taskIndex occupied =>
    absurd occupied (vacant taskIndex), fun _ _ taskIndex occupied =>
    absurd occupied (vacant taskIndex), ?_, ?_⟩
  · intro entry member
    cases member
  · intro entry member
    cases member

/-- Every move keeps the data in place. -/
theorem Faithful.moved {move : ReadMove} {state after : Runtime × Reads}
    (faithful : Faithful config state) (keeps : kernelKeeps state move = true)
    (agrees : undisturbed state move = true)
    (taken : recorded readStep Reads.note state move = .ok after) : Faithful config after := by
  obtain ⟨rt, reads⟩ := state
  obtain ⟨next, final⟩ := after
  obtain ⟨moved, noted⟩ := recorded_ok taken
  dsimp only at moved noted
  cases move with
  | act action =>
      have clean : action.clean = true := by
        cases action with
        | dispatch index env => exact agrees
        | complete taskIndex res env => cases keeps
        | _ => rfl
      rw [noted]
      exact faithful.acted keeps clean moved
  | fetch position data =>
      simp only [readStep] at moved
      simp only [Reads.note] at noted
      split at moved
      · rename_i sqe store fetching
        cases moved
        simp only [kernelKeeps, fetching, Bool.and_eq_true, decide_eq_true_eq] at keeps
        rw [fetching] at noted
        rw [noted]
        exact faithful.fetched fetching keeps.2 agrees
      · rename_i none
        cases moved
        rw [none] at noted
        rw [noted]
        exact faithful

/-- In every run of the daemon and a kernel that stores the data of each read once and then
posts its length: as long as no `io_uring_enter` fails and data stored in a registered buffer
agrees with the data of every other fixed read into that buffer that was stored and is not
yet delivered, the payload delivered with each completion of a SOCK_READ, FILE_READ or
SOCK_READ_FIXED is the data stored for that very task. -/
theorem read_payloads_faithful (config : Config) (moves : List ReadMove)
    (state : Runtime × Reads)
    (ran : run (recorded readStep Reads.note) (Runtime.initial config, .initial) moves = .ok state)
    (kernel : Along (recorded readStep Reads.note)
      (fun state move => kernelKeeps state move = true) (Runtime.initial config, .initial) moves)
    (agrees : Along (recorded readStep Reads.note)
      (fun state move => undisturbed state move = true) (Runtime.initial config, .initial) moves) :
    state.2.faithful := by
  have both := kernel.and agrees
  refine (both.preserves ?_ (Faithful.initial config) ran).faithful
  intro before move after conditions holds taken
  exact holds.moved conditions.1 conditions.2 taken

end Runs

/-- A client with a file and a registered buffer. -/
def buffered : List Action :=
  joining 0 7 ++
    [.input 0 [.data (requestHeader .registerFd).encode [⟨true, [9]⟩] false],
      .dispatch 0 .smooth] ++
    requesting 0 (RegisterBufferRequest.encode ⟨requestHeader .registerBuffer, 1, 0⟩ ++ [5])
      .smooth

/-- It asks for up to four bytes into the buffer. -/
def readingFixed : List Action :=
  requesting 0 (FixedRequest.encode ⟨requestHeader .sockReadFixed, 1, 2, 4⟩) .smooth

/-- One read at a time: two bytes are stored, counted and delivered, and then one more. -/
def readInTurn : List ReadMove :=
  (buffered ++ readingFixed).map .act ++
    [.fetch 0 [1, 2], .act (.post 0 2), .act (.reap .smooth)] ++ readingFixed.map .act ++
    [.fetch 0 [7], .act (.post 0 1), .act (.reap .smooth)]

/-- Both payloads are the data of their own reads. -/
theorem read_payloads_in_turn :
    ∃ state, run (recorded readStep Reads.note)
        (Runtime.initial (.small 2 (by decide) (by decide)), .initial) readInTurn = .ok state ∧
      state.2.delivered.map Prod.snd = [[1, 2], [7]] ∧ state.2.faithful := by
  have seen : ((run (recorded readStep Reads.note)
      (Runtime.initial (.small 2 (by decide) (by decide)), .initial) readInTurn).toOption.map
        fun state => state.2.delivered.map Prod.snd) = some [[1, 2], [7]] := by decide +kernel
  obtain ⟨state, ran, delivered⟩ := exists_of_toOption_map seen
  exact ⟨state, ran, delivered, read_payloads_faithful _ _ state ran
    (along_of_checkAlong (by decide +kernel)) (along_of_checkAlong (by decide +kernel))⟩

/-- Both reads are submitted before the data of either is delivered. -/
def readTogether : List ReadMove :=
  (buffered ++ readingFixed ++ readingFixed).map .act ++
    [.fetch 0 [1, 2], .fetch 1 [7], .act (.post 0 2), .act (.post 0 1), .act (.reap .smooth),
      .act (.reap .smooth)]

/-- The first read is delivered with a byte of the second. -/
theorem read_payload_overwritten :
    ∃ state, run (recorded readStep Reads.note)
        (Runtime.initial (.small 2 (by decide) (by decide)), .initial) readTogether = .ok state ∧
      Along (recorded readStep Reads.note) (fun state move => kernelKeeps state move = true)
        (Runtime.initial (.small 2 (by decide) (by decide)), .initial) readTogether ∧
      state.2.fetched 1 = [1, 2] ∧
      state.2.delivered.map (fun entry => (entry.1.taskId, entry.2)) = [(1, [7, 2]), (2, [7])] ∧
      ¬ state.2.faithful := by
  have seen : ((run (recorded readStep Reads.note)
      (Runtime.initial (.small 2 (by decide) (by decide)), .initial) readTogether).toOption.map
        fun state => (state.2.fetched 1,
          state.2.delivered.map (fun entry => (entry.1.taskId, entry.2)),
          state.2.delivered.all (fun entry => !(RequestKind.ofWire entry.1.taskKind).reads ||
            entry.2 == state.2.fetched entry.1.taskId))) =
      some ([1, 2], [(1, [7, 2]), (2, [7])], false) := by decide +kernel
  obtain ⟨state, ran, view⟩ := exists_of_toOption_map seen
  obtain ⟨fetched, rest⟩ := Prod.mk.inj view
  obtain ⟨delivered, unfaithful⟩ := Prod.mk.inj rest
  refine ⟨state, ran, along_of_checkAlong (by decide +kernel), fetched, delivered, ?_⟩
  intro faithful
  rw [List.all_eq_false] at unfaithful
  obtain ⟨entry, member, differs⟩ := unfaithful
  simp only [Bool.or_eq_true, Bool.not_eq_true', beq_iff_eq, not_or, Bool.not_eq_false] at differs
  exact differs.2 (faithful entry member differs.1)

end Iouringd
