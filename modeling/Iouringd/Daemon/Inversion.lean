import Iouringd.Daemon.Effects

/-! # Every path of the dispatcher

The branches of the dispatcher one by one: each path that succeeds is one of the
cases of `Dispatched`, followed by its answer.
-/

namespace Iouringd

open Foundation

variable {rt next : Runtime} {index : Nat} {env : DispatchEnv}

/-- An event about a submission has its kind and priority, one about a control request
has neither. -/
def TraceArgs.About (args : TraceArgs) (client : Client) : Prop :=
  (args.taskKind = 0 ∧ args.submitPriority = .normal) ∨
    (client.replyType = .submit ∧ args.taskKind = client.request.taskKind.toWire ∧
      args.submitPriority = client.request.priority)

/-- A path is a change followed by its answer, with an event about the request at most. -/
def Explained (rt : Runtime) (index : Nat) (env : DispatchEnv) (next : Runtime) : Prop :=
  ∃ middle bytes, Dispatched rt index env middle bytes ∧ Answered middle index bytes next ∧
    Traces rt next fun args => args.About (rt.clients index)

/-! ## Control requests -/

/-- An answer commutes with dropping the received descriptor. -/
theorem answered_dropReceivedFd {queued : Runtime} {bytes : List UInt8}
    (taken : rt.queue index bytes = .ok queued) :
    Answered (dropReceivedFd rt index) index bytes
      (finishClientRequest (dropReceivedFd queued index) index) := by
  cases Runtime.queue_ok taken
  simp only [Answered, finishClientRequest, dropReceivedFd, Runtime.setClient, Runtime.close,
    Function.update_self, Function.update_idem]
  rfl

/-- A refusal that leaves everything but the id counter alone. -/
theorem resourceRefused_explained {base : Runtime} {errno : Errno} {available : UInt32}
    (type : (rt.clients index).replyType = .resource)
    (unheld : (rt.clients index).controlOp = some .registerFd →
      (rt.clients index).receivedFd < 0) (positive : 0 < errno) {nextId : UInt32}
    (counter : CounterAfter (rt.clients index) nextId)
    (moved : base = rt.setClient index { rt.clients index with nextResourceId := nextId })
    (answer : answerResource base index resourceIdInvalid (-errno) available = .ok next) :
    Explained rt index env next := by
  subst moved
  have same : SameTrace rt
      (rt.setClient index { rt.clients index with nextResourceId := nextId }) := ⟨rfl, rfl, rfl⟩
  exact ⟨_, _, .resourceRefused nextId _ type unheld ⟨rfl, ⟨errno, rfl, fun _ => positive⟩, rfl⟩
    counter, answerResource_ok answer, Or.inl (same.trans (answerResource_trace answer))⟩

/-- A refusal that closes the received descriptor after it answered. -/
theorem descriptorDropped_explained {base : Runtime} {errno : Errno} {available : UInt32}
    (operation : (rt.clients index).controlOp = some .registerFd)
    (held : 0 ≤ (rt.clients index).receivedFd) (positive : 0 < errno) {nextId : UInt32}
    (counter : CounterAfter (rt.clients index) nextId)
    (moved : base = rt.setClient index { rt.clients index with nextResourceId := nextId })
    (answer : (do
      let rt ← queueResourceResult base index resourceIdInvalid (-errno) available
      .ok (finishClientRequest (dropReceivedFd rt index) index)) = Except.ok next) :
    Explained rt index env next := by
  subst moved
  obtain ⟨queued, taken, done⟩ := bind_ok answer
  cases done
  have same : SameTrace rt
      (rt.setClient index { rt.clients index with nextResourceId := nextId }) := ⟨rfl, rfl, rfl⟩
  have finished : SameTrace queued (finishClientRequest (dropReceivedFd queued index) index) :=
    ⟨rfl, rfl, rfl⟩
  exact ⟨_, _, .descriptorDropped nextId ⟨resourceIdInvalid, -errno, available, 0⟩ operation held
    ⟨rfl, ⟨errno, rfl, fun _ => positive⟩, rfl⟩ counter, answered_dropReceivedFd taken,
    Or.inl ((same.trans (.queue taken)).trans finished)⟩

/-- A registration or a release is recorded as an event of no kind. -/
theorem resourceChange_recorded {middle : Runtime} {eventKind : TraceEventKind}
    {resourceId : ResourceId} {available : UInt32} {now : UInt64} (same : SameTrace rt middle)
    (answer : answerResourceChange middle index eventKind resourceId available now = .ok next) :
    Traces rt next fun args => args.About (rt.clients index) := by
  obtain ⟨args, kind, priority, recorded⟩ := answerResourceChange_trace answer
  exact Or.inr ⟨now, args, Or.inl ⟨kind, priority⟩, (same.emit now args).trans recorded⟩

theorem dispatchRegisterFd_explained
    (operation : (rt.clients index).controlOp = some .registerFd)
    (dispatched : dispatchRegisterFd rt index env = .ok next) :
    Explained rt index env next := by
  have type : (rt.clients index).replyType = .resource := by
    simp only [Client.replyType, operation]
  unfold dispatchRegisterFd at dispatched
  dsimp only at dispatched
  split at dispatched
  · rename_i unheld
    exact resourceRefused_explained type (fun _ => unheld) (by decide) (.kept rfl)
      (Runtime.setClient_self rt index).symm dispatched
  · rename_i notHeld
    have held : 0 ≤ (rt.clients index).receivedFd := Int32.not_lt.mp notHeld
    split at dispatched
    · exact descriptorDropped_explained operation held (by decide) (.kept rfl)
        (Runtime.setClient_self rt index).symm dispatched
    · rename_i slot found
      obtain ⟨nextId, moved⟩ := allocateResourceId_snd (rt.clients index)
      rw [moved] at dispatched
      split at dispatched
      · exact descriptorDropped_explained operation held (by decide) (.moved (by rw [moved])) rfl
          dispatched
      · rename_i valid
        split at dispatched
        · rename_i ring errno update
          have refuses : ResourceResult.Refuses ⟨resourceIdInvalid, -errno,
              availableFileResources { rt.clients index with nextResourceId := nextId }, 0⟩
              env := by
            refine ⟨rfl, ⟨errno, rfl, ?_⟩, rfl⟩
            intro sane
            rw [DispatchEnv.sane, Bool.and_eq_true, Bool.and_eq_true] at sane
            exact ringUpdateRegisteredFile_positive sane.1.1 update
          cases ringUpdateRegisteredFile_failed update
          have same : SameTrace rt (dropReceivedFd (rt.setClient index
              { rt.clients index with nextResourceId := nextId }) index) := ⟨rfl, rfl, rfl⟩
          exact ⟨_, _, .descriptorDropped nextId _ operation held refuses (.moved (by rw [moved])),
            answerResource_ok dispatched,
            Or.inl (same.trans (answerResource_trace dispatched))⟩
        · rename_i ring update
          obtain ⟨available, answered⟩ : ∃ available, Answered _ index
              (ResourceResult.encode ⟨_, 0, available, 0⟩) next :=
            ⟨_, answerResourceChange_ok dispatched⟩
          have recorded : Traces rt next fun args => args.About (rt.clients index) := by
            refine resourceChange_recorded ?_ dispatched
            exact ⟨rfl, rfl, rfl⟩
          refine ⟨_, _, .fileRegistered slot _ nextId ring ⟨_, 0, available, 0⟩ operation held found
            (Prod.ext rfl moved) valid update ⟨valid, rfl, rfl⟩, ?_, recorded⟩
          simp only [Runtime.setClient, Function.update_idem] at answered ⊢
          exact answered

theorem dispatchRegisterBuffer_explained
    (operation : (rt.clients index).controlOp = some .registerBuffer)
    (dispatched : dispatchRegisterBuffer rt index env = .ok next) :
    Explained rt index env next := by
  have type : (rt.clients index).replyType = .resource := by
    simp only [Client.replyType, operation]
  have unheld : (rt.clients index).controlOp = some .registerFd →
      (rt.clients index).receivedFd < 0 := by
    simp only [operation, Option.some.injEq, reduceCtorEq, false_implies]
  unfold dispatchRegisterBuffer at dispatched
  dsimp only at dispatched
  split at dispatched
  · exact resourceRefused_explained type unheld (by decide) (.kept rfl)
      (Runtime.setClient_self rt index).symm dispatched
  · rename_i slot found
    obtain ⟨nextId, moved⟩ := allocateResourceId_snd (rt.clients index)
    rw [moved] at dispatched
    split at dispatched
    · exact resourceRefused_explained type unheld (by decide) (.moved (by rw [moved])) rfl
        dispatched
    · rename_i valid
      obtain ⟨available, answered⟩ : ∃ available, Answered _ index
          (ResourceResult.encode ⟨_, 0, available, 0⟩) next :=
        ⟨_, answerResourceChange_ok dispatched⟩
      have recorded : Traces rt next fun args => args.About (rt.clients index) := by
        refine resourceChange_recorded ?_ dispatched
        exact ⟨rfl, rfl, rfl⟩
      refine ⟨_, _, .bufferRegistered slot _ nextId ⟨_, 0, available, 0⟩ operation found
        (Prod.ext rfl moved) valid ⟨valid, rfl, rfl⟩, ?_, recorded⟩
      -- a copy of no bytes is no copy
      have copied : (if (rt.clients index).ioLength ≠ 0 then
          rt.registeredBufferStorage.write (bufferStorageAt rt index slot)
            ((rt.clients index).ioPayload.read 0 (rt.clients index).ioLength.toNat)
          else rt.registeredBufferStorage) =
          rt.registeredBufferStorage.write (bufferStorageAt rt index slot)
            ((rt.clients index).ioPayload.read 0 (rt.clients index).ioLength.toNat) := by
        split
        · rfl
        · rename_i empty
          rw [not_not.mp empty]
          exact (Memory.write_nil _ _).symm
      simp only [Runtime.setClient, Function.update_idem] at answered ⊢
      exact copied ▸ answered

/-- A release of a slot that is registered, idle and marked closing clears it. -/
theorem tryReleaseFileSlot_marked {slot : Nat} {update : UpdateOutcome}
    (within : slot < (rt.clients index).fileSlotLimit)
    (registered : ((rt.clients index).fileResources slot).registered = true)
    (idle : ((rt.clients index).fileResources slot).inFlight = 0)
    (released : tryReleaseFileSlot (rt.setClient index ((rt.clients index).setFileSlot slot
      { (rt.clients index).fileResources slot with closing := true })) index slot update =
        .ok next) :
    ∃ ring, ringUpdateRegisteredFile rt.ring (globalFileIndex rt index slot) (-1) update =
      (ring, none) ∧ next = clearFileSlot { rt with ring } index slot := by
  unfold tryReleaseFileSlot at released
  simp only [Runtime.clients_setClient, Client.setFileSlot, Function.update_self, registered,
    idle, not_le.mpr within, ↓reduceIte, Bool.not_true, Bool.false_eq_true, ne_eq,
    not_true_eq_false, decide_false, Bool.or_self] at released
  obtain ⟨updated, update, done⟩ := bind_ok released
  cases done
  unfold updateRegisteredFile at update
  split at update
  · rename_i ring success
    cases update
    refine ⟨ring, success, ?_⟩
    simp only [clearFileSlot, Runtime.setClient, Function.update_self, Client.setFileSlot,
      Function.update_idem]
    split <;> simp only [Runtime.close, Function.update_idem]
  · cases update

theorem tryReleaseBufferSlot_marked {slot : Nat}
    (within : slot < (rt.clients index).bufferSlotLimit)
    (registered : ((rt.clients index).bufferResources slot).registered = true)
    (idle : ((rt.clients index).bufferResources slot).inFlight = 0)
    (released : tryReleaseBufferSlot (rt.setClient index ((rt.clients index).setBufferSlot slot
      { (rt.clients index).bufferResources slot with closing := true })) index slot = .ok next) :
    next = clearBufferSlot rt index slot := by
  unfold tryReleaseBufferSlot at released
  simp only [Runtime.clients_setClient, Client.setBufferSlot, Function.update_self, registered,
    idle, not_le.mpr within, ↓reduceIte, Bool.not_true, Bool.false_eq_true, ne_eq,
    not_true_eq_false, decide_false, Bool.or_self] at released
  cases released
  simp only [clearBufferSlot, Runtime.setClient, Function.update_self, Client.setBufferSlot,
    Function.update_idem]

theorem dispatchReleaseResource_explained
    (operation : (rt.clients index).controlOp = some .releaseResource)
    (dispatched : dispatchReleaseResource rt index env = .ok next) :
    Explained rt index env next := by
  have type : (rt.clients index).replyType = .resource := by
    simp only [Client.replyType, operation]
  have unheld : (rt.clients index).controlOp = some .registerFd →
      (rt.clients index).receivedFd < 0 := by
    simp only [operation, Option.some.injEq, reduceCtorEq, false_implies]
  unfold dispatchReleaseResource at dispatched
  dsimp only at dispatched
  split at dispatched
  · exact resourceRefused_explained type unheld (by decide) (.kept rfl)
      (Runtime.setClient_self rt index).symm dispatched
  · rename_i named
    split at dispatched
    · rename_i slot found
      obtain ⟨within, matched⟩ := firstBelow_some found
      rw [Bool.and_eq_true] at matched
      split at dispatched
      · exact resourceRefused_explained type unheld (by decide) (.kept rfl)
          (Runtime.setClient_self rt index).symm dispatched
      · rename_i idle
        obtain ⟨released, release, answer⟩ := bind_ok dispatched
        obtain ⟨ring, update, same⟩ :=
          tryReleaseFileSlot_marked within matched.1 (not_not.mp idle) release
        have unnamed : SameTrace rt released := by
          rw [same]
          unfold clearFileSlot
          dsimp only
          split <;> exact ⟨rfl, rfl, rfl⟩
        have recorded := resourceChange_recorded unnamed answer
        have answered := answerResourceChange_ok answer
        subst same
        refine ⟨_, _, .fileReleased slot ring _ operation found (not_not.mp idle) update
          ⟨?_, rfl, rfl⟩, answered, recorded⟩
        rw [beq_iff_eq.mp matched.2]
        exact named
    · split at dispatched
      · rename_i slot found
        obtain ⟨within, matched⟩ := firstBelow_some found
        rw [Bool.and_eq_true] at matched
        split at dispatched
        · exact resourceRefused_explained type unheld (by decide) (.kept rfl)
            (Runtime.setClient_self rt index).symm dispatched
        · rename_i idle
          obtain ⟨released, release, answer⟩ := bind_ok dispatched
          have same := tryReleaseBufferSlot_marked within matched.1 (not_not.mp idle) release
          have recorded : Traces rt next fun args => args.About (rt.clients index) := by
            refine resourceChange_recorded ?_ answer
            rw [same]
            exact ⟨rfl, rfl, rfl⟩
          have answered := answerResourceChange_ok answer
          subst same
          refine ⟨_, _, .bufferReleased slot _ operation found (not_not.mp idle)
            ⟨?_, rfl, rfl⟩, answered, recorded⟩
          rw [beq_iff_eq.mp matched.2]
          exact named
      · exact resourceRefused_explained type unheld (by decide) (.kept rfl)
          (Runtime.setClient_self rt index).symm dispatched

theorem dispatchGetStats_explained
    (operation : (rt.clients index).controlOp = some .getStats)
    (dispatched : dispatchGetStats rt index = .ok next) : Explained rt index env next := by
  obtain ⟨queued, taken, done⟩ := bind_ok dispatched
  cases done
  exact ⟨rt, _, .stats operation, answered_of_queue taken,
    Or.inl ((SameTrace.queue taken).trans ⟨rfl, rfl, rfl⟩)⟩

/-! ## The trace reply -/

theorem countTraceEvents_le (latest : UInt64) (remaining : Nat) (sequence : UInt64) :
    countTraceEvents latest remaining sequence ≤ remaining := by
  induction remaining generalizing sequence with
  | zero => exact Nat.le_refl 0
  | succ remaining ih =>
      unfold countTraceEvents
      split
      · exact Nat.succ_le_succ (ih _)
      · exact Nat.zero_le _

/-- The second loop, given the count of the first, sends as many events. -/
theorem countTraceEvents_count (latest : UInt64) (remaining : Nat) (sequence : UInt64) :
    countTraceEvents latest (countTraceEvents latest remaining sequence) sequence =
      countTraceEvents latest remaining sequence := by
  induction remaining generalizing sequence with
  | zero => rfl
  | succ remaining ih =>
      by_cases more : sequence ≤ latest
      · simp only [countTraceEvents, more, ↓reduceIte, ih]
      · simp only [countTraceEvents, more, ↓reduceIte]

theorem length_traceEventsFrom (ring : Nat → TraceEvent) (latest : UInt64) (remaining : Nat)
    (sequence : UInt64) : (traceEventsFrom ring latest remaining sequence).length =
      countTraceEvents latest remaining sequence := by
  induction remaining generalizing sequence with
  | zero => rfl
  | succ remaining ih =>
      unfold traceEventsFrom countTraceEvents
      split
      · rw [List.length_cons, ih]
      · rfl

/-- The events are queued one after the other behind what was queued before. -/
theorem queueTraceEvents_ok {latest : UInt64} {remaining : Nat} {sequence : UInt64}
    {front : List UInt8}
    (queued : queueTraceEvents index latest remaining sequence
      (rt.setClient index ((rt.clients index).appendOutput front)) = .ok next) :
    next = rt.setClient index ((rt.clients index).appendOutput
      (front ++ (traceEventsFrom rt.traceEvents latest remaining sequence).flatMap
        TraceEvent.encode)) := by
  induction remaining generalizing sequence front with
  | zero =>
      cases queued
      rw [traceEventsFrom, List.flatMap_nil, List.append_nil]
  | succ remaining ih =>
      unfold queueTraceEvents at queued
      unfold traceEventsFrom
      split at queued
      · rename_i more
        obtain ⟨middle, taken, rest⟩ := bind_ok queued
        have appended := Runtime.queue_ok taken
        rw [Runtime.clients_setClient, Client.appendOutput_append] at appended
        simp only [Runtime.setClient, Function.update_idem] at appended
        subst appended
        rw [if_pos more, List.flatMap_cons, ← List.append_assoc]
        exact ih rest
      · rename_i enough
        cases queued
        rw [if_neg enough, List.flatMap_nil, List.append_nil]

/-- The count in the head of a trace reply is the number of its events. -/
theorem traceResult_count (rt : Runtime) (client : Client) :
    (traceResult rt client).count.toNat = traceReplyCount rt client := by
  have bound : traceReplyCount rt client < UInt32.size := by
    unfold traceReplyCount
    split
    · exact Nat.lt_of_le_of_lt (countTraceEvents_le _ _ _) (UInt32.toNat_lt_size _)
    · decide
  exact UInt32.toNat_ofNat_of_lt' bound

/-- The number of events of a trace reply is the count in its head. -/
theorem length_traceReplyEvents (rt : Runtime) (client : Client) :
    (traceReplyEvents rt client).length = traceReplyCount rt client := by
  unfold traceReplyEvents
  rw [length_traceEventsFrom]
  unfold traceReplyCount
  split
  · exact countTraceEvents_count _ _ _
  · rfl

/-- A trace reply is its head followed by its events. -/
theorem queueTraceResult_ok (reply : queueTraceResult rt index = .ok next) :
    next = rt.setClient index ((rt.clients index).appendOutput
      ((traceResult rt (rt.clients index)).encode ++
        (traceReplyEvents rt (rt.clients index)).flatMap TraceEvent.encode)) := by
  unfold queueTraceResult at reply
  obtain ⟨queued, taken, rest⟩ := bind_ok reply
  cases Runtime.queue_ok taken
  split at rest
  · rename_i none
    cases rest
    have counted := traceResult_count rt (rt.clients index)
    rw [none, ← length_traceReplyEvents] at counted
    rw [List.eq_nil_of_length_eq_zero counted.symm, List.flatMap_nil, List.append_nil]
  · rw [queueTraceEvents_ok rest, traceResult_count]
    rfl

theorem dispatchGetTrace_explained
    (operation : (rt.clients index).controlOp = some .getTrace)
    (dispatched : dispatchGetTrace rt index = .ok next) : Explained rt index env next := by
  obtain ⟨replied, reply, done⟩ := bind_ok dispatched
  cases done
  have counted : (traceResult rt (rt.clients index)).count.toNat =
      (traceReplyEvents rt (rt.clients index)).length := by
    rw [traceResult_count, length_traceReplyEvents]
  cases queueTraceResult_ok reply
  refine ⟨rt, _, .trace _ _ operation counted rfl rfl, ?_, Or.inl ⟨rfl, rfl, rfl⟩⟩
  simp only [Answered, finishClientRequest, Runtime.setClient, Function.update_self,
    Function.update_idem]

/-! ## Submissions -/

theorem refused_explained {middle : Runtime} {errno : Errno} {now : UInt64}
    (type : (rt.clients index).replyType = .submit) (rolledBack : RolledBack rt index env middle)
    (positive : env.sane = true → 0 < errno)
    (refusal : refuse middle index errno now = .ok next) : Explained rt index env next := by
  obtain ⟨args, kind, priority, recorded⟩ := refuse_trace refusal
  have same : SameTrace rt middle := by
    rw [rolledBack.frame]
    exact ⟨rfl, rfl, rfl⟩
  have request : (middle.clients index).request = (rt.clients index).request := by
    rw [rolledBack.frame]
    dsimp only
    rw [Function.update_self]
  rw [request] at kind priority
  exact ⟨middle, _, .refused middle errno _ type rolledBack positive, refuse_ok refusal,
    Or.inr ⟨now, args, Or.inr ⟨type, kind, priority⟩, (same.emit now args).trans recorded⟩⟩

/-- A refusal with an error of the daemon's own. -/
theorem refused_outright {middle : Runtime} {errno : Errno} {now : UInt64}
    (type : (rt.clients index).replyType = .submit) (rolledBack : RolledBack rt index env middle)
    (positive : 0 < errno) (refusal : refuse middle index errno now = .ok next) :
    Explained rt index env next :=
  refused_explained type rolledBack (fun _ => positive) refusal

theorem accepted_explained {started : Runtime} {taskIndex : Nat} {usesCredit : Bool}
    {now : UInt64} (type : (rt.clients index).replyType = .submit)
    (admitted : admissionRefusal rt (rt.clients index) = none)
    (start : Started rt index taskIndex env started)
    (credit : usesCredit = (rt.clients index).usesCredit)
    (acceptance : acceptSubmit started index taskIndex usesCredit now = .ok next) :
    Explained rt index env next := by
  subst credit
  obtain ⟨args, kind, priority, recorded⟩ := acceptSubmit_trace acceptance
  have same : SameTrace rt started := by
    rw [start.frame]
    exact ⟨rfl, rfl, rfl⟩
  rw [start.identifies.taskKind] at kind
  rw [start.identifies.submitPriority] at priority
  obtain ⟨credits, answered⟩ := acceptSubmit_ok acceptance
  rw [start.identifies.taskId] at answered
  exact ⟨_, _, .accepted taskIndex started credits type admitted start, answered,
    Or.inr ⟨now, args, Or.inr ⟨type, kind, priority⟩, (same.emit now args).trans recorded⟩⟩

/-- The errors the ring reports. -/
theorem DispatchEnv.sane_enter {env : DispatchEnv} (sane : env.sane = true) :
    env.enter.sane = true := by
  rw [DispatchEnv.sane, Bool.and_eq_true, Bool.and_eq_true] at sane
  exact sane.1.2

/-- The kinds of the dispatcher's last branch. -/
def RequestKind.isPlain : RequestKind → Bool
  | .openat | .close | .sockRead | .sockWrite | .fileRead | .fileWrite | .poll | .connect
  | .accept | .sockReadFixed | .sockWriteFixed => false
  | _ => true

theorem plainSubmission_accepts {started : Runtime} {taskIndex : Nat} {ring taken : Ring}
    {enter : EnterOutcome} (plain : (started.tasks taskIndex).taskKind.isPlain = true)
    (submitted : plainSubmission taskIndex (started.tasks taskIndex) ring enter = (taken, none)) :
    RingAccepts (taskSqe started taskIndex) enter ring taken := by
  unfold plainSubmission at submitted
  unfold taskSqe
  cases kind : (started.tasks taskIndex).taskKind with
  | openat | close | sockRead | sockWrite | fileRead | fileWrite | poll | connect | accept
  | sockReadFixed | sockWriteFixed =>
      simp only [kind, RequestKind.isPlain, Bool.false_eq_true] at plain
  | _ =>
      simp only [kind] at submitted ⊢
      exact ringQueue_accepts submitted

theorem plainSubmission_declines {started : Runtime} {taskIndex : Nat} {ring taken : Ring}
    {enter : EnterOutcome} {errno : Errno}
    (plain : (started.tasks taskIndex).taskKind.isPlain = true)
    (submitted : plainSubmission taskIndex (started.tasks taskIndex) ring enter =
      (taken, some errno)) :
    RingDeclines (taskSqe started taskIndex) enter ring taken := by
  unfold plainSubmission at submitted
  unfold taskSqe
  cases kind : (started.tasks taskIndex).taskKind with
  | openat | close | sockRead | sockWrite | fileRead | fileWrite | poll | connect | accept
  | sockReadFixed | sockWriteFixed =>
      simp only [kind, RequestKind.isPlain, Bool.false_eq_true] at plain
  | _ =>
      simp only [kind] at submitted ⊢
      exact ringQueue_declines submitted

theorem plainSubmission_positive {taskIndex : Nat} {task : TaskSlot} {ring taken : Ring}
    {enter : EnterOutcome} {errno : Errno} (sane : enter.sane = true)
    (submitted : plainSubmission taskIndex task ring enter = (taken, some errno)) :
    0 < errno := by
  unfold plainSubmission at submitted
  cases kind : task.taskKind with
  | _ =>
      simp only [kind] at submitted
      exact ringQueue_positive sane submitted

/-- A task of the last branch has the identity of its request and holds no slot. -/
theorem plainTask_identifies (rt : Runtime) (index : Nat) :
    Identifies rt index (plainTask rt index) ∧ (plainTask rt index).fileSlotIndex = none ∧
      (plainTask rt index).resultFileSlotIndex = none ∧
      (plainTask rt index).bufferSlotIndex = none := by
  unfold plainTask
  dsimp only
  split <;> exact ⟨⟨rfl, rfl, rfl, rfl, rfl, rfl, rfl⟩, rfl, rfl, rfl⟩

/-- A task slot that was free is clear again, and the client's file slots are as they
were or clear where they were free. -/
theorem rolledBack_intro {ring : Ring} {taskIndex : Nat} {nextId : UInt32}
    {files : Nat → FileSlot} {table : Nat → Fd} (free : findFreeTaskSlot rt = some taskIndex)
    (restored : ∀ slot, files slot = (rt.clients index).fileResources slot ∨
      ((rt.clients index).fileResources slot).isFree = true ∧ files slot = .cleared)
    (entry : table = rt.ring.kernel.registeredFiles ∨
      ∃ slot, ((rt.clients index).fileResources slot).registered = true ∧
        table = Function.update rt.ring.kernel.registeredFiles (globalFileIndex rt index slot)
          ((rt.clients index).fileResources slot).daemonFd)
    (refuses : RingRefuses env.enter (rt.ring.withFiles table) ring)
    (offered : Offered rt index ring) (counter : CounterAfter (rt.clients index) nextId) :
    RolledBack rt index env { rt with
      ring
      tasks := Function.update rt.tasks taskIndex .cleared
      clients := Function.update rt.clients index { rt.clients index with
        nextResourceId := nextId
        fileResources := files } } := by
  obtain ⟨-, inactive⟩ := firstBelow_some free
  rw [Bool.not_eq_true'] at inactive
  refine ⟨?_, ?_, ?_, ⟨table, entry, refuses⟩, offered, ?_⟩
  · simp only [Function.update_self]
  · intro other
    by_cases same : other = taskIndex
    · subst same
      exact Or.inr ⟨inactive, Function.update_self ..⟩
    · exact Or.inl (Function.update_of_ne same ..)
  · simpa only [Function.update_self] using restored
  · simpa only [Function.update_self] using counter

/-- A rollback that leaves the client alone. -/
theorem rolledBack_task {ring : Ring} {taskIndex : Nat} {table : Nat → Fd}
    (free : findFreeTaskSlot rt = some taskIndex)
    (entry : table = rt.ring.kernel.registeredFiles ∨
      ∃ slot, ((rt.clients index).fileResources slot).registered = true ∧
        table = Function.update rt.ring.kernel.registeredFiles (globalFileIndex rt index slot)
          ((rt.clients index).fileResources slot).daemonFd)
    (refuses : RingRefuses env.enter (rt.ring.withFiles table) ring)
    (offered : Offered rt index ring) :
    RolledBack rt index env
      { rt with ring, tasks := Function.update rt.tasks taskIndex .cleared } := by
  have cleared : RolledBack rt index env { rt with
      ring
      tasks := Function.update rt.tasks taskIndex .cleared
      clients := Function.update rt.clients index (rt.clients index) } :=
    rolledBack_intro free (fun _ => Or.inl rfl) entry refuses offered (.kept rfl)
  simpa only [Function.update_eq_self] using cleared

/-- The state of a started task, written out. -/
def startedRuntime (rt : Runtime) (index taskIndex : Nat) (task : TaskSlot) (ring : Ring)
    (nextId : UInt32) (files : Nat → FileSlot) (buffers : Nat → BufferSlot) : Runtime :=
  { rt with
    ring
    tasks := Function.update rt.tasks taskIndex task
    clients := Function.update rt.clients index { rt.clients index with
      nextResourceId := nextId
      fileResources := files
      bufferResources := buffers } }

theorem taskAt_startedRuntime {taskIndex : Nat} {task : TaskSlot} {ring : Ring} {nextId : UInt32}
    {files : Nat → FileSlot} {buffers : Nat → BufferSlot} :
    (startedRuntime rt index taskIndex task ring nextId files buffers).tasks taskIndex = task :=
  Function.update_self ..

theorem attempt_intro {ring : Ring} {taskIndex : Nat} {task : TaskSlot} {nextId : UInt32}
    {files : Nat → FileSlot} {buffers : Nat → BufferSlot}
    (admitted : admissionRefusal rt (rt.clients index) = none)
    (identifies : Identifies rt index task) (carries : Carries (rt.clients index) task)
    (acquires : Acquires (rt.clients index) { rt.clients index with
      fileResources := files, bufferResources := buffers } task)
    (numbered : Numbered (rt.clients index) task nextId) :
    Attempt rt index taskIndex
      (startedRuntime rt index taskIndex task ring nextId files buffers) := by
  have clientAt : (startedRuntime rt index taskIndex task ring nextId files buffers).clients index =
      { rt.clients index with
        nextResourceId := nextId, fileResources := files, bufferResources := buffers } :=
    Function.update_self ..
  refine ⟨admitted, ?_, ?_, ?_, ?_, ?_⟩
  · rw [taskAt_startedRuntime, clientAt]
    rfl
  · rw [taskAt_startedRuntime]
    exact identifies
  · rw [taskAt_startedRuntime]
    exact carries
  · rw [taskAt_startedRuntime, clientAt]
    exact ⟨acquires.file_other, acquires.file, acquires.file_close, acquires.file_found,
      acquires.result, acquires.buffer_other, acquires.buffer, acquires.fixed, acquires.unused,
      acquires.filled⟩
  · rw [taskAt_startedRuntime, clientAt]
    exact numbered

/-- An attempt the ring takes is started. -/
theorem Attempt.started {taskIndex : Nat} {attempt : Runtime} {table : Nat → Fd}
    (made : Attempt rt index taskIndex attempt) (free : findFreeTaskSlot rt = some taskIndex)
    (fresh : rt.nextTaskId < taskIdReservedMin)
    (entry : TableAfterStart rt index (attempt.tasks taskIndex) table)
    (accepts : RingAccepts (taskSqe attempt taskIndex) env.enter (rt.ring.withFiles table)
      attempt.ring) : Started rt index taskIndex env attempt :=
  ⟨free, fresh, made.frame, made.identifies, made.carries, made.acquires, ⟨table, entry, accepts⟩,
    made.numbered⟩

/-- A task that holds no slot takes hold of nothing. -/
theorem acquires_none {client : Client} {task : TaskSlot} (file : task.fileSlotIndex = none)
    (result : task.resultFileSlotIndex = none) (buffer : task.bufferSlotIndex = none)
    (plain : task.taskKind.isPlain = true) : Acquires client client task := by
  refine ⟨fun _ _ _ => rfl, ?_, ?_, ?_, ?_, fun _ _ => rfl, ?_, ?_, ?_, ?_⟩
  · simp only [file, reduceCtorEq, false_implies, implies_true]
  · simp only [file, reduceCtorEq, false_implies, implies_true]
  · simp only [file, reduceCtorEq, false_implies, implies_true]
  · simp only [result, reduceCtorEq, false_implies, implies_true]
  · simp only [buffer, reduceCtorEq, false_implies, implies_true]
  · rintro (fixed | fixed)
    · simp only [fixed, RequestKind.isPlain, Bool.false_eq_true] at plain
    · simp only [fixed, RequestKind.isPlain, Bool.false_eq_true] at plain
  · exact fun reserved => absurd result reserved
  · simp only [buffer, reduceCtorEq, false_implies, implies_true]

/-- A task that holds no slot carries no resource. -/
theorem carries_none {client : Client} {task : TaskSlot} (file : task.fileSlotIndex = none)
    (buffer : task.bufferSlotIndex = none) (plain : task.taskKind.isPlain = true) :
    Carries client task := by
  have notFile : task.taskKind.usesFile = false := by
    revert plain
    cases task.taskKind <;> first | exact fun _ => rfl | exact nofun
  refine ⟨?_, fun named => absurd file named, fun named => absurd buffer named, ?_, ?_, ?_⟩
  · rintro (uses | close)
    · rw [notFile] at uses
      cases uses
    · rw [close] at plain
      cases plain
  · rw [notFile]
    exact nofun
  · rw [notFile]
    exact nofun
  · rintro (accept | openat)
    · rw [accept] at plain
      cases plain
    · rw [openat] at plain
      cases plain

theorem dispatchPlain_explained (type : (rt.clients index).replyType = .submit)
    (admitted : admissionRefusal rt (rt.clients index) = none)
    (plain : (rt.clients index).request.taskKind.isPlain = true)
    (dispatched : dispatchPlain rt index env = .ok next) : Explained rt index env next := by
  unfold dispatchPlain at dispatched
  split at dispatched
  · exact refused_outright type (rolledBack_refl rt index env) (by decide) dispatched
  · rename_i fresh
    split at dispatched
    · exact refused_outright type (rolledBack_refl rt index env) (by decide) dispatched
    · rename_i taskIndex free
      dsimp only at dispatched
      obtain ⟨identifies, file, result, buffer⟩ := plainTask_identifies rt index
      have kind : (plainTask rt index).taskKind.isPlain = true := identifies.taskKind ▸ plain
      have made : ∀ ring, Attempt rt index taskIndex (startedRuntime rt index taskIndex
          (plainTask rt index) ring (rt.clients index).nextResourceId
          (rt.clients index).fileResources (rt.clients index).bufferResources) := fun ring =>
        attempt_intro admitted identifies (carries_none file buffer kind)
          (acquires_none file result buffer kind) (Or.inl ⟨result, rfl⟩)
      have taskAt : ∀ ring, (startedRuntime rt index taskIndex (plainTask rt index) ring
          (rt.clients index).nextResourceId (rt.clients index).fileResources
          (rt.clients index).bufferResources).tasks taskIndex = plainTask rt index :=
        fun ring => taskAt_startedRuntime
      split at dispatched
      · rename_i ring errno submitted
        simp only [Runtime.setTask, Function.update_idem] at dispatched
        rw [← taskAt ring] at submitted kind
        have declines := plainSubmission_declines kind submitted
        exact refused_explained type (@rolledBack_task _ _ _ _ _ rt.ring.kernel.registeredFiles free
          (Or.inl rfl) declines.refuses ((made ring).offered declines))
          (fun sane => plainSubmission_positive (DispatchEnv.sane_enter sane) submitted) dispatched
      · rename_i ring submitted
        have shape : { rt.setTask taskIndex (plainTask rt index) with ring } =
            startedRuntime rt index taskIndex (plainTask rt index) ring
              (rt.clients index).nextResourceId (rt.clients index).fileResources
              (rt.clients index).bufferResources := by
          simp only [startedRuntime, Runtime.setTask, Function.update_eq_self]
        rw [shape] at dispatched
        refine accepted_explained type admitted ((made ring).started free (UInt64.not_le.mp fresh)
          (Or.inl ⟨?_, rfl⟩) ?_) rfl dispatched
        · rw [taskAt, identifies.taskKind]
          intro close
          simp only [close, RequestKind.isPlain, Bool.false_eq_true] at plain
        · rw [← taskAt ring] at submitted kind
          exact plainSubmission_accepts kind submitted

/-! ## OPENAT -/

/-- Moving the id counter changes neither the tasks nor what they are searched for. -/
theorem findFreeTaskSlot_setClient (client : Client) :
    findFreeTaskSlot (rt.setClient index client) = findFreeTaskSlot rt := rfl

/-- Giving up a slot that is reserved clears it; nothing is closed. -/
theorem releaseReservation_reserved {slot : Nat} {resourceId : ResourceId}
    (valid : resourceId ≠ resourceIdInvalid)
    (reserved : (rt.clients index).fileResources slot = .reserved resourceId) :
    releaseReservation rt index slot resourceId =
      rt.setClient index { (rt.clients index).setFileSlot slot .cleared with
        nextResourceId := resourceId } := by
  have closed : ¬(0 : Fd) ≤ -1 := by decide
  simp only [releaseReservation, clearFileSlot, reserved, FileSlot.reserved, closed, ↓reduceIte,
    unallocateResourceId, valid, ne_eq, not_false_eq_true, Runtime.setClient,
    Function.update_self, Function.update_idem]

/-- Clearing a slot that was free restores it. -/
theorem restored_of_free {files : Nat → FileSlot} {slot : Nat}
    (free : (files slot).isFree = true) (other : Nat) :
    Function.update files slot .cleared other = files other ∨
      (files other).isFree = true ∧ Function.update files slot .cleared other = .cleared := by
  by_cases same : other = slot
  · subst same
    exact Or.inr ⟨free, Function.update_self ..⟩
  · exact Or.inl (Function.update_of_ne same ..)

/-- OPENAT takes hold of the slot it reserves. -/
theorem openatTask_acquires {slot : Nat} {resourceId : ResourceId}
    (kind : (rt.clients index).request.taskKind = .openat)
    (valid : resourceId ≠ resourceIdInvalid)
    (unused : resourceIdInUse (rt.clients index) resourceId = false)
    (within : slot < (rt.clients index).fileSlotLimit)
    (free : ((rt.clients index).fileResources slot).isFree = true) :
    Acquires (rt.clients index) { rt.clients index with
      fileResources :=
        Function.update (rt.clients index).fileResources slot (.reserved resourceId)
      bufferResources := (rt.clients index).bufferResources }
      (openatTask rt index slot resourceId) := by
  have file : (openatTask rt index slot resourceId).fileSlotIndex = none := rfl
  have result : (openatTask rt index slot resourceId).resultFileSlotIndex = some slot := rfl
  have buffer : (openatTask rt index slot resourceId).bufferSlotIndex = none := rfl
  have kept : (openatTask rt index slot resourceId).taskKind = .openat := kind
  refine ⟨?_, ?_, ?_, ?_, ?_, fun _ _ => rfl, ?_, ?_, fun _ => unused, ?_⟩
  · intro other _ apart
    refine Function.update_of_ne ?_ ..
    rintro rfl
    exact apart result
  · simp only [file, reduceCtorEq, false_implies, implies_true]
  · simp only [file, reduceCtorEq, false_implies, implies_true]
  · simp only [file, reduceCtorEq, false_implies, implies_true]
  · intro other same
    cases result.symm.trans same
    refine ⟨within, free, valid, ?_, Function.update_self ..⟩
    rw [file]
    exact nofun
  · simp only [buffer, reduceCtorEq, false_implies, implies_true]
  · simp only [kept, reduceCtorEq, or_self, false_implies]
  · simp only [buffer, reduceCtorEq, false_implies, implies_true]

/-- OPENAT names no resource. -/
theorem openatTask_carries {slot : Nat} {resourceId : ResourceId}
    (kind : (rt.clients index).request.taskKind = .openat) :
    Carries (rt.clients index) (openatTask rt index slot resourceId) := by
  have kept : (openatTask rt index slot resourceId).taskKind = .openat := kind
  refine ⟨?_, fun named => absurd rfl named, fun named => absurd rfl named, ?_, ?_,
    fun _ => nofun⟩
  · rw [kept]
    rintro (uses | close)
    · cases uses
    · cases close
  · rw [kept]
    exact nofun
  · rw [kept]
    exact nofun

/-- The task of OPENAT does not depend on the id counter. -/
theorem openatTask_setNextId {slot : Nat} {resourceId : ResourceId} {nextId : UInt32} :
    openatTask (rt.setClient index { rt.clients index with nextResourceId := nextId }) index slot
      resourceId = openatTask rt index slot resourceId := by
  simp only [openatTask, newTask, Client.usesCredit, Runtime.setClient, Function.update_self]

/-- The state OPENAT submits from. -/
theorem openat_started {taskIndex slot : Nat} {resourceId : ResourceId} {nextId : UInt32}
    {ring : Ring} (task : TaskSlot) :
    { ((rt.setClient index { rt.clients index with nextResourceId := nextId }).setTask taskIndex
        task).setClient index
        (({ rt.clients index with nextResourceId := nextId } : Client).setFileSlot slot
          (.reserved resourceId)) with ring } =
      startedRuntime rt index taskIndex task ring nextId
        (Function.update (rt.clients index).fileResources slot (.reserved resourceId))
        (rt.clients index).bufferResources := by
  simp only [startedRuntime, Runtime.setTask, Runtime.setClient, Client.setFileSlot,
    Function.update_idem]

theorem dispatchOpenat_explained (type : (rt.clients index).replyType = .submit)
    (admitted : admissionRefusal rt (rt.clients index) = none)
    (openat : (rt.clients index).request.taskKind = .openat)
    (dispatched : dispatchOpenat rt index env = .ok next) : Explained rt index env next := by
  unfold dispatchOpenat at dispatched
  dsimp only at dispatched
  split at dispatched
  · exact refused_outright type (rolledBack_refl rt index env) (by decide) dispatched
  · rename_i fresh
    split at dispatched
    · exact refused_outright type (rolledBack_refl rt index env) (by decide) dispatched
    · rename_i slot found
      obtain ⟨nextId, moved⟩ := allocateResourceId_snd (rt.clients index)
      have counter : CounterAfter (rt.clients index) nextId := .moved (by rw [moved])
      rw [moved] at dispatched
      split at dispatched
      · exact refused_outright type (rolledBack_setNextId rt index env counter)
          (by decide) dispatched
      · rename_i valid
        rw [findFreeTaskSlot_setClient] at dispatched
        split at dispatched
        · exact refused_outright type (rolledBack_setNextId rt index env counter)
            (by decide) dispatched
        · rename_i taskIndex free
          obtain ⟨within, freeFile⟩ := firstBelow_some found
          rw [openatTask_setNextId] at dispatched
          have identifies : Identifies rt index (openatTask rt index slot
              (allocateResourceId (rt.clients index)).1) := ⟨rfl, rfl, rfl, rfl, rfl, rfl, rfl⟩
          have made : ∀ ring, Attempt rt index taskIndex (startedRuntime rt index taskIndex
              (openatTask rt index slot (allocateResourceId (rt.clients index)).1) ring nextId
              (Function.update (rt.clients index).fileResources slot
                (.reserved (allocateResourceId (rt.clients index)).1))
              (rt.clients index).bufferResources) := fun ring =>
            attempt_intro admitted identifies (openatTask_carries openat)
              (openatTask_acquires openat valid (allocateResourceId_unused valid) within freeFile)
              (Or.inr ⟨rfl, by rw [moved]⟩)
          split at dispatched
          · rename_i ring errno submitted
            have declines : RingDeclines (taskSqe (startedRuntime rt index taskIndex
                (openatTask rt index slot (allocateResourceId (rt.clients index)).1) ring nextId
                (Function.update (rt.clients index).fileResources slot
                  (.reserved (allocateResourceId (rt.clients index)).1))
                (rt.clients index).bufferResources) taskIndex) env.enter
                (rt.ring.withFiles rt.ring.kernel.registeredFiles) ring := by
              simp only [taskSqe, taskAt_startedRuntime, identifies.taskKind, openat]
              exact ringQueue_declines submitted
            rw [releaseReservation_reserved valid (by
              simp only [Runtime.clients_setClient, Client.setFileSlot, Function.update_self])]
              at dispatched
            simp only [Client.setFileSlot, Runtime.setClient, Runtime.setTask,
              Function.update_self, Function.update_idem] at dispatched
            exact refused_explained type (rolledBack_intro free (restored_of_free freeFile)
              (Or.inl rfl) declines.refuses ((made ring).offered declines) (.returned valid rfl))
              (fun sane => ringQueue_positive (DispatchEnv.sane_enter sane) submitted) dispatched
          · rename_i ring submitted
            rw [openat_started (openatTask rt index slot _)] at dispatched
            refine accepted_explained type admitted ((made ring).started free
              (UInt64.not_le.mp fresh) (Or.inl ⟨?_, rfl⟩) ?_) ?_ dispatched
            · rw [taskAt_startedRuntime, identifies.taskKind, openat]
              rintro ⟨⟩
            · simp only [taskSqe, taskAt_startedRuntime, identifies.taskKind, openat]
              exact ringQueue_accepts submitted
            · rw [Client.usesCredit, openat]
              rfl

/-! ## CLOSE -/

/-- A refusal commutes with writing the table of registered files. -/
theorem ringDeclines_restore {sqe : Sqe} {enter : EnterOutcome} {ring refused : Ring}
    {table : Nat → Fd} {entry : Nat} {taken fd : Fd}
    (written : table = Function.update ring.kernel.registeredFiles entry taken)
    (declines : RingDeclines sqe enter (ring.withFiles table) refused) :
    RingDeclines sqe enter (ring.withFiles (Function.update ring.kernel.registeredFiles entry fd))
      (refused.withFiles (Function.update refused.kernel.registeredFiles entry fd)) := by
  subst written
  rcases declines with same | ⟨errno, failed, published⟩
  · subst same
    exact Or.inl (by simp only [Ring.withFiles, Function.update_idem])
  · subst published
    exact Or.inr ⟨errno, failed, by
      simp only [Ring.withFiles, Ring.publish, Function.update_idem]⟩

/-- CLOSE takes hold of the slot it closes. -/
theorem closeTask_acquires {slot : Nat}
    (kind : (rt.clients index).request.taskKind = .close)
    (found : findFileSlot (rt.clients index) (rt.clients index).resourceId = some slot)
    (closing : ((rt.clients index).fileResources slot).closing = false)
    (idle : ((rt.clients index).fileResources slot).inFlight = 0)
    (held : 0 ≤ ((rt.clients index).fileResources slot).daemonFd) :
    Acquires (rt.clients index) { rt.clients index with
      fileResources := Function.update (rt.clients index).fileResources slot
        { (rt.clients index).fileResources slot with
          daemonFd := -1, registered := false, closing := true, inFlight := 1 }
      bufferResources := (rt.clients index).bufferResources }
      (closeTask rt index slot ((rt.clients index).fileResources slot).daemonFd) := by
  obtain ⟨within, matched⟩ := firstBelow_some found
  rw [Bool.and_eq_true, beq_iff_eq] at matched
  have file : (closeTask rt index slot
    ((rt.clients index).fileResources slot).daemonFd).fileSlotIndex = some slot := rfl
  have kept : (closeTask rt index slot
    ((rt.clients index).fileResources slot).daemonFd).taskKind = .close := kind
  refine ⟨?_, ?_, ?_, ?_, nofun, fun _ _ => rfl, nofun, ?_, fun none => absurd rfl none, nofun⟩
  · intro other apart _
    refine Function.update_of_ne ?_ ..
    rintro rfl
    exact apart file
  · intro other _ notClose
    exact absurd kind notClose
  · intro other same _
    cases file.symm.trans same
    exact ⟨idle, rfl, held, Function.update_self ..⟩
  · intro other same
    cases file.symm.trans same
    exact ⟨within, matched.1, closing, matched.2⟩
  · simp only [kept, reduceCtorEq, or_self, false_implies]

theorem closeTask_carries {slot : Nat} {fd : Fd}
    (kind : (rt.clients index).request.taskKind = .close) :
    Carries (rt.clients index) (closeTask rt index slot fd) := by
  have kept : (closeTask rt index slot fd).taskKind = .close := kind
  refine ⟨fun _ => nofun, fun _ => rfl, fun named => absurd rfl named, ?_, ?_, ?_⟩
  · rw [kept]
    exact nofun
  · rw [kept]
    exact nofun
  · rw [kept]
    rintro (accept | openat)
    · cases accept
    · cases openat

theorem dispatchClose_explained (type : (rt.clients index).replyType = .submit)
    (admitted : admissionRefusal rt (rt.clients index) = none)
    (kind : (rt.clients index).request.taskKind = .close)
    (dispatched : dispatchClose rt index env = .ok next) : Explained rt index env next := by
  unfold dispatchClose at dispatched
  dsimp only at dispatched
  split at dispatched
  · exact refused_outright type (rolledBack_refl rt index env) (by decide) dispatched
  · rename_i slot found
    split at dispatched
    · exact refused_outright type (rolledBack_refl rt index env) (by decide) dispatched
    · rename_i closing
      split at dispatched
      · exact refused_outright type (rolledBack_refl rt index env) (by decide) dispatched
      · rename_i busy
        simp only [ne_eq, decide_not, Bool.or_eq_true, Bool.not_eq_eq_eq_not, Bool.not_true,
          decide_eq_false_iff_not, decide_eq_true_eq, not_or, not_not, Int32.not_lt] at busy
        obtain ⟨idle, held⟩ := busy
        split at dispatched
        · exact refused_outright type (rolledBack_refl rt index env) (by decide) dispatched
        · rename_i fresh
          split at dispatched
          · exact refused_outright type (rolledBack_refl rt index env) (by decide) dispatched
          · rename_i taskIndex free
            obtain ⟨removed, update, rest⟩ := bind_ok dispatched
            cases updateRegisteredFile_ok update
            have registered := (Bool.and_eq_true _ _ ▸ (firstBelow_some found).2).1
            have identifies : Identifies rt index (closeTask rt index slot
                ((rt.clients index).fileResources slot).daemonFd) :=
              ⟨rfl, rfl, rfl, rfl, rfl, rfl, rfl⟩
            have made : ∀ ring, Attempt rt index taskIndex (startedRuntime rt index taskIndex
                (closeTask rt index slot ((rt.clients index).fileResources slot).daemonFd) ring
                (rt.clients index).nextResourceId
                (Function.update (rt.clients index).fileResources slot
                  { (rt.clients index).fileResources slot with
                    daemonFd := -1, registered := false, closing := true, inFlight := 1 })
                (rt.clients index).bufferResources) := fun ring =>
              attempt_intro admitted identifies (closeTask_carries kind)
                (closeTask_acquires kind found ((Bool.not_eq_true _).mp closing) idle held)
                (Or.inl ⟨rfl, rfl⟩)
            split at rest
            · rename_i ring errno submitted
              have declines : RingDeclines (taskSqe (startedRuntime rt index taskIndex
                  (closeTask rt index slot ((rt.clients index).fileResources slot).daemonFd) ring
                  (rt.clients index).nextResourceId
                  (Function.update (rt.clients index).fileResources slot
                    { (rt.clients index).fileResources slot with
                      daemonFd := -1, registered := false, closing := true, inFlight := 1 })
                  (rt.clients index).bufferResources) taskIndex) env.enter
                  (rt.ring.withFiles (Function.update rt.ring.kernel.registeredFiles
                    (globalFileIndex rt index slot) (-1))) ring := by
                simp only [taskSqe, taskAt_startedRuntime, identifies.taskKind, kind]
                exact ringQueue_declines submitted
              have restores := @ringDeclines_restore _ _ _ _ _ _ _
                ((rt.clients index).fileResources slot).daemonFd rfl declines
              obtain ⟨restored, restore, refusal⟩ := bind_ok rest
              cases updateRegisteredFile_ok restore
              have same : ({ (rt.clients index).fileResources slot with
                  registered := true, closing := false, inFlight := 0 } : FileSlot) =
                  (rt.clients index).fileResources slot := by
                rw [← registered, ← (Bool.not_eq_true _).mp closing, ← idle]
              simp only [same, Client.setFileSlot, Runtime.setTask, Runtime.setClient,
                Function.update_idem, Function.update_eq_self] at refusal
              exact refused_explained type (rolledBack_task free (Or.inr ⟨slot, registered, rfl⟩)
                restores.refuses ((made ring).offered restores))
                (fun sane => ringQueue_positive (DispatchEnv.sane_enter sane) submitted) refusal
            · rename_i ring submitted
              change acceptSubmit (startedRuntime rt index taskIndex (closeTask rt index slot
                ((rt.clients index).fileResources slot).daemonFd) ring
                (rt.clients index).nextResourceId
                (Function.update (rt.clients index).fileResources slot
                  { (rt.clients index).fileResources slot with
                    daemonFd := -1, registered := false, closing := true, inFlight := 1 })
                (rt.clients index).bufferResources) index taskIndex true env.now = .ok next at rest
              refine accepted_explained type admitted ((made ring).started free
                (UInt64.not_le.mp fresh) (Or.inr ⟨?_, slot, ?_, rfl⟩) ?_) ?_ rest
              · rw [taskAt_startedRuntime]
                exact kind
              · rw [taskAt_startedRuntime]
                rfl
              · simp only [taskSqe, taskAt_startedRuntime, identifies.taskKind, kind]
                exact ringQueue_accepts submitted
              · rw [Client.usesCredit, kind]
                rfl

/-! ## Submissions on a file resource -/

theorem resourceSubmission_accepts {started : Runtime} {taskIndex slot : Nat} {task : TaskSlot}
    {ring taken : Ring} {enter : EnterOutcome} (taskAt : started.tasks taskIndex = task)
    (kinds : task.taskKind.usesFile = true) (client : task.clientIndex = index)
    (file : task.fileSlotIndex = some slot)
    (submitted : resourceSubmission started index taskIndex slot task env ring enter =
      (taken, none)) :
    RingAccepts (taskSqe started taskIndex) enter ring taken := by
  unfold resourceSubmission at submitted
  unfold taskSqe
  cases kind : task.taskKind with
  | accept =>
      simp only [taskAt, kind, client, file, ringSubmitAccept] at submitted ⊢
      split at submitted
      · cases submitted
      · exact ringQueue_accepts submitted
  | sockRead | sockWrite | fileRead | fileWrite | poll | connect | sockReadFixed
  | sockWriteFixed =>
      simp only [taskAt, kind, client, file, Option.getD_some] at submitted ⊢
      exact ringQueue_accepts submitted
  | _ => simp only [kind, RequestKind.usesFile, Bool.false_eq_true] at kinds

theorem resourceSubmission_declines {started : Runtime} {taskIndex slot : Nat} {task : TaskSlot}
    {ring taken : Ring} {enter : EnterOutcome} {errno : Errno}
    (taskAt : started.tasks taskIndex = task) (kinds : task.taskKind.usesFile = true)
    (client : task.clientIndex = index) (file : task.fileSlotIndex = some slot)
    (submitted : resourceSubmission started index taskIndex slot task env ring enter =
      (taken, some errno)) : RingDeclines (taskSqe started taskIndex) enter ring taken := by
  unfold resourceSubmission at submitted
  unfold taskSqe
  cases kind : task.taskKind with
  | accept =>
      simp only [taskAt, kind, client, file, ringSubmitAccept] at submitted ⊢
      split at submitted
      · cases submitted
        exact Or.inl rfl
      · exact ringQueue_declines submitted
  | sockRead | sockWrite | fileRead | fileWrite | poll | connect | sockReadFixed
  | sockWriteFixed =>
      simp only [taskAt, kind, client, file, Option.getD_some] at submitted ⊢
      exact ringQueue_declines submitted
  | _ => simp only [kind, RequestKind.usesFile, Bool.false_eq_true] at kinds

theorem resourceSubmission_positive {taskIndex slot : Nat} {task : TaskSlot} {ring taken : Ring}
    {enter : EnterOutcome} {errno : Errno} (sane : enter.sane = true)
    (submitted : resourceSubmission rt index taskIndex slot task env ring enter =
      (taken, some errno)) : 0 < errno := by
  unfold resourceSubmission at submitted
  cases kind : task.taskKind with
  | accept =>
      simp only [kind, ringSubmitAccept] at submitted
      split at submitted
      · cases submitted
        decide
      · exact ringQueue_positive sane submitted
  | _ =>
      simp only [kind] at submitted
      exact ringQueue_positive sane submitted

/-- Taking a hold and giving it back leaves the client as it was. -/
theorem releaseSlots_acquireSlots (client : Client) (slot : Nat) (buffer : Option Nat) :
    releaseSlots (acquireSlots client slot buffer) slot buffer = client := by
  cases buffer with
  | none =>
      simp only [releaseSlots, acquireSlots, Client.setFileSlot, Function.update_self,
        Nat.add_sub_cancel, Function.update_idem, Function.update_eq_self]
  | some buffer =>
      simp only [releaseSlots, acquireSlots, Client.setFileSlot, Client.setBufferSlot,
        Function.update_self, Nat.add_sub_cancel, Function.update_idem, Function.update_eq_self]

/-- The buffer slot a request works on is registered under the id it names. -/
theorem taskBuffer_found {client : Client} {slot : Nat}
    (found : taskBuffer client = .ok (some slot)) :
    slot < client.bufferSlotLimit ∧ (client.bufferResources slot).registered = true ∧
      (client.bufferResources slot).closing = false ∧
      (client.bufferResources slot).resourceId = client.bufferResourceId := by
  have search : ∀ {other : Nat}, findBufferSlot client client.bufferResourceId = some other →
      ¬(client.bufferResources other).closing = true → other = slot →
      slot < client.bufferSlotLimit ∧ (client.bufferResources slot).registered = true ∧
        (client.bufferResources slot).closing = false ∧
        (client.bufferResources slot).resourceId = client.bufferResourceId := by
    rintro other located open' rfl
    obtain ⟨within, matched⟩ := firstBelow_some located
    rw [Bool.and_eq_true, beq_iff_eq] at matched
    exact ⟨within, matched.1, (Bool.not_eq_true _).mp open', matched.2⟩
  unfold taskBuffer at found
  cases kind : client.request.taskKind with
  | sockReadFixed | sockWriteFixed =>
      simp only [kind] at found
      split at found
      · cases found
      · rename_i other located
        split at found
        · cases found
        · rename_i notClosing
          split at found
          · cases found
          · cases found
            exact search located notClosing rfl
  | _ => simp only [kind, Except.ok.injEq, reduceCtorEq] at found

/-- A request with a fixed buffer finds a slot or is refused. -/
theorem taskBuffer_fixed {client : Client} {buffer : Option Nat}
    (kind : client.request.taskKind = .sockReadFixed ∨ client.request.taskKind = .sockWriteFixed)
    (found : taskBuffer client = .ok buffer) : buffer ≠ none := by
  rintro rfl
  unfold taskBuffer at found
  rcases kind with kind | kind
  · simp only [kind] at found
    split at found
    · cases found
    · split_ifs at found
      cases found
  · simp only [kind] at found
    split at found
    · cases found
    · split_ifs at found
      cases found

/-- A write from a fixed buffer does not ask for more than the buffer holds. -/
theorem taskBuffer_filled {client : Client} {slot : Nat}
    (write : client.request.taskKind = .sockWriteFixed)
    (found : taskBuffer client = .ok (some slot)) :
    client.ioLength ≤ (client.bufferResources slot).validLength := by
  unfold taskBuffer at found
  simp only [write] at found
  split at found
  · cases found
  · split at found
    · cases found
    · split at found
      · cases found
      · rename_i enough
        cases found
        simp only [beq_self_eq_true, Bool.true_and, decide_eq_true_eq] at enough
        exact UInt32.not_lt.mp enough

theorem taskBuffer_positive {client : Client} {errno : Errno}
    (failed : taskBuffer client = .error errno) : 0 < errno := by
  unfold taskBuffer at failed
  cases kind : client.request.taskKind with
  | sockReadFixed | sockWriteFixed =>
      simp only [kind] at failed
      split at failed
      · cases failed
        decide
      · split at failed
        · cases failed
          decide
        · split at failed
          · cases failed
            decide
          · cases failed
  | _ =>
      simp only [kind] at failed
      cases failed

theorem admissionRefusal_positive {client : Client} {errno : Errno}
    (refused : admissionRefusal rt client = some errno) : 0 < errno := by
  unfold admissionRefusal at refused
  split at refused
  · cases refused
    decide
  · split at refused
    · cases refused
      decide
    · split at refused
      · cases refused
        decide
      · split at refused
        · cases refused
          decide
        · split at refused
          · cases refused
            decide
          · cases refused

/-- Only the fixed-buffer kinds name a buffer slot. -/
theorem taskBuffer_accept {client : Client} {buffer : Option Nat}
    (kind : client.request.taskKind = .accept) (found : taskBuffer client = .ok buffer) :
    buffer = none := by
  simp only [taskBuffer, kind, Except.ok.injEq] at found
  exact found.symm

/-- A hold only changes the two tables of slots. -/
theorem acquireSlots_eq (client : Client) (slot : Nat) (buffer : Option Nat) :
    acquireSlots client slot buffer = { client with
      fileResources := Function.update client.fileResources slot
        { client.fileResources slot with inFlight := (client.fileResources slot).inFlight + 1 }
      bufferResources := (acquireSlots client slot buffer).bufferResources } := by
  cases buffer with
  | none => rfl
  | some buffer => rfl

/-- What a hold does to the buffer slots. -/
theorem acquireSlots_buffers {client : Client} {slot : Nat} {buffer : Option Nat}
    (found : taskBuffer client = .ok buffer) :
    (∀ other, buffer ≠ some other →
      (acquireSlots client slot buffer).bufferResources other = client.bufferResources other) ∧
    ∀ other, buffer = some other → other < client.bufferSlotLimit ∧
      (client.bufferResources other).registered = true ∧
      (client.bufferResources other).closing = false ∧
      (client.bufferResources other).resourceId = client.bufferResourceId ∧
      (acquireSlots client slot buffer).bufferResources other =
        { client.bufferResources other with
          inFlight := (client.bufferResources other).inFlight + 1 } := by
  constructor
  · intro other apart
    cases buffer with
    | none => rfl
    | some held =>
        refine Function.update_of_ne ?_ ..
        rintro rfl
        exact apart rfl
  · rintro other rfl
    obtain ⟨within, registered, notClosing, same⟩ := taskBuffer_found found
    exact ⟨within, registered, notClosing, same, Function.update_self ..⟩

/-- A request on a file resource that reserves nothing. -/
theorem resourceTask_acquires {slot : Nat} {buffer : Option Nat}
    (kind : (rt.clients index).request.taskKind ≠ .close)
    (found : findFileSlot (rt.clients index) (rt.clients index).resourceId = some slot)
    (closing : ((rt.clients index).fileResources slot).closing = false)
    (bufferFound : taskBuffer (rt.clients index) = .ok buffer) :
    Acquires (rt.clients index) { rt.clients index with
      fileResources := Function.update (rt.clients index).fileResources slot
        { (rt.clients index).fileResources slot with
          inFlight := ((rt.clients index).fileResources slot).inFlight + 1 }
      bufferResources := (acquireSlots (rt.clients index) slot buffer).bufferResources }
      (resourceTask rt index slot buffer) := by
  obtain ⟨within, matched⟩ := firstBelow_some found
  rw [Bool.and_eq_true, beq_iff_eq] at matched
  obtain ⟨others, held⟩ := acquireSlots_buffers bufferFound
  have file : (resourceTask rt index slot buffer).fileSlotIndex = some slot := rfl
  refine ⟨?_, ?_, ?_, ?_, nofun, others, held, fun fixed => taskBuffer_fixed fixed bufferFound,
    fun none => absurd rfl none, fun write slot named => taskBuffer_filled write
      (bufferFound.trans (congrArg Except.ok named))⟩
  · intro other apart _
    refine Function.update_of_ne ?_ ..
    rintro rfl
    exact apart file
  · intro other same _
    cases file.symm.trans same
    exact Function.update_self ..
  · intro other _ close
    exact absurd close kind
  · intro other same
    cases file.symm.trans same
    exact ⟨within, matched.1, closing, matched.2⟩

/-- The task of ACCEPT. -/
def acceptTask (rt : Runtime) (index slot result : Nat) (resourceId : ResourceId) : TaskSlot :=
  { resourceTask rt index slot none with
    resultFileSlotIndex := some result
    resultResourceId := resourceId }

/-- ACCEPT holds the slot it listens on and the one it reserves. -/
theorem acceptTask_acquires {slot result : Nat} {resourceId : ResourceId}
    (kind : (rt.clients index).request.taskKind = .accept)
    (found : findFileSlot (rt.clients index) (rt.clients index).resourceId = some slot)
    (closing : ((rt.clients index).fileResources slot).closing = false)
    (valid : resourceId ≠ resourceIdInvalid)
    (unused : resourceIdInUse (rt.clients index) resourceId = false) (apart : result ≠ slot)
    (within : result < (rt.clients index).fileSlotLimit)
    (free : ((rt.clients index).fileResources result).isFree = true) :
    Acquires (rt.clients index) { rt.clients index with
      fileResources := Function.update (Function.update (rt.clients index).fileResources slot
        { (rt.clients index).fileResources slot with
          inFlight := ((rt.clients index).fileResources slot).inFlight + 1 })
        result (.reserved resourceId)
      bufferResources := (rt.clients index).bufferResources }
      (acceptTask rt index slot result resourceId) := by
  obtain ⟨slotWithin, matched⟩ := firstBelow_some found
  rw [Bool.and_eq_true, beq_iff_eq] at matched
  have file : (acceptTask rt index slot result resourceId).fileSlotIndex = some slot := rfl
  have reserved : (acceptTask rt index slot result resourceId).resultFileSlotIndex =
    some result := rfl
  have kept : (acceptTask rt index slot result resourceId).taskKind = .accept := kind
  refine ⟨?_, ?_, ?_, ?_, ?_, fun _ _ => rfl, nofun, ?_, fun _ => unused, nofun⟩
  · intro other notFile notResult
    change Function.update (Function.update _ slot _) result _ other = _
    rw [Function.update_of_ne, Function.update_of_ne]
    · rintro rfl
      exact notFile file
    · rintro rfl
      exact notResult reserved
  · intro other same _
    cases file.symm.trans same
    change Function.update (Function.update _ slot _) result _ slot = _
    rw [Function.update_of_ne (Ne.symm apart), Function.update_self]
  · intro other _ close
    cases kept.symm.trans close
  · intro other same
    cases file.symm.trans same
    exact ⟨slotWithin, matched.1, closing, matched.2⟩
  · intro other same
    cases reserved.symm.trans same
    refine ⟨within, free, valid, ?_, Function.update_self ..⟩
    rw [file]
    intro clash
    exact apart (Option.some.inj clash).symm
  · simp only [kept, reduceCtorEq, or_self, false_implies]

/-- The end of a request on a file resource that reserves nothing. -/
theorem submitResourceTask_explained {taskIndex slot : Nat} {buffer : Option Nat}
    (type : (rt.clients index).replyType = .submit)
    (admitted : admissionRefusal rt (rt.clients index) = none)
    (kinds : (rt.clients index).request.taskKind.usesFile = true)
    (notAccept : (rt.clients index).request.taskKind ≠ .accept)
    (found : findFileSlot (rt.clients index) (rt.clients index).resourceId = some slot)
    (closing : ((rt.clients index).fileResources slot).closing = false)
    (bufferFound : taskBuffer (rt.clients index) = .ok buffer)
    (fresh : rt.nextTaskId < taskIdReservedMin) (free : findFreeTaskSlot rt = some taskIndex)
    (dispatched : submitResourceTask ((rt.setTask taskIndex
      (resourceTask rt index slot buffer)).setClient index
      (acquireSlots (rt.clients index) slot buffer)) index taskIndex slot none env = .ok next) :
    Explained rt index env next := by
  have taskAt : ((rt.setTask taskIndex (resourceTask rt index slot buffer)).setClient index
      (acquireSlots (rt.clients index) slot buffer)).tasks taskIndex =
      resourceTask rt index slot buffer := Function.update_self ..
  have bufferIndex : (resourceTask rt index slot buffer).bufferSlotIndex = buffer := rfl
  have identifies : Identifies rt index (resourceTask rt index slot buffer) :=
    ⟨rfl, rfl, rfl, rfl, rfl, rfl, rfl⟩
  have carries : Carries (rt.clients index) (resourceTask rt index slot buffer) := by
    refine ⟨fun _ => nofun, fun _ => rfl, fun _ => rfl, fun _ => rfl, fun _ => rfl, ?_⟩
    rintro (accept | openat)
    · exact absurd accept notAccept
    · have kind : (rt.clients index).request.taskKind = .openat := openat
      rw [kind] at kinds
      cases kinds
  have notClose : (rt.clients index).request.taskKind ≠ .close := by
    intro close
    simp only [close, RequestKind.usesFile, Bool.false_eq_true] at kinds
  have made : ∀ ring, Attempt rt index taskIndex (startedRuntime rt index taskIndex
      (resourceTask rt index slot buffer) ring (rt.clients index).nextResourceId
      (Function.update (rt.clients index).fileResources slot
        { (rt.clients index).fileResources slot with
          inFlight := ((rt.clients index).fileResources slot).inFlight + 1 })
      (acquireSlots (rt.clients index) slot buffer).bufferResources) := fun ring =>
    attempt_intro admitted identifies carries
      (resourceTask_acquires notClose found closing bufferFound) (Or.inl ⟨rfl, rfl⟩)
  unfold submitResourceTask at dispatched
  dsimp only at dispatched
  rw [taskAt] at dispatched
  split at dispatched
  · rename_i ring errno submitted
    rw [bufferIndex, Runtime.clients_setClient, releaseSlots_acquireSlots] at dispatched
    simp only [Runtime.setTask, Runtime.setClient, Function.update_idem,
      Function.update_eq_self] at dispatched
    rw [acquireSlots_eq] at submitted
    have declines : RingDeclines (taskSqe (startedRuntime rt index taskIndex
        (resourceTask rt index slot buffer) ring (rt.clients index).nextResourceId
        (Function.update (rt.clients index).fileResources slot
          { (rt.clients index).fileResources slot with
            inFlight := ((rt.clients index).fileResources slot).inFlight + 1 })
        (acquireSlots (rt.clients index) slot buffer).bufferResources) taskIndex) env.enter
        (rt.ring.withFiles rt.ring.kernel.registeredFiles) ring :=
      resourceSubmission_declines taskAt_startedRuntime kinds rfl rfl submitted
    exact refused_explained type (rolledBack_task free (Or.inl rfl) declines.refuses
      ((made ring).offered declines))
      (fun sane => resourceSubmission_positive (DispatchEnv.sane_enter sane) submitted) dispatched
  · rename_i ring submitted
    rw [acquireSlots_eq] at dispatched submitted
    refine accepted_explained type admitted ((made ring).started free fresh
      (Or.inl ⟨?_, rfl⟩) ?_) ?_ dispatched
    · rw [taskAt_startedRuntime]
      exact notClose
    · exact resourceSubmission_accepts taskAt_startedRuntime kinds rfl rfl submitted
    · symm
      rw [Client.usesCredit, bne_iff_ne]
      intro cancel
      simp only [cancel, RequestKind.usesFile, Bool.false_eq_true] at kinds

/-- Giving back the hold and the reservation of an ACCEPT restores the file slots. -/
theorem restored_of_accept {files : Nat → FileSlot} {slot result : Nat} {resourceId : ResourceId}
    (apart : result ≠ slot) (free : (files result).isFree = true) (other : Nat) :
    Function.update (Function.update (Function.update (Function.update files slot
      { files slot with inFlight := (files slot).inFlight + 1 }) result (.reserved resourceId))
      slot (files slot)) result .cleared other = files other ∨
      (files other).isFree = true ∧ Function.update (Function.update (Function.update
        (Function.update files slot
          { files slot with inFlight := (files slot).inFlight + 1 }) result (.reserved resourceId))
        slot (files slot)) result .cleared other = .cleared := by
  rw [Function.update_comm (Ne.symm apart), Function.update_idem, Function.update_comm apart,
    Function.update_idem, Function.update_eq_self]
  exact restored_of_free free other

/-- The end of an ACCEPT whose slots are reserved. -/
theorem submitAccept_explained {taskIndex slot result : Nat} {resourceId : ResourceId}
    {nextId : UInt32} (type : (rt.clients index).replyType = .submit)
    (admitted : admissionRefusal rt (rt.clients index) = none)
    (kind : (rt.clients index).request.taskKind = .accept)
    (found : findFileSlot (rt.clients index) (rt.clients index).resourceId = some slot)
    (closing : ((rt.clients index).fileResources slot).closing = false)
    (valid : resourceId ≠ resourceIdInvalid)
    (unused : resourceIdInUse (rt.clients index) resourceId = false) (apart : result ≠ slot)
    (within : result < (rt.clients index).fileSlotLimit)
    (freeFile : ((rt.clients index).fileResources result).isFree = true)
    (drawn : resourceId = (allocateResourceId (rt.clients index)).1)
    (counter : nextId = (allocateResourceId (rt.clients index)).2.nextResourceId)
    (fresh : rt.nextTaskId < taskIdReservedMin) (free : findFreeTaskSlot rt = some taskIndex)
    (dispatched : submitResourceTask ((rt.setTask taskIndex
      (acceptTask rt index slot result resourceId)).setClient index
      (({ acquireSlots (rt.clients index) slot none with nextResourceId := nextId } :
        Client).setFileSlot result (.reserved resourceId))) index taskIndex slot
      (some (result, resourceId)) env = .ok next) :
    Explained rt index env next := by
  have taskAt : ((rt.setTask taskIndex (acceptTask rt index slot result resourceId)).setClient
      index (({ acquireSlots (rt.clients index) slot none with nextResourceId := nextId } :
        Client).setFileSlot result (.reserved resourceId))).tasks taskIndex =
      acceptTask rt index slot result resourceId := Function.update_self ..
  have bufferIndex : (acceptTask rt index slot result resourceId).bufferSlotIndex = none := rfl
  have identifies : Identifies rt index (acceptTask rt index slot result resourceId) :=
    ⟨rfl, rfl, rfl, rfl, rfl, rfl, rfl⟩
  have carries : Carries (rt.clients index) (acceptTask rt index slot result resourceId) :=
    ⟨fun _ => nofun, fun _ => rfl, fun _ => rfl, fun _ => rfl, fun _ => rfl, fun _ => nofun⟩
  have kinds : (rt.clients index).request.taskKind.usesFile = true := by
    rw [kind]
    rfl
  have made : ∀ ring, Attempt rt index taskIndex (startedRuntime rt index taskIndex
      (acceptTask rt index slot result resourceId) ring nextId
      (Function.update (Function.update (rt.clients index).fileResources slot
        { (rt.clients index).fileResources slot with
          inFlight := ((rt.clients index).fileResources slot).inFlight + 1 })
        result (.reserved resourceId))
      (rt.clients index).bufferResources) := fun ring =>
    attempt_intro admitted identifies carries
      (acceptTask_acquires kind found closing valid unused apart within freeFile)
      (Or.inr ⟨drawn, counter⟩)
  unfold submitResourceTask at dispatched
  dsimp only at dispatched
  rw [taskAt] at dispatched
  split at dispatched
  · rename_i ring errno submitted
    have declines : RingDeclines (taskSqe (startedRuntime rt index taskIndex
        (acceptTask rt index slot result resourceId) ring nextId
        (Function.update (Function.update (rt.clients index).fileResources slot
          { (rt.clients index).fileResources slot with
            inFlight := ((rt.clients index).fileResources slot).inFlight + 1 })
          result (.reserved resourceId))
        (rt.clients index).bufferResources) taskIndex) env.enter
        (rt.ring.withFiles rt.ring.kernel.registeredFiles) ring :=
      resourceSubmission_declines taskAt_startedRuntime kinds rfl rfl submitted
    rw [bufferIndex, releaseReservation_reserved valid (by
      simp only [Runtime.clients_setClient, releaseSlots, Client.setFileSlot,
        Function.update_of_ne apart, Function.update_self])] at dispatched
    simp only [releaseSlots, acquireSlots, Client.setFileSlot, Runtime.setTask, Runtime.setClient,
      Function.update_self, Function.update_of_ne (Ne.symm apart), Function.update_idem,
      Nat.add_sub_cancel] at dispatched
    exact refused_explained type (rolledBack_intro free (restored_of_accept apart freeFile)
      (Or.inl rfl) declines.refuses ((made ring).offered declines)
      (.returned (drawn ▸ valid) drawn))
      (fun sane => resourceSubmission_positive (DispatchEnv.sane_enter sane) submitted) dispatched
  · rename_i ring submitted
    refine accepted_explained type admitted ((made ring).started free fresh
      (Or.inl ⟨?_, rfl⟩) ?_) ?_ dispatched
    · rw [taskAt_startedRuntime, identifies.taskKind, kind]
      rintro ⟨⟩
    · exact resourceSubmission_accepts taskAt_startedRuntime kinds rfl rfl submitted
    · rw [Client.usesCredit, kind]
      rfl

/-- Taking hold of a registered slot leaves the ids in use as they are. -/
theorem resourceIdInUse_acquired {client : Client} {slot : Nat} {named : ResourceId}
    (found : findFileSlot client named = some slot) (resourceId : ResourceId) :
    resourceIdInUse (acquireSlots client slot none) resourceId =
      resourceIdInUse client resourceId := by
  obtain ⟨-, matched⟩ := firstBelow_some found
  rw [Bool.and_eq_true] at matched
  have same : ∀ other,
      (fun file : FileSlot => file.registered && file.resourceId == resourceId ||
        file.resourceId == resourceId && (file.inFlight != 0 || file.closing))
        ((acquireSlots client slot none).fileResources other) =
      (fun file : FileSlot => file.registered && file.resourceId == resourceId ||
        file.resourceId == resourceId && (file.inFlight != 0 || file.closing))
        (client.fileResources other) := by
    intro other
    by_cases here : other = slot
    · subst here
      simp only [acquireSlots, Client.setFileSlot, Function.update_self, matched.1, Bool.true_and]
      cases (client.fileResources other).resourceId == resourceId <;> rfl
    · simp only [acquireSlots, Client.setFileSlot, Function.update_of_ne here]
  unfold resourceIdInUse
  dsimp only at same ⊢
  simp only [same]
  rfl

/-- The draw of an ACCEPT, which has taken hold of its slot before. -/
theorem allocateResourceId_acquired {client : Client} {slot : Nat} {named : ResourceId}
    (found : findFileSlot client named = some slot) :
    (allocateResourceId (acquireSlots client slot none)).1 = (allocateResourceId client).1 ∧
      (allocateResourceId (acquireSlots client slot none)).2.nextResourceId =
        (allocateResourceId client).2.nextResourceId :=
  allocateAttempts_congr _ (resourceIdInUse_acquired found) rfl

/-- A slot in flight is not free. -/
theorem isFree_acquired {client : Client} {slot result : Nat}
    (free : ((acquireSlots client slot none).fileResources result).isFree = true) :
    result ≠ slot ∧ (client.fileResources result).isFree = true := by
  by_cases same : result = slot
  · subst same
    simp only [acquireSlots, Client.setFileSlot, Function.update_self, FileSlot.isFree,
      Bool.and_eq_true, beq_iff_eq, Nat.add_eq_zero_iff, Nat.one_ne_zero, and_false] at free
  · refine ⟨same, ?_⟩
    simpa only [acquireSlots, Client.setFileSlot, Function.update_of_ne same] using free

theorem dispatchResourceTask_explained (type : (rt.clients index).replyType = .submit)
    (admitted : admissionRefusal rt (rt.clients index) = none)
    (kinds : (rt.clients index).request.taskKind.usesFile = true)
    (dispatched : dispatchResourceTask rt index env = .ok next) : Explained rt index env next := by
  unfold dispatchResourceTask at dispatched
  dsimp only at dispatched
  split at dispatched
  · exact refused_outright type (rolledBack_refl rt index env) (by decide) dispatched
  · rename_i slot found
    split at dispatched
    · exact refused_outright type (rolledBack_refl rt index env) (by decide) dispatched
    · rename_i notClosing
      have closing := (Bool.not_eq_true _).mp notClosing
      split at dispatched
      · exact refused_outright type (rolledBack_refl rt index env) (by decide) dispatched
      · split at dispatched
        · rename_i errno failed
          exact refused_outright type (rolledBack_refl rt index env) (taskBuffer_positive failed)
            dispatched
        · rename_i buffer bufferFound
          split at dispatched
          · exact refused_outright type (rolledBack_refl rt index env) (by decide) dispatched
          · rename_i reserved
            have fresh := UInt64.not_le.mp reserved
            split at dispatched
            · exact refused_outright type (rolledBack_refl rt index env) (by decide) dispatched
            · rename_i taskIndex free
              split at dispatched
              · rename_i accept
                cases taskBuffer_accept accept bufferFound
                split at dispatched
                · rw [releaseSlots_acquireSlots] at dispatched
                  simp only [Runtime.setClient_self] at dispatched
                  exact refused_outright type
                    (rolledBack_task free (Or.inl rfl) (Or.inl rfl) (offered_of_tail rfl))
                    (by decide) dispatched
                · rename_i result freeResult
                  obtain ⟨within, freeAcquired⟩ := firstBelow_some freeResult
                  obtain ⟨apart, freeFile⟩ := isFree_acquired freeAcquired
                  obtain ⟨nextId, moved⟩ :=
                    allocateResourceId_snd (acquireSlots (rt.clients index) slot none)
                  obtain ⟨drawn, counter⟩ := allocateResourceId_acquired found
                  rw [moved] at dispatched counter
                  split at dispatched
                  · have released : releaseSlots
                        { acquireSlots (rt.clients index) slot none with
                          nextResourceId := nextId } slot none =
                        { rt.clients index with nextResourceId := nextId } := by
                      simp only [releaseSlots, acquireSlots, Client.setFileSlot,
                        Function.update_self, Nat.add_sub_cancel, Function.update_idem,
                        Function.update_eq_self]
                    rw [released] at dispatched
                    exact refused_outright type (rolledBack_intro free (fun _ => Or.inl rfl)
                      (Or.inl rfl) (Or.inl rfl) (offered_of_tail rfl) (.moved counter))
                      (by decide) dispatched
                  · rename_i valid
                    have unused := allocateResourceId_unused valid
                    rw [resourceIdInUse_acquired found] at unused
                    exact submitAccept_explained type admitted accept found closing valid unused
                      apart within freeFile drawn counter fresh free dispatched
              · rename_i notAccept
                exact submitResourceTask_explained type admitted kinds notAccept found closing
                  bufferFound fresh free dispatched

/-! ## The dispatcher -/

/-- Every successful dispatch of a ready request is one of the cases of `Dispatched`,
answered. -/
theorem dispatchRequest_explained (dispatched : dispatchRequest rt index env = .ok next) :
    Explained rt index env next := by
  have refused : ∀ {errno}, (rt.clients index).replyType = .submit →
      admissionRefusal rt (rt.clients index) = some errno →
      refuse rt index errno env.now = .ok next → Explained rt index env next := by
    intro errno type refused taken
    exact refused_outright type (rolledBack_refl rt index env)
      (admissionRefusal_positive refused) taken
  have submitted : (rt.clients index).replyType = .submit →
      admissionRefusal rt (rt.clients index) = none →
      dispatchSubmission rt index env = .ok next → Explained rt index env next := by
    intro type admitted taken
    unfold dispatchSubmission at taken
    cases kind : (rt.clients index).request.taskKind with
    | openat =>
        simp only [kind] at taken
        exact dispatchOpenat_explained type admitted kind taken
    | close =>
        simp only [kind] at taken
        exact dispatchClose_explained type admitted kind taken
    | sockRead | sockWrite | fileRead | fileWrite | poll | connect | accept | sockReadFixed
    | sockWriteFixed =>
        simp only [kind] at taken
        exact dispatchResourceTask_explained type admitted (by rw [kind]; rfl) taken
    | _ =>
        simp only [kind] at taken
        exact dispatchPlain_explained type admitted (by rw [kind]; rfl) taken
  unfold dispatchRequest at dispatched
  cases operation : (rt.clients index).controlOp with
  | none =>
      have type : (rt.clients index).replyType = .submit := by
        simp only [Client.replyType, operation]
      simp only [operation] at dispatched
      split at dispatched
      · exact refused type ‹_› dispatched
      · exact submitted type ‹_› dispatched
  | some kind =>
      cases kind with
      | registerFd =>
          simp only [operation] at dispatched
          exact dispatchRegisterFd_explained operation dispatched
      | registerBuffer =>
          simp only [operation] at dispatched
          exact dispatchRegisterBuffer_explained operation dispatched
      | releaseResource =>
          simp only [operation] at dispatched
          exact dispatchReleaseResource_explained operation dispatched
      | getStats =>
          simp only [operation] at dispatched
          exact dispatchGetStats_explained operation dispatched
      | getTrace =>
          simp only [operation] at dispatched
          exact dispatchGetTrace_explained operation dispatched
      | _ =>
          have type : (rt.clients index).replyType = .submit := by
            simp only [Client.replyType, operation]
          simp only [operation] at dispatched
          split at dispatched
          · exact refused type ‹_› dispatched
          · exact submitted type ‹_› dispatched

/-- `iouringd_dispatch_client_request` does nothing for a client without a complete
request, and is explained otherwise. -/
theorem dispatchClientRequest_explained {result : Runtime × Bool}
    (dispatched : dispatchClientRequest rt index env = .ok result) :
    ((rt.clients index).requestReady = false ∧ result = (rt, false)) ∨
      ((rt.clients index).requestReady = true ∧ result.2 = true ∧
        Explained rt index env result.1) := by
  unfold dispatchClientRequest at dispatched
  split at dispatched
  · rename_i ready
    obtain ⟨next, taken, done⟩ := bind_ok dispatched
    cases done
    exact Or.inr ⟨ready, rfl, dispatchRequest_explained taken⟩
  · rename_i notReady
    cases dispatched
    exact Or.inl ⟨(Bool.not_eq_true _).mp notReady, rfl⟩

end Iouringd
