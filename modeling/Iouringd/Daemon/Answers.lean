import Iouringd.Daemon.Invariant

/-! # The answer to a submission

A submission that passes the admission checks meets further refusals, most of them before a
task slot is looked for, some behind it. Each ends in a submit result; which result a request
can get, and why, is read off the dispatcher once.
-/

namespace Iouringd

open Foundation

/-- The submit result queued by a dispatch carries `res`. -/
def AnsweredWith (rt next : Runtime) (index : Nat) (res : Int32) : Prop :=
  ∃ taskId credits, (next.clients index).pendingOutput =
    (rt.clients index).pendingOutput ++ SubmitResult.encode ⟨taskId, res, credits⟩

/-! ## Refusals before the search for a task slot -/

/-- No task id is left. -/
def idRefusal (rt : Runtime) : Option Errno :=
  if taskIdReservedMin ≤ rt.nextTaskId then some EOVERFLOW else none

/-- OPENAT reserves a file slot and an id for the descriptor it will produce. -/
def openatRefusal (rt : Runtime) (client : Client) : Option Errno :=
  if taskIdReservedMin ≤ rt.nextTaskId then some EOVERFLOW
  else
    match findFreeFileSlot client with
    | none => some EAGAIN
    | some _ => if (allocateResourceId client).1 = resourceIdInvalid then some EOVERFLOW else none

/-- CLOSE needs a resource that nothing else uses. -/
def closeRefusal (rt : Runtime) (client : Client) : Option Errno :=
  match findFileSlot client client.resourceId with
  | none => some ENOENT
  | some slotIndex =>
      let file := client.fileResources slotIndex
      if file.closing then some ENOENT
      else if file.inFlight ≠ 0 || decide (file.daemonFd < 0) then some EBUSY
      else idRefusal rt

/-- The kinds on a file resource need one that is not being closed, and their buffer. -/
def resourceRefusal (rt : Runtime) (client : Client) : Option Errno :=
  match findFileSlot client client.resourceId with
  | none => some ENOENT
  | some slotIndex =>
      let file := client.fileResources slotIndex
      let kind := client.request.taskKind
      if file.closing then some ENOENT
      else if (kind == .connect || kind == .accept) && decide (file.daemonFd < 0) then some EBADF
      else
        match taskBuffer client with
        | .error errno => some errno
        | .ok _ => idRefusal rt

/-- The refusal an admitted submission meets before a task slot is looked for. -/
def earlyRefusal (rt : Runtime) (client : Client) : Option Errno :=
  match client.request.taskKind with
  | .openat => openatRefusal rt client
  | .close => closeRefusal rt client
  | .sockRead | .sockWrite | .fileRead | .fileWrite | .poll | .connect | .accept
  | .sockReadFixed | .sockWriteFixed => resourceRefusal rt client
  | _ => idRefusal rt

/-- The results an admitted submission can get, given the refusal it meets early. -/
inductive SubmissionResult (rt : Runtime) (index : Nat) (env : DispatchEnv) :
    Option Errno → Int32 → Prop where
  | early (errno : Errno) : SubmissionResult rt index env (some errno) (-errno)
  | tableFull (full : findFreeTaskSlot rt = none) : SubmissionResult rt index env none (-EAGAIN)
  | noResultSlot (taskIndex : Nat) (found : findFreeTaskSlot rt = some taskIndex)
      (kind : (rt.clients index).request.taskKind = .accept)
      (taken : findFreeFileSlot (rt.clients index) = none) :
      SubmissionResult rt index env none (-EAGAIN)
  | noResultId (taskIndex : Nat) (found : findFreeTaskSlot rt = some taskIndex)
      (kind : (rt.clients index).request.taskKind = .accept)
      (slot : Nat) (free : findFreeFileSlot (rt.clients index) = some slot)
      (exhausted : (allocateResourceId (rt.clients index)).1 = resourceIdInvalid) :
      SubmissionResult rt index env none (-EOVERFLOW)
  | declined (taskIndex : Nat) (found : findFreeTaskSlot rt = some taskIndex) (errno : Errno)
      (cause : errno = EINVAL ∨ errno = EBUSY ∨ env.enter = .failed errno) :
      SubmissionResult rt index env none (-errno)
  | accepted (taskIndex : Nat) (found : findFreeTaskSlot rt = some taskIndex) :
      SubmissionResult rt index env none completionResOk

/-! ## Results as queued -/

section Queued

variable {rt middle next : Runtime} {index : Nat} {env : DispatchEnv}

/-- A submit result determines its `res`. -/
theorem SubmitResult.res_of_encode {left right : SubmitResult}
    (same : left.encode = right.encode) : left.res = right.res := by
  have field : ∀ result : SubmitResult, i32At result.encode 8 = result.res := by
    intro result
    rw [encode, List.append_assoc, i32At_append_right _ _ _ (by rw [length_u64]), length_u64,
      i32At_append_left _ _ _ (by rw [length_i32]), Nat.sub_self, i32At_i32]
  rw [← field left, ← field right, same]

/-- There is one answer. -/
theorem AnsweredWith.unique {first second : Int32} (left : AnsweredWith rt next index first)
    (right : AnsweredWith rt next index second) : first = second := by
  obtain ⟨_, _, queued⟩ := left
  obtain ⟨_, _, again⟩ := right
  exact SubmitResult.res_of_encode (List.append_cancel_left (queued.symm.trans again))

/-- An answer whose bytes are those of a result. -/
theorem Answered.answeredWith {result : SubmitResult}
    (answered : Answered middle index result.encode next)
    (unsent : (middle.clients index).pendingOutput = (rt.clients index).pendingOutput) :
    AnsweredWith rt next index result.res := by
  refine ⟨result.taskId, result.credits, ?_⟩
  rw [answered.client, ← unsent]
  rfl

/-- The submit result of a refusal. -/
theorem refuse_answered {errno : Errno} {now : UInt64}
    (refused : refuse middle index errno now = .ok next)
    (unsent : (middle.clients index).pendingOutput = (rt.clients index).pendingOutput) :
    AnsweredWith rt next index (-errno) :=
  (refuse_ok refused).answeredWith unsent

/-- The submit result of an accepted submission. -/
theorem acceptSubmit_answered {taskIndex : Nat} {usesCredit : Bool} {now : UInt64}
    (accepted : acceptSubmit middle index taskIndex usesCredit now = .ok next)
    (unsent : (middle.clients index).pendingOutput = (rt.clients index).pendingOutput) :
    AnsweredWith rt next index completionResOk := by
  obtain ⟨credits, answered⟩ := acceptSubmit_ok accepted
  apply answered.answeredWith
  rw [Runtime.countAccepted, Runtime.clients_setClient]
  exact unsent

/-- Slots and ids are taken and given back without a message. -/
theorem pendingOutput_acquireSlots (client : Client) (slot : Nat) (buffer : Option Nat) :
    (acquireSlots client slot buffer).pendingOutput = client.pendingOutput := by
  unfold acquireSlots
  split
  · rfl
  · rfl

@[inherit_doc pendingOutput_acquireSlots]
theorem pendingOutput_releaseSlots (client : Client) (slot : Nat) (buffer : Option Nat) :
    (releaseSlots client slot buffer).pendingOutput = client.pendingOutput := by
  unfold releaseSlots
  split
  · rfl
  · rfl

@[inherit_doc pendingOutput_acquireSlots]
theorem pendingOutput_allocateResourceId (client : Client) :
    (allocateResourceId client).2.pendingOutput = client.pendingOutput := by
  obtain ⟨nextId, moved⟩ := allocateResourceId_snd client
  rw [moved]
  rfl

@[inherit_doc pendingOutput_acquireSlots]
theorem pendingOutput_releaseReservation (rt : Runtime) (index slot : Nat) (id : ResourceId) :
    ((releaseReservation rt index slot id).clients index).pendingOutput =
      (rt.clients index).pendingOutput := by
  have cleared : ((clearFileSlot rt index slot).clients index).pendingOutput =
      (rt.clients index).pendingOutput := by
    unfold clearFileSlot
    rw [Runtime.clients_setClient]
    rfl
  have kept : (unallocateResourceId ((clearFileSlot rt index slot).clients index)
      id).pendingOutput = ((clearFileSlot rt index slot).clients index).pendingOutput := by
    unfold unallocateResourceId
    split
    · rfl
    · rfl
  unfold releaseReservation
  rw [Runtime.clients_setClient, kept, cleared]

end Queued

/-! ## The branches -/

section Branches

variable {rt middle next : Runtime} {index : Nat} {env : DispatchEnv}

/-- The errors with which the ring declines. -/
theorem plainSubmission_errno {taskIndex : Nat} {task : TaskSlot} {ring taken : Ring}
    {enter : EnterOutcome} {errno : Errno}
    (submitted : plainSubmission taskIndex task ring enter = (taken, some errno)) :
    errno = EINVAL ∨ errno = EBUSY ∨ enter = .failed errno := by
  unfold plainSubmission at submitted
  cases kind : task.taskKind with
  | _ =>
      simp only [kind] at submitted
      exact ringQueue_errno submitted

@[inherit_doc plainSubmission_errno]
theorem resourceSubmission_errno {taskIndex slot : Nat} {task : TaskSlot} {ring taken : Ring}
    {enter : EnterOutcome} {errno : Errno}
    (submitted : resourceSubmission rt index taskIndex slot task env ring enter =
      (taken, some errno)) : errno = EINVAL ∨ errno = EBUSY ∨ enter = .failed errno := by
  unfold resourceSubmission at submitted
  cases kind : task.taskKind with
  | accept =>
      simp only [kind, ringSubmitAccept] at submitted
      split at submitted
      · cases submitted
        exact Or.inl rfl
      · exact ringQueue_errno submitted
  | _ =>
      simp only [kind] at submitted
      exact ringQueue_errno submitted

/-- The answer to TIMEOUT, CANCEL and NOP. -/
theorem dispatchPlain_result (dispatched : dispatchPlain rt index env = .ok next) :
    ∃ res, AnsweredWith rt next index res ∧
      SubmissionResult rt index env (idRefusal rt) res := by
  unfold dispatchPlain at dispatched
  unfold idRefusal
  split at dispatched
  · rename_i exhausted
    rw [if_pos exhausted]
    exact ⟨_, refuse_answered dispatched rfl, .early EOVERFLOW⟩
  · rename_i fresh
    rw [if_neg fresh]
    split at dispatched
    · rename_i full
      exact ⟨_, refuse_answered dispatched rfl, .tableFull full⟩
    · rename_i taskIndex found
      dsimp only at dispatched
      split at dispatched
      · rename_i ring errno failed
        exact ⟨_, refuse_answered dispatched rfl,
          .declined taskIndex found errno (plainSubmission_errno failed)⟩
      · exact ⟨_, acceptSubmit_answered dispatched rfl, .accepted taskIndex found⟩

/-- The answer to OPENAT. -/
theorem dispatchOpenat_result (dispatched : dispatchOpenat rt index env = .ok next) :
    ∃ res, AnsweredWith rt next index res ∧
      SubmissionResult rt index env (openatRefusal rt (rt.clients index)) res := by
  unfold dispatchOpenat at dispatched
  unfold openatRefusal
  split at dispatched
  · rename_i exhausted
    rw [if_pos exhausted]
    exact ⟨_, refuse_answered dispatched rfl, .early EOVERFLOW⟩
  · rename_i fresh
    rw [if_neg fresh]
    cases slots : findFreeFileSlot (rt.clients index) with
    | none =>
        simp only [slots] at dispatched ⊢
        exact ⟨_, refuse_answered dispatched rfl, .early EAGAIN⟩
    | some slot =>
        simp only [slots] at dispatched ⊢
        have unsent := pendingOutput_allocateResourceId (rt.clients index)
        split at dispatched
        · rename_i exhausted
          rw [if_pos exhausted]
          refine ⟨_, refuse_answered dispatched ?_, .early EOVERFLOW⟩
          rw [Runtime.clients_setClient]
          exact unsent
        · rename_i valid
          rw [if_neg valid]
          rw [findFreeTaskSlot_setClient] at dispatched
          split at dispatched
          · rename_i full
            refine ⟨_, refuse_answered dispatched ?_, .tableFull full⟩
            rw [Runtime.clients_setClient]
            exact unsent
          · rename_i taskIndex found
            split at dispatched
            · rename_i ring errno failed
              refine ⟨_, refuse_answered dispatched ?_,
                .declined taskIndex found errno (ringQueue_errno failed)⟩
              rw [Runtime.setTask, pendingOutput_releaseReservation]
              simp only [Runtime.setClient, Runtime.setTask, Function.update_self]
              exact unsent
            · refine ⟨_, acceptSubmit_answered dispatched ?_, .accepted taskIndex found⟩
              simp only [Runtime.setClient, Runtime.setTask, Function.update_self]
              exact unsent

/-- The answer to CLOSE. -/
theorem dispatchClose_result (dispatched : dispatchClose rt index env = .ok next) :
    ∃ res, AnsweredWith rt next index res ∧
      SubmissionResult rt index env (closeRefusal rt (rt.clients index)) res := by
  unfold dispatchClose at dispatched
  unfold closeRefusal
  cases slots : findFileSlot (rt.clients index) (rt.clients index).resourceId with
  | none =>
      simp only [slots] at dispatched ⊢
      exact ⟨_, refuse_answered dispatched rfl, .early ENOENT⟩
  | some slot =>
      simp only [slots] at dispatched ⊢
      split at dispatched
      · rename_i closing
        rw [if_pos closing]
        exact ⟨_, refuse_answered dispatched rfl, .early ENOENT⟩
      · rename_i usable
        rw [if_neg usable]
        split at dispatched
        · rename_i busy
          rw [if_pos busy]
          exact ⟨_, refuse_answered dispatched rfl, .early EBUSY⟩
        · rename_i idle
          rw [if_neg idle, idRefusal]
          split at dispatched
          · rename_i exhausted
            rw [if_pos exhausted]
            exact ⟨_, refuse_answered dispatched rfl, .early EOVERFLOW⟩
          · rename_i fresh
            rw [if_neg fresh]
            split at dispatched
            · rename_i full
              exact ⟨_, refuse_answered dispatched rfl, .tableFull full⟩
            · rename_i taskIndex found
              obtain ⟨updated, update, rest⟩ := bind_ok dispatched
              cases updateRegisteredFile_ok update
              split at rest
              · rename_i ring errno failed
                obtain ⟨restored, restore, refusal⟩ := bind_ok rest
                cases updateRegisteredFile_ok restore
                refine ⟨_, refuse_answered refusal ?_,
                  .declined taskIndex found errno (ringQueue_errno failed)⟩
                simp only [Runtime.setClient, Runtime.setTask, Function.update_self]
                rfl
              · refine ⟨_, acceptSubmit_answered rest ?_, .accepted taskIndex found⟩
                simp only [Runtime.setClient, Runtime.setTask, Function.update_self]
                rfl

/-- The answer once a task slot was found. -/
theorem submitResourceTask_result {taskIndex slot : Nat} {reservation : Option (Nat × ResourceId)}
    (found : findFreeTaskSlot rt = some taskIndex)
    (unsent : (middle.clients index).pendingOutput = (rt.clients index).pendingOutput)
    (submitted : submitResourceTask middle index taskIndex slot reservation env = .ok next) :
    ∃ res, AnsweredWith rt next index res ∧ SubmissionResult rt index env none res := by
  unfold submitResourceTask at submitted
  dsimp only at submitted
  split at submitted
  · rename_i ring errno failed
    refine ⟨_, refuse_answered submitted ?_,
      .declined taskIndex found errno (resourceSubmission_errno failed)⟩
    rw [Runtime.setTask]
    cases reservation with
    | none =>
        simp only [Runtime.setClient, Function.update_self, pendingOutput_releaseSlots]
        exact unsent
    | some reservation =>
        dsimp only
        rw [pendingOutput_releaseReservation]
        simp only [Runtime.setClient, Function.update_self, pendingOutput_releaseSlots]
        exact unsent
  · exact ⟨_, acceptSubmit_answered submitted unsent, .accepted taskIndex found⟩

/-- The slot an ACCEPT works on is in use, so holding it takes no free slot away. -/
theorem findFreeFileSlot_acquired {client : Client} {slot : Nat} {named : ResourceId}
    (found : findFileSlot client named = some slot) :
    findFreeFileSlot (acquireSlots client slot none) = findFreeFileSlot client := by
  obtain ⟨-, matched⟩ := firstBelow_some found
  rw [Bool.and_eq_true] at matched
  have same : ∀ other, ((acquireSlots client slot none).fileResources other).isFree =
      (client.fileResources other).isFree := by
    intro other
    by_cases here : other = slot
    · subst here
      simp only [acquireSlots, Client.setFileSlot, Function.update_self, FileSlot.isFree,
        matched.1, Bool.not_true, Bool.false_and]
    · simp only [acquireSlots, Client.setFileSlot, Function.update_of_ne here]
  unfold findFreeFileSlot
  simp only [same]
  rfl

/-- The answer to a request on a resource. -/
theorem dispatchResourceTask_result (dispatched : dispatchResourceTask rt index env = .ok next) :
    ∃ res, AnsweredWith rt next index res ∧
      SubmissionResult rt index env (resourceRefusal rt (rt.clients index)) res := by
  unfold dispatchResourceTask at dispatched
  unfold resourceRefusal
  cases slots : findFileSlot (rt.clients index) (rt.clients index).resourceId with
  | none =>
      simp only [slots] at dispatched ⊢
      exact ⟨_, refuse_answered dispatched rfl, .early ENOENT⟩
  | some slot =>
      simp only [slots] at dispatched ⊢
      split at dispatched
      · rename_i closing
        rw [if_pos closing]
        exact ⟨_, refuse_answered dispatched rfl, .early ENOENT⟩
      · rename_i usable
        rw [if_neg usable]
        split at dispatched
        · rename_i descriptor
          rw [if_pos descriptor]
          exact ⟨_, refuse_answered dispatched rfl, .early EBADF⟩
        · rename_i descriptor
          rw [if_neg descriptor]
          cases buffers : taskBuffer (rt.clients index) with
          | error errno =>
              simp only [buffers] at dispatched ⊢
              exact ⟨_, refuse_answered dispatched rfl, .early errno⟩
          | ok buffer =>
              simp only [buffers] at dispatched ⊢
              rw [idRefusal]
              split at dispatched
              · rename_i exhausted
                rw [if_pos exhausted]
                exact ⟨_, refuse_answered dispatched rfl, .early EOVERFLOW⟩
              · rename_i fresh
                rw [if_neg fresh]
                split at dispatched
                · rename_i full
                  exact ⟨_, refuse_answered dispatched rfl, .tableFull full⟩
                · rename_i taskIndex found
                  split at dispatched
                  · rename_i accept
                    cases taskBuffer_accept accept buffers
                    rw [findFreeFileSlot_acquired slots,
                      (allocateResourceId_acquired slots).1] at dispatched
                    have drawn := pendingOutput_allocateResourceId
                      (acquireSlots (rt.clients index) slot none)
                    rw [pendingOutput_acquireSlots] at drawn
                    split at dispatched
                    · rename_i taken
                      refine ⟨_, refuse_answered dispatched ?_,
                        .noResultSlot taskIndex found accept taken⟩
                      simp only [Runtime.setClient, Runtime.setTask, Function.update_self,
                        pendingOutput_releaseSlots, pendingOutput_acquireSlots]
                    · rename_i result free
                      split at dispatched
                      · rename_i exhausted
                        refine ⟨_, refuse_answered dispatched ?_,
                          .noResultId taskIndex found accept result free exhausted⟩
                        simp only [Runtime.setClient, Runtime.setTask, Function.update_self,
                          pendingOutput_releaseSlots]
                        exact drawn
                      · refine submitResourceTask_result found ?_ dispatched
                        rw [Runtime.clients_setClient]
                        exact drawn
                  · refine submitResourceTask_result found ?_ dispatched
                    rw [Runtime.clients_setClient]
                    exact pendingOutput_acquireSlots _ _ _

/-- What an admitted submission is answered with. -/
theorem dispatchSubmission_result (dispatched : dispatchSubmission rt index env = .ok next) :
    ∃ res, AnsweredWith rt next index res ∧
      SubmissionResult rt index env (earlyRefusal rt (rt.clients index)) res := by
  unfold dispatchSubmission at dispatched
  unfold earlyRefusal
  cases kind : (rt.clients index).request.taskKind with
  | openat =>
      simp only [kind] at dispatched ⊢
      exact dispatchOpenat_result dispatched
  | close =>
      simp only [kind] at dispatched ⊢
      exact dispatchClose_result dispatched
  | sockRead | sockWrite | fileRead | fileWrite | poll | connect | accept | sockReadFixed
  | sockWriteFixed =>
      simp only [kind] at dispatched ⊢
      exact dispatchResourceTask_result dispatched
  | _ =>
      simp only [kind] at dispatched ⊢
      exact dispatchPlain_result dispatched

end Branches

end Iouringd
