import Iouringd.Ring.Queues
import Iouringd.Daemon.Answers

/-! # Accounting and admission

What the ledger gives over whole runs: the counters are the counts they stand for,
the credit count the daemon reports never wraps, and no task id is handed out twice.
The second part is about admission: the checks compare two counters with three
capacities, and the search for a task slot that follows them has its own bound.
-/

namespace Iouringd

open Foundation

/-! ## Task ids -/

/-- The task slots a step fills: occupied afterwards, and not by the same task before. -/
def startedSlots (rt next : Runtime) : List Nat :=
  (List.range next.taskCapacity).filter fun taskIndex =>
    next.occupied taskIndex && !(rt.occupied taskIndex &&
      (rt.tasks taskIndex).taskId == (next.tasks taskIndex).taskId)

/-- The ids of the tasks a step starts. -/
def startedIds (rt next : Runtime) : List TaskId :=
  (startedSlots rt next).map fun taskIndex => (next.tasks taskIndex).taskId

/-- The ids of all tasks started along a run, in order. -/
def issuedIds (rt : Runtime) : List Action → List TaskId
  | [] => []
  | action :: rest =>
      match step rt action with
      | .ok next => startedIds rt next ++ issuedIds next rest
      | .error _ => []

section Ids

variable {config : Config} {rt next : Runtime}

theorem mem_startedSlots {taskIndex : Nat} (member : taskIndex ∈ startedSlots rt next) :
    next.occupied taskIndex = true ∧
      (rt.occupied taskIndex = true →
        (rt.tasks taskIndex).taskId ≠ (next.tasks taskIndex).taskId) := by
  simp only [startedSlots, List.mem_filter, Bool.and_eq_true, Bool.not_eq_true',
    Bool.and_eq_false_iff, beq_eq_false_iff_ne] at member
  refine ⟨member.2.1, ?_⟩
  intro occupied
  rcases member.2.2 with vacant | differs
  · rw [occupied] at vacant
    cases vacant
  · exact differs

/-- A task that a step starts has the id the counter stood at, and the counter moves. -/
theorem StepShape.started_id (shape : StepShape rt next) {taskIndex : Nat}
    (member : taskIndex ∈ startedSlots rt next) :
    (next.tasks taskIndex).taskId = rt.nextTaskId ∧ rt.nextTaskId < taskIdReservedMin ∧
      next.nextTaskId = rt.nextTaskId + 1 := by
  obtain ⟨occupied, differs⟩ := mem_startedSlots member
  cases shape with
  | quiet quiet =>
      rw [quiet.occupied_eq] at occupied
      exact absurd (by rw [quiet.task_eq occupied]) (differs occupied)
  | accepted index slot env started connected admitted start answered =>
      rw [answered.occupied_eq] at occupied
      have id := answered.task_eq occupied
      have counter := answered.nextTaskId
      by_cases same : taskIndex = slot
      · subst same
        rw [start.countAccepted_eq] at counter
        refine ⟨?_, start.fresh, counter⟩
        rw [id, countAccepted_tasks]
        exact start.identifies.taskId
      · rw [start.task_other _ same] at id
        rw [start.occupied_other _ same] at occupied
        exact absurd (by rw [id]) (differs occupied)
  | completed slot res middle reaped held completed =>
      obtain ⟨-, before, same⟩ := Ledger.occupied_of_completed completed occupied
      rw [reaped.occupied_eq] at before
      exact absurd (by rw [same, reaped.task_eq before]) (differs before)

/-- The id counter never turns back. -/
theorem StepShape.nextTaskId_le (shape : StepShape rt next) :
    rt.nextTaskId ≤ next.nextTaskId := by
  rw [UInt64.le_iff_toNat_le]
  cases shape with
  | quiet quiet => rw [quiet.nextTaskId]
  | accepted index slot env started connected admitted start answered =>
      have counter := answered.nextTaskId
      rw [start.countAccepted_eq] at counter
      have fresh := UInt64.lt_iff_toNat_lt.mp start.fresh
      have reserved : taskIdReservedMin.toNat = 18446744073709551600 := rfl
      have moved : next.nextTaskId.toNat = (rt.nextTaskId + 1).toNat := congrArg _ counter
      rw [moved, UInt64.toNat_add]
      change _ ≤ (_ + 1) % _
      omega
  | completed slot res middle reaped held completed =>
      have counter : next.nextTaskId = middle.nextTaskId := by rw [completed.frame]
      rw [counter, reaped.nextTaskId]

/-- The id counter moves by one at most. -/
theorem StepShape.nextTaskId_le_succ (shape : StepShape rt next) :
    next.nextTaskId.toNat ≤ rt.nextTaskId.toNat + 1 := by
  cases shape with
  | quiet quiet =>
      rw [quiet.nextTaskId]
      exact Nat.le_succ _
  | accepted index slot env started connected admitted start answered =>
      have counter := answered.nextTaskId
      rw [start.countAccepted_eq] at counter
      have moved : next.nextTaskId.toNat = (rt.nextTaskId + 1).toNat := congrArg _ counter
      rw [moved, UInt64.toNat_add]
      exact Nat.mod_le _ _
  | completed slot res middle reaped held completed =>
      have counter : next.nextTaskId = middle.nextTaskId := by rw [completed.frame]
      rw [counter, reaped.nextTaskId]
      exact Nat.le_succ _

/-- The ids a step starts tasks with lie between the counter before and after. -/
theorem StepShape.startedIds_bounds (shape : StepShape rt next) {id : TaskId}
    (member : id ∈ startedIds rt next) : rt.nextTaskId ≤ id ∧ id < next.nextTaskId := by
  obtain ⟨taskIndex, slot, rfl⟩ := List.mem_map.mp member
  obtain ⟨drawn, fresh, moved⟩ := shape.started_id slot
  have reserved : taskIdReservedMin.toNat = 18446744073709551600 := rfl
  rw [UInt64.lt_iff_toNat_lt] at fresh
  rw [drawn, moved]
  refine ⟨UInt64.le_refl _, ?_⟩
  rw [UInt64.lt_iff_toNat_lt, UInt64.toNat_add]
  change _ < (_ + 1) % _
  omega

/-- One step starts no two tasks with one id. -/
theorem startedIds_nodup (ledger : Ledger next) : (startedIds rt next).Nodup := by
  refine List.Nodup.map_on ?_ (List.nodup_range.filter _)
  intro left leftMember right rightMember same
  exact ledger.distinct left right (mem_startedSlots leftMember).1
    (mem_startedSlots rightMember).1 same

/-- Along a run from a state of the invariant, ids are drawn upwards from the counter
and never twice. -/
theorem issuedIds_nodup (invariant : Invariant config rt) (actions : List Action) :
    (∀ id ∈ issuedIds rt actions, rt.nextTaskId ≤ id) ∧ (issuedIds rt actions).Nodup := by
  induction actions generalizing rt with
  | nil => exact ⟨nofun, List.nodup_nil⟩
  | cons action rest ih =>
      cases taken : step rt action with
      | error errno =>
          simp only [issuedIds, taken]
          exact ⟨nofun, List.nodup_nil⟩
      | ok next =>
          have shape := step_shape invariant.grounded taken
          have after := invariant.stepped taken
          obtain ⟨above, nodup⟩ := ih after
          have upwards := shape.nextTaskId_le
          simp only [issuedIds, taken]
          constructor
          · intro id member
            rcases List.mem_append.mp member with here | later
            · exact (shape.startedIds_bounds here).1
            · exact UInt64.le_trans upwards (above id later)
          · refine List.nodup_append.mpr ⟨startedIds_nodup after.ledger, nodup, ?_⟩
            intro id here other later same
            have low := (shape.startedIds_bounds here).2
            rw [same] at low
            exact absurd (above other later) (UInt64.not_le.mpr low)

end Ids

/-! ## The accounting of every run -/

section Runs

variable {config : Config} {rt : Runtime}

/-- The runtime's capacities are those of the configuration. -/
theorem Invariant.taskCapacity_lt (invariant : Invariant config rt) :
    rt.taskCapacity < rt.ringCapacity ∧ rt.ringCapacity ≤ maxTasks := by
  have more := config.capacity_gt_one
  rw [invariant.taskCapacity, invariant.ringCapacity, Config.taskCapacity]
  exact ⟨by omega, config.capacity_le⟩

/-- The number of credits the daemon reports is the number that is left. -/
theorem Invariant.availableCredits_eq (invariant : Invariant config rt) :
    rt.outstandingCreditTasks ≤ rt.taskCapacity ∧
      rt.availableCredits.toNat = rt.taskCapacity - rt.outstandingCreditTasks := by
  have used : rt.outstandingCreditTasks ≤ rt.taskCapacity := by
    rw [invariant.ledger.credits]
    exact countTasks_le
  have small : rt.taskCapacity < 64 := by
    have bounds := invariant.taskCapacity_lt
    have tasks : maxTasks = 64 := rfl
    omega
  refine ⟨used, ?_⟩
  rw [Runtime.availableCredits, sizeSub_eq used, UInt32.toNat_ofNat', Nat.mod_eq_of_lt (by omega)]

/-- After every run of which no step failed, each counter is the count it stands for,
the ids of active tasks are distinct and unreserved, the reported credits are those
left, and no id was handed out twice on the way. -/
theorem run_accounting {actions : List Action}
    (ran : run step (Runtime.initial config) actions = .ok rt) :
    Ledger rt ∧ rt.outstandingTasks ≤ rt.taskCapacity ∧
      (∀ taskIndex, rt.occupied taskIndex = true →
        1 ≤ (rt.tasks taskIndex).taskId ∧ (rt.tasks taskIndex).taskId < taskIdReservedMin) ∧
      rt.outstandingCreditTasks ≤ rt.taskCapacity ∧
      rt.availableCredits.toNat = rt.taskCapacity - rt.outstandingCreditTasks ∧
      (issuedIds (Runtime.initial config) actions).Nodup := by
  have invariant : Invariant config rt := Reachable.invariant ⟨actions, ran⟩
  have ledger := invariant.ledger
  have fits : rt.outstandingTasks ≤ rt.taskCapacity := by
    rw [ledger.tasks]
    exact countTasks_le
  obtain ⟨used, credits⟩ := invariant.availableCredits_eq
  refine ⟨ledger, fits, ?_, used, credits, (issuedIds_nodup (.initial config) actions).2⟩
  intro taskIndex occupied
  obtain ⟨positive, drawn⟩ := ledger.ids taskIndex occupied
  refine ⟨positive, ?_⟩
  rw [UInt64.lt_iff_toNat_lt] at drawn ⊢
  have unreserved := UInt64.le_iff_toNat_le.mp ledger.unreserved
  omega

/-- Two accepted requests of one client. -/
theorem run_accounting_two_requests :
    ∃ rt, run step (Runtime.initial (.small 2 (by decide) (by decide)))
        (joining 0 7 ++ requesting 0 (requestHeader .nop).encode .smooth ++
          requesting 0 (requestHeader .nop).encode .smooth) = .ok rt ∧
      rt.outstandingTasks = 2 ∧ Ledger rt := by
  have ends : ((run step (Runtime.initial (.small 2 (by decide) (by decide)))
      (joining 0 7 ++ requesting 0 (requestHeader .nop).encode .smooth ++
        requesting 0 (requestHeader .nop).encode .smooth)).toOption.map
          Runtime.outstandingTasks) = some 2 := by decide +kernel
  obtain ⟨rt, ran, tasks⟩ := exists_of_toOption_map ends
  exact ⟨rt, ran, tasks, (run_accounting ran).1⟩

/-! ## Admission -/

/-- The counters let the request of the client through: credits for the kinds that use
them, room in the ring for CANCEL. -/
def Admitted (rt : Runtime) (client : Client) : Prop :=
  if client.usesCredit = true then
    rt.outstandingCreditTasks < rt.taskCapacity ∧
      client.outstandingCreditTasks < rt.perClientCreditLimit
  else rt.outstandingTasks < rt.ringCapacity

instance (rt : Runtime) (client : Client) : Decidable (Admitted rt client) :=
  inferInstanceAs (Decidable (if client.usesCredit = true then
    rt.outstandingCreditTasks < rt.taskCapacity ∧
      client.outstandingCreditTasks < rt.perClientCreditLimit
    else rt.outstandingTasks < rt.ringCapacity))

/-- A slot is found exactly when the table is not full. -/
theorem findFreeTaskSlot_isSome_iff (ledger : Ledger rt) :
    (findFreeTaskSlot rt).isSome = true ↔ rt.outstandingTasks < rt.taskCapacity := by
  rw [ledger.tasks, Runtime.countTasks, count_lt_iff_exists_not]
  cases found : findFreeTaskSlot rt with
  | none =>
      have full := firstBelow_eq_none.mp found
      simp only [Bool.not_eq_false'] at full
      simp only [Option.isSome_none, Bool.false_eq_true, false_iff, not_exists, not_and, not_not,
        Bool.and_true]
      exact full
  | some taskIndex =>
      obtain ⟨below, free⟩ := firstBelow_some found
      simp only [Bool.not_eq_true'] at free
      simp only [Option.isSome_some, true_iff]
      refine ⟨taskIndex, below, ?_⟩
      simp only [free, Bool.false_and, Bool.false_eq_true, not_false_eq_true]

/-- A supported submission with valid arguments that the counters admit meets no check. -/
theorem admissionRefusal_of_admitted {client : Client} (admitted : Admitted rt client)
    (supported : unsupported rt client.request.taskKind = false)
    (valid : argumentsInvalid client = false) : admissionRefusal rt client = none := by
  unfold Admitted at admitted
  split at admitted
  · rename_i credit
    simp only [admissionRefusal, credit, supported, valid, Bool.true_and, Bool.not_true,
      Bool.false_and, decide_eq_true_eq, Nat.not_le.mpr admitted.1, Nat.not_le.mpr admitted.2,
      Bool.false_eq_true, ↓reduceIte]
  · rename_i credit
    simp only [admissionRefusal, credit, supported, valid, Bool.false_and, Bool.not_false,
      Bool.true_and, decide_eq_true_eq, Nat.not_le.mpr admitted, Bool.false_eq_true, ↓reduceIte]

/-- The ring fails with EAGAIN exactly when it comes to `io_uring_enter` and this does. -/
theorem ringQueue_eagain_iff (accepts : Bool) (sqe : Sqe) (ring : Ring) (enter : EnterOutcome) :
    (ringQueue accepts sqe ring enter).2 = some EAGAIN ↔ enter = .failed EAGAIN ∧
      (decide (0 ≤ ring.ringFd) && accepts &&
        decide (ring.sqTail - ring.sqHead < ring.sqRingEntries)) = true := by
  unfold ringQueue
  split
  · rename_i invalid
    refine ⟨nofun, ?_⟩
    rintro ⟨-, enters⟩
    simp only [Bool.and_eq_true, decide_eq_true_eq] at enters
    simp only [enters.1.2, Int32.not_lt.mpr enters.1.1, decide_false, Bool.not_true,
      Bool.or_self, Bool.false_eq_true] at invalid
  · rename_i valid
    simp only [Bool.or_eq_true, decide_eq_true_eq, Bool.not_eq_true', not_or, Int32.not_lt,
      Bool.not_eq_false] at valid
    split
    · rename_i full
      refine ⟨nofun, ?_⟩
      rintro ⟨-, enters⟩
      simp only [UInt32.not_lt.mpr full, decide_false, Bool.and_false, Bool.false_eq_true]
        at enters
    · rename_i room
      simp only [valid.1, valid.2, UInt32.not_le.mp room, decide_true, Bool.and_self, and_true]
      cases enter with
      | consumed count => exact ⟨nofun, nofun⟩
      | failed errno =>
          constructor
          · intro same
            rw [Option.some.inj same]
          · intro same
            rw [EnterOutcome.failed.inj same]

/-- The answer to a CANCEL that passed the checks. -/
theorem dispatchPlain_cancel {next : Runtime} {index : Nat} {env : DispatchEnv}
    (kind : (rt.clients index).request.taskKind = .cancel)
    (dispatched : dispatchPlain rt index env = .ok next) :
    AnsweredWith rt next index (-EAGAIN) ↔ rt.nextTaskId < taskIdReservedMin ∧
      (findFreeTaskSlot rt = none ∨ env.enter = .failed EAGAIN ∧
        (SubmitCall.cancel rt.nextTaskId (rt.clients index).cancelTargetId).entersKernel rt.ring =
          true) := by
  have answered : ∀ {res}, AnsweredWith rt next index res →
      (AnsweredWith rt next index (-EAGAIN) ↔ res = -EAGAIN) := by
    intro res now
    refine ⟨now.unique, ?_⟩
    rintro rfl
    exact now
  unfold dispatchPlain at dispatched
  split at dispatched
  · rename_i exhausted
    rw [answered (refuse_answered dispatched rfl)]
    have differ : ¬-EOVERFLOW = -EAGAIN := by decide
    refine iff_of_false differ ?_
    rintro ⟨fresh, -⟩
    exact absurd exhausted (UInt64.not_le.mpr fresh)
  · rename_i fresh
    split at dispatched
    · rename_i full
      rw [answered (refuse_answered dispatched rfl)]
      exact ⟨fun _ => ⟨UInt64.not_le.mp fresh, .inl full⟩, fun _ => rfl⟩
    · rename_i taskIndex found
      have cancels : ∀ ring enter, plainSubmission taskIndex (plainTask rt index) ring enter =
          ringSubmitCancel rt.nextTaskId (rt.clients index).cancelTargetId ring enter := by
        intro ring enter
        simp only [plainSubmission, plainTask, newTask, kind]
      have again := ringQueue_eagain_iff ((rt.clients index).cancelTargetId != taskIdInvalid &&
        decide ((rt.clients index).cancelTargetId < taskIdReservedMin))
        { opcode := .asyncCancel, userData := rt.nextTaskId,
          addr := .value (rt.clients index).cancelTargetId, opFlags := 16 } rt.ring env.enter
      simp only [found, reduceCtorEq, false_or, UInt64.not_le.mp fresh, true_and]
      refine Iff.trans ?_ again
      dsimp only at dispatched
      rw [cancels] at dispatched
      change _ ↔ (ringSubmitCancel _ _ _ _).2 = _
      split at dispatched
      · rename_i ring errno failed
        rw [answered (refuse_answered dispatched rfl)]
        change ringSubmitCancel _ _ rt.ring _ = _ at failed
        rw [failed]
        exact ⟨fun same => congrArg some (Int32.neg_inj.mp same),
          fun same => congrArg _ (Option.some.inj same)⟩
      · rename_i ring queued
        rw [answered (acceptSubmit_answered dispatched rfl)]
        change ringSubmitCancel _ _ rt.ring _ = _ at queued
        have differ : ¬completionResOk = -EAGAIN := by decide
        rw [queued]
        exact iff_of_false differ (Option.some_ne_none _).symm

/-- In every reachable state in which the counters admit the request of a client, a task
slot is found exactly when fewer than `task_capacity` tasks are active; and for a supported
submission with valid arguments this decides the answer. A CANCEL is answered -EAGAIN exactly
when ids are left and the table is full or `io_uring_enter` fails with EAGAIN. Any submission
that meets no refusal before the search is answered -EAGAIN when the table is full, and
otherwise only if an ACCEPT has no file slot for its result or `io_uring_enter` fails with
EAGAIN. A positive credit count says nothing about slots: it compares the credits. -/
theorem taskSlot_found_iff (reachable : Reachable config rt) (index : Nat)
    (admitted : Admitted rt (rt.clients index)) :
    ((findFreeTaskSlot rt).isSome = true ↔ rt.outstandingTasks < rt.taskCapacity) ∧
      (0 < rt.availableCredits.toNat ↔ rt.outstandingCreditTasks < rt.taskCapacity) ∧
      ∀ env next, (rt.clients index).controlOp = none →
        unsupported rt (rt.clients index).request.taskKind = false →
        argumentsInvalid (rt.clients index) = false →
        dispatchRequest rt index env = .ok next →
        ((rt.clients index).request.taskKind = .cancel →
          (AnsweredWith rt next index (-EAGAIN) ↔ rt.nextTaskId < taskIdReservedMin ∧
            (rt.taskCapacity ≤ rt.outstandingTasks ∨ env.enter = .failed EAGAIN ∧
              (SubmitCall.cancel rt.nextTaskId (rt.clients index).cancelTargetId).entersKernel
                rt.ring = true))) ∧
        (∀ errno, earlyRefusal rt (rt.clients index) = some errno →
          AnsweredWith rt next index (-errno)) ∧
        (earlyRefusal rt (rt.clients index) = none →
          (rt.taskCapacity ≤ rt.outstandingTasks → AnsweredWith rt next index (-EAGAIN)) ∧
          (rt.outstandingTasks < rt.taskCapacity → AnsweredWith rt next index (-EAGAIN) →
            (rt.clients index).request.taskKind = .accept ∧
                findFreeFileSlot (rt.clients index) = none ∨
              env.enter = .failed EAGAIN)) := by
  have invariant := reachable.invariant
  have found := findFreeTaskSlot_isSome_iff invariant.ledger
  have missing : findFreeTaskSlot rt = none ↔ rt.taskCapacity ≤ rt.outstandingTasks := by
    rw [← Nat.not_lt, ← found, Option.not_isSome_iff_eq_none]
  obtain ⟨used, credits⟩ := invariant.availableCredits_eq
  refine ⟨found, by omega, ?_⟩
  intro env next control supported valid dispatched
  have passes := admissionRefusal_of_admitted admitted supported valid
  simp only [dispatchRequest, control, passes] at dispatched
  obtain ⟨res, answered, result⟩ := dispatchSubmission_result dispatched
  refine ⟨?_, ?_, ?_⟩
  · intro kind
    simp only [dispatchSubmission, kind] at dispatched
    rw [dispatchPlain_cancel kind dispatched, missing]
  · intro errno refusal
    rw [refusal] at result
    cases result
    exact answered
  · intro searched
    rw [searched] at result
    constructor
    · intro full
      have none := missing.mpr full
      cases result with
      | tableFull => exact answered
      | noResultSlot taskIndex some | noResultId taskIndex some | declined taskIndex some
      | accepted taskIndex some =>
          rw [none] at some
          cases some
    · intro room again
      have same := answered.unique again
      cases result with
      | tableFull full => exact absurd (missing.mp full) (Nat.not_le.mpr room)
      | noResultSlot taskIndex some kind taken => exact .inl ⟨kind, taken⟩
      | noResultId => cases same
      | accepted => cases same
      | declined taskIndex some errno cause =>
          rw [Int32.neg_inj.mp same] at cause
          rcases cause with invalid | busy | failed
          · cases invalid
          · cases busy
          · exact .inr failed

end Runs

/-- A CANCEL of the running TIMEOUT on a ring of two entries, received and not yet
dispatched. -/
def cancelWaiting : List Action :=
  joining 0 7 ++ requesting 0 (TimeoutRequest.encode ⟨requestHeader .timeout, 1000⟩) .smooth ++
    [.input 0 [.data (CancelRequest.encode ⟨wireMagic, protocolMajor, protocolMinor, .cancel, 0, 0,
      1⟩) [] false]]

/-- One of three credits is left, and the CANCEL of the first TIMEOUT has the third task
slot. -/
def creditLeft : List Action :=
  cancelWaiting.take 4 ++
    requesting 0 (TimeoutRequest.encode ⟨requestHeader .timeout, 1000⟩) .smooth ++
    requesting 0 (CancelRequest.encode ⟨wireMagic, protocolMajor, protocolMinor, .cancel, 0, 0,
      1⟩) .smooth ++
    [.input 0 [.data (requestHeader .nop).encode [] false]]

/-- The request of client 0 passes every check before its branch, and the dispatch answers. -/
def reachesBranch (rt : Runtime) : Bool :=
  decide (Admitted rt (rt.clients 0) ∧ (rt.clients 0).controlOp = none ∧
    unsupported rt (rt.clients 0).request.taskKind = false ∧
    argumentsInvalid (rt.clients 0) = false ∧
    ((dispatchRequest rt 0 .smooth).toOption.map fun _ => true) = some true)

/-- The CANCEL finds a task in the only slot. With one credit left a NOP finds three tasks in
three slots. -/
theorem taskSlot_found_iff_cancel_waiting :
    (∃ rt next, Reachable (.small 1 (by decide) (by decide)) rt ∧
      ¬ (findFreeTaskSlot rt).isSome = true ∧ dispatchRequest rt 0 .smooth = .ok next ∧
      AnsweredWith rt next 0 (-EAGAIN)) ∧
    ∃ rt next, Reachable (.small 2 (by decide) (by decide)) rt ∧ 0 < rt.availableCredits.toNat ∧
      dispatchRequest rt 0 .smooth = .ok next ∧ AnsweredWith rt next 0 (-EAGAIN) := by
  constructor
  · have seen : ((run step (Runtime.initial (.small 1 (by decide) (by decide)))
        cancelWaiting).toOption.map fun rt => decide (reachesBranch rt = true ∧
          (rt.clients 0).request.taskKind = .cancel ∧ rt.nextTaskId < taskIdReservedMin ∧
          rt.taskCapacity ≤ rt.outstandingTasks)) = some true := by decide +kernel
    obtain ⟨rt, ran, view⟩ := exists_of_toOption_map seen
    obtain ⟨reaches, kind, fresh, full⟩ := of_decide_eq_true view
    obtain ⟨admitted, control, supported, valid, answers⟩ := of_decide_eq_true reaches
    obtain ⟨next, dispatched, -⟩ := exists_of_toOption_map answers
    have reachable : Reachable (.small 1 (by decide) (by decide)) rt := ⟨cancelWaiting, ran⟩
    obtain ⟨found, -, answers⟩ := taskSlot_found_iff reachable 0 admitted
    refine ⟨rt, next, reachable, ?_, dispatched, ?_⟩
    · rw [found]
      exact Nat.not_lt.mpr full
    · exact ((answers .smooth next control supported valid dispatched).1 kind).mpr
        ⟨fresh, .inl full⟩
  · have seen : ((run step (Runtime.initial (.small 2 (by decide) (by decide)))
        creditLeft).toOption.map fun rt => decide (reachesBranch rt = true ∧
          earlyRefusal rt (rt.clients 0) = none ∧
          rt.outstandingCreditTasks < rt.taskCapacity ∧
          rt.taskCapacity ≤ rt.outstandingTasks)) = some true := by decide +kernel
    obtain ⟨rt, ran, view⟩ := exists_of_toOption_map seen
    obtain ⟨reaches, searched, credit, full⟩ := of_decide_eq_true view
    obtain ⟨admitted, control, supported, valid, answers⟩ := of_decide_eq_true reaches
    obtain ⟨next, dispatched, -⟩ := exists_of_toOption_map answers
    have reachable : Reachable (.small 2 (by decide) (by decide)) rt := ⟨creditLeft, ran⟩
    obtain ⟨-, credits, answers⟩ := taskSlot_found_iff reachable 0 admitted
    exact ⟨rt, next, reachable, credits.mpr credit, dispatched,
      ((answers .smooth next control supported valid dispatched).2.2 searched).1 full⟩

/-- On a ring of two entries a CANCEL of the one running task passes every check with
one task in a ring of two and finds no slot; on a ring of four a NOP does with one
credit left. -/
theorem taskSlot_missing_when_admitted :
    (∃ rt, run step (Runtime.initial (.small 1 (by decide) (by decide))) cancelWaiting = .ok rt ∧
      Admitted rt (rt.clients 0) ∧ (rt.clients 0).request.taskKind = .cancel ∧
      unsupported rt .cancel = false ∧ argumentsInvalid (rt.clients 0) = false ∧
      rt.outstandingTasks < rt.ringCapacity ∧ findFreeTaskSlot rt = none ∧
      ∃ next, dispatchRequest rt 0 .smooth = .ok next ∧ AnsweredWith rt next 0 (-EAGAIN)) ∧
    (∃ rt, run step (Runtime.initial (.small 2 (by decide) (by decide))) creditLeft = .ok rt ∧
      Admitted rt (rt.clients 0) ∧ rt.availableCredits = 1 ∧ findFreeTaskSlot rt = none) := by
  constructor
  · have seen : ((run step (Runtime.initial (.small 1 (by decide) (by decide)))
        cancelWaiting).toOption.map fun rt =>
          (decide (Admitted rt (rt.clients 0) ∧ (rt.clients 0).request.taskKind = .cancel ∧
            unsupported rt .cancel = false ∧ argumentsInvalid (rt.clients 0) = false ∧
            rt.outstandingTasks < rt.ringCapacity ∧ findFreeTaskSlot rt = none),
          (dispatchRequest rt 0 .smooth).toOption.map fun next =>
            decide ((next.clients 0).pendingOutput = (rt.clients 0).pendingOutput ++
              SubmitResult.encode ⟨taskIdInvalid, -EAGAIN, 0⟩))) = some (true, some true) := by
      decide +kernel
    obtain ⟨rt, ran, view⟩ := exists_of_toOption_map seen
    obtain ⟨passes, answer⟩ := Prod.mk.inj view
    obtain ⟨admitted, kind, supported, valid, room, full⟩ := of_decide_eq_true passes
    obtain ⟨next, dispatched, queued⟩ := exists_of_toOption_map answer
    exact ⟨rt, ran, admitted, kind, supported, valid, room, full, next, dispatched,
      taskIdInvalid, 0, of_decide_eq_true queued⟩
  · have seen : ((run step (Runtime.initial (.small 2 (by decide) (by decide)))
        creditLeft).toOption.map fun rt =>
          decide (Admitted rt (rt.clients 0) ∧ rt.availableCredits = 1 ∧
            findFreeTaskSlot rt = none)) = some true := by decide +kernel
    obtain ⟨rt, ran, view⟩ := exists_of_toOption_map seen
    obtain ⟨admitted, credit, full⟩ := of_decide_eq_true view
    exact ⟨rt, ran, admitted, credit, full⟩

end Iouringd
