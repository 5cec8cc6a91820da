import Iouringd.Daemon.Shape

/-! # The ledger of tasks

The runtime counts its active tasks and the credits they use, once for all clients
and once for each. `Ledger` says that every counter is the count it stands for and
that task ids are drawn from a counter that never turns back; each of the three
shapes of a step keeps it.
-/

namespace Iouringd

open Foundation

/-- The number of active tasks that satisfy `test`. -/
def Runtime.countTasks (rt : Runtime) (test : TaskSlot → Bool) : Nat :=
  Nat.count (fun taskIndex => ((rt.tasks taskIndex).active && test (rt.tasks taskIndex)) = true)
    rt.taskCapacity

/-- Tasks of one client. -/
def ofClient (index : Nat) (task : TaskSlot) : Bool := task.clientIndex == index

/-- Tasks of one client that use a credit. -/
def creditOfClient (index : Nat) (task : TaskSlot) : Bool :=
  task.consumesCredit && task.clientIndex == index

/-- Every counter is what it counts. -/
structure Ledger (rt : Runtime) : Prop where
  tasks : rt.outstandingTasks = rt.countTasks fun _ => true
  credits : rt.outstandingCreditTasks = rt.countTasks TaskSlot.consumesCredit
  clientTasks : ∀ index, (rt.clients index).outstandingTasks = rt.countTasks (ofClient index)
  clientCredits : ∀ index,
    (rt.clients index).outstandingCreditTasks = rt.countTasks (creditOfClient index)
  creditLimit : ∀ index, (rt.clients index).outstandingCreditTasks ≤ rt.perClientCreditLimit
  balance : rt.acceptedSubmits.toNat = rt.completions.toNat + rt.outstandingTasks
  nextTaskId : rt.nextTaskId.toNat = rt.acceptedSubmits.toNat + 1
  unreserved : rt.nextTaskId ≤ taskIdReservedMin
  ids : ∀ taskIndex, rt.occupied taskIndex = true →
    1 ≤ (rt.tasks taskIndex).taskId ∧ (rt.tasks taskIndex).taskId < rt.nextTaskId
  distinct : ∀ left right, rt.occupied left = true → rt.occupied right = true →
    (rt.tasks left).taskId = (rt.tasks right).taskId → left = right

/-! ## How counts move -/

section Counts

variable {rt next : Runtime} {test : TaskSlot → Bool}

theorem occupied_iff {taskIndex : Nat} :
    rt.occupied taskIndex = true ↔
      taskIndex < rt.taskCapacity ∧ (rt.tasks taskIndex).active = true := by
  simp only [Runtime.occupied, Bool.and_eq_true, decide_eq_true_eq]

/-- There are no more tasks than slots. -/
theorem countTasks_le : rt.countTasks test ≤ rt.taskCapacity := Nat.count_le _

/-- A stronger test counts fewer tasks. -/
theorem countTasks_le_of_imp {weaker : TaskSlot → Bool}
    (implied : ∀ task, test task = true → weaker task = true) :
    rt.countTasks test ≤ rt.countTasks weaker := by
  apply count_le_of_imp
  intro taskIndex _ counted
  simp only [Bool.and_eq_true] at counted ⊢
  exact ⟨counted.1, implied _ counted.2⟩

/-- A counted task makes the count positive. -/
theorem countTasks_pos {taskIndex : Nat} (occupied : rt.occupied taskIndex = true)
    (counted : test (rt.tasks taskIndex) = true) : 0 < rt.countTasks test := by
  obtain ⟨below, active⟩ := occupied_iff.mp occupied
  by_contra nothing
  have empty : Nat.count (fun slot => ((rt.tasks slot).active && test (rt.tasks slot)) = true)
      rt.taskCapacity = 0 := Nat.eq_zero_of_not_pos nothing
  have absent := Nat.count_iff_forall_not.mp empty taskIndex below
  simp only [active, counted, Bool.and_self, not_true_eq_false] at absent

/-- A test that ignores the memory the kernel writes. -/
def IgnoresMemory (test : TaskSlot → Bool) : Prop :=
  ∀ (task : TaskSlot) (buffer : Memory) (length : UInt32),
    test { task with ioBuffer := buffer, sockaddrLength := length } = test task

theorem QuietTask.active_eq {task after : TaskSlot} (quiet : QuietTask task after) :
    after.active = task.active := by
  cases held : task.active with
  | false => exact quiet.inactive held
  | true =>
      rw [quiet.active held]
      exact held

theorem Quiet.occupied_eq (quiet : Quiet rt next) (taskIndex : Nat) :
    next.occupied taskIndex = rt.occupied taskIndex := by
  unfold Runtime.occupied
  rw [quiet.taskCapacity, (quiet.task taskIndex).active_eq]

/-- The task in an occupied slot of a quiet step. -/
theorem Quiet.task_eq (quiet : Quiet rt next) {taskIndex : Nat}
    (occupied : rt.occupied taskIndex = true) :
    next.tasks taskIndex = { rt.tasks taskIndex with
      ioBuffer := (next.tasks taskIndex).ioBuffer
      sockaddrLength := (next.tasks taskIndex).sockaddrLength } :=
  (quiet.task taskIndex).active (occupied_iff.mp occupied).2

theorem Quiet.countTasks_eq (quiet : Quiet rt next) (ignores : IgnoresMemory test) :
    next.countTasks test = rt.countTasks test := by
  unfold Runtime.countTasks
  rw [quiet.taskCapacity]
  apply count_congr
  intro taskIndex _
  have kept := quiet.task taskIndex
  rw [kept.active_eq]
  cases held : (rt.tasks taskIndex).active with
  | false => simp only [Bool.false_and]
  | true => rw [kept.active held, ignores]

/-- An active task put into a slot that was free counts once. -/
theorem countTasks_fill {taskIndex : Nat} {task : TaskSlot} (below : taskIndex < rt.taskCapacity)
    (free : (rt.tasks taskIndex).active = false) (active : task.active = true)
    (capacity : next.taskCapacity = rt.taskCapacity)
    (tasks : next.tasks = Function.update rt.tasks taskIndex task) :
    next.countTasks test = rt.countTasks test + (if test task = true then 1 else 0) := by
  unfold Runtime.countTasks
  rw [capacity, tasks]
  have filled := count_update_of_not (fun slot : TaskSlot => (slot.active && test slot) = true)
    rt.tasks rt.taskCapacity taskIndex task below
    (by simp only [free, Bool.false_and, Bool.false_eq_true, not_false_eq_true])
  simpa only [active, Bool.true_and] using filled

/-- Clearing an occupied slot takes its task out of every count. -/
theorem countTasks_clear {taskIndex : Nat} (occupied : rt.occupied taskIndex = true)
    (capacity : next.taskCapacity = rt.taskCapacity)
    (tasks : next.tasks = Function.update rt.tasks taskIndex .cleared) :
    next.countTasks test + (if test (rt.tasks taskIndex) = true then 1 else 0) =
      rt.countTasks test := by
  obtain ⟨below, active⟩ := occupied_iff.mp occupied
  unfold Runtime.countTasks
  rw [capacity, tasks]
  have cleared := count_update_to_not (fun slot : TaskSlot => (slot.active && test slot) = true)
    rt.tasks rt.taskCapacity taskIndex .cleared below
    (by simp only [TaskSlot.cleared, Bool.false_and, Bool.false_eq_true, not_false_eq_true])
  simpa only [active, Bool.true_and] using cleared

end Counts

/-! ## The three shapes -/

section Shapes

variable {rt started next : Runtime} {index taskIndex : Nat} {env : DispatchEnv}

/-- The slot a task is started in. -/
theorem Started.slot (start : Started rt index taskIndex env started) :
    taskIndex < rt.taskCapacity ∧ (rt.tasks taskIndex).active = false := by
  obtain ⟨below, free⟩ := firstBelow_some start.free
  simp only [Bool.not_eq_true'] at free
  exact ⟨below, free⟩

/-- The state of an accepted submission, all counters moved. -/
theorem Started.countAccepted_eq (start : Started rt index taskIndex env started)
    (usesCredit : Bool) :
    started.countAccepted index usesCredit = { rt with
      ring := started.ring
      tasks := Function.update rt.tasks taskIndex (started.tasks taskIndex)
      nextTaskId := rt.nextTaskId + 1
      outstandingTasks := rt.outstandingTasks + 1
      outstandingCreditTasks := rt.outstandingCreditTasks + (if usesCredit then 1 else 0)
      acceptedSubmits := rt.acceptedSubmits + 1
      clients := Function.update rt.clients index { rt.clients index with
        nextResourceId := (started.clients index).nextResourceId
        fileResources := (started.clients index).fileResources
        bufferResources := (started.clients index).bufferResources
        outstandingTasks := (rt.clients index).outstandingTasks + 1
        outstandingCreditTasks :=
          (rt.clients index).outstandingCreditTasks + (if usesCredit then 1 else 0) } } := by
  unfold Runtime.countAccepted
  dsimp only [Runtime.setClient]
  have client : started.clients index = { rt.clients index with
      nextResourceId := (started.clients index).nextResourceId
      fileResources := (started.clients index).fileResources
      bufferResources := (started.clients index).bufferResources } := by
    conv_lhs => rw [start.frame]
    simp only [Function.update_self]
  rw [client]
  conv_lhs => rw [start.frame]
  simp only [Function.update_idem, Function.update_self]

theorem countAccepted_tasks (rt : Runtime) (index : Nat) (usesCredit : Bool) :
    (rt.countAccepted index usesCredit).tasks = rt.tasks := rfl

section Counted

variable (start : Started rt index taskIndex env started) (usesCredit : Bool)

include start

theorem Started.task_other {other : Nat} (apart : other ≠ taskIndex) :
    (started.countAccepted index usesCredit).tasks other = rt.tasks other := by
  rw [start.countAccepted_eq]
  exact Function.update_of_ne apart _ _

theorem Started.client_other {other : Nat} (apart : other ≠ index) :
    (started.countAccepted index usesCredit).clients other = rt.clients other := by
  rw [start.countAccepted_eq]
  exact Function.update_of_ne apart _ _

/-- The client whose request was accepted. -/
theorem Started.client_self :
    (started.countAccepted index usesCredit).clients index = { rt.clients index with
      nextResourceId := (started.clients index).nextResourceId
      fileResources := (started.clients index).fileResources
      bufferResources := (started.clients index).bufferResources
      outstandingTasks := (rt.clients index).outstandingTasks + 1
      outstandingCreditTasks :=
        (rt.clients index).outstandingCreditTasks + (if usesCredit then 1 else 0) } := by
  rw [start.countAccepted_eq]
  exact Function.update_self _ _ _

/-- A slot that is occupied afterwards is the new one or was occupied before. -/
theorem Started.occupied_other {other : Nat} (apart : other ≠ taskIndex) :
    (started.countAccepted index usesCredit).occupied other = rt.occupied other := by
  rw [start.countAccepted_eq]
  simp only [Runtime.occupied, Function.update_of_ne apart]

end Counted

/-- The new task counts once wherever it satisfies the test. -/
theorem Started.countTasks_eq (start : Started rt index taskIndex env started)
    (usesCredit : Bool) (test : TaskSlot → Bool) :
    (started.countAccepted index usesCredit).countTasks test =
      rt.countTasks test + (if test (started.tasks taskIndex) = true then 1 else 0) := by
  obtain ⟨below, free⟩ := start.slot
  rw [start.countAccepted_eq]
  exact countTasks_fill below free start.identifies.active rfl rfl

theorem Completed.countTasks_eq {res : Int32} {env : CompleteEnv}
    (completed : Completed rt taskIndex res env next)
    (occupied : rt.occupied taskIndex = true) (test : TaskSlot → Bool) :
    next.countTasks test + (if test (rt.tasks taskIndex) = true then 1 else 0) =
      rt.countTasks test := by
  apply countTasks_clear occupied
  · rw [completed.frame]
  · rw [completed.frame]

namespace Ledger

/-- Quiet steps move no counter and no id. -/
theorem quiet (ledger : Ledger rt) (quiet : Quiet rt next) : Ledger next where
  tasks := by
    rw [quiet.outstandingTasks, ledger.tasks, quiet.countTasks_eq fun _ _ _ => rfl]
  credits := by
    rw [quiet.outstandingCreditTasks, ledger.credits, quiet.countTasks_eq fun _ _ _ => rfl]
  clientTasks := by
    intro index
    rw [(quiet.client index).outstandingTasks, ledger.clientTasks,
      quiet.countTasks_eq fun _ _ _ => rfl]
  clientCredits := by
    intro index
    rw [(quiet.client index).outstandingCreditTasks, ledger.clientCredits,
      quiet.countTasks_eq fun _ _ _ => rfl]
  creditLimit := by
    intro index
    rw [(quiet.client index).outstandingCreditTasks, quiet.perClientCreditLimit]
    exact ledger.creditLimit index
  balance := by
    rw [quiet.acceptedSubmits, quiet.completions, quiet.outstandingTasks]
    exact ledger.balance
  nextTaskId := by
    rw [quiet.nextTaskId, quiet.acceptedSubmits]
    exact ledger.nextTaskId
  unreserved := by
    rw [quiet.nextTaskId]
    exact ledger.unreserved
  ids := by
    intro taskIndex occupied
    rw [quiet.occupied_eq] at occupied
    rw [quiet.task_eq occupied, quiet.nextTaskId]
    exact ledger.ids taskIndex occupied
  distinct := by
    intro left right leftOccupied rightOccupied
    rw [quiet.occupied_eq] at leftOccupied rightOccupied
    rw [quiet.task_eq leftOccupied, quiet.task_eq rightOccupied]
    exact ledger.distinct left right leftOccupied rightOccupied

/-- A credit the client may still use. -/
theorem credit_of_admitted (admitted : admissionRefusal rt (rt.clients index) = none)
    (uses : (rt.clients index).usesCredit = true) :
    rt.outstandingCreditTasks < rt.taskCapacity ∧
      (rt.clients index).outstandingCreditTasks < rt.perClientCreditLimit := by
  unfold admissionRefusal at admitted
  simp only [uses, Bool.true_and, decide_eq_true_eq] at admitted
  split at admitted
  · cases admitted
  · split at admitted
    · cases admitted
    · omega

/-- An accepted submission draws the next id and moves every counter by one. -/
theorem accepted (ledger : Ledger rt) (admitted : admissionRefusal rt (rt.clients index) = none)
    (start : Started rt index taskIndex env started) :
    Ledger (started.countAccepted index (rt.clients index).usesCredit) := by
  have counts := start.countTasks_eq (rt.clients index).usesCredit
  have identifies := start.identifies
  obtain ⟨below, free⟩ := start.slot
  have vacant : rt.occupied taskIndex = false := by
    simp only [Runtime.occupied, free, Bool.and_false]
  have fresh := start.fresh
  have unreserved : rt.nextTaskId.toNat + 1 < 2 ^ 64 := by
    have bound := UInt64.lt_iff_toNat_lt.mp fresh
    have reserved : taskIdReservedMin.toNat = 18446744073709551600 := rfl
    omega
  have stepped : (rt.nextTaskId + 1).toNat = rt.nextTaskId.toNat + 1 := by
    rw [UInt64.toNat_add]
    exact Nat.mod_eq_of_lt unreserved
  have occupied : ∀ other, (started.countAccepted index
      (rt.clients index).usesCredit).occupied other = true → other ≠ taskIndex →
      rt.occupied other = true := by
    intro other held apart
    rw [start.countAccepted_eq] at held
    simpa only [Runtime.occupied, Function.update_of_ne apart] using held
  rw [start.countAccepted_eq] at counts occupied ⊢
  have ids : ∀ other, rt.occupied other = true →
      (rt.tasks other).taskId ≠ (started.tasks taskIndex).taskId := by
    intro other held same
    rw [identifies.taskId] at same
    exact absurd (ledger.ids other held).2 (by rw [same]; exact UInt64.lt_irrefl _)
  exact {
    tasks := by
      rw [counts]
      exact congrArg (· + 1) ledger.tasks
    credits := by
      rw [counts, identifies.consumesCredit]
      exact congrArg (· + _) ledger.credits
    clientTasks := by
      intro other
      rw [counts, ← ledger.clientTasks]
      by_cases same : other = index
      · subst same
        simp only [Function.update_self, ofClient, identifies.clientIndex, beq_self_eq_true,
          ↓reduceIte]
      · simp only [Function.update_of_ne same, ofClient, identifies.clientIndex, beq_iff_eq,
          Ne.symm same, ↓reduceIte, Nat.add_zero]
    clientCredits := by
      intro other
      rw [counts, ← ledger.clientCredits]
      by_cases same : other = index
      · subst same
        simp only [Function.update_self, creditOfClient, identifies.clientIndex, beq_self_eq_true,
          Bool.and_true, identifies.consumesCredit]
      · simp only [Function.update_of_ne same, creditOfClient, identifies.clientIndex,
          Bool.and_eq_true, beq_iff_eq, Ne.symm same, and_false, ↓reduceIte, Nat.add_zero]
    creditLimit := by
      intro other
      dsimp only
      by_cases same : other = index
      · subst same
        rw [Function.update_self]
        dsimp only
        cases uses : (rt.clients other).usesCredit with
        | true => exact (credit_of_admitted admitted uses).2
        | false => exact ledger.creditLimit other
      · rw [Function.update_of_ne same]
        exact ledger.creditLimit other
    balance := by
      have nextTaskId := ledger.nextTaskId
      have balance := ledger.balance
      dsimp only
      rw [UInt64.toNat_add, Nat.mod_eq_of_lt (by change rt.acceptedSubmits.toNat + 1 < _; omega),
        balance]
      rfl
    nextTaskId := by
      have nextTaskId := ledger.nextTaskId
      dsimp only
      rw [stepped, UInt64.toNat_add,
        Nat.mod_eq_of_lt (by change rt.acceptedSubmits.toNat + 1 < _; omega), nextTaskId]
      rfl
    unreserved := by
      dsimp only
      rw [UInt64.le_iff_toNat_le, stepped]
      exact UInt64.lt_iff_toNat_lt.mp fresh
    ids := by
      intro other held
      dsimp only
      by_cases same : other = taskIndex
      · subst same
        rw [Function.update_self, identifies.taskId, UInt64.le_iff_toNat_le,
          UInt64.lt_iff_toNat_lt, stepped]
        have nextTaskId := ledger.nextTaskId
        have one : (1 : UInt64).toNat = 1 := rfl
        omega
      · obtain ⟨low, high⟩ := ledger.ids other (occupied other held same)
        rw [Function.update_of_ne same]
        refine ⟨low, ?_⟩
        rw [UInt64.lt_iff_toNat_lt] at high ⊢
        omega
    distinct := by
      intro left right leftHeld rightHeld equal
      dsimp only at equal
      by_cases leftNew : left = taskIndex
      · by_cases rightNew : right = taskIndex
        · rw [leftNew, rightNew]
        · rw [leftNew, Function.update_self, Function.update_of_ne rightNew] at equal
          exact absurd equal.symm (ids right (occupied right rightHeld rightNew))
      · by_cases rightNew : right = taskIndex
        · rw [rightNew, Function.update_self, Function.update_of_ne leftNew] at equal
          exact absurd equal (ids left (occupied left leftHeld leftNew))
        · rw [Function.update_of_ne leftNew, Function.update_of_ne rightNew] at equal
          exact ledger.distinct left right (occupied left leftHeld leftNew)
            (occupied right rightHeld rightNew) equal }

/-- An occupied slot of the state after a completion was occupied before, by the same
task, and is not the one that completed. -/
theorem occupied_of_completed {res : Int32} {env : CompleteEnv}
    (completed : Completed rt taskIndex res env next)
    {other : Nat} (held : next.occupied other = true) :
    other ≠ taskIndex ∧ rt.occupied other = true ∧ next.tasks other = rt.tasks other := by
  have apart : other ≠ taskIndex := by
    intro same
    subst same
    rw [completed.frame] at held
    simp only [Runtime.occupied, Function.update_self, TaskSlot.cleared, Bool.and_false,
      Bool.false_eq_true] at held
  refine ⟨apart, ?_, ?_⟩
  · rw [completed.frame] at held
    simpa only [Runtime.occupied, Function.update_of_ne apart] using held
  · rw [completed.frame]
    exact Function.update_of_ne apart _ _

/-- A completion moves every counter back by one; none of the subtractions wraps. -/
theorem completed {res : Int32} {env : CompleteEnv} (ledger : Ledger rt)
    (occupied : rt.occupied taskIndex = true)
    (completed : Completed rt taskIndex res env next) : Ledger next := by
  have counts := completed.countTasks_eq occupied
  have busy : 0 < rt.outstandingTasks := by
    rw [ledger.tasks]
    exact countTasks_pos occupied rfl
  have credit : (if (rt.tasks taskIndex).consumesCredit = true then 1 else 0) ≤
      rt.outstandingCreditTasks := by
    rw [ledger.credits, ← counts]
    exact Nat.le_add_left _ _
  have tasks : next.outstandingTasks = rt.outstandingTasks - 1 := by
    rw [completed.frame]
    exact sizeSub_eq busy
  have credits : next.outstandingCreditTasks = rt.outstandingCreditTasks -
      (if (rt.tasks taskIndex).consumesCredit = true then 1 else 0) := by
    rw [completed.frame]
    exact sizeSub_eq credit
  have room : rt.completions.toNat + 1 < 2 ^ 64 := by
    have balance := ledger.balance
    have bound := rt.acceptedSubmits.toNat_lt
    have nextTaskId := ledger.nextTaskId
    have below := rt.nextTaskId.toNat_lt
    omega
  have client : ∀ other, (next.clients other).outstandingTasks =
      (rt.clients other).outstandingTasks -
        (if ofClient other (rt.tasks taskIndex) = true then 1 else 0) := by
    intro other
    rw [completed.frame]
    by_cases same : other = (rt.tasks taskIndex).clientIndex
    · subst same
      simp only [Function.update_self, ofClient, beq_self_eq_true, ↓reduceIte]
    · simp only [Function.update_of_ne same, ofClient, beq_iff_eq, Ne.symm same, ↓reduceIte,
        Nat.sub_zero]
  have clientCredit : ∀ other, (next.clients other).outstandingCreditTasks =
      (rt.clients other).outstandingCreditTasks -
        (if creditOfClient other (rt.tasks taskIndex) = true then 1 else 0) := by
    intro other
    rw [completed.frame]
    by_cases same : other = (rt.tasks taskIndex).clientIndex
    · subst same
      simp only [Function.update_self, creditOfClient, beq_self_eq_true, Bool.and_true]
    · simp only [Function.update_of_ne same, creditOfClient, beq_iff_eq, Bool.and_eq_true,
        Ne.symm same, and_false, ↓reduceIte, Nat.sub_zero]
  exact {
    tasks := by
      have moved := counts fun _ => true
      have all := ledger.tasks
      simp only [↓reduceIte] at moved
      omega
    credits := by
      have moved := counts TaskSlot.consumesCredit
      have all := ledger.credits
      omega
    clientTasks := by
      intro other
      have moved := counts (ofClient other)
      have all := ledger.clientTasks other
      rw [client]
      omega
    clientCredits := by
      intro other
      have moved := counts (creditOfClient other)
      have all := ledger.clientCredits other
      rw [clientCredit]
      omega
    creditLimit := by
      intro other
      have limit := ledger.creditLimit other
      have same : next.perClientCreditLimit = rt.perClientCreditLimit := by rw [completed.frame]
      rw [clientCredit, same]
      omega
    balance := by
      have balance := ledger.balance
      have accepted : next.acceptedSubmits = rt.acceptedSubmits := by rw [completed.frame]
      have completions : next.completions.toNat = rt.completions.toNat + 1 := by
        rw [completed.frame]
        exact (UInt64.toNat_add _ _).trans (Nat.mod_eq_of_lt room)
      rw [accepted, completions, tasks]
      omega
    nextTaskId := by
      rw [completed.frame]
      exact ledger.nextTaskId
    unreserved := by
      rw [completed.frame]
      exact ledger.unreserved
    ids := by
      intro other held
      obtain ⟨-, before, same⟩ := occupied_of_completed completed held
      have nextTaskId : next.nextTaskId = rt.nextTaskId := by rw [completed.frame]
      rw [same, nextTaskId]
      exact ledger.ids other before
    distinct := by
      intro left right leftHeld rightHeld
      obtain ⟨-, leftBefore, leftSame⟩ := occupied_of_completed completed leftHeld
      obtain ⟨-, rightBefore, rightSame⟩ := occupied_of_completed completed rightHeld
      rw [leftSame, rightSame]
      exact ledger.distinct left right leftBefore rightBefore }

/-- Every step keeps the ledger. -/
theorem stepped (ledger : Ledger rt) (shape : StepShape rt next) : Ledger next := by
  cases shape with
  | quiet quiet => exact ledger.quiet quiet
  | accepted index taskIndex env started connected admitted start answered =>
      exact (ledger.accepted admitted start).quiet answered
  | completed taskIndex res middle reaped occupied completed =>
      exact (ledger.quiet reaped).completed occupied completed

/-- No task is active at the start. -/
theorem initial (config : Config) : Ledger (Runtime.initial config) := by
  have nothing : ∀ test, (Runtime.initial config).countTasks test = 0 := by
    intro test
    apply Nat.count_of_forall_not
    intro taskIndex _
    simp only [Runtime.initial, TaskSlot.cleared, Bool.false_and, Bool.false_eq_true,
      not_false_eq_true]
  have vacant : ∀ taskIndex, (Runtime.initial config).occupied taskIndex = false := by
    intro taskIndex
    simp only [Runtime.occupied, Runtime.initial, TaskSlot.cleared, Bool.and_false]
  exact {
    tasks := (nothing _).symm
    credits := (nothing _).symm
    clientTasks := fun index => (nothing _).symm
    clientCredits := fun index => (nothing _).symm
    creditLimit := fun index => Nat.zero_le _
    balance := rfl
    nextTaskId := rfl
    unreserved := by
      change (1 : UInt64) ≤ taskIdReservedMin
      decide
    ids := by
      intro taskIndex held
      rw [vacant] at held
      cases held
    distinct := by
      intro left right held
      rw [vacant] at held
      cases held }

/-- A client without tasks uses no credits. -/
theorem clientCredits_eq_zero (ledger : Ledger rt) (index : Nat)
    (drained : (rt.clients index).outstandingTasks = 0) :
    (rt.clients index).outstandingCreditTasks = 0 := by
  have fewer : rt.countTasks (creditOfClient index) ≤ rt.countTasks (ofClient index) := by
    apply countTasks_le_of_imp
    intro task counted
    simp only [creditOfClient, Bool.and_eq_true] at counted
    exact counted.2
  rw [ledger.clientTasks] at drained
  rw [ledger.clientCredits]
  omega

end Ledger

end Shapes

end Iouringd
