import Iouringd.Daemon.Messages

/-! # What an active task carries

A task is started for a request that was decoded and admitted, so its kind, priority and
length have passed the checks of both. They stay with it until it completes.
-/

namespace Iouringd

open Foundation

/-- The kinds that read into a buffer. -/
def RequestKind.reads : RequestKind → Bool
  | .sockRead | .sockReadFixed | .fileRead => true
  | _ => false

/-- A request that starts a task is of a task kind, with one of the three priorities. -/
theorem Grammatical.submission {client : Client} (grammatical : Grammatical client)
    (type : client.replyType = .submit) :
    client.request.taskKind.isTask = true ∧ client.request.priority.isValid = true := by
  obtain ⟨stream, rest, parsed⟩ := grammatical.parsed
  unfold parseRequest at parsed
  dsimp only at parsed
  split_ifs at parsed with header valid fixed accepted payload wanted
  obtain ⟨request, -⟩ := Parsed.message.inj parsed
  have kind : (frontHeader stream).taskKind = client.request.taskKind :=
    congrArg Request.kind request
  have priority : (frontHeader stream).priority = client.request.priority :=
    congrArg Request.priority request
  simp only [Bool.not_eq_true', Bool.not_eq_false, Bool.and_eq_true] at wanted
  have checked := wanted.1
  unfold SubmitRequest.priorityIsValid at checked
  rw [kind, priority] at checked
  have plain : client.request.taskKind.isControl = false := by
    rw [← grammatical.replyType] at type
    change client.request.taskKind.replyType = _ at type
    cases named : client.request.taskKind with
    | registerFd | releaseResource | registerBuffer | getStats | getTrace =>
        rw [named] at type
        cases type
    | _ => rfl
  split at checked
  · rename_i task
    exact ⟨task, checked⟩
  · rw [plain] at checked
    cases checked

/-- What an active task carries; a read asks for no more than a buffer holds. -/
structure TaskSlot.Vetted (task : TaskSlot) (ioBytesMax : Nat) : Prop where
  kind : task.taskKind.isTask = true
  priority : task.submitPriority.isValid = true
  length : task.taskKind.reads = true → task.ioLength.toNat ≤ ioBytesMax
  vector : task.taskKind.reads = true → task.ioVectorLen = task.ioLength

section Tasks

variable {config : Config} {rt next : Runtime}

/-- A read that was admitted fits the buffers. -/
theorem admitted_length {client : Client} (admitted : admissionRefusal rt client = none)
    (reads : client.request.taskKind.reads = true) :
    client.ioLength.toNat ≤ client.ioBytesMax := by
  unfold admissionRefusal at admitted
  split_ifs at admitted with credits share room support arguments
  unfold argumentsInvalid at arguments
  cases kind : client.request.taskKind with
  | sockRead | fileRead | sockReadFixed =>
      simp only [kind, Bool.or_eq_true, decide_eq_true_eq, not_or, Nat.not_lt] at arguments
      exact arguments.2
  | _ =>
      rw [kind] at reads
      cases reads

theorem Invariant.started_vetted (invariant : Invariant config rt) {index taskIndex : Nat}
    {env : DispatchEnv} {started : Runtime}
    (ready : (rt.clients index).requestReady = true)
    (type : (rt.clients index).replyType = .submit)
    (admitted : admissionRefusal rt (rt.clients index) = none)
    (start : Started rt index taskIndex env started) :
    (started.tasks taskIndex).Vetted rt.limits.ioBytesMax := by
  obtain ⟨active, -, grammatical⟩ := (invariant.entries index).ready ready
  obtain ⟨kind, priority⟩ := grammatical.submission type
  have file : (started.tasks taskIndex).taskKind.reads = true →
      (started.tasks taskIndex).taskKind.usesFile = true := by
    intro reads
    cases named : (started.tasks taskIndex).taskKind with
    | sockRead | fileRead | sockReadFixed => rfl
    | _ =>
        rw [named] at reads
        cases reads
  refine ⟨?_, ?_, ?_, ?_⟩
  · rw [start.identifies.taskKind]
    exact kind
  · rw [start.identifies.submitPriority]
    exact priority
  · intro reads
    rw [start.carries.ioLength (file reads)]
    rw [start.identifies.taskKind] at reads
    have fits := admitted_length admitted reads
    rw [((invariant.entries index).sized (Or.inl active)).2.2, ← invariant.limits] at fits
    exact fits
  · intro reads
    rw [start.carries.ioVectorLen (file reads), start.carries.ioLength (file reads)]

/-- Every active task is the task of a request that was decoded and admitted. -/
def Vetted (rt : Runtime) : Prop :=
  ∀ taskIndex, rt.occupied taskIndex = true →
    (rt.tasks taskIndex).Vetted rt.limits.ioBytesMax

theorem Vetted.stepped (vetted : Vetted rt) (invariant : Invariant config rt) {action : Action}
    (taken : step rt action = .ok next) : Vetted next := by
  intro taskIndex occupied
  have shape := step_shape invariant.grounded taken
  rw [shape.constants.1]
  by_cases before : rt.occupied taskIndex = true
  · rw [shape.same_task before occupied]
    have same := vetted taskIndex before
    exact ⟨same.kind, same.priority, same.length, same.vector⟩
  · cases shape with
    | quiet quiet =>
        rw [quiet.occupied_eq] at occupied
        exact absurd occupied before
    | accepted index slot env started connected admitted start answered ready type =>
        rw [answered.occupied_eq] at occupied
        by_cases same : taskIndex = slot
        · subst same
          rw [answered.task_eq occupied]
          have fresh := invariant.started_vetted ready type admitted start
          exact ⟨fresh.kind, fresh.priority, fresh.length, fresh.vector⟩
        · rw [start.countAccepted_eq] at occupied
          simp only [Runtime.occupied, Function.update_of_ne same] at occupied before
          exact absurd occupied before
    | completed slot res middle reaped held completed =>
        obtain ⟨-, still, -⟩ := Ledger.occupied_of_completed completed occupied
        rw [reaped.occupied_eq] at still
        exact absurd still before

end Tasks

end Iouringd
