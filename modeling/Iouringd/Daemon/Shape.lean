import Iouringd.Daemon.StepCases

/-! # The three shapes of a step

For the task table and the slots a step does one of three things: nothing that
matters (`Quiet`), it starts a task, or it completes one. The invariants of the
table are proved against these shapes and not against the steps.
-/

namespace Iouringd

open Foundation

/-! ## Quiet steps -/

/-- A file slot in flight is left alone, up to being marked closing; an idle one stays
idle. -/
structure QuietFile (file next : FileSlot) : Prop where
  held : file.inFlight ≠ 0 →
    next = file ∨ (file.registered = true ∧ next = { file with closing := true })
  idle : file.inFlight = 0 → next.inFlight = 0

@[inherit_doc QuietFile]
structure QuietBuffer (buffer next : BufferSlot) : Prop where
  held : buffer.inFlight ≠ 0 →
    next = buffer ∨ (buffer.registered = true ∧ next = { buffer with closing := true })
  idle : buffer.inFlight = 0 → next.inFlight = 0

/-- A client keeps its counters, what is in flight on its slots and, while it has
tasks, the number of its slots. -/
structure QuietClient (client next : Client) : Prop where
  outstandingTasks : next.outstandingTasks = client.outstandingTasks
  outstandingCreditTasks : next.outstandingCreditTasks = client.outstandingCreditTasks
  file : ∀ slot, QuietFile (client.fileResources slot) (next.fileResources slot)
  buffer : ∀ slot, QuietBuffer (client.bufferResources slot) (next.bufferResources slot)
  limits : client.outstandingTasks ≠ 0 → next.fileSlotLimit = client.fileSlotLimit ∧
    next.bufferSlotLimit = client.bufferSlotLimit

/-- A task slot keeps its task, up to the memory the kernel writes. -/
structure QuietTask (task next : TaskSlot) : Prop where
  active : task.active = true → next = { task with
    ioBuffer := next.ioBuffer, sockaddrLength := next.sockaddrLength }
  inactive : task.active = false → next.active = false

/-- The counters, the tasks and the clients are left alone in this sense. -/
structure Quiet (rt next : Runtime) : Prop where
  nextTaskId : next.nextTaskId = rt.nextTaskId
  outstandingTasks : next.outstandingTasks = rt.outstandingTasks
  outstandingCreditTasks : next.outstandingCreditTasks = rt.outstandingCreditTasks
  ringCapacity : next.ringCapacity = rt.ringCapacity
  taskCapacity : next.taskCapacity = rt.taskCapacity
  perClientCreditLimit : next.perClientCreditLimit = rt.perClientCreditLimit
  acceptedSubmits : next.acceptedSubmits = rt.acceptedSubmits
  completions : next.completions = rt.completions
  limits : next.limits = rt.limits
  clientOutputCapacity : next.clientOutputCapacity = rt.clientOutputCapacity
  task : ∀ index, QuietTask (rt.tasks index) (next.tasks index)
  client : ∀ index, QuietClient (rt.clients index) (next.clients index)

/-- Quiet is reflexive and transitive for a file slot. -/
theorem QuietFile.refl (file : FileSlot) : QuietFile file file := ⟨fun _ => Or.inl rfl, id⟩

@[inherit_doc QuietFile.refl]
theorem QuietFile.trans {file middle next : FileSlot} (first : QuietFile file middle)
    (second : QuietFile middle next) : QuietFile file next := by
  constructor
  · intro held
    rcases first.held held with same | ⟨registered, marked⟩
    · subst same
      exact second.held held
    · subst marked
      rcases second.held held with same | ⟨-, marked⟩
      · exact Or.inr ⟨registered, same⟩
      · exact Or.inr ⟨registered, marked⟩
  · intro idle
    exact second.idle (first.idle idle)

/-- Quiet is reflexive and transitive for a buffer slot. -/
theorem QuietBuffer.refl (buffer : BufferSlot) : QuietBuffer buffer buffer :=
  ⟨fun _ => Or.inl rfl, id⟩

@[inherit_doc QuietBuffer.refl]
theorem QuietBuffer.trans {buffer middle next : BufferSlot} (first : QuietBuffer buffer middle)
    (second : QuietBuffer middle next) : QuietBuffer buffer next := by
  constructor
  · intro held
    rcases first.held held with same | ⟨registered, marked⟩
    · subst same
      exact second.held held
    · subst marked
      rcases second.held held with same | ⟨-, marked⟩
      · exact Or.inr ⟨registered, same⟩
      · exact Or.inr ⟨registered, marked⟩
  · intro idle
    exact second.idle (first.idle idle)

namespace QuietClient

variable {client middle next : Client}

/-- Quiet is reflexive and transitive for a client. -/
theorem refl (client : Client) : QuietClient client client :=
  ⟨rfl, rfl, fun _ => .refl _, fun _ => .refl _, fun _ => ⟨rfl, rfl⟩⟩

@[inherit_doc QuietClient.refl]
theorem trans (first : QuietClient client middle) (second : QuietClient middle next) :
    QuietClient client next where
  outstandingTasks := second.outstandingTasks.trans first.outstandingTasks
  outstandingCreditTasks := second.outstandingCreditTasks.trans first.outstandingCreditTasks
  file := fun slot => (first.file slot).trans (second.file slot)
  buffer := fun slot => (first.buffer slot).trans (second.buffer slot)
  limits := by
    intro busy
    obtain ⟨files, buffers⟩ := first.limits busy
    obtain ⟨files', buffers'⟩ := second.limits (first.outstandingTasks ▸ busy)
    exact ⟨files'.trans files, buffers'.trans buffers⟩

/-- Equal counters, limits and slots. -/
theorem of_eq (tasks : next.outstandingTasks = client.outstandingTasks)
    (credits : next.outstandingCreditTasks = client.outstandingCreditTasks)
    (fileLimit : next.fileSlotLimit = client.fileSlotLimit)
    (bufferLimit : next.bufferSlotLimit = client.bufferSlotLimit)
    (files : next.fileResources = client.fileResources)
    (buffers : next.bufferResources = client.bufferResources) : QuietClient client next :=
  ⟨tasks, credits, fun _ => files ▸ .refl _, fun _ => buffers ▸ .refl _,
    fun _ => ⟨fileLimit, bufferLimit⟩⟩

/-- One file slot is overwritten. -/
theorem setFileSlot {slot : Nat} {file : FileSlot}
    (quiet : QuietFile (client.fileResources slot) file) :
    QuietClient client (client.setFileSlot slot file) := by
  refine ⟨rfl, rfl, ?_, fun _ => .refl _, fun _ => ⟨rfl, rfl⟩⟩
  intro other
  change QuietFile _ (Function.update client.fileResources slot file other)
  by_cases same : other = slot
  · subst same
    rw [Function.update_self]
    exact quiet
  · rw [Function.update_of_ne same]
    exact .refl _

/-- One buffer slot is overwritten. -/
theorem setBufferSlot {slot : Nat} {buffer : BufferSlot}
    (quiet : QuietBuffer (client.bufferResources slot) buffer) :
    QuietClient client (client.setBufferSlot slot buffer) := by
  refine ⟨rfl, rfl, fun _ => .refl _, ?_, fun _ => ⟨rfl, rfl⟩⟩
  intro other
  change QuietBuffer _ (Function.update client.bufferResources slot buffer other)
  by_cases same : other = slot
  · subst same
    rw [Function.update_self]
    exact quiet
  · rw [Function.update_of_ne same]
    exact .refl _

end QuietClient

/-- An idle slot may be overwritten by an idle one. -/
theorem QuietFile.of_idle {file next : FileSlot} (idle : file.inFlight = 0)
    (stays : next.inFlight = 0) : QuietFile file next :=
  ⟨fun held => absurd idle held, fun _ => stays⟩

/-- A buffer slot that nothing uses before and after. -/
theorem QuietBuffer.of_idle {buffer next : BufferSlot} (idle : buffer.inFlight = 0)
    (stays : next.inFlight = 0) : QuietBuffer buffer next :=
  ⟨fun held => absurd idle held, fun _ => stays⟩

/-- Quiet is reflexive and transitive for a task. -/
theorem QuietTask.refl (task : TaskSlot) : QuietTask task task := ⟨fun _ => rfl, id⟩

@[inherit_doc QuietTask.refl]
theorem QuietTask.trans {task middle next : TaskSlot} (first : QuietTask task middle)
    (second : QuietTask middle next) : QuietTask task next := by
  constructor
  · intro active
    have kept := first.active active
    have stillActive : middle.active = true := by
      rw [kept]
      exact active
    have last := second.active stillActive
    rw [last, kept]
  · intro inactive
    exact second.inactive (first.inactive inactive)

namespace Quiet

variable {rt middle next : Runtime} {index : Nat}

/-- Quiet is reflexive and transitive for the whole state. -/
theorem refl (rt : Runtime) : Quiet rt rt :=
  ⟨rfl, rfl, rfl, rfl, rfl, rfl, rfl, rfl, rfl, rfl, fun _ => .refl _, fun _ => .refl _⟩

@[inherit_doc Quiet.refl]
theorem trans (first : Quiet rt middle) (second : Quiet middle next) : Quiet rt next where
  nextTaskId := second.nextTaskId.trans first.nextTaskId
  outstandingTasks := second.outstandingTasks.trans first.outstandingTasks
  outstandingCreditTasks := second.outstandingCreditTasks.trans first.outstandingCreditTasks
  ringCapacity := second.ringCapacity.trans first.ringCapacity
  taskCapacity := second.taskCapacity.trans first.taskCapacity
  perClientCreditLimit := second.perClientCreditLimit.trans first.perClientCreditLimit
  acceptedSubmits := second.acceptedSubmits.trans first.acceptedSubmits
  completions := second.completions.trans first.completions
  limits := second.limits.trans first.limits
  clientOutputCapacity := second.clientOutputCapacity.trans first.clientOutputCapacity
  task := fun index => (first.task index).trans (second.task index)
  client := fun index => (first.client index).trans (second.client index)

/-- One client changes quietly; the ring, the storage and the bookkeeping are free. -/
theorem of_update {ring : Ring} {rejected sequence : UInt64} {events : Nat → TraceEvent}
    {count generation : UInt32} {storage : Memory} {cursor : Nat} {client : Client}
    (quiet : QuietClient (rt.clients index) client) :
    Quiet rt { rt with
      ring
      rejectedSubmits := rejected
      nextTraceSequence := sequence
      traceEvents := events
      traceCount := count
      nextClientGeneration := generation
      registeredBufferStorage := storage
      dispatchCursor := cursor
      clients := Function.update rt.clients index client } := by
  refine ⟨rfl, rfl, rfl, rfl, rfl, rfl, rfl, rfl, rfl, rfl, fun _ => .refl _, ?_⟩
  intro other
  by_cases same : other = index
  · subst same
    dsimp only
    rw [Function.update_self]
    exact quiet
  · dsimp only
    rw [Function.update_of_ne same]
    exact .refl _

end Quiet

section Operations

variable {rt next : Runtime} {index : Nat}

/-! ## The operations that are quiet -/

/-- An answer is quiet. -/
theorem Answered.quiet {bytes : List UInt8} (answered : Answered rt index bytes next) :
    Quiet rt next := by
  rw [answered]
  exact Quiet.of_update (.of_eq rfl rfl rfl rfl rfl rfl)

/-- Closing marks registered slots and leaves the counters alone. -/
theorem closedClient_quiet (client : Client) : QuietClient client (closedClient client) := by
  refine ⟨rfl, rfl, ?_, ?_, fun _ => ⟨rfl, rfl⟩⟩
  · intro slot
    change QuietFile _ (if (client.fileResources slot).registered then
      { client.fileResources slot with closing := true } else client.fileResources slot)
    split
    · rename_i registered
      exact ⟨fun _ => Or.inr ⟨registered, rfl⟩, id⟩
    · exact .refl _
  · intro slot
    change QuietBuffer _ (if (client.bufferResources slot).registered then
      { client.bufferResources slot with closing := true } else client.bufferResources slot)
    split
    · rename_i registered
      exact ⟨fun _ => Or.inr ⟨registered, rfl⟩, id⟩
    · exact .refl _

/-- What concerns one client is quiet if it is for the client. -/
theorem OnlyClient.quiet (only : OnlyClient rt index next)
    (quiet : QuietClient (rt.clients index) (next.clients index)) : Quiet rt next := by
  rw [only.frame]
  exact Quiet.of_update quiet

/-- A change to slots is quiet if it is for every slot. -/
theorem Touches.quiet (touches : Touches rt index next)
    (file : ∀ slot, QuietFile ((rt.clients index).fileResources slot)
      ((next.clients index).fileResources slot))
    (buffer : ∀ slot, QuietBuffer ((rt.clients index).bufferResources slot)
      ((next.clients index).bufferResources slot)) : Quiet rt next := by
  rw [touches.frame]
  exact Quiet.of_update ⟨rfl, rfl, file, buffer, fun _ => ⟨rfl, rfl⟩⟩

/-- Closing a connection is quiet. -/
theorem closeClient_quiet (rt : Runtime) (index : Nat) : Quiet rt (closeClient rt index) := by
  apply OnlyClient.closeClient.quiet
  rw [closeClient_client]
  exact closedClient_quiet _

/-- Reading, greeting and closing leave the slots and the counters alone. -/
theorem Served.quiet {client next : Client} (served : Served client next) :
    QuietClient client next := by
  have fields : ∀ base : Client, base.eraseDecoder = client.eraseDecoder →
      QuietClient client base := by
    intro base same
    have erased : QuietClient client base.eraseDecoder := by
      rw [same]
      exact .of_eq rfl rfl rfl rfl rfl rfl
    exact erased.trans (.of_eq rfl rfl rfl rfl rfl rfl)
  cases served with
  | reading next same busy ready => exact fields next same
  | greeted result next phase ready answer =>
      have greeted : ∃ base : Client, next.eraseDecoder = base ∧
          QuietClient client base := by
        rcases answer with ⟨-, same⟩ | ⟨-, same⟩
        · exact ⟨_, same, .of_eq rfl rfl rfl rfl rfl rfl⟩
        · exact ⟨_, same, .of_eq rfl rfl rfl rfl rfl rfl⟩
      obtain ⟨base, same, quiet⟩ := greeted
      subst same
      exact quiet.trans (.of_eq rfl rfl rfl rfl rfl rfl)
  | closed last same => exact (fields last same).trans (closedClient_quiet last)

/-- Flushing only moves the output. -/
theorem flushClientOutput_client (client : Client) (writes : List WriteOutcome) :
    ∃ output sent, (flushClientOutput client writes).1 =
      { client with output := output, outputSent := sent } := by
  induction writes generalizing client with
  | nil =>
      unfold flushClientOutput
      split
      · exact ⟨client.output, client.outputSent, rfl⟩
      · exact ⟨[], 0, rfl⟩
  | cons outcome rest ih =>
      unfold flushClientOutput
      split
      · cases outcome with
        | wrote count =>
            dsimp only
            split
            · exact ⟨client.output, client.outputSent, rfl⟩
            · obtain ⟨output, sent, same⟩ := ih { client with
                outputSent := client.outputSent +
                  min count (client.output.length - client.outputSent) }
              exact ⟨output, sent, same⟩
        | again => exact ⟨client.output, client.outputSent, rfl⟩
        | interrupted => exact ih client
        | failed errno => exact ⟨client.output, client.outputSent, rfl⟩
      · exact ⟨[], 0, rfl⟩

/-- Writing to one, or closing it, is quiet. -/
theorem flushOrClose_quiet (rt : Runtime) (index : Nat) (writes : List WriteOutcome) :
    Quiet rt (flushOrClose rt index writes).1 := by
  have flushed : Quiet rt
      (rt.setClient index (flushClientOutput (rt.clients index) writes).1) := by
    obtain ⟨output, sent, same⟩ := flushClientOutput_client (rt.clients index) writes
    rw [same]
    exact Quiet.of_update (.of_eq rfl rfl rfl rfl rfl rfl)
  unfold flushOrClose
  dsimp only
  split
  · exact flushed.trans (closeClient_quiet _ _)
  · exact flushed

/-- Giving a file slot up is quiet. -/
theorem tryReleaseFileSlot_quiet {slot : Nat} {update : UpdateOutcome}
    (released : tryReleaseFileSlot rt index slot update = .ok next) : Quiet rt next := by
  obtain ⟨touches, client⟩ := tryReleaseFileSlot_ok released
  have quiet : QuietClient (rt.clients index) (next.clients index) := by
    rw [client]
    split
    · rename_i due
      exact .setFileSlot (.of_idle due.1 rfl)
    · exact .refl _
  exact touches.quiet quiet.file quiet.buffer

/-- Giving a buffer slot up is quiet. -/
theorem tryReleaseBufferSlot_quiet {slot : Nat}
    (released : tryReleaseBufferSlot rt index slot = .ok next) : Quiet rt next := by
  obtain ⟨touches, client⟩ := tryReleaseBufferSlot_ok released
  have quiet : QuietClient (rt.clients index) (next.clients index) := by
    rw [client]
    split
    · rename_i due
      exact .setBufferSlot (.of_idle due.1 rfl)
    · exact .refl _
  exact touches.quiet quiet.file quiet.buffer

/-- What every release relates, a sweep relates. -/
theorem sweepClosingResources_related {related : Runtime → Runtime → Prop}
    {updates : Nat → Nat → UpdateOutcome} {result : Runtime × Bool}
    (refl : ∀ rt, related rt rt)
    (trans : ∀ first second third, related first second → related second third →
      related first third)
    (file : ∀ before index slot update next, index < rt.limits.maxClients →
      tryReleaseFileSlot before index slot update = .ok next → related before next)
    (buffer : ∀ before index slot next, index < rt.limits.maxClients →
      tryReleaseBufferSlot before index slot = .ok next → related before next)
    (swept : sweepClosingResources rt updates = .ok result) : related rt result.1 := by
  have fold : ∀ {body : Runtime × Bool → Nat → Except Errno (Runtime × Bool)} {items : List Nat}
      {state final : Runtime × Bool},
      (∀ state item next, item ∈ items → body state item = .ok next → related state.1 next.1) →
      items.foldlM body state = .ok final → related state.1 final.1 := by
    intro body items state final turn looped
    refine @run_related _ _ _ body state final items (fun before after => related before.1 after.1)
      (fun _ => refl _) (fun _ _ _ => trans _ _ _) ?_ looped
    intro before item after member taken
    exact turn before item after member taken
  refine fold ?_ swept
  intro state index next member client
  have below : index < rt.limits.maxClients := List.mem_range.mp member
  obtain ⟨middle, files, buffers⟩ := bind_ok client
  refine trans _ middle.1 _ (fold ?_ files) (fold ?_ buffers)
  · intro state slot next _ turn
    unfold sweepFileSlot at turn
    dsimp only at turn
    split at turn
    · cases turn
      exact refl _
    · obtain ⟨released, taken, done⟩ := bind_ok turn
      cases done
      exact file _ _ _ _ _ below taken
  · intro state slot next _ turn
    unfold sweepBufferSlot at turn
    dsimp only at turn
    split at turn
    · cases turn
      exact refl _
    · obtain ⟨released, taken, done⟩ := bind_ok turn
      cases done
      exact buffer _ _ _ _ below taken

/-- The sweep is quiet. -/
theorem sweepClosingResources_quiet {updates : Nat → Nat → UpdateOutcome}
    {result : Runtime × Bool} (swept : sweepClosingResources rt updates = .ok result) :
    Quiet rt result.1 :=
  sweepClosingResources_related .refl (fun _ _ _ => .trans)
    (fun _ _ _ _ _ _ => tryReleaseFileSlot_quiet)
    (fun _ _ _ _ _ => tryReleaseBufferSlot_quiet) swept

/-- The kernel's writes only reach memory that the table does not depend on. -/
theorem stored_quiet (rt : Runtime) (store : KernelStore) : Quiet rt (rt.stored store) := by
  have tasks : ∀ (taskIndex : Nat) (task : TaskSlot), QuietTask (rt.tasks taskIndex) task →
      Quiet rt (rt.setTask taskIndex task) := by
    intro taskIndex task quiet
    refine ⟨rfl, rfl, rfl, rfl, rfl, rfl, rfl, rfl, rfl, rfl, ?_, fun _ => .refl _⟩
    intro other
    change QuietTask _ (Function.update rt.tasks taskIndex task other)
    by_cases same : other = taskIndex
    · subst same
      rw [Function.update_self]
      exact quiet
    · rw [Function.update_of_ne same]
      exact .refl _
  cases store with
  | ioBuffer taskIndex bytes => exact tasks taskIndex _ ⟨fun _ => rfl, id⟩
  | sockaddrLength taskIndex length => exact tasks taskIndex _ ⟨fun _ => rfl, id⟩
  | storage offset bytes =>
      exact ⟨rfl, rfl, rfl, rfl, rfl, rfl, rfl, rfl, rfl, rfl, fun _ => .refl _, fun _ => .refl _⟩

/-- A client is reused only when nothing is in flight on its slots. -/
theorem openClient_quiet {fd : Fd} {env : OpenEnv}
    (idle : ∀ index, (rt.clients index).outstandingTasks = 0 → ∀ slot,
      ((rt.clients index).fileResources slot).inFlight = 0 ∧
        ((rt.clients index).bufferResources slot).inFlight = 0)
    (credits : ∀ index, (rt.clients index).outstandingTasks = 0 →
      (rt.clients index).outstandingCreditTasks = 0) :
    Quiet rt (openClient rt fd env) := by
  have closed : Quiet rt (rt.close fd) :=
    ⟨rfl, rfl, rfl, rfl, rfl, rfl, rfl, rfl, rfl, rfl, fun _ => .refl _, fun _ => .refl _⟩
  unfold openClient
  split
  · exact closed
  · split
    · exact closed
    · rename_i index found
      split
      · exact closed
      · obtain ⟨-, reusable⟩ := firstBelow_some found
        simp only [Bool.and_eq_true, beq_iff_eq] at reusable
        have drained := reusable.2
        refine Quiet.of_update ⟨drained.symm, (credits index drained).symm, ?_, ?_, ?_⟩
        · intro slot
          exact .of_idle (idle index drained slot).1 rfl
        · intro slot
          exact .of_idle (idle index drained slot).2 rfl
        · intro busy
          exact absurd drained busy

/-- A refused submission leaves no task and no hold behind. -/
theorem RolledBack.quiet {env : DispatchEnv} {middle : Runtime}
    (rolledBack : RolledBack rt index env middle) : Quiet rt middle := by
  have tasks : Quiet rt { rt with tasks := middle.tasks } := by
    refine ⟨rfl, rfl, rfl, rfl, rfl, rfl, rfl, rfl, rfl, rfl, ?_, fun _ => .refl _⟩
    intro other
    rcases rolledBack.tasks other with same | ⟨inactive, cleared⟩
    · change QuietTask _ (middle.tasks other)
      rw [same]
      exact .refl _
    · change QuietTask _ (middle.tasks other)
      rw [cleared]
      refine ⟨?_, fun _ => rfl⟩
      intro active
      rw [inactive] at active
      cases active
  have client : QuietClient (rt.clients index) { rt.clients index with
      nextResourceId := (middle.clients index).nextResourceId
      fileResources := (middle.clients index).fileResources } := by
    refine ⟨rfl, rfl, ?_, fun _ => .refl _, fun _ => ⟨rfl, rfl⟩⟩
    intro slot
    rcases rolledBack.files slot with same | ⟨free, cleared⟩
    · change QuietFile _ ((middle.clients index).fileResources slot)
      rw [same]
      exact .refl _
    · change QuietFile _ ((middle.clients index).fileResources slot)
      rw [cleared]
      simp only [FileSlot.isFree, Bool.and_eq_true, beq_iff_eq] at free
      exact .of_idle free.2 rfl
  rw [rolledBack.frame]
  exact tasks.trans (Quiet.of_update client)

/-- Everything a dispatch does before it answers, short of starting a task. -/
theorem Dispatched.quiet_or_accepted {env : DispatchEnv} {middle : Runtime} {bytes : List UInt8}
    (dispatched : Dispatched rt index env middle bytes) :
    Quiet rt middle ∨ ∃ taskIndex started,
      admissionRefusal rt (rt.clients index) = none ∧ Started rt index taskIndex env started ∧
      middle = started.countAccepted index (rt.clients index).usesCredit ∧
      (rt.clients index).replyType = .submit := by
  cases dispatched with
  | accepted taskIndex started credits type admitted start =>
      exact Or.inr ⟨taskIndex, started, admitted, start, rfl, type⟩
  | resourceRefused nextId result type unheld =>
      exact Or.inl (Quiet.of_update (.of_eq rfl rfl rfl rfl rfl rfl))
  | descriptorDropped nextId result operation held =>
      left
      unfold dropReceivedFd
      dsimp only
      rw [Runtime.clients_setClient]
      simp only [Runtime.close, Runtime.setClient, Function.update_idem]
      exact Quiet.of_update (.of_eq rfl rfl rfl rfl rfl rfl)
  | fileRegistered slot resourceId nextId ring result operation held found allocated valid
      updated =>
      left
      obtain ⟨-, free⟩ := firstBelow_some found
      simp only [FileSlot.isFree, Bool.and_eq_true, beq_iff_eq] at free
      exact Quiet.of_update ((QuietClient.setFileSlot (.of_idle free.2 rfl)).trans
        (.of_eq rfl rfl rfl rfl rfl rfl))
  | bufferRegistered slot resourceId nextId result operation found allocated valid =>
      left
      obtain ⟨-, free⟩ := firstBelow_some found
      simp only [BufferSlot.isFree, Bool.and_eq_true, beq_iff_eq] at free
      exact Quiet.of_update ((QuietClient.setBufferSlot (.of_idle free.2 rfl)).trans
        (.of_eq rfl rfl rfl rfl rfl rfl))
  | fileReleased slot ring result operation found idle updated =>
      left
      have removed : Quiet rt { rt with ring } :=
        ⟨rfl, rfl, rfl, rfl, rfl, rfl, rfl, rfl, rfl, rfl, fun _ => .refl _, fun _ => .refl _⟩
      have quiet : QuietClient (rt.clients index)
          ((clearFileSlot { rt with ring } index slot).clients index) := by
        rw [clearFileSlot_client]
        exact .setFileSlot (.of_idle idle rfl)
      exact removed.trans (clearFileSlot_touches.quiet quiet.file quiet.buffer)
  | bufferReleased slot result operation found idle =>
      exact Or.inl (Quiet.of_update (.setBufferSlot (.of_idle idle rfl)))
  | stats operation => exact Or.inl (.refl _)
  | trace result events operation counted => exact Or.inl (.refl _)
  | refused _ errno credits type rolledBack => exact Or.inl rolledBack.quiet

end Operations

/-! ## Every step -/

/-- The three things a step can do to the task table. -/
inductive StepShape (rt next : Runtime) : Prop where
  | quiet (quiet : Quiet rt next)
  | accepted (index taskIndex : Nat) (env : DispatchEnv) (started : Runtime)
      (connected : rt.connected index = true)
      (admitted : admissionRefusal rt (rt.clients index) = none)
      (start : Started rt index taskIndex env started)
      (answered : Quiet (started.countAccepted index (rt.clients index).usesCredit) next)
      (ready : (rt.clients index).requestReady = true)
      (type : (rt.clients index).replyType = .submit)
  | completed {env : CompleteEnv} (taskIndex : Nat) (res : Int32) (middle : Runtime)
      (reaped : Quiet rt middle) (occupied : middle.occupied taskIndex = true)
      (completed : Completed middle taskIndex res env next)

/-- What the shapes of the steps rest on: tasks name slots that exist, and a client
without tasks has nothing in flight. -/
structure Grounded (rt : Runtime) : Prop where
  placed : ∀ taskIndex, rt.occupied taskIndex = true → Placed rt (rt.tasks taskIndex)
  idle : ∀ index, (rt.clients index).outstandingTasks = 0 → ∀ slot,
    ((rt.clients index).fileResources slot).inFlight = 0 ∧
      ((rt.clients index).bufferResources slot).inFlight = 0
  credits : ∀ index, (rt.clients index).outstandingTasks = 0 →
    (rt.clients index).outstandingCreditTasks = 0

section Step

variable {rt next : Runtime}

/-- Changing the ring, the storage or the cursor is quiet. -/
theorem quiet_of_ring (rt : Runtime) (ring : Ring) : Quiet rt { rt with ring } :=
  ⟨rfl, rfl, rfl, rfl, rfl, rfl, rfl, rfl, rfl, rfl, fun _ => .refl _, fun _ => .refl _⟩

/-- A completion has the third shape. -/
theorem completeTask_shape {taskIndex : Nat} {res : Int32} {env : CompleteEnv} {ring : Ring}
    (grounded : Grounded rt) (occupied : rt.occupied taskIndex = true)
    (completed : completeTask { rt with ring } taskIndex res env = .ok next) :
    StepShape rt next := by
  have held := grounded.placed taskIndex occupied
  have placed : Placed { rt with ring } (rt.tasks taskIndex) :=
    ⟨held.client, held.file, held.result, held.buffer, held.fixed⟩
  exact .completed taskIndex res { rt with ring } (quiet_of_ring rt ring) occupied
    (completeTask_completed placed completed)

/-- Every step has one of the three shapes. -/
theorem step_shape {action : Action} (grounded : Grounded rt)
    (taken : step rt action = .ok next) : StepShape rt next := by
  cases step_cases taken with
  | idle => exact .quiet (.refl rt)
  | accepted fd env valid => exact .quiet (openClient_quiet grounded.idle grounded.credits)
  | served index incoming _ connected only served => exact .quiet (only.quiet served.quiet)
  | dispatched index env middle bytes _ connected ready change answered =>
      rcases change.quiet_or_accepted with
        quiet | ⟨taskIndex, started, admitted, start, counted, type⟩
      · exact .quiet (quiet.trans answered.quiet)
      · subst counted
        exact .accepted index taskIndex env started connected admitted start answered.quiet ready
          type
  | completed _ taskIndex res ring _ occupied source completed =>
      exact completeTask_shape grounded occupied completed
  | swept updates result swept => exact .quiet (sweepClosingResources_quiet swept)
  | flushed index writes connected => exact .quiet (flushOrClose_quiet rt index writes)
  | disconnected index connected => exact .quiet (closeClient_quiet rt index)
  | cursorMoved cursor =>
      exact .quiet
        ⟨rfl, rfl, rfl, rfl, rfl, rfl, rfl, rfl, rfl, rfl, fun _ => .refl _, fun _ => .refl _⟩
  | posted position res => exact .quiet (quiet_of_ring rt _)
  | stored store => exact .quiet (stored_quiet rt store)

end Step

end Iouringd
