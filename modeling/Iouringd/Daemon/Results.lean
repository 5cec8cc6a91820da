import Iouringd.Daemon.FileTable

/-! # Results that are descriptors

An ACCEPT or OPENAT that succeeds returns a descriptor of the daemon. It becomes the resource
that was reserved for it, and the record and the trace event show the id of the resource; or
it is closed and both show an error. The exit for a client that has disconnected closes the
descriptor but leaves its number in the result, so the trace event shows it.
-/

namespace Iouringd

open Foundation

/-- The event a completion has recorded. -/
def completionEvent (rt next : Runtime) : TraceEvent :=
  next.traceEvents ((rt.nextTraceSequence - 1) % 256).toNat

/-- The number of a descriptor stays in the result: the operation succeeded for a client that
is gone, and nothing else is wrong with it. -/
def exposesDescriptor (rt : Runtime) (task : TaskSlot) (res : Int32) : Bool :=
  decide (0 ≤ res) && !taskConnected rt task && !resultIdInvalid task &&
    (task.taskKind != .accept || decide (task.sockaddrLength ≤ task.ioLength))

/-- The result is the resource that was reserved. -/
structure Converted (rt : Runtime) (task : TaskSlot) (slot : Nat) (res : Int32)
    (next : Runtime) : Prop where
  connected : taskConnected rt task = true
  file : (next.clients task.clientIndex).fileResources slot =
    ⟨task.resultResourceId, res, 0, true, false⟩
  record : ∃ (record : CompletionRecord) (payload : List UInt8),
    (next.clients task.clientIndex).pendingOutput =
      (rt.clients task.clientIndex).pendingOutput ++ (record.encode ++ payload) ∧
    record.taskId = task.taskId ∧ record.res.toInt = task.resultResourceId.toNat
  event : (completionEvent rt next).res.toInt = task.resultResourceId.toNat

/-- The result is an error, and a descriptor is closed. -/
structure Discarded (rt : Runtime) (task : TaskSlot) (slot : Nat) (res : Int32)
    (next : Runtime) : Prop where
  file : ((next.clients task.clientIndex).fileResources slot).isFree = true
  closed : 0 ≤ res → rt.ring.kernel.closed ++ [res] <+: next.ring.kernel.closed
  record : taskConnected rt task = true → ∃ (record : CompletionRecord) (payload : List UInt8),
    (next.clients task.clientIndex).pendingOutput =
      (rt.clients task.clientIndex).pendingOutput ++ (record.encode ++ payload) ∧
    record.taskId = task.taskId ∧ record.res < 0
  silent : taskConnected rt task = false → (next.clients task.clientIndex).pendingOutput =
    (rt.clients task.clientIndex).pendingOutput
  event : (completionEvent rt next).res < 0

/-! ## Descriptors that are closed -/

section Closing

variable {rt next : Runtime} {index : Nat}

/-- What was closed stays closed when a file slot is cleared. -/
theorem clearFileSlot_closed (rt : Runtime) (index slot : Nat) :
    rt.ring.kernel.closed <+: (clearFileSlot rt index slot).ring.kernel.closed := by
  unfold clearFileSlot
  dsimp only
  split
  · exact List.prefix_append _ _
  · exact List.prefix_rfl

/-- What was closed stays closed when a file slot is given up. -/
theorem tryReleaseFileSlot_closed {slot : Nat} {update : UpdateOutcome}
    (released : tryReleaseFileSlot rt index slot update = .ok next) :
    rt.ring.kernel.closed <+: next.ring.kernel.closed := by
  unfold tryReleaseFileSlot at released
  dsimp only at released
  split at released
  · cases released
  · split at released
    · split at released
      · cases released
        exact clearFileSlot_closed rt index slot
      · cases released
        exact List.prefix_rfl
    · split at released
      · cases released
        exact List.prefix_rfl
      · obtain ⟨updated, update, done⟩ := bind_ok released
        cases done
        have kept : updated.ring.kernel.closed = rt.ring.kernel.closed := by
          rw [updateRegisteredFile_ok update]
          rfl
        rw [← kept]
        exact clearFileSlot_closed updated index slot

/-- What was closed stays closed when a file slot is given back. -/
theorem releaseTaskFile_closed {held : Option Nat} {frees : FileSlot → Bool}
    {update : UpdateOutcome} (released : releaseTaskFile rt index held frees update = .ok next) :
    rt.ring.kernel.closed <+: next.ring.kernel.closed := by
  unfold releaseTaskFile at released
  dsimp only at released
  split at released
  · cases released
    exact List.prefix_rfl
  · split at released
    · split at released
      · have extended := tryReleaseFileSlot_closed released
        exact extended
      · cases released
        exact List.prefix_rfl
    · cases released
      exact List.prefix_rfl

/-- Giving a buffer up does not touch the ring. -/
theorem tryReleaseBufferSlot_ring {slot : Nat}
    (released : tryReleaseBufferSlot rt index slot = .ok next) : next.ring = rt.ring := by
  unfold tryReleaseBufferSlot at released
  dsimp only at released
  split at released
  · cases released
  · split at released
    · split at released <;> cases released <;> rfl
    · split at released <;> cases released <;> rfl

/-- Giving a buffer back does not touch the ring. -/
theorem releaseTaskBuffer_ring {held : Option Nat}
    (released : releaseTaskBuffer rt index held = .ok next) : next.ring = rt.ring := by
  unfold releaseTaskBuffer at released
  dsimp only at released
  split at released
  · cases released
    rfl
  · split at released
    · split at released
      · have kept := tryReleaseBufferSlot_ring released
        exact kept
      · cases released
        rfl
    · cases released
      rfl

/-- Delivering a completion does not touch the ring. -/
theorem deliverCompletion_ring {task : TaskSlot} {prepared : Preparation}
    (delivered : deliverCompletion task prepared = .ok next) : next.ring = prepared.rt.ring := by
  unfold deliverCompletion at delivered
  split at delivered
  · obtain ⟨queued, taken, rest⟩ := bind_ok delivered
    cases Runtime.queue_ok taken
    split at rest
    · split at rest
      · rw [Runtime.queue_ok rest]
        rfl
      · cases rest
        rfl
    · cases rest
      rfl
  · cases delivered
    rfl

/-- Copying a payload does not touch the ring. -/
theorem readPayload_ring (task : TaskSlot) (res : Int32) (prepared : Preparation) :
    (readPayload task res prepared).rt.ring = prepared.rt.ring := by
  rcases readPayload_rt task res prepared with same | ⟨slot, -, -, -, filled⟩
  · rw [same]
  · rw [filled]
    rfl

/-- Counting a completion does not touch the ring. -/
theorem countCompletion_ring (rt : Runtime) (task : TaskSlot) :
    (countCompletion rt task).ring = rt.ring := by
  unfold countCompletion
  dsimp only
  split <;> rfl

end Closing

/-! ## The exit for a client that is gone -/

section Preparing

variable {rt : Runtime} {task : TaskSlot} {res : Int32} {env : CompleteEnv} {slot : Nat}

/-- The result of an operation that succeeded for a client that is gone. -/
theorem prepareCompletion_apart (placed : Placed rt task)
    (reserved : task.resultFileSlotIndex = some slot) (produces : task.produces res = true)
    (apart : taskConnected rt task = false) :
    (prepareCompletion rt task res env).record.res =
      if exposesDescriptor rt task res = true then res else -EPROTO := by
  have client := Nat.not_le.mpr placed.client
  have within := Nat.not_le.mpr (placed.result slot reserved).1
  simp only [TaskSlot.produces, Bool.and_eq_true, Bool.or_eq_true, beq_iff_eq,
    decide_eq_true_eq] at produces
  obtain ⟨kind, success⟩ := produces
  have positive : ¬ res < 0 := Int32.not_lt.mpr success
  have fields : (completionRecord task res).res = res := rfl
  unfold prepareCompletion exposesDescriptor
  rcases kind with accept | openat
  · have skipped : ∀ prepared, prepareOpenatCompletion task env.register prepared = prepared := by
      intro prepared
      unfold prepareOpenatCompletion
      simp only [accept, reduceCtorEq, ne_eq, not_false_eq_true, true_or, ↓reduceIte]
    rw [skipped]
    unfold prepareAcceptCompletion
    simp only [fields, accept, positive, reserved, client, within, apart, success, ne_eq,
      not_true_eq_false, or_self, ↓reduceIte, Bool.not_false, decide_true, Bool.true_and,
      bne_self_eq_false, Bool.false_or]
    cases invalid : resultIdInvalid task with
    | true =>
        simp only [Bool.or_true, ↓reduceIte, Preparation.abandon, Bool.not_true, Bool.false_and,
          Bool.false_eq_true]
    | false =>
        by_cases fits : task.sockaddrLength ≤ task.ioLength
        · simp only [UInt32.not_lt.mpr fits, decide_false, Bool.or_self, Bool.false_eq_true,
            ↓reduceIte, Preparation.abandon, fits, decide_true, Bool.not_false, Bool.and_self]
        · simp only [UInt32.not_le.mp fits, decide_true, Bool.or_false, ↓reduceIte,
            Preparation.abandon, fits, decide_false, Bool.not_false, Bool.and_false,
            Bool.false_eq_true]
  · have skipped : ∀ prepared, prepareAcceptCompletion task env.register prepared = prepared := by
      intro prepared
      unfold prepareAcceptCompletion
      simp only [openat, reduceCtorEq, ne_eq, not_false_eq_true, true_or, ↓reduceIte]
    rw [skipped]
    unfold prepareOpenatCompletion
    simp only [fields, openat, positive, reserved, client, within, apart, success, ne_eq,
      not_true_eq_false, or_self, ↓reduceIte, Bool.not_false, decide_true, Bool.true_and,
      decide_false, Bool.false_or]
    cases invalid : resultIdInvalid task with
    | true =>
        simp only [↓reduceIte, Preparation.abandon, Bool.not_true, Bool.false_and,
          Bool.false_eq_true]
    | false =>
        have other : (RequestKind.openat != RequestKind.accept) = true := rfl
        simp only [Bool.false_eq_true, ↓reduceIte, Preparation.abandon, other, Bool.true_or,
          Bool.not_false, Bool.and_self]

end Preparing

/-! ## The completion as a whole -/

section Completing

variable {rt next : Runtime} {taskIndex slot : Nat} {res : Int32} {env : CompleteEnv}

/-- What the client, the trace and the closed descriptors show of a prepared completion. -/
structure Shows (rt : Runtime) (task : TaskSlot) (slot : Nat) (prepared : Preparation)
    (next : Runtime) : Prop where
  event : (completionEvent rt next).res = prepared.record.res
  closed : prepared.rt.ring.kernel.closed <+: next.ring.kernel.closed
  file : (next.clients task.clientIndex).fileResources slot =
    ((prepared.rt.clients task.clientIndex).fileResources slot).released FileSlot.unused
  connected : taskConnected rt task = true → ∃ payload,
    (next.clients task.clientIndex).pendingOutput =
      (rt.clients task.clientIndex).pendingOutput ++ (prepared.record.encode ++ payload)
  apart : taskConnected rt task = false → (next.clients task.clientIndex).pendingOutput =
    (rt.clients task.clientIndex).pendingOutput

/-- What a completion shows of the slot that was reserved. -/
theorem completeTask_shows (placed : Placed rt (rt.tasks taskIndex))
    (reserved : (rt.tasks taskIndex).resultFileSlotIndex = some slot)
    (completed : completeTask rt taskIndex res env = .ok next) :
    Shows rt (rt.tasks taskIndex) slot (prepareCompletion rt (rt.tasks taskIndex) res env)
      next := by
  obtain ⟨prepared, delivered, first, second, final, how, queued, file, result, buffer, same,
    pinned⟩ := completeTask_parts placed.client completed
  have prepares := prepareCompletion_prepares rt (rt.tasks taskIndex) res env
  rw [← pinned] at prepares ⊢
  generalize rt.tasks taskIndex = task at *
  have locates := readPayload_locates task res prepared
  obtain ⟨touchesQueued, clientQueued⟩ := deliverCompletion_ok queued
  have located := prepares.touches.trans locates.touches
  have touches := located.trans touchesQueued
  obtain ⟨touchesReleased, clientFinal⟩ :=
    releaseTask_ok (placed.touches touches) file result buffer
  have whole := touches.trans touchesReleased
  have connection := taskConnected_touches located
  have sequence : (countCompletion final task).nextTraceSequence = rt.nextTraceSequence := by
    unfold countCompletion
    dsimp only
    rw [whole.frame]
    split <;> rfl
  have clientNext : ∀ {α : Type} (field : Client → α),
      (∀ (client : Client) (tasks credits : Nat), field { client with
        outstandingTasks := tasks, outstandingCreditTasks := credits } = field client) →
      field (next.clients task.clientIndex) = field (final.clients task.clientIndex) := by
    intro α field kept
    rw [same]
    unfold settle countCompletion
    dsimp only
    split
    · simp only [Runtime.setTask, emitTraceEvent, Runtime.setClient, Function.update_self]
      exact kept _ _ _
    · rfl
  refine ⟨?_, ?_, ?_, ?_, ?_⟩
  · rw [same]
    unfold completionEvent settle
    dsimp only
    rw [← sequence]
    simp only [Runtime.setTask, emitTraceEvent, Function.update_self]
  · have kept : next.ring = final.ring := by
      rw [same]
      exact countCompletion_ring final task
    rw [kept, releaseTaskBuffer_ring buffer, ← readPayload_ring task res prepared,
      ← deliverCompletion_ring queued]
    exact (releaseTaskFile_closed file).trans (releaseTaskFile_closed result)
  · rw [clientNext (fun client => client.fileResources slot) (fun _ _ _ => rfl), clientFinal]
    have files : (delivered.clients task.clientIndex).fileResources =
        (prepared.rt.clients task.clientIndex).fileResources := by
      rw [clientQueued, ← locates.files]
      split <;> rfl
    simp only [releasedFiles, reserved, (placed.result slot reserved).2, ↓reduceIte, files]
  · intro connected
    rw [connection, if_pos connected] at clientQueued
    have unsent : ((readPayload task res prepared).rt.clients task.clientIndex).pendingOutput =
        (rt.clients task.clientIndex).pendingOutput := by
      unfold Client.pendingOutput
      rw [locates.output, locates.outputSent, prepares.output, prepares.outputSent]
    refine ⟨(readPayload task res prepared).payloadBytes, ?_⟩
    rw [clientNext Client.pendingOutput (fun _ _ _ => rfl), clientFinal]
    change (delivered.clients task.clientIndex).pendingOutput = _
    rw [clientQueued, Client.pendingOutput_appendOutput, unsent, Preparation.bytes, locates.record]
  · intro apart
    rw [connection, apart, if_neg Bool.false_ne_true] at clientQueued
    rw [clientNext Client.pendingOutput (fun _ _ _ => rfl), clientFinal]
    change (delivered.clients task.clientIndex).pendingOutput = _
    rw [clientQueued]
    unfold Client.pendingOutput
    rw [locates.output, locates.outputSent, prepares.output, prepares.outputSent]

/-- A reserved slot whose operation produced nothing is free again. -/
theorem FileSlot.isFree_released {file : FileSlot} (registered : file.registered = false)
    (held : file.inFlight = 1) : (file.released FileSlot.unused).isFree = true := by
  simp only [released, FileSlot.unused, registered, held, Bool.not_false, Bool.true_or,
    Nat.sub_self, and_self, ↓reduceIte]
  rfl

/-- A descriptor that was given up, or none at all. -/
theorem Shows.discarded {task : TaskSlot} {prepared : Preparation} (shown : Shows rt task slot
      prepared next) (reserved : task.resultFileSlotIndex = some slot)
    (tied : Tied (rt.clients task.clientIndex) task)
    (clients : prepared.rt.clients = rt.clients)
    (closed : 0 ≤ res → prepared.rt.ring.kernel.closed = rt.ring.kernel.closed ++ [res])
    (taskId : prepared.record.taskId = task.taskId) (negative : prepared.record.res < 0) :
    Discarded rt task slot res next := by
  obtain ⟨-, unregistered, -, held⟩ := tied.result slot reserved
  refine ⟨?_, ?_, ?_, shown.apart, ?_⟩
  · rw [shown.file, clients]
    exact FileSlot.isFree_released unregistered held
  · intro produced
    rw [← closed produced]
    exact shown.closed
  · intro connected
    obtain ⟨payload, queued⟩ := shown.connected connected
    exact ⟨prepared.record, payload, queued, taskId, negative⟩
  · rw [shown.event]
    exact negative

/-- A descriptor that became the reserved resource. -/
theorem Shows.converted {task : TaskSlot} {length : UInt16} {payload : Option (Memory × Nat)}
    {base : Runtime} (reserved : task.resultFileSlotIndex = some slot)
    (tied : Tied (rt.clients task.clientIndex) task) (connected : taskConnected rt task = true)
    (valid : resultIdInvalid task = false)
    (shown : Shows rt task slot
      ⟨base.setClient task.clientIndex
          ((rt.clients task.clientIndex).setFileSlot slot
            { (rt.clients task.clientIndex).fileResources slot with
              resourceId := task.resultResourceId
              daemonFd := res
              registered := true
              closing := false }),
        { completionRecord task res with
          res := task.resultResourceId.toInt32
          payloadLength := length }, payload⟩ next) : Converted rt task slot res next := by
  obtain ⟨-, -, -, held⟩ := tied.result slot reserved
  refine ⟨connected, ?_, ?_, ?_⟩
  · rw [shown.file, Runtime.clients_setClient]
    simp only [Client.setFileSlot, Function.update_self, FileSlot.released, FileSlot.unused,
      Bool.not_true, Bool.or_self, Bool.false_eq_true, false_and, ↓reduceIte, held, Nat.sub_self]
  · obtain ⟨bytes, queued⟩ := shown.connected connected
    exact ⟨_, bytes, queued, rfl, toInt_resultResourceId valid⟩
  · rw [shown.event]
    exact toInt_resultResourceId valid

/-- Tasks that will return a descriptor have a slot for it. -/
theorem Reachable.reserving {config : Config} (reachable : Reachable config rt)
    (occupied : rt.occupied taskIndex = true)
    (kind : (rt.tasks taskIndex).taskKind = .accept ∨ (rt.tasks taskIndex).taskKind = .openat) :
    (rt.tasks taskIndex).resultFileSlotIndex ≠ none := by
  have both : Invariant config rt ∧ ∀ taskIndex, rt.occupied taskIndex = true →
      (rt.tasks taskIndex).taskKind = .accept ∨ (rt.tasks taskIndex).taskKind = .openat →
      (rt.tasks taskIndex).resultFileSlotIndex ≠ none := by
    refine @Reachable.induct _ _ (fun rt => Invariant config rt ∧ ∀ taskIndex,
      rt.occupied taskIndex = true →
      (rt.tasks taskIndex).taskKind = .accept ∨ (rt.tasks taskIndex).taskKind = .openat →
      (rt.tasks taskIndex).resultFileSlotIndex ≠ none) reachable ⟨.initial config, ?_⟩ ?_
    · intro taskIndex occupied
      rw [Runtime.occupied, Bool.and_eq_true] at occupied
      cases occupied.2
    · rintro rt action next ⟨invariant, reserving⟩ taken
      refine ⟨invariant.stepped taken, ?_⟩
      exact @StepShape.every_task _ _ (fun task => task.taskKind = .accept ∨
        task.taskKind = .openat → task.resultFileSlotIndex ≠ none)
        (step_shape invariant.grounded taken) (fun _ _ _ reserves => reserves)
        (fun _ _ _ _ start => start.carries.result) reserving
  exact both.2 taskIndex occupied kind

/-- In every reachable state, a completed ACCEPT or OPENAT task leaves its descriptor as the
reserved resource, with the id of the resource in the record and in the trace event, or leaves
the slot free, the descriptor closed and an error in both, unless the operation succeeded for
a client that is gone and nothing else is wrong: then the trace event carries the number of
the descriptor. -/
theorem descriptors_hidden_iff {config : Config} (reachable : Reachable config rt)
    (occupied : rt.occupied taskIndex = true)
    (kind : (rt.tasks taskIndex).taskKind = .accept ∨ (rt.tasks taskIndex).taskKind = .openat)
    (sane : env.register.sane = true) (completed : completeTask rt taskIndex res env = .ok next) :
    ∃ slot, (rt.tasks taskIndex).resultFileSlotIndex = some slot ∧
      (Converted rt (rt.tasks taskIndex) slot res next ∨
          Discarded rt (rt.tasks taskIndex) slot res next ↔
        exposesDescriptor rt (rt.tasks taskIndex) res = false) := by
  have invariant := reachable.invariant
  have placed := invariant.holds.placed taskIndex occupied
  have tied := invariant.holds.tied taskIndex occupied
  obtain ⟨slot, reserved⟩ :=
    Option.ne_none_iff_exists'.mp (reachable.reserving occupied kind)
  have shown := completeTask_shows placed reserved completed
  have prepared := prepareCompletion_prepared rt (rt.tasks taskIndex) res env
  have apart : (rt.tasks taskIndex).produces res = true →
      taskConnected rt (rt.tasks taskIndex) = false →
      (prepareCompletion rt (rt.tasks taskIndex) res env).record.res =
        if exposesDescriptor rt (rt.tasks taskIndex) res = true then res else -EPROTO :=
    prepareCompletion_apart placed reserved
  refine ⟨slot, reserved, ?_, ?_⟩
  · intro outcome
    by_contra exposes
    rw [Bool.not_eq_false] at exposes
    have shape := exposes
    simp only [exposesDescriptor, Bool.and_eq_true, decide_eq_true_eq, Bool.not_eq_true'] at shape
    obtain ⟨⟨⟨success, gone⟩, -⟩, -⟩ := shape
    have produces : (rt.tasks taskIndex).produces res = true := by
      simp only [TaskSlot.produces, Bool.and_eq_true, Bool.or_eq_true, beq_iff_eq,
        decide_eq_true_eq]
      exact ⟨kind, success⟩
    rcases outcome with converted | discarded
    · rw [converted.connected] at gone
      cases gone
    · have negative := discarded.event
      rw [shown.event, apart produces gone, if_pos exposes] at negative
      exact absurd negative (Int32.not_lt.mpr success)
  · intro hidden
    rw [hidden] at apart
    generalize same : prepareCompletion rt (rt.tasks taskIndex) res env = made at *
    cases prepared with
    | plain nothing =>
        have failed : ¬ 0 ≤ res := by
          simp only [TaskSlot.produces, Bool.and_eq_false_iff, Bool.or_eq_false_iff,
            beq_eq_false_iff_ne, decide_eq_false_iff_not] at nothing
          rcases nothing with other | failed
          · exact absurd kind (not_or.mpr other)
          · exact failed
        exact Or.inr (shown.discarded reserved tied rfl (fun success => absurd success failed) rfl
          (Int32.not_le.mp failed))
    | abandoned final produces reason =>
        refine Or.inr (shown.discarded reserved tied rfl (fun _ => rfl) rfl ?_)
        cases there : taskConnected rt (rt.tasks taskIndex) with
        | true => exact abandoned_negative sane reason there
        | false =>
            have result := apart produces there
            dsimp only at result ⊢
            rw [result, if_neg Bool.false_ne_true]
            decide
    | registered place length payload produces named connected valid updated address =>
        cases named.symm.trans reserved
        exact Or.inl (Shows.converted reserved tied connected valid shown)

end Completing

/-- A client joins and opens a file. -/
def opening : List Action :=
  joining 0 7 ++
    requesting 0 (OpenatRequest.encode ⟨requestHeader .openat, 0, 0, 2⟩ ++ [47, 0]) .smooth

/-- The file becomes resource 1 of the client. -/
theorem descriptor_hidden_opened :
    ∃ rt next, run step (Runtime.initial (.small 2 (by decide) (by decide))) opening = .ok rt ∧
      completeTask rt 0 9 .smooth = .ok next ∧
      ∃ slot, Converted rt (rt.tasks 0) slot 9 next ∨ Discarded rt (rt.tasks 0) slot 9 next := by
  have seen : ((run step (Runtime.initial (.small 2 (by decide) (by decide)))
      opening).toOption.map fun rt =>
        (decide (rt.occupied 0 = true ∧ (rt.tasks 0).taskKind = .openat ∧
            exposesDescriptor rt (rt.tasks 0) 9 = false),
          (completeTask rt 0 9 .smooth).toOption.map fun _ => true)) = some (true, some true) := by
    decide +kernel
  obtain ⟨rt, ran, view⟩ := exists_of_toOption_map seen
  rw [Prod.mk.injEq, decide_eq_true_eq] at view
  obtain ⟨⟨occupied, kind, hidden⟩, completes⟩ := view
  obtain ⟨next, completed, -⟩ := exists_of_toOption_map completes
  obtain ⟨slot, -, outcome⟩ :=
    descriptors_hidden_iff ⟨opening, ran⟩ occupied (Or.inr kind) (by decide) completed
  exact ⟨rt, next, ran, completed, slot, outcome.mpr hidden⟩

/-- The client has disconnected when its OPENAT returns descriptor 9: the daemon closes it, and
records 9 as the result. -/
theorem descriptor_exposed_in_trace :
    ∃ rt next, run step (Runtime.initial (.small 2 (by decide) (by decide)))
        (opening ++ [.disconnect 0]) = .ok rt ∧
      rt.occupied 0 = true ∧ (rt.tasks 0).taskKind = .openat ∧
      taskConnected rt (rt.tasks 0) = false ∧ completeTask rt 0 9 .smooth = .ok next ∧
      (completionEvent rt next).res = 9 := by
  have seen : ((run step (Runtime.initial (.small 2 (by decide) (by decide)))
      (opening ++ [.disconnect 0])).toOption.map fun rt =>
        (decide (rt.occupied 0 = true ∧ (rt.tasks 0).taskKind = .openat ∧
            taskConnected rt (rt.tasks 0) = false),
          (completeTask rt 0 9 .smooth).toOption.map fun next =>
            (completionEvent rt next).res)) = some (true, some 9) := by
    decide +kernel
  obtain ⟨rt, ran, view⟩ := exists_of_toOption_map seen
  rw [Prod.mk.injEq, decide_eq_true_eq] at view
  obtain ⟨⟨occupied, kind, apart⟩, completes⟩ := view
  obtain ⟨next, completed, event⟩ := exists_of_toOption_map completes
  exact ⟨rt, next, ran, occupied, kind, apart, completed, event⟩

end Iouringd
