import Iouringd.Daemon.Reclaim
import Iouringd.Daemon.Submissions
import Iouringd.Daemon.Stream

/-! # Replies that do not fit

A phase of `iouringd_run` returns -1 when a reply does not fit behind what the client has not
read yet, and the daemon ends. Requests are read and dispatched whether or not the client reads
its replies, so nothing keeps a client from getting there. With system calls that succeed this
is the only way for a phase to fail.
-/

namespace Iouringd

open Foundation

/-- There is room for `size` bytes behind what the client has not read. -/
def Client.hasRoom (client : Client) (size : Nat) : Bool :=
  decide (client.pendingOutput.length + size ≤ client.outputCapacity)

/-- The size of the reply to the request at hand. -/
def replySize (rt : Runtime) (client : Client) : Nat :=
  match client.replyType with
  | .submit => SubmitResult.size
  | .resource => ResourceResult.size
  | .stats => StatsResult.size
  | .trace => TraceResult.size + traceReplyCount rt client * TraceEvent.size

/-- The size of a completion with its payload: what was read, or the address of a peer. -/
def completionSize (task : TaskSlot) (res : Int32) : Nat :=
  CompletionRecord.size +
    if task.taskKind = .accept ∧ 0 ≤ res ∧ task.sockaddrLength ≤ task.ioLength then
      task.sockaddrLength.toUInt16.toNat
    else (completionRecord task res).payloadLength.toNat

/-- What a step queues fits: the answer to a handshake, a reply or a completion. -/
def fits (rt : Runtime) : Action → Bool
  | .input index incoming =>
      let client := rt.clients index
      !(rt.connected index && !client.requestReady && client.phase == .handshake &&
        (readClientInput client incoming).status == .full) ||
        client.hasRoom HandshakeResult.size
  | .dispatch index _ =>
      let client := rt.clients index
      !(rt.connected index && client.requestReady) || client.hasRoom (replySize rt client)
  | .reap _ =>
      match (ringPeekCompletion rt.ring).2 with
      | none => true
      | some cqe =>
          match findTaskSlot rt cqe.userData with
          | none => true
          | some taskIndex =>
              let task := rt.tasks taskIndex
              !taskConnected rt task ||
                (rt.clients task.clientIndex).hasRoom (completionSize task cqe.res)
  | _ => true

/-- The system calls of a step succeed, and tasks are completed by reading completions. -/
def Action.Smooth : Action → Prop
  | .dispatch _ env =>
      env.update = .updated 1 ∧ env.restore = .updated 1 ∧ ∃ count, env.enter = .consumed count
  | .reap env => env.register = .updated 1 ∧ env.releaseFile = .updated 1 ∧
      env.releaseResult = .updated 1
  | .complete _ _ _ => False
  | .sweep updates => ∀ index slot, updates index slot = .updated 1
  | _ => True

/-! ## Replies -/

section Replies

variable {rt : Runtime} {index : Nat} {env : DispatchEnv}

/-- A message that fits is queued. -/
theorem queue_of_room {bytes : List UInt8}
    (room : (rt.clients index).hasRoom bytes.length = true) :
    rt.queue index bytes =
      .ok (rt.setClient index ((rt.clients index).appendOutput bytes)) := by
  have bound := of_decide_eq_true room
  rw [Runtime.queue_eq, sizeSub_eq (by omega), if_neg (by omega)]

/-- What is shorter fits as well. -/
theorem Client.hasRoom_mono {client : Client} {size smaller : Nat}
    (room : client.hasRoom size = true) (less : smaller ≤ size) :
    client.hasRoom smaller = true := by
  have bound := of_decide_eq_true room
  exact decide_eq_true (by omega)

/-- What is queued behind a first message needs the room of both. -/
theorem Client.hasRoom_appendOutput (client : Client) (bytes : List UInt8) (size : Nat) :
    (client.appendOutput bytes).hasRoom size = client.hasRoom (bytes.length + size) := by
  have length : (client.appendOutput bytes).pendingOutput.length =
      client.pendingOutput.length + bytes.length := by
    rw [pendingOutput_appendOutput, List.length_append]
  unfold hasRoom
  rw [length, Nat.add_assoc]
  rfl

/-- A resource request can be answered when its result fits. -/
theorem answerResource_total {resourceId : ResourceId} {res : Int32} {available : UInt32}
    (room : (rt.clients index).hasRoom ResourceResult.size = true) :
    ∃ next, answerResource rt index resourceId res available = .ok next := by
  unfold answerResource queueResourceResult
  rw [queue_of_room (by rw [ResourceResult.length_encode]; exact room)]
  exact ⟨_, rfl⟩

@[inherit_doc answerResource_total]
theorem answerResourceChange_total {eventKind : TraceEventKind} {resourceId : ResourceId}
    {available : UInt32} {now : UInt64}
    (room : (rt.clients index).hasRoom ResourceResult.size = true) :
    ∃ next, answerResourceChange rt index eventKind resourceId available now = .ok next := by
  unfold answerResourceChange queueResourceResult
  rw [queue_of_room (by rw [ResourceResult.length_encode]; exact room)]
  exact ⟨_, rfl⟩

/-- A submission can be answered when its result fits. -/
theorem refuse_total {errno : Errno} {now : UInt64}
    (room : (rt.clients index).hasRoom SubmitResult.size = true) :
    ∃ next, refuse rt index errno now = .ok next := by
  unfold refuse rejectSubmit queueSubmitResult
  dsimp only
  rw [queue_of_room (by rw [SubmitResult.length_encode]; exact room)]
  exact ⟨_, rfl⟩

@[inherit_doc refuse_total]
theorem acceptSubmit_total {taskIndex : Nat} {usesCredit : Bool} {now : UInt64}
    (room : (rt.clients index).hasRoom SubmitResult.size = true) :
    ∃ next, acceptSubmit rt index taskIndex usesCredit now = .ok next := by
  unfold acceptSubmit queueSubmitResult
  dsimp only
  rw [queue_of_room]
  · exact ⟨_, rfl⟩
  · rw [SubmitResult.length_encode, Runtime.clients_setClient]
    exact room

/-! ## Control requests -/

/-- Drawing an id takes no room in the queue. -/
@[simp] theorem allocateResourceId_hasRoom (client : Client) (size : Nat) :
    (allocateResourceId client).2.hasRoom size = client.hasRoom size := by
  obtain ⟨nextId, same⟩ := allocateResourceId_snd client
  rw [same]
  rfl

/-- REGISTER_FD is answered when its result fits. -/
theorem dispatchRegisterFd_total
    (room : (rt.clients index).hasRoom ResourceResult.size = true) :
    ∃ next, dispatchRegisterFd rt index env = .ok next := by
  have dropped : ∀ {client : Client} {res : Int32} {available : UInt32},
      client.hasRoom ResourceResult.size = true → ∃ next, (do
        let rt ← queueResourceResult (rt.setClient index client) index resourceIdInvalid res
          available
        Except.ok (finishClientRequest (dropReceivedFd rt index) index)) = .ok next := by
    intro client res available fits
    unfold queueResourceResult
    rw [queue_of_room]
    · exact ⟨_, rfl⟩
    · rw [ResourceResult.length_encode, Runtime.clients_setClient]
      exact fits
  have allocated : (allocateResourceId (rt.clients index)).2.hasRoom
      ResourceResult.size = true := by
    rw [allocateResourceId_hasRoom]
    exact room
  unfold dispatchRegisterFd
  dsimp only
  split
  · exact answerResource_total room
  · split
    · have same := @dropped (rt.clients index) (-EAGAIN)
        (availableFileResources (rt.clients index)) room
      simp only [Runtime.setClient, Function.update_eq_self] at same
      exact same
    · split
      · exact dropped allocated
      · split
        · apply answerResource_total
          simp only [dropReceivedFd, Runtime.setClient, Function.update_self]
          exact allocated
        · apply answerResourceChange_total
          rw [Runtime.clients_setClient]
          exact allocated

/-- REGISTER_BUFFER is answered when its result fits. -/
theorem dispatchRegisterBuffer_total
    (room : (rt.clients index).hasRoom ResourceResult.size = true) :
    ∃ next, dispatchRegisterBuffer rt index env = .ok next := by
  have allocated : (allocateResourceId (rt.clients index)).2.hasRoom
      ResourceResult.size = true := by
    rw [allocateResourceId_hasRoom]
    exact room
  unfold dispatchRegisterBuffer
  dsimp only
  split
  · exact answerResource_total room
  · split
    · apply answerResource_total
      rw [Runtime.clients_setClient]
      exact allocated
    · apply answerResourceChange_total
      rw [Runtime.clients_setClient]
      exact allocated

/-- A release leaves the output alone. -/
theorem tryReleaseFileSlot_hasRoom {next : Runtime} {slot : Nat} {update : UpdateOutcome}
    (released : tryReleaseFileSlot rt index slot update = .ok next) (size : Nat) :
    (next.clients index).hasRoom size = (rt.clients index).hasRoom size := by
  rw [(tryReleaseFileSlot_ok released).2]
  split
  · rfl
  · rfl

/-- A buffer is given up without a message. -/
theorem tryReleaseBufferSlot_hasRoom {next : Runtime} {slot : Nat}
    (released : tryReleaseBufferSlot rt index slot = .ok next) (size : Nat) :
    (next.clients index).hasRoom size = (rt.clients index).hasRoom size := by
  rw [(tryReleaseBufferSlot_ok released).2]
  split
  · rfl
  · rfl

/-- RELEASE_RESOURCE is answered when its result fits and the kernel updates its table. -/
theorem dispatchReleaseResource_total (sweeping : Sweeping rt rt)
    (updated : env.update = .updated 1)
    (room : (rt.clients index).hasRoom ResourceResult.size = true) :
    ∃ next, dispatchReleaseResource rt index env = .ok next := by
  unfold dispatchReleaseResource
  dsimp only
  split
  · exact answerResource_total room
  · split
    · rename_i slot found
      split
      · exact answerResource_total room
      · have below := (firstBelow_some found).1
        have marked := @Sweeping.setFileSlot rt rt index slot
          { (rt.clients index).fileResources slot with closing := true } sweeping rfl
        obtain ⟨next, released, -⟩ := marked.releaseFile below
        rw [updated, released]
        apply answerResourceChange_total
        rw [tryReleaseFileSlot_hasRoom released, Runtime.clients_setClient]
        exact room
    · split
      · rename_i slot found
        split
        · exact answerResource_total room
        · have below := (firstBelow_some found).1
          have marked := @Sweeping.setBufferSlot rt rt index slot
            { (rt.clients index).bufferResources slot with closing := true } sweeping
          obtain ⟨next, released, -⟩ := marked.releaseBuffer below
          rw [released]
          apply answerResourceChange_total
          rw [tryReleaseBufferSlot_hasRoom released, Runtime.clients_setClient]
          exact room
      · exact answerResource_total room

/-- GET_STATS is answered when its result fits. -/
theorem dispatchGetStats_total (room : (rt.clients index).hasRoom StatsResult.size = true) :
    ∃ next, dispatchGetStats rt index = .ok next := by
  unfold dispatchGetStats queueStatsResult
  rw [queue_of_room (by rw [StatsResult.length_encode]; exact room)]
  exact ⟨_, rfl⟩

/-- The events of a reply are queued when all of them fit. -/
theorem queueTraceEvents_total {latest : UInt64} {remaining : Nat} {sequence : UInt64}
    (room : (rt.clients index).hasRoom (remaining * TraceEvent.size) = true) :
    ∃ next, queueTraceEvents index latest remaining sequence rt = .ok next := by
  induction remaining generalizing sequence rt with
  | zero => exact ⟨rt, rfl⟩
  | succ remaining ih =>
      unfold queueTraceEvents
      split
      · rw [Nat.succ_mul, Nat.add_comm] at room
        rw [queue_of_room]
        · apply ih
          rw [Runtime.clients_setClient, Client.hasRoom_appendOutput, TraceEvent.length_encode]
          exact room
        · rw [TraceEvent.length_encode]
          exact Client.hasRoom_mono room (Nat.le_add_right _ _)
      · exact ⟨rt, rfl⟩

/-- GET_TRACE is answered when the head and the events fit. -/
theorem dispatchGetTrace_total
    (room : (rt.clients index).hasRoom (TraceResult.size +
      traceReplyCount rt (rt.clients index) * TraceEvent.size) = true) :
    ∃ next, dispatchGetTrace rt index = .ok next := by
  have replied : ∃ next, queueTraceResult rt index = .ok next := by
    unfold queueTraceResult
    dsimp only
    rw [queue_of_room]
    · by_cases none : (traceResult rt (rt.clients index)).count = 0
      · simp only [none, ↓reduceIte]
        exact ⟨_, rfl⟩
      · simp only [none, ↓reduceIte]
        apply queueTraceEvents_total
        rw [Runtime.clients_setClient, Client.hasRoom_appendOutput, TraceResult.length_encode,
          traceResult_count]
        exact room
    · rw [TraceResult.length_encode]
      exact Client.hasRoom_mono room (Nat.le_add_right _ _)
  obtain ⟨next, queued⟩ := replied
  unfold dispatchGetTrace
  rw [queued]
  exact ⟨_, rfl⟩

/-! ## Submissions -/

/-- Taking slots takes no room in the queue. -/
@[simp] theorem acquireSlots_hasRoom (client : Client) (slot : Nat) (buffer : Option Nat)
    (size : Nat) : (acquireSlots client slot buffer).hasRoom size = client.hasRoom size := by
  cases buffer with
  | none => rfl
  | some buffer => rfl

/-- Nor does giving them back. -/
@[simp] theorem releaseSlots_hasRoom (client : Client) (slot : Nat) (buffer : Option Nat)
    (size : Nat) : (releaseSlots client slot buffer).hasRoom size = client.hasRoom size := by
  cases buffer with
  | none => rfl
  | some buffer => rfl

/-- Nor does taking a reservation back. -/
theorem releaseReservation_hasRoom (rt : Runtime) (index slot : Nat) (resourceId : ResourceId)
    (size : Nat) : ((releaseReservation rt index slot resourceId).clients index).hasRoom size =
      (rt.clients index).hasRoom size := by
  unfold releaseReservation unallocateResourceId
  rw [Runtime.clients_setClient, clearFileSlot_client]
  split
  · rfl
  · rfl

/-- TIMEOUT, CANCEL and NOP are answered when the result fits. -/
theorem dispatchPlain_total (room : (rt.clients index).hasRoom SubmitResult.size = true) :
    ∃ next, dispatchPlain rt index env = .ok next := by
  unfold dispatchPlain
  dsimp only
  split
  · exact refuse_total room
  · split
    · exact refuse_total room
    · split
      · exact refuse_total room
      · exact acceptSubmit_total room

/-- OPENAT is answered when the result fits. -/
theorem dispatchOpenat_total (room : (rt.clients index).hasRoom SubmitResult.size = true) :
    ∃ next, dispatchOpenat rt index env = .ok next := by
  have allocated : (allocateResourceId (rt.clients index)).2.hasRoom SubmitResult.size = true := by
    rw [allocateResourceId_hasRoom]
    exact room
  unfold dispatchOpenat
  dsimp only
  split
  · exact refuse_total room
  · split
    · exact refuse_total room
    · split
      · apply refuse_total
        rw [Runtime.clients_setClient]
        exact allocated
      · split
        · apply refuse_total
          rw [Runtime.clients_setClient]
          exact allocated
        · split
          · apply refuse_total
            change ((releaseReservation _ index _ _).clients index).hasRoom _ = true
            rw [releaseReservation_hasRoom]
            simp only [Runtime.setClient, Function.update_self]
            exact allocated
          · apply acceptSubmit_total
            simp only [Runtime.setClient, Function.update_self]
            exact allocated

/-- The last part of a request on a resource is answered when the result fits. -/
theorem submitResourceTask_total {taskIndex slot : Nat} {reservation : Option (Nat × ResourceId)}
    (room : (rt.clients index).hasRoom SubmitResult.size = true) :
    ∃ next, submitResourceTask rt index taskIndex slot reservation env = .ok next := by
  unfold submitResourceTask
  dsimp only
  split
  · apply refuse_total
    cases reservation with
    | none =>
        change ((Runtime.setClient _ index _).clients index).hasRoom _ = true
        rw [Runtime.clients_setClient, releaseSlots_hasRoom]
        exact room
    | some held =>
        change ((releaseReservation _ index _ _).clients index).hasRoom _ = true
        rw [releaseReservation_hasRoom, Runtime.clients_setClient, releaseSlots_hasRoom]
        exact room
  · exact acceptSubmit_total room

/-- A request on a resource is answered when the result fits. -/
theorem dispatchResourceTask_total (room : (rt.clients index).hasRoom SubmitResult.size = true) :
    ∃ next, dispatchResourceTask rt index env = .ok next := by
  unfold dispatchResourceTask
  dsimp only
  split
  · exact refuse_total room
  · split
    · exact refuse_total room
    · split
      · exact refuse_total room
      · split
        · exact refuse_total room
        · split
          · exact refuse_total room
          · split
            · exact refuse_total room
            · split
              · split
                · apply refuse_total
                  change ((Runtime.setClient _ index _).clients index).hasRoom _ = true
                  rw [Runtime.clients_setClient, releaseSlots_hasRoom, acquireSlots_hasRoom]
                  exact room
                · split
                  · apply refuse_total
                    change ((Runtime.setClient _ index _).clients index).hasRoom _ = true
                    rw [Runtime.clients_setClient, releaseSlots_hasRoom,
                      allocateResourceId_hasRoom, acquireSlots_hasRoom]
                    exact room
                  · apply submitResourceTask_total
                    rw [Runtime.clients_setClient]
                    change (allocateResourceId _).2.hasRoom _ = true
                    rw [allocateResourceId_hasRoom, acquireSlots_hasRoom]
                    exact room
              · apply submitResourceTask_total
                rw [Runtime.clients_setClient, acquireSlots_hasRoom]
                exact room

/-- CLOSE is answered when the result fits and the kernel updates its table. -/
theorem dispatchClose_total (sweeping : Sweeping rt rt) (updated : env.update = .updated 1)
    (restored : env.restore = .updated 1)
    (room : (rt.clients index).hasRoom SubmitResult.size = true) :
    ∃ next, dispatchClose rt index env = .ok next := by
  unfold dispatchClose
  dsimp only
  split
  · exact refuse_total room
  · rename_i slot found
    split
    · exact refuse_total room
    · split
      · exact refuse_total room
      · rename_i busy
        split
        · exact refuse_total room
        · split
          · exact refuse_total room
          · have registered := (Bool.and_eq_true _ _ ▸ (firstBelow_some found).2).1
            have below := sweeping.within index slot registered
            rw [updated, updateRegisteredFile_total sweeping.ringOpen below (by decide)]
            rw [ok_bind]
            split
            · rename_i ring errno submitted
              have counts := (ringQueue_declines submitted).refuses.filesCount
              have held : -1 ≤ ((rt.clients index).fileResources slot).daemonFd := by
                simp only [Bool.or_eq_true, decide_eq_true_eq, not_or, Int32.not_lt] at busy
                exact Int32.le_trans (by decide) busy.2
              rw [restored, updateRegisteredFile_total]
              · apply refuse_total
                simp only [Runtime.setTask, Runtime.setClient, Function.update_self]
                exact room
              · change 0 ≤ ring.ringFd
                rw [counts.2]
                exact sweeping.ringOpen
              · change _ < ring.registeredFilesCount
                rw [counts.1]
                exact below
              · exact held
            · apply acceptSubmit_total
              simp only [Runtime.setClient, Function.update_self]
              exact room

/-- A dispatch whose reply fits succeeds. -/
theorem dispatchClientRequest_total (sweeping : Sweeping rt rt)
    (updated : env.update = .updated 1) (restored : env.restore = .updated 1)
    (room : (rt.clients index).requestReady = true →
      (rt.clients index).hasRoom (replySize rt (rt.clients index)) = true) :
    ∃ result, dispatchClientRequest rt index env = .ok result := by
  unfold dispatchClientRequest
  split
  · rename_i ready
    have fits := room ready
    have total : ∃ next, dispatchRequest rt index env = .ok next := by
      unfold replySize Client.replyType at fits
      unfold dispatchRequest
      split
      · rename_i operation
        rw [operation] at fits
        exact dispatchRegisterFd_total fits
      · rename_i operation
        rw [operation] at fits
        exact dispatchRegisterBuffer_total fits
      · rename_i operation
        rw [operation] at fits
        exact dispatchReleaseResource_total sweeping updated fits
      · rename_i operation
        rw [operation] at fits
        exact dispatchGetStats_total fits
      · rename_i operation
        rw [operation] at fits
        exact dispatchGetTrace_total fits
      · have submission : (rt.clients index).hasRoom SubmitResult.size = true := by
          simp only at fits
          exact fits
        split
        · exact refuse_total submission
        · unfold dispatchSubmission
          split
          · exact dispatchOpenat_total submission
          · exact dispatchClose_total sweeping updated restored submission
          any_goals exact dispatchResourceTask_total submission
          exact dispatchPlain_total submission
    obtain ⟨next, dispatched⟩ := total
    rw [dispatched]
    exact ⟨_, rfl⟩
  · exact ⟨_, rfl⟩

end Replies

/-! ## Completions -/

section Completions

variable {rt now next : Runtime} {task : TaskSlot} {res : Int32} {env : CompleteEnv}

/-- Whoever leaves the output of a client alone leaves its room alone. -/
theorem Touches.hasRoom {index : Nat} (touches : Touches now index next)
    (output : (next.clients index).output = (now.clients index).output)
    (sent : (next.clients index).outputSent = (now.clients index).outputSent) (size : Nat) :
    (next.clients index).hasRoom size = (now.clients index).hasRoom size := by
  rw [touches.client, output, sent]
  rfl

/-- The room that is set aside for a completion covers its record and payload. -/
theorem completionRecord_le (task : TaskSlot) (res : Int32) :
    CompletionRecord.size + (completionRecord task res).payloadLength.toNat ≤
      completionSize task res := by
  unfold completionSize
  split
  · rename_i accepts
    have none : (completionRecord task res).payloadLength = 0 := by
      simp only [completionRecord, accepts.1]
    rw [none]
    exact Nat.le_add_right _ _
  · exact Nat.le_refl _

/-- The size of a completion bounds the bytes of every way to prepare it. -/
theorem Prepared.length_le {prepared : Preparation} {update : UpdateOutcome}
    (cases : Prepared rt task res update prepared) :
    CompletionRecord.size + prepared.record.payloadLength.toNat ≤ completionSize task res := by
  cases cases with
  | plain nothing => exact completionRecord_le task res
  | abandoned final produces reason => exact completionRecord_le task res
  | registered slot length payload produces reserved connected valid updated address =>
      rcases address with ⟨zero, -⟩ | ⟨accept, within, same, -⟩
      · rw [zero]
        exact Nat.le_trans (Nat.add_le_add_left (Nat.zero_le _) _) (completionRecord_le task res)
      · have produced : 0 ≤ res := by
          simp only [TaskSlot.produces, Bool.and_eq_true, decide_eq_true_eq] at produces
          exact produces.2
        rw [same, completionSize, if_pos ⟨accept, produced, within⟩]

/-- Preparing a completion keeps what the releases rely on. -/
theorem Prepared.sweeping {prepared : Preparation} {update : UpdateOutcome}
    (cases : Prepared rt task res update prepared) (sweeping : Sweeping rt rt) :
    Sweeping rt prepared.rt := by
  cases cases with
  | plain nothing => exact sweeping
  | abandoned final produces reason =>
      exact @Sweeping.touched _ _ task.clientIndex _ sweeping (Touches.close res) fun slot =>
        sweeping.within task.clientIndex slot
  | registered slot length payload produces reserved connected valid updated address =>
      have entry : globalFileIndex rt task.clientIndex slot < rt.ring.registeredFilesCount := by
        by_contra beyond
        unfold updateRegisteredFile ringUpdateRegisteredFile at updated
        rw [decide_eq_true (Nat.not_lt.mp beyond), Bool.or_true, Bool.true_or] at updated
        cases updated
      refine sweeping.touched (Touches.trans (Touches.withFiles _) (Touches.setFileSlot slot _)) ?_
      intro other registered
      by_cases same : other = slot
      · subst same
        exact entry
      · apply sweeping.within task.clientIndex other
        rw [Runtime.file, Runtime.clients_setClient] at registered
        simp only [Client.setFileSlot, Function.update_of_ne same] at registered
        exact registered

/-- A completion is delivered when record and payload fit, or to nobody. -/
theorem deliverCompletion_total {prepared : Preparation}
    (room : taskConnected prepared.rt task = true →
      (prepared.rt.clients task.clientIndex).hasRoom
        (CompletionRecord.size + prepared.record.payloadLength.toNat) = true) :
    ∃ next, deliverCompletion task prepared = .ok next := by
  unfold deliverCompletion
  split
  · rename_i connected
    have fits := room connected
    rw [queue_of_room]
    · rw [ok_bind]
      split
      · split
        · refine ⟨_, queue_of_room ?_⟩
          rw [Runtime.clients_setClient, Client.hasRoom_appendOutput,
            CompletionRecord.length_encode, Memory.length_read]
          exact fits
        · exact ⟨_, rfl⟩
      · exact ⟨_, rfl⟩
    · rw [CompletionRecord.length_encode]
      exact Client.hasRoom_mono fits (Nat.le_add_right _ _)
  · exact ⟨_, rfl⟩

/-- A task lets go of its slots, with updates that succeed. -/
theorem Sweeping.releaseTaskFile {index : Nat} {held : Option Nat} {frees : FileSlot → Bool}
    (sweeping : Sweeping rt now) :
    ∃ next, releaseTaskFile now index held frees (.updated 1) = .ok next ∧ Sweeping rt next := by
  cases held with
  | none => exact ⟨now, rfl, sweeping⟩
  | some slot =>
      unfold Iouringd.releaseTaskFile
      dsimp only
      split
      · rename_i below
        have lessened := @Sweeping.setFileSlot rt now index slot
          { (now.clients index).fileResources slot with
            inFlight := ((now.clients index).fileResources slot).inFlight - 1 } sweeping rfl
        split
        · rw [sweeping.files] at below
          exact lessened.releaseFile below
        · exact ⟨_, rfl, lessened⟩
      · exact ⟨now, rfl, sweeping⟩

/-- A buffer that a task held is always given back. -/
theorem Sweeping.releaseTaskBuffer {index : Nat} {held : Option Nat}
    (sweeping : Sweeping rt now) :
    ∃ next, releaseTaskBuffer now index held = .ok next := by
  cases held with
  | none => exact ⟨now, rfl⟩
  | some slot =>
      unfold Iouringd.releaseTaskBuffer
      dsimp only
      split
      · rename_i below
        have lessened := @Sweeping.setBufferSlot rt now index slot
          { (now.clients index).bufferResources slot with
            inFlight := ((now.clients index).bufferResources slot).inFlight - 1 } sweeping
        split
        · rw [sweeping.buffers] at below
          obtain ⟨next, released, -⟩ := lessened.releaseBuffer below
          exact ⟨next, released⟩
        · exact ⟨_, rfl⟩
      · exact ⟨now, rfl⟩

/-- A completion that fits succeeds. -/
theorem completeTask_total {taskIndex : Nat} (sweeping : Sweeping rt rt)
    (releaseFile : env.releaseFile = .updated 1) (releaseResult : env.releaseResult = .updated 1)
    (room : taskConnected rt (rt.tasks taskIndex) = true →
      (rt.clients (rt.tasks taskIndex).clientIndex).hasRoom
        (completionSize (rt.tasks taskIndex) res) = true) :
    ∃ next, completeTask rt taskIndex res env = .ok next := by
  generalize named : rt.tasks taskIndex = task at room
  have prepares := prepareCompletion_prepares rt task res env
  have cases := prepareCompletion_prepared rt task res env
  have client : ∃ next, completeForClient task res env (prepareCompletion rt task res env) =
      .ok next := by
    generalize prepareCompletion rt task res env = prepared at prepares cases
    have locates := readPayload_locates task res prepared
    have located : Sweeping rt (readPayload task res prepared).rt := by
      have before := cases.sweeping sweeping
      apply before.touched locates.touches
      intro slot registered
      rw [Runtime.file, locates.files] at registered
      exact before.within task.clientIndex slot registered
    obtain ⟨delivered, queued⟩ := @deliverCompletion_total task (readPayload task res prepared) (by
      intro connected
      rw [taskConnected_touches (prepares.touches.trans locates.touches)] at connected
      rw [(prepares.touches.trans locates.touches).hasRoom (locates.output.trans prepares.output)
        (locates.outputSent.trans prepares.outputSent), locates.record]
      exact Client.hasRoom_mono (room connected) cases.length_le)
    have after : Sweeping rt delivered := by
      obtain ⟨touches, entry⟩ := deliverCompletion_ok queued
      apply located.touched touches
      intro slot registered
      apply located.within task.clientIndex slot
      rw [Runtime.file, entry] at registered
      split at registered
      · exact registered
      · exact registered
    obtain ⟨first, file, still⟩ := @Sweeping.releaseTaskFile rt delivered task.clientIndex
      task.fileSlotIndex (fun slot => slot.closing) after
    obtain ⟨second, result, last⟩ := @Sweeping.releaseTaskFile rt first task.clientIndex
      task.resultFileSlotIndex (fun slot => !slot.registered || slot.closing) still
    obtain ⟨next, buffer⟩ := @Sweeping.releaseTaskBuffer rt second task.clientIndex
      task.bufferSlotIndex last
    refine ⟨next, ?_⟩
    unfold completeForClient
    rw [queued, releaseFile, releaseResult]
    change (releaseTaskFile delivered _ _ _ _ >>= _) = _
    rw [file]
    change (releaseTaskFile first _ _ _ _ >>= _) = _
    rw [result]
    exact buffer
  unfold completeTask
  rw [named]
  dsimp only
  split
  · obtain ⟨next, done⟩ := client
    rw [done]
    exact ⟨_, rfl⟩
  · exact ⟨_, rfl⟩

end Completions

/-! ## Steps and runs -/

section Steps

variable {config : Config} {rt : Runtime} {action : Action} {actions : List Action}

/-- A readable client whose answer fits is serviced. -/
theorem serviceLoop_serves {index : Nat} {incoming : List RecvOutcome} (fuel : Nat)
    (progress : Bool)
    (room : (rt.clients index).isActive = true → (rt.clients index).requestReady = false →
      (rt.clients index).phase = .handshake →
      (readClientInput (rt.clients index) incoming).status = .full →
      (rt.clients index).hasRoom HandshakeResult.size = true) :
    ∃ result, serviceLoop index fuel rt progress incoming = .ok result := by
  cases phase : (rt.clients index).phase with
  | submit => exact serviceLoop_total phase
  | handshake =>
      obtain ⟨input, length, fd, read⟩ := readClientInput_client (rt.clients index) incoming
      cases fuel with
      | zero => exact ⟨_, rfl⟩
      | succ fuel =>
          unfold serviceLoop
          split
          · exact ⟨_, rfl⟩
          · rename_i idle
            rw [Bool.or_eq_true, not_or, Bool.not_eq_true', Bool.not_eq_false,
              Bool.not_eq_true] at idle
            have same : (readClientInput (rt.clients index) incoming).client.phase =
                .handshake := by
              rw [read]
              exact phase
            dsimp only
            rw [same]
            split
            · exact ⟨_, rfl⟩
            · exact ⟨_, rfl⟩
            · exact ⟨_, rfl⟩
            · rename_i full
              have fits := room idle.1 idle.2 phase full
              unfold queueHandshakeResult
              dsimp only
              rw [queue_of_room]
              · exact ⟨_, rfl⟩
              · rw [HandshakeResult.length_encode, Runtime.clients_setClient, closeAll_clients,
                  Runtime.clients_setClient, read]
                split
                · exact fits
                · exact fits

/-- A posted completion is that of a task. -/
theorem Matched.peeked {ring : Ring} {cqe : Cqe} (matched : Matched rt)
    (peeked : ringPeekCompletion rt.ring = (ring, some cqe)) :
    ∃ taskIndex, findTaskSlot rt cqe.userData = some taskIndex := by
  obtain ⟨-, -, posted⟩ := ringPeekCompletion_some peeked
  have token : cqe.userData ∈ rt.ring.tokens := by
    rw [Ring.tokens, posted, List.map_cons]
    exact List.mem_append_right _ List.mem_cons_self
  obtain ⟨taskIndex, occupied, same⟩ := matched.found _ token
  obtain ⟨below, active⟩ := occupied_iff.mp occupied
  rw [← Option.isSome_iff_exists, Option.isSome_iff_ne_none]
  intro missing
  have absent := firstBelow_eq_none.mp missing taskIndex below
  rw [active, same, beq_self_eq_true] at absent
  cases absent

/-- Reading a completion leaves what the sweep needs. -/
theorem Sweeping.peeked {ring : Ring} {cqe : Cqe} (sweeping : Sweeping rt rt)
    (peeked : ringPeekCompletion rt.ring = (ring, some cqe)) :
    Sweeping { rt with ring } { rt with ring } := by
  rw [ringPeekCompletion_frame peeked]
  exact ⟨sweeping.ringOpen, sweeping.within, fun _ => rfl, fun _ => rfl⟩

/-- With system calls that succeed, a step whose message fits does not fail. -/
theorem step_total (reachable : Reachable config rt) (matched : Matched rt)
    (smooth : action.Smooth) (room : fits rt action = true) :
    ∃ next, step rt action = .ok next := by
  cases action with
  | connect fd env =>
      simp only [step]
      split
      · exact ⟨_, rfl⟩
      · exact ⟨_, rfl⟩
  | input index incoming =>
      simp only [step]
      split
      · rename_i connected
        have total : ∃ result, serviceClientReadable rt index incoming = .ok result := by
          apply serviceLoop_serves _ false
          intro active unready handshake full
          simp only [fits, connected, unready, handshake, full, Bool.not_false, beq_self_eq_true,
            Bool.and_self, Bool.not_true, Bool.false_or] at room
          exact room
        obtain ⟨result, serviced⟩ := total
        rw [serviced]
        exact ⟨_, rfl⟩
      · exact ⟨_, rfl⟩
  | dispatch index env =>
      simp only [step]
      split
      · rename_i connected
        have total : ∃ result, dispatchClientRequest rt index env = .ok result := by
          apply dispatchClientRequest_total reachable.sweeping smooth.1 smooth.2.1
          intro ready
          simp only [fits, connected, ready, Bool.and_self, Bool.not_true, Bool.false_or] at room
          exact room
        obtain ⟨result, dispatched⟩ := total
        rw [dispatched]
        exact ⟨_, rfl⟩
      · exact ⟨_, rfl⟩
  | complete taskIndex res env => exact smooth.elim
  | reap env =>
      have total : ∃ result, reapCompletion rt env = .ok result := by
        unfold reapCompletion
        split
        · exact ⟨_, rfl⟩
        · rename_i ring cqe peeked
          obtain ⟨taskIndex, found⟩ := matched.peeked peeked
          have located : findTaskSlot { rt with ring } cqe.userData = some taskIndex := found
          rw [located]
          simp only [fits, peeked, found] at room
          have completed := @completeTask_total { rt with ring } cqe.res env taskIndex
            (reachable.sweeping.peeked peeked) smooth.2.1 smooth.2.2 (by
              intro connected
              have same : taskConnected rt (rt.tasks taskIndex) = true := connected
              rw [same, Bool.not_true, Bool.false_or] at room
              exact room)
          obtain ⟨next, done⟩ := completed
          dsimp only
          rw [done]
          exact ⟨_, rfl⟩
      obtain ⟨result, reaped⟩ := total
      simp only [step, reaped]
      exact ⟨_, rfl⟩
  | sweep updates =>
      obtain ⟨result, swept⟩ := reachable.sweeps smooth
      simp only [step, swept]
      exact ⟨_, rfl⟩
  | flush index writes =>
      simp only [step]
      split
      · exact ⟨_, rfl⟩
      · exact ⟨_, rfl⟩
  | disconnect index =>
      simp only [step]
      split
      · exact ⟨_, rfl⟩
      · exact ⟨_, rfl⟩
  | moveCursor cursor => exact ⟨_, rfl⟩
  | post position res => exact ⟨_, rfl⟩
  | store store => exact ⟨_, rfl⟩

/-- A smooth action is clean. -/
theorem Action.Smooth.clean (smooth : action.Smooth) : action.clean = true := by
  cases action with
  | dispatch index env =>
      obtain ⟨-, -, count, consumed⟩ := smooth
      rw [Action.clean, consumed]
  | complete taskIndex res env => exact smooth.elim
  | _ => rfl

/-- In every run in which the system calls of the ring succeed and every message fits behind
what its client has not read, no step fails. -/
theorem run_never_fails
    (smooth : ∀ action ∈ actions, action.Smooth)
    (room : Along step (fun rt action => fits rt action = true) (Runtime.initial config)
      actions) :
    ∃ rt, run step (Runtime.initial config) actions = .ok rt := by
  have total : ∃ rt, run step (Runtime.initial config) actions = .ok rt ∧
      Reachable config rt ∧ Matched rt := by
    refine (room.with_mem smooth).succeeds ?_ ⟨⟨[], rfl⟩, .initial config⟩
    rintro rt action ⟨fits, smooth⟩ ⟨reachable, matched⟩
    obtain ⟨next, taken⟩ := step_total reachable matched smooth fits
    exact ⟨next, taken, reachable.stepped taken,
      matched.stepped reachable.invariant smooth.clean taken⟩
  obtain ⟨rt, ran, -⟩ := total
  exact ⟨rt, ran⟩

end Steps

/-- A client that joins smoothly. -/
theorem joining_smooth (index : Nat) (fd : Fd) : ∀ action ∈ joining index fd, action.Smooth := by
  intro action member
  rcases List.mem_pair.mp member with same | same
  · exact same ▸ trivial
  · exact same ▸ trivial

/-- A client that sends a request smoothly. -/
theorem requesting_smooth (index : Nat) (bytes : List UInt8) :
    ∀ action ∈ requesting index bytes .smooth, action.Smooth := by
  intro action member
  rcases List.mem_pair.mp member with same | same
  · exact same ▸ trivial
  · exact same ▸ ⟨rfl, rfl, 1, rfl⟩

/-- A completion that is posted and reaped smoothly. -/
theorem completing_smooth (position : Nat) (res : Int32) :
    ∀ action ∈ [Action.post position res, .reap .smooth], action.Smooth := by
  intro action member
  rcases List.mem_pair.mp member with same | same
  · exact same ▸ trivial
  · exact same ▸ ⟨rfl, rfl, rfl⟩

/-- A NOP is sent, accepted and completed. -/
theorem run_never_fails_nop :
    ∃ rt, run step (Runtime.initial (.small 1 (by decide) (by decide)))
      (joining 0 7 ++ requesting 0 (requestHeader .nop).encode .smooth ++
        [.post 0 0, .reap .smooth]) = .ok rt := by
  have checked : checkAlong step fits (Runtime.initial (.small 1 (by decide) (by decide)))
      (joining 0 7 ++ requesting 0 (requestHeader .nop).encode .smooth ++
        [.post 0 0, .reap .smooth]) = true := by decide +kernel
  refine run_never_fails ?_ (along_of_checkAlong checked)
  simp only [List.forall_mem_append]
  exact ⟨⟨joining_smooth 0 7, requesting_smooth 0 _⟩, completing_smooth 0 0⟩

/-- A daemon for requests of up to 4096 bytes, with a ring of two entries. -/
def Config.reading : Config :=
  { Config.smallest with
    limits := ⟨2, 1, 1, 64, 4096, 2⟩
    accepted := by decide }

/-- A client reads 4096 bytes from its resource. -/
def readingOnce : List Action :=
  requesting 0 (IoRequest.encode ⟨requestHeader .sockRead, 1, 4096⟩) .smooth ++
    [.post 0 4096, .reap .smooth]

/-- A client registers a socket, reads from it four times and takes none of the replies. The
fourth completion does not fit behind the first three, and the daemon ends. -/
theorem unread_replies_end_daemon :
    (∀ action ∈ joining 0 7 ++ registering 0 9 ++
      (readingOnce ++ readingOnce ++ readingOnce ++ readingOnce), action.Smooth) ∧
    run step (Runtime.initial .reading) (joining 0 7 ++ registering 0 9 ++
      (readingOnce ++ readingOnce ++ readingOnce ++ readingOnce)) = .error EOVERFLOW := by
  constructor
  · have once : ∀ action ∈ readingOnce, action.Smooth := by
      rw [readingOnce, List.forall_mem_append]
      exact ⟨requesting_smooth 0 _, completing_smooth 0 4096⟩
    have registers : ∀ action ∈ registering 0 9, action.Smooth := by
      intro action member
      rcases List.mem_pair.mp member with same | same
      · exact same ▸ trivial
      · exact same ▸ ⟨rfl, rfl, 1, rfl⟩
    simp only [List.forall_mem_append]
    exact ⟨⟨joining_smooth 0 7, registers⟩, ⟨⟨once, once⟩, once⟩, once⟩
  · exact eq_error_of_failure (by decide +kernel)

end Iouringd
