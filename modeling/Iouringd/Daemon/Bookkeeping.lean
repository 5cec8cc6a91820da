import Iouringd.Foundation.History
import Iouringd.Foundation.Journal
import Iouringd.Daemon.Accounting
import Iouringd.Daemon.Admission
import Iouringd.Daemon.StepEffects
import Iouringd.Daemon.Trace

/-! # The trace and the counters

The daemon keeps its books twice: in the counters of the statistics reply and in the events
of the trace. Along every run the events are a journal of tasks, opened when accepted and
closed when completed, from which the counters, the table of tasks and the credits column of
the trace itself can be computed.
-/

namespace Iouringd

open Foundation

/-! ## What a request leaves in the books -/

/-- The trace, the counters of submissions and the credits are the same. -/
structure SameBooks (rt next : Runtime) : Prop where
  trace : SameTrace rt next
  acceptedSubmits : next.acceptedSubmits = rt.acceptedSubmits
  rejectedSubmits : next.rejectedSubmits = rt.rejectedSubmits
  taskCapacity : next.taskCapacity = rt.taskCapacity
  outstandingCreditTasks : next.outstandingCreditTasks = rt.outstandingCreditTasks

/-- The event of a submission that became the task. -/
def acceptArgs (task : TaskSlot) (index : Nat) (credits : UInt32) : TraceArgs where
  clientIndex := index
  eventKind := .submitAccept
  taskKind := task.taskKind.toWire
  submitPriority := task.submitPriority
  taskId := task.taskId
  resourceId := task.resourceId
  res := completionResOk
  credits

/-- The event of a completed task; the result and the resource are those of its record. -/
def completionArgs (task : TaskSlot) (resourceId : ResourceId) (res : Int32) (credits : UInt32) :
    TraceArgs where
  clientIndex := task.clientIndex
  eventKind := .completion
  taskKind := task.taskKind.toWire
  submitPriority := task.submitPriority
  taskId := task.taskId
  resourceId
  res
  credits

/-- What the dispatch of a request leaves in the books: nothing, an event about a resource, a
rejection, or a task. -/
inductive Booked (rt : Runtime) (index : Nat) (next : Runtime) : Prop where
  | unrecorded (same : SameBooks rt next)
  | resource (now : UInt64) (args : TraceArgs)
      (kind : args.eventKind = .resourceRegister ∨ args.eventKind = .resourceRelease)
      (credits : args.credits = rt.availableCredits)
      (same : SameBooks (emitTraceEvent rt now args) next)
  | rejected (now : UInt64) (args : TraceArgs) (kind : args.eventKind = .submitReject)
      (credits : args.credits = rt.availableCredits)
      (same : SameBooks
        (emitTraceEvent { rt with rejectedSubmits := rt.rejectedSubmits + 1 } now args) next)
  | accepted (now : UInt64) (taskIndex : Nat) (free : findFreeTaskSlot rt = some taskIndex)
      (trace : SameTrace
        (emitTraceEvent rt now (acceptArgs (next.tasks taskIndex) index next.availableCredits))
        next)
      (acceptedSubmits : next.acceptedSubmits = rt.acceptedSubmits + 1)
      (rejectedSubmits : next.rejectedSubmits = rt.rejectedSubmits)

section Booked

variable {rt base next : Runtime} {index : Nat} {env : DispatchEnv}

namespace SameBooks

/-- Nothing changed. -/
theorem refl (rt : Runtime) : SameBooks rt rt := ⟨.refl rt, rfl, rfl, rfl, rfl⟩

/-- The ring, the tables and the storage are not in the books. -/
theorem framed {ring : Ring} {clients : Nat → Client} {tasks : Nat → TaskSlot} {storage : Memory} :
    SameBooks rt { rt with ring, clients, tasks, registeredBufferStorage := storage } :=
  ⟨⟨rfl, rfl, rfl⟩, rfl, rfl, rfl, rfl⟩

/-- A client is not in the books. -/
theorem setClient {client : Client} : SameBooks rt (rt.setClient index client) :=
  ⟨⟨rfl, rfl, rfl⟩, rfl, rfl, rfl, rfl⟩

/-- Nor is a task. -/
theorem setTask {taskIndex : Nat} {task : TaskSlot} : SameBooks rt (rt.setTask taskIndex task) :=
  ⟨⟨rfl, rfl, rfl⟩, rfl, rfl, rfl, rfl⟩

/-- Nor is the ring. -/
theorem withRing {ring : Ring} : SameBooks rt { rt with ring } :=
  ⟨⟨rfl, rfl, rfl⟩, rfl, rfl, rfl, rfl⟩

/-- One after the other. -/
theorem trans (first : SameBooks rt base) (second : SameBooks base next) : SameBooks rt next where
  trace := first.trace.trans second.trace
  acceptedSubmits := second.acceptedSubmits.trans first.acceptedSubmits
  rejectedSubmits := second.rejectedSubmits.trans first.rejectedSubmits
  taskCapacity := second.taskCapacity.trans first.taskCapacity
  outstandingCreditTasks := second.outstandingCreditTasks.trans first.outstandingCreditTasks

/-- Changes to the client, its slots and the table of files are in no book. -/
theorem touches (touches : Touches rt index next) : SameBooks rt next := by
  rw [touches.frame]
  exact ⟨⟨rfl, rfl, rfl⟩, rfl, rfl, rfl, rfl⟩

/-- Nor is an update of the table of files. -/
theorem updated {entry : Nat} {fd : Fd} {outcome : UpdateOutcome}
    (updated : updateRegisteredFile rt entry fd outcome = .ok next) : SameBooks rt next := by
  rw [updateRegisteredFile_ok updated]
  exact ⟨⟨rfl, rfl, rfl⟩, rfl, rfl, rfl, rfl⟩

/-- The credits that are left follow from two of the counters. -/
theorem availableCredits (same : SameBooks rt base) :
    base.availableCredits = rt.availableCredits := by
  rw [Runtime.availableCredits, same.taskCapacity, same.outstandingCreditTasks,
    Runtime.availableCredits]

/-- An event recorded on both sides. -/
theorem emit (same : SameBooks rt base) (now : UInt64) (args : TraceArgs) :
    SameBooks (emitTraceEvent rt now args) (emitTraceEvent base now args) :=
  ⟨same.trace.emit now args, same.acceptedSubmits, same.rejectedSubmits, same.taskCapacity,
    same.outstandingCreditTasks⟩

/-- A reply that is queued without a record. -/
theorem finished {queued : Runtime} {bytes : List UInt8}
    (taken : rt.queue index bytes = .ok queued) :
    SameBooks rt (finishClientRequest queued index) := by
  cases Runtime.queue_ok taken
  exact ⟨⟨rfl, rfl, rfl⟩, rfl, rfl, rfl, rfl⟩

/-- What concerns one client, the sweep or a new connection is in no book. -/
theorem only (only : OnlyClient rt index next) : SameBooks rt next := by
  rw [only.frame]
  exact ⟨⟨rfl, rfl, rfl⟩, rfl, rfl, rfl, rfl⟩

@[inherit_doc only]
theorem swept (swept : Swept rt next) : SameBooks rt next := by
  rw [swept.frame]
  exact .framed

@[inherit_doc only]
theorem openClient {fd : Fd} {open' : OpenEnv} : SameBooks rt (openClient rt fd open') := by
  unfold Iouringd.openClient
  split
  · exact .framed
  · split
    · exact .framed
    · split
      · exact .framed
      · exact ⟨⟨rfl, rfl, rfl⟩, rfl, rfl, rfl, rfl⟩

end SameBooks

/-! ### The four answers -/

/-- A reply about a resource that changes nothing is not recorded. -/
theorem answerResource_booked {resourceId : ResourceId} {res : Int32} {available : UInt32}
    (answered : answerResource base index resourceId res available = .ok next)
    (same : SameBooks rt base) :
    Booked rt index next := by
  obtain ⟨queued, taken, done⟩ := bind_ok answered
  cases done
  exact .unrecorded (same.trans (.finished taken))

/-- One that changes a resource is recorded as registration or release. -/
theorem answerResourceChange_booked {eventKind : TraceEventKind} {resourceId : ResourceId}
    {available : UInt32} {now : UInt64}
    (answered : answerResourceChange base index eventKind resourceId available now = .ok next)
    (same : SameBooks rt base)
    (kind : eventKind = .resourceRegister ∨ eventKind = .resourceRelease) :
    Booked rt index next := by
  obtain ⟨queued, taken, done⟩ := bind_ok answered
  cases done
  have queues : SameBooks base queued := .touches (.queue taken)
  have credits := (same.trans queues).availableCredits
  refine .resource now _ kind credits (((same.trans queues).emit now _).trans (.framed))

/-- A refusal is counted and recorded. -/
theorem refuse_booked {errno : Errno} {now : UInt64}
    (refused : refuse base index errno now = .ok next) (same : SameBooks rt base) :
    Booked rt index next := by
  obtain ⟨rejected, rejection, done⟩ := bind_ok refused
  cases done
  obtain ⟨queued, taken, recorded⟩ := bind_ok rejection
  cases recorded
  have counted : SameBooks { rt with rejectedSubmits := rt.rejectedSubmits + 1 }
      { base with rejectedSubmits := base.rejectedSubmits + 1 } :=
    ⟨⟨same.trace.sequence, same.trace.events, same.trace.count⟩, same.acceptedSubmits,
      congrArg (· + 1) same.rejectedSubmits, same.taskCapacity, same.outstandingCreditTasks⟩
  have queues := counted.trans (.touches (.queue taken))
  exact .rejected now _ rfl queues.availableCredits ((queues.emit now _).trans (.framed))

/-- So is an accepted submission. -/
theorem acceptSubmit_booked {taskIndex : Nat} {usesCredit : Bool} {now : UInt64}
    (accepted : acceptSubmit base index taskIndex usesCredit now = .ok next)
    (same : SameBooks rt base) (free : findFreeTaskSlot rt = some taskIndex) :
    Booked rt index next := by
  unfold acceptSubmit at accepted
  obtain ⟨queued, taken, done⟩ := bind_ok accepted
  cases done
  have counted : SameTrace rt (base.countAccepted index usesCredit) :=
    same.trace.trans ⟨rfl, rfl, rfl⟩
  have recorded := counted.answer taken now
  cases Runtime.queue_ok taken
  exact .accepted now taskIndex free (recorded _) (congrArg (· + 1) same.acceptedSubmits)
    same.rejectedSubmits

/-! ### The branches of the dispatcher -/

/-- REGISTER_FD records the registration, if there is one. -/
theorem dispatchRegisterFd_booked (dispatched : dispatchRegisterFd rt index env = .ok next) :
    Booked rt index next := by
  unfold dispatchRegisterFd at dispatched
  dsimp only at dispatched
  split at dispatched
  · exact answerResource_booked dispatched (.refl rt)
  · split at dispatched
    · obtain ⟨queued, taken, done⟩ := bind_ok dispatched
      cases done
      exact .unrecorded ((SameBooks.touches (.queue taken)).trans
        .framed)
    · split at dispatched
      · obtain ⟨queued, taken, done⟩ := bind_ok dispatched
        cases done
        exact .unrecorded ((SameBooks.framed.trans (.touches (.queue taken))).trans
          .framed)
      · split at dispatched
        · exact answerResource_booked dispatched .framed
        · exact answerResourceChange_booked dispatched .framed (Or.inl rfl)

/-- REGISTER_BUFFER records the registration, if there is one. -/
theorem dispatchRegisterBuffer_booked
    (dispatched : dispatchRegisterBuffer rt index env = .ok next) :
    Booked rt index next := by
  unfold dispatchRegisterBuffer at dispatched
  dsimp only at dispatched
  split at dispatched
  · exact answerResource_booked dispatched (.refl rt)
  · split at dispatched
    · exact answerResource_booked dispatched .framed
    · exact answerResourceChange_booked dispatched .framed (Or.inl rfl)

/-- RELEASE_RESOURCE records the release, if there is one. -/
theorem dispatchReleaseResource_booked
    (dispatched : dispatchReleaseResource rt index env = .ok next) : Booked rt index next := by
  unfold dispatchReleaseResource at dispatched
  dsimp only at dispatched
  split at dispatched
  · exact answerResource_booked dispatched (.refl rt)
  · split at dispatched
    · split at dispatched
      · exact answerResource_booked dispatched (.refl rt)
      · obtain ⟨released, release, answered⟩ := bind_ok dispatched
        exact answerResourceChange_booked answered
          (SameBooks.framed.trans (.touches (tryReleaseFileSlot_ok release).1)) (Or.inr rfl)
    · split at dispatched
      · split at dispatched
        · exact answerResource_booked dispatched (.refl rt)
        · obtain ⟨released, release, answered⟩ := bind_ok dispatched
          exact answerResourceChange_booked answered
            (SameBooks.framed.trans (.touches (tryReleaseBufferSlot_ok release).1)) (Or.inr rfl)
      · exact answerResource_booked dispatched (.refl rt)

/-- TIMEOUT, CANCEL and NOP are refused or accepted. -/
theorem dispatchPlain_booked (dispatched : dispatchPlain rt index env = .ok next) :
    Booked rt index next := by
  unfold dispatchPlain at dispatched
  dsimp only at dispatched
  split at dispatched
  · exact refuse_booked dispatched (.refl rt)
  · split at dispatched
    · exact refuse_booked dispatched (.refl rt)
    · rename_i taskIndex found
      split at dispatched
      · exact refuse_booked dispatched .framed
      · exact acceptSubmit_booked dispatched .framed found

/-- A reservation is taken back off the books. -/
theorem releaseReservation_books (slot : Nat) (resourceId : ResourceId) :
    SameBooks rt (releaseReservation rt index slot resourceId) :=
  (SameBooks.touches clearFileSlot_touches).trans (.framed)

/-- OPENAT is refused or accepted. -/
theorem dispatchOpenat_booked (dispatched : dispatchOpenat rt index env = .ok next) :
    Booked rt index next := by
  unfold dispatchOpenat at dispatched
  dsimp only at dispatched
  split at dispatched
  · exact refuse_booked dispatched (.refl rt)
  · split at dispatched
    · exact refuse_booked dispatched (.refl rt)
    · split at dispatched
      · exact refuse_booked dispatched .setClient
      · split at dispatched
        · exact refuse_booked dispatched .setClient
        · rename_i taskIndex found
          have reserved : ∀ task client, SameBooks rt (((rt.setClient index
              (allocateResourceId (rt.clients index)).2).setTask taskIndex task).setClient index
                client) :=
            fun task client => (SameBooks.setClient.trans .setTask).trans .setClient
          split at dispatched
          · exact refuse_booked dispatched (((reserved _ _).trans .withRing).trans
              ((releaseReservation_books _ _).trans .setTask))
          · rw [findFreeTaskSlot_setClient] at found
            exact acceptSubmit_booked dispatched ((reserved _ _).trans .withRing) found

/-- CLOSE is refused or accepted; the table it goes through on the way is in no book. -/
theorem dispatchClose_booked (dispatched : dispatchClose rt index env = .ok next) :
    Booked rt index next := by
  unfold dispatchClose at dispatched
  dsimp only at dispatched
  split at dispatched
  · exact refuse_booked dispatched (.refl rt)
  · split at dispatched
    · exact refuse_booked dispatched (.refl rt)
    · split at dispatched
      · exact refuse_booked dispatched (.refl rt)
      · split at dispatched
        · exact refuse_booked dispatched (.refl rt)
        · split at dispatched
          · exact refuse_booked dispatched (.refl rt)
          · rename_i taskIndex found
            obtain ⟨removed, update, rest⟩ := bind_ok dispatched
            have before : SameBooks rt removed := .updated update
            split at rest
            · obtain ⟨restored, update, refused⟩ := bind_ok rest
              have back : SameBooks removed restored := SameBooks.framed.trans (.updated update)
              exact refuse_booked refused ((before.trans back).trans .framed)
            · exact acceptSubmit_booked rest (before.trans .framed) found

/-- The last part of a request on a resource. -/
theorem submitResourceTask_booked {taskIndex slot : Nat} {reservation : Option (Nat × ResourceId)}
    (submitted : submitResourceTask base index taskIndex slot reservation env = .ok next)
    (same : SameBooks rt base) (free : findFreeTaskSlot rt = some taskIndex) :
    Booked rt index next := by
  unfold submitResourceTask at submitted
  dsimp only at submitted
  split at submitted
  · cases reservation with
    | none => exact refuse_booked submitted (same.trans .framed)
    | some reserved =>
        refine refuse_booked submitted (same.trans (SameBooks.trans ?_
          ((releaseReservation_books _ _).trans .framed)))
        exact .framed
  · exact acceptSubmit_booked submitted (same.trans .framed) free

/-- A request on a resource is refused or accepted. -/
theorem dispatchResourceTask_booked (dispatched : dispatchResourceTask rt index env = .ok next) :
    Booked rt index next := by
  unfold dispatchResourceTask at dispatched
  dsimp only at dispatched
  split at dispatched
  · exact refuse_booked dispatched (.refl rt)
  · split at dispatched
    · exact refuse_booked dispatched (.refl rt)
    · split at dispatched
      · exact refuse_booked dispatched (.refl rt)
      · split at dispatched
        · exact refuse_booked dispatched (.refl rt)
        · split at dispatched
          · exact refuse_booked dispatched (.refl rt)
          · split at dispatched
            · exact refuse_booked dispatched (.refl rt)
            · rename_i taskIndex found
              split at dispatched
              · split at dispatched
                · exact refuse_booked dispatched .framed
                · split at dispatched
                  · exact refuse_booked dispatched .framed
                  · exact submitResourceTask_booked dispatched .framed
                      found
              · exact submitResourceTask_booked dispatched .framed found

/-- Every request leaves one of the four in the books. -/
theorem dispatchRequest_booked (dispatched : dispatchRequest rt index env = .ok next) :
    Booked rt index next := by
  unfold dispatchRequest at dispatched
  split at dispatched
  · exact dispatchRegisterFd_booked dispatched
  · exact dispatchRegisterBuffer_booked dispatched
  · exact dispatchReleaseResource_booked dispatched
  · obtain ⟨queued, taken, done⟩ := bind_ok dispatched
    cases done
    exact .unrecorded (.finished taken)
  · obtain ⟨queued, reply, done⟩ := bind_ok dispatched
    cases done
    rw [queueTraceResult_ok reply]
    exact .unrecorded .framed
  · split at dispatched
    · exact refuse_booked dispatched (.refl rt)
    · unfold dispatchSubmission at dispatched
      split at dispatched
      · exact dispatchOpenat_booked dispatched
      · exact dispatchClose_booked dispatched
      all_goals first
        | exact dispatchResourceTask_booked dispatched
        | exact dispatchPlain_booked dispatched

/-- A completion is recorded after the credit was given back. -/
theorem completeTask_recorded {taskIndex : Nat} {res : Int32} {complete : CompleteEnv}
    (placed : Placed rt (rt.tasks taskIndex))
    (completed : completeTask rt taskIndex res complete = .ok next) :
    ∃ resourceId traced, SameTrace (emitTraceEvent rt complete.now
      (completionArgs (rt.tasks taskIndex) resourceId traced next.availableCredits)) next := by
  unfold completeTask at completed
  simp only [placed.client, ↓reduceIte] at completed
  obtain ⟨released, done, final⟩ := bind_ok completed
  obtain ⟨touches, -, -⟩ := completeForClient_ok placed done
  have same : SameTrace rt (countCompletion released (rt.tasks taskIndex)) := by
    unfold countCompletion
    dsimp only
    rw [touches.frame]
    split
    · exact ⟨rfl, rfl, rfl⟩
    · exact ⟨rfl, rfl, rfl⟩
  cases final
  exact ⟨_, _, (same.emit complete.now _).trans ⟨rfl, rfl, rfl⟩⟩

end Booked

/-! ## The trace as a journal -/

/-- What an event says about the task it names. -/
structure TaskMark where
  taskId : TaskId
  taskKind : UInt16
  clientSlot : UInt16
  priority : UInt16
  deriving DecidableEq, Repr

/-- Everything but CANCEL uses a credit. -/
def TaskMark.usesCredit (mark : TaskMark) : Bool := mark.taskKind != RequestKind.cancel.toWire

/-- The mark an event carries. -/
def TraceEvent.mark (event : TraceEvent) : TaskMark :=
  ⟨event.taskId, event.taskKind, event.clientSlot, event.priority⟩

/-- The mark under which the task of a slot is recorded. -/
def TaskSlot.mark (task : TaskSlot) : TaskMark :=
  ⟨task.taskId, task.taskKind.toWire, UInt16.ofNat task.clientIndex, task.submitPriority.toWire⟩

/-- An acceptance opens an account for the task, its completion closes it. -/
def TraceEvent.entry (event : TraceEvent) : Journal.Entry TaskMark :=
  if event.eventKind = TraceEventKind.submitAccept.toWire then .opens event.mark
  else if event.eventKind = TraceEventKind.completion.toWire then .closes event.mark
  else .aside

/-- A submission that was refused. -/
def TraceEvent.rejects (event : TraceEvent) : Bool :=
  event.eventKind == TraceEventKind.submitReject.toWire

/-- The marks of the tasks that were accepted, of those that were completed, and of those
that are still to be completed. -/
def acceptedMarks (log : List TraceEvent) : List TaskMark := Journal.opened TraceEvent.entry log

@[inherit_doc acceptedMarks]
def completedMarks (log : List TraceEvent) : List TaskMark := Journal.closed TraceEvent.entry log

@[inherit_doc acceptedMarks]
def pendingMarks (log : List TraceEvent) : List TaskMark := Journal.pending TraceEvent.entry log

/-- The event a step records, if any, is at the end of the log. -/
def noteEvent (rt : Runtime) (_ : Action) (next : Runtime) (log : List TraceEvent) :
    List TraceEvent :=
  if next.nextTraceSequence = rt.nextTraceSequence then log
  else log ++ [next.traceEvents ((rt.nextTraceSequence - 1) % 256).toNat]

/-- The books of the daemon: what the log of all events says about the counters, the tasks
and, of each event, about its credits column. -/
structure Books (rt : Runtime) (log : List TraceEvent) : Prop where
  ring : TraceHolds rt log
  kept : Journal.Kept TraceEvent.entry log
  accepted : (acceptedMarks log).map TaskMark.taskId =
    (List.range rt.acceptedSubmits.toNat).map fun number => UInt64.ofNat (number + 1)
  rejected : rt.rejectedSubmits = UInt64.ofNat (log.countP TraceEvent.rejects)
  completed : rt.completions.toNat = (completedMarks log).length
  pending : ∀ test : TaskMark → Bool,
    (pendingMarks log).countP test = rt.countTasks fun task => test task.mark
  kinds : ∀ taskIndex, rt.occupied taskIndex = true → (rt.tasks taskIndex).taskKind.isTask = true ∧
    (rt.tasks taskIndex).consumesCredit = (rt.tasks taskIndex).mark.usesCredit
  credits : Journal.Sequentially (fun earlier event => event.credits.toNat +
    (pendingMarks (earlier ++ [event])).countP TaskMark.usesCredit = rt.taskCapacity) log

section Steps

variable {config : Config} {rt next : Runtime} {log : List TraceEvent} {action : Action}

/-- A counter that was moved is not the same. -/
theorem add_one_ne (number : UInt64) : number + 1 ≠ number := by
  intro equal
  have one := (UInt64.add_right_inj _).mp (equal.trans (UInt64.add_zero _).symm)
  cases one

/-- Nothing was recorded. -/
theorem noteEvent_same (same : SameTrace rt next) : noteEvent rt action next log = log :=
  if_pos same.sequence

/-- One event was recorded. -/
theorem noteEvent_emit {now : UInt64} {args : TraceArgs}
    (same : SameTrace (emitTraceEvent rt now args) next) :
    noteEvent rt action next log = log ++ [traceEvent rt now args] := by
  have moved : next.nextTraceSequence ≠ rt.nextTraceSequence := by
    rw [same.sequence]
    exact add_one_ne rt.nextTraceSequence
  rw [noteEvent, if_neg moved, same.events]
  simp only [emitTraceEvent, Function.update_self, traceEvent]

/-- Tests that agree on the active tasks count the same. -/
theorem countTasks_congr {left right : TaskSlot → Bool}
    (same : ∀ taskIndex, rt.occupied taskIndex = true →
      left (rt.tasks taskIndex) = right (rt.tasks taskIndex)) :
    rt.countTasks left = rt.countTasks right := by
  apply count_congr
  intro taskIndex below
  cases active : (rt.tasks taskIndex).active with
  | false => simp only [Bool.false_and]
  | true => simp only [Bool.true_and, same taskIndex (occupied_iff.mpr ⟨below, active⟩)]

/-- A task kind has the number of CANCEL only if it is CANCEL. -/
theorem usesCredit_mark {task : TaskSlot} (kind : task.taskKind.isTask = true) :
    task.mark.usesCredit = (task.taskKind != .cancel) := by
  unfold TaskSlot.mark TaskMark.usesCredit
  dsimp only
  cases same : task.taskKind with
  | unknown raw =>
      rw [same] at kind
      cases kind
  | _ => rfl

/-- The credits that are left and the pending tasks that use one are all credits there are. -/
theorem credits_add_pending (invariant : Invariant config rt)
    (pending : ∀ test : TaskMark → Bool,
      (pendingMarks log).countP test = rt.countTasks fun task => test task.mark)
    (kinds : ∀ taskIndex, rt.occupied taskIndex = true →
      (rt.tasks taskIndex).taskKind.isTask = true ∧
        (rt.tasks taskIndex).consumesCredit = (rt.tasks taskIndex).mark.usesCredit) :
    rt.availableCredits.toNat + (pendingMarks log).countP TaskMark.usesCredit =
      rt.taskCapacity := by
  obtain ⟨used, available⟩ := invariant.availableCredits_eq
  have counted : rt.outstandingCreditTasks = (pendingMarks log).countP TaskMark.usesCredit := by
    rw [invariant.ledger.credits, pending]
    exact countTasks_congr fun taskIndex occupied => (kinds taskIndex occupied).2
  omega

namespace Books

/-- The books are empty at the start. -/
theorem initial (config : Config) : Books (Runtime.initial config) [] where
  ring := .initial config
  kept := .nil _
  accepted := rfl
  rejected := rfl
  completed := rfl
  pending := by
    intro test
    have none : (Runtime.initial config).countTasks (fun task => test task.mark) = 0 :=
      Nat.count_iff_forall_not.mpr fun _ _ => Bool.false_ne_true
    rw [none]
    rfl
  kinds := by
    intro taskIndex occupied
    rw [Runtime.occupied, Bool.and_eq_true] at occupied
    cases occupied.2
  credits := Journal.sequentially_nil _

/-- The marks of the tasks are not in the memory the kernel writes. -/
theorem kinds_quiet (books : Books rt log) (quiet : Quiet rt next) (taskIndex : Nat)
    (occupied : next.occupied taskIndex = true) : (next.tasks taskIndex).taskKind.isTask = true ∧
      (next.tasks taskIndex).consumesCredit = (next.tasks taskIndex).mark.usesCredit := by
  rw [quiet.occupied_eq] at occupied
  rw [quiet.task_eq occupied]
  exact books.kinds taskIndex occupied

/-- A step that neither touches the tasks nor records anything. -/
theorem quiet (books : Books rt log) (quiet : Quiet rt next) (same : SameTrace rt next)
    (rejected : next.rejectedSubmits = rt.rejectedSubmits) : Books next log where
  ring := books.ring.same same
  kept := books.kept
  accepted := by
    rw [quiet.acceptedSubmits]
    exact books.accepted
  rejected := rejected.trans books.rejected
  completed := by
    rw [quiet.completions]
    exact books.completed
  pending := by
    intro test
    rw [books.pending, quiet.countTasks_eq fun _ _ _ => rfl]
  kinds := books.kinds_quiet quiet
  credits := by
    rw [quiet.taskCapacity]
    exact books.credits

/-- A step that records an event about no task. -/
theorem aside {now : UInt64} {args : TraceArgs} (books : Books rt log)
    (invariant : Invariant config rt) (quiet : Quiet rt next)
    (same : SameTrace (emitTraceEvent rt now args) next)
    (entry : (traceEvent rt now args).entry = .aside)
    (credits : args.credits = rt.availableCredits)
    (rejected : next.rejectedSubmits =
      rt.rejectedSubmits + if (traceEvent rt now args).rejects then 1 else 0) :
    Books next (log ++ [traceEvent rt now args]) := by
  obtain ⟨kept, pending⟩ := books.kept.aside entry
  have opened : acceptedMarks (log ++ [traceEvent rt now args]) = acceptedMarks log :=
    Journal.opened_concat_same (by rw [entry]; rfl)
  have closed : completedMarks (log ++ [traceEvent rt now args]) = completedMarks log :=
    Journal.closed_concat_same (by rw [entry]; rfl)
  exact {
    ring := (books.ring.emit now args).same same
    kept := kept
    accepted := by
      rw [quiet.acceptedSubmits, opened]
      exact books.accepted
    rejected := by
      rw [rejected, books.rejected, List.countP_append, UInt64.ofNat_add, List.countP_singleton]
      cases (traceEvent rt now args).rejects with
      | _ => rfl
    completed := by
      rw [quiet.completions, closed]
      exact books.completed
    pending := by
      intro test
      rw [pendingMarks, pending, quiet.countTasks_eq fun _ _ _ => rfl]
      exact books.pending test
    kinds := books.kinds_quiet quiet
    credits := by
      rw [quiet.taskCapacity]
      refine books.credits.concat ?_
      rw [pendingMarks, pending]
      change args.credits.toNat + _ = _
      rw [credits]
      exact credits_add_pending invariant books.pending books.kinds }

/-- The id of the next task names no task of the log. -/
theorem fresh (books : Books rt log) (invariant : Invariant config rt) {mark : TaskMark}
    (next : mark.taskId = rt.nextTaskId) : mark ∉ acceptedMarks log := by
  intro member
  have listed : mark.taskId ∈ (acceptedMarks log).map TaskMark.taskId := List.mem_map_of_mem member
  rw [books.accepted] at listed
  obtain ⟨number, below, same⟩ := List.mem_map.mp listed
  have counter := invariant.ledger.nextTaskId
  have bound := rt.acceptedSubmits.toNat_lt
  have value := congrArg UInt64.toNat same
  rw [List.mem_range] at below
  rw [next, UInt64.toNat_ofNat', Nat.mod_eq_of_lt (by omega)] at value
  omega

/-- A request becomes a task. -/
theorem accepted_task {index taskIndex : Nat} {env : DispatchEnv} {started : Runtime} {now : UInt64}
    (books : Books rt log) (invariant : Invariant config rt) (after : Invariant config next)
    (start : Started rt index taskIndex env started)
    (answered : Quiet (started.countAccepted index (rt.clients index).usesCredit) next)
    (kind : (rt.clients index).request.taskKind.isTask = true)
    (same : SameTrace (emitTraceEvent rt now
      (acceptArgs (next.tasks taskIndex) index next.availableCredits)) next)
    (rejected : next.rejectedSubmits = rt.rejectedSubmits) :
    Books next (log ++ [traceEvent rt now
      (acceptArgs (next.tasks taskIndex) index next.availableCredits)]) := by
  have counted := start.countAccepted_eq (rt.clients index).usesCredit
  have identifies := start.identifies
  have occupied : (started.countAccepted index (rt.clients index).usesCredit).occupied taskIndex =
      true := by
    rw [counted, Runtime.occupied]
    simp only [Function.update_self, identifies.active, start.slot.1, decide_true, Bool.and_self]
  have task := answered.task_eq occupied
  rw [countAccepted_tasks] at task
  generalize event : traceEvent rt now
    (acceptArgs (next.tasks taskIndex) index next.availableCredits) = recorded
  have mark : recorded.mark = (started.tasks taskIndex).mark := by
    rw [← event, task, TaskSlot.mark, identifies.clientIndex]
    rfl
  have entry : recorded.entry = .opens (started.tasks taskIndex).mark := by
    rw [← mark, ← event]
    exact if_pos rfl
  have id : (started.tasks taskIndex).mark.taskId = rt.nextTaskId := identifies.taskId
  obtain ⟨kept, pending⟩ := books.kept.opens entry (books.fresh invariant id)
  have kinds : ∀ slot, next.occupied slot = true → (next.tasks slot).taskKind.isTask = true ∧
      (next.tasks slot).consumesCredit = (next.tasks slot).mark.usesCredit := by
    intro slot held
    rw [answered.occupied_eq] at held
    rw [answered.task_eq held]
    by_cases new : slot = taskIndex
    · subst new
      have tasked : (started.tasks slot).taskKind.isTask = true := by
        rw [identifies.taskKind]
        exact kind
      refine ⟨tasked, ?_⟩
      refine Eq.trans ?_ (usesCredit_mark tasked).symm
      rw [identifies.taskKind]
      exact identifies.consumesCredit
    · rw [start.task_other _ new]
      rw [start.occupied_other _ new] at held
      exact books.kinds slot held
  have counts : ∀ test : TaskMark → Bool, (pendingMarks (log ++ [recorded])).countP test =
      next.countTasks fun task => test task.mark := by
    intro test
    rw [answered.countTasks_eq fun _ _ _ => rfl, start.countTasks_eq, ← books.pending test,
      pendingMarks, pending, List.countP_append, List.countP_singleton]
    rfl
  have opened : acceptedMarks (log ++ [recorded]) =
      acceptedMarks log ++ [(started.tasks taskIndex).mark] :=
    Journal.opened_concat entry
  have closed : completedMarks (log ++ [recorded]) = completedMarks log :=
    Journal.closed_concat_same (by rw [entry]; rfl)
  have more : next.acceptedSubmits.toNat = rt.acceptedSubmits.toNat + 1 := by
    have before := invariant.ledger.nextTaskId
    have later := after.ledger.nextTaskId
    have moved : next.nextTaskId = rt.nextTaskId + 1 := answered.nextTaskId.trans (by rw [counted])
    have fresh := UInt64.lt_iff_toNat_lt.mp start.fresh
    have reserved : taskIdReservedMin.toNat = 18446744073709551600 := rfl
    have one : (1 : UInt64).toNat = 1 := rfl
    rw [moved, UInt64.toNat_add, one, Nat.mod_eq_of_lt (by omega)] at later
    omega
  exact {
    ring := by
      rw [← event]
      exact (books.ring.emit now _).same same
    kept := kept
    accepted := by
      rw [opened, List.map_append, books.accepted, more, List.range_succ, List.map_append,
        List.map_singleton, List.map_singleton, id, ← invariant.ledger.nextTaskId,
        UInt64.ofNat_toNat]
    rejected := by
      have unrejected : recorded.rejects = false := by
        rw [← event]
        rfl
      rw [rejected, books.rejected, List.countP_append, List.countP_singleton, unrejected]
      rfl
    completed := by
      rw [closed, ← books.completed, answered.completions, counted]
    pending := counts
    kinds := kinds
    credits := by
      have capacity : next.taskCapacity = rt.taskCapacity :=
        answered.taskCapacity.trans (by rw [counted])
      have now := credits_add_pending after counts kinds
      rw [capacity] at now ⊢
      refine books.credits.concat ?_
      rw [← now, ← event]
      rfl }

/-- The account of an active task is open. -/
theorem mark_pending {taskIndex : Nat} (books : Books rt log)
    (occupied : rt.occupied taskIndex = true) : (rt.tasks taskIndex).mark ∈ pendingMarks log := by
  have counted := books.pending fun mark => mark == (rt.tasks taskIndex).mark
  have positive : 0 < rt.countTasks fun task => task.mark == (rt.tasks taskIndex).mark :=
    countTasks_pos occupied (beq_self_eq_true _)
  rw [← counted, List.countP_pos_iff] at positive
  obtain ⟨mark, member, same⟩ := positive
  rw [← beq_iff_eq.mp same]
  exact member

/-- A task is completed. -/
theorem completed_task {taskIndex : Nat} {res traced : Int32} {env : CompleteEnv} {ring : Ring}
    {resourceId : ResourceId} (books : Books rt log) (invariant : Invariant config rt)
    (after : Invariant config next) (occupied : rt.occupied taskIndex = true)
    (completed : Completed { rt with ring } taskIndex res env next)
    (same : SameTrace (emitTraceEvent rt env.now
      (completionArgs (rt.tasks taskIndex) resourceId traced next.availableCredits)) next) :
    Books next (log ++ [traceEvent rt env.now
      (completionArgs (rt.tasks taskIndex) resourceId traced next.availableCredits)]) := by
  generalize event : traceEvent rt env.now
    (completionArgs (rt.tasks taskIndex) resourceId traced next.availableCredits) = recorded
  have entry : recorded.entry = .closes (rt.tasks taskIndex).mark := by
    rw [← event]
    rfl
  have open' := books.mark_pending occupied
  obtain ⟨kept, pending⟩ := books.kept.closes entry open'
  have tasks : next.tasks = Function.update rt.tasks taskIndex .cleared := by
    rw [completed.frame]
  have capacity : next.taskCapacity = rt.taskCapacity := by
    rw [completed.frame]
  have kinds : ∀ slot, next.occupied slot = true → (next.tasks slot).taskKind.isTask = true ∧
      (next.tasks slot).consumesCredit = (next.tasks slot).mark.usesCredit := by
    intro slot held
    rw [Runtime.occupied, capacity, tasks] at held
    rw [tasks]
    by_cases cleared : slot = taskIndex
    · subst cleared
      rw [Function.update_self, Bool.and_eq_true] at held
      cases held.2
    · rw [Function.update_of_ne cleared] at held ⊢
      exact books.kinds slot held
  have counts : ∀ test : TaskMark → Bool, (pendingMarks (log ++ [recorded])).countP test =
      next.countTasks fun task => test task.mark := by
    intro test
    have table := completed.countTasks_eq occupied fun task => test task.mark
    have erased := Journal.countP_erase_pending test open'
    have before : (pendingMarks log).countP test =
      Runtime.countTasks { rt with ring } fun task => test task.mark := books.pending test
    rw [pendingMarks, pending]
    change (Journal.pending TraceEvent.entry log).countP test = _ at before
    dsimp only at table
    omega
  have opened : acceptedMarks (log ++ [recorded]) = acceptedMarks log :=
    Journal.opened_concat_same (by rw [entry]; rfl)
  have closed : completedMarks (log ++ [recorded]) =
      completedMarks log ++ [(rt.tasks taskIndex).mark] :=
    Journal.closed_concat entry
  have more : next.completions.toNat = rt.completions.toNat + 1 := by
    have moved : next.completions = rt.completions + 1 := by
      rw [completed.frame]
    have balance := invariant.ledger.balance
    have active : 0 < rt.countTasks fun _ => true := countTasks_pos occupied rfl
    have bound := rt.acceptedSubmits.toNat_lt
    have one : (1 : UInt64).toNat = 1 := rfl
    rw [← invariant.ledger.tasks] at active
    rw [moved, UInt64.toNat_add, one, Nat.mod_eq_of_lt (by omega)]
  exact {
    ring := by
      rw [← event]
      exact (books.ring.emit env.now _).same same
    kept := kept
    accepted := by
      have unmoved : next.acceptedSubmits = rt.acceptedSubmits := by
        rw [completed.frame]
      rw [opened, unmoved]
      exact books.accepted
    rejected := by
      have unmoved : next.rejectedSubmits = rt.rejectedSubmits := by
        rw [completed.frame]
      have unrejected : recorded.rejects = false := by
        rw [← event]
        rfl
      rw [unmoved, books.rejected, List.countP_append, List.countP_singleton, unrejected]
      rfl
    completed := by
      rw [more, books.completed, closed, List.length_append, List.length_singleton]
    pending := counts
    kinds := kinds
    credits := by
      have now := credits_add_pending after counts kinds
      rw [capacity] at now ⊢
      refine books.credits.concat ?_
      rw [← now, ← event]
      rfl }

/-- A step that neither touches the tasks nor records anything, with its note. -/
theorem silent (books : Books rt log) (quiet : Quiet rt next) (same : SameBooks rt next) :
    Books next (noteEvent rt action next log) := by
  rw [noteEvent_same same.trace]
  exact books.quiet quiet same.trace same.rejectedSubmits

end Books

/-! ## Steps and runs -/

section Requests

variable {index : Nat} {env : DispatchEnv} {middle : Runtime} {bytes : List UInt8}

/-- A request that was not counted as accepted left the tasks alone. -/
theorem Dispatched.quiet_of_uncounted (change : Dispatched rt index env middle bytes)
    (answered : Answered middle index bytes next)
    (uncounted : next.acceptedSubmits = rt.acceptedSubmits) : Quiet rt next := by
  rcases change.quiet_or_accepted with quiet | ⟨taskIndex, started, -, start, counted, -⟩
  · exact quiet.trans answered.quiet
  · subst counted
    rw [answered.quiet.acceptedSubmits, start.countAccepted_eq] at uncounted
    exact absurd uncounted (add_one_ne _)

/-- One that was counted became a task. -/
theorem Dispatched.started_of_counted (change : Dispatched rt index env middle bytes)
    (answered : Answered middle index bytes next)
    (counted : next.acceptedSubmits = rt.acceptedSubmits + 1) :
    ∃ taskIndex started, Started rt index taskIndex env started ∧
      Quiet (started.countAccepted index (rt.clients index).usesCredit) next ∧
      (rt.clients index).replyType = .submit := by
  rcases change.quiet_or_accepted with quiet | ⟨taskIndex, started, -, start, rfl, type⟩
  · rw [(quiet.trans answered.quiet).acceptedSubmits] at counted
    exact absurd counted.symm (add_one_ne _)
  · exact ⟨taskIndex, started, start, answered.quiet, type⟩

/-- A request keeps the books. -/
theorem Books.requested (books : Books rt log) (invariant : Invariant config rt)
    (after : Invariant config next) (ready : (rt.clients index).requestReady = true)
    (dispatched : dispatchRequest rt index env = .ok next)
    (change : Dispatched rt index env middle bytes)
    (answered : Answered middle index bytes next) :
    Books next (noteEvent rt action next log) := by
  cases dispatchRequest_booked dispatched with
  | unrecorded same =>
      exact books.silent (change.quiet_of_uncounted answered same.acceptedSubmits) same
  | resource now args kind credits same =>
      have quiet := change.quiet_of_uncounted answered same.acceptedSubmits
      have aside : (traceEvent rt now args).entry = .aside ∧
          (traceEvent rt now args).rejects = false := by
        unfold TraceEvent.entry TraceEvent.rejects traceEvent
        rcases kind with same | same
        · rw [same]
          exact ⟨rfl, rfl⟩
        · rw [same]
          exact ⟨rfl, rfl⟩
      rw [noteEvent_emit same.trace]
      refine books.aside invariant quiet same.trace aside.1 credits ?_
      rw [aside.2]
      exact same.rejectedSubmits.trans (UInt64.add_zero _).symm
  | rejected now args kind credits same =>
      have quiet := change.quiet_of_uncounted answered same.acceptedSubmits
      have counted : SameTrace rt { rt with rejectedSubmits := rt.rejectedSubmits + 1 } :=
        ⟨rfl, rfl, rfl⟩
      have trace := (counted.emit now args).trans same.trace
      have aside : (traceEvent rt now args).entry = .aside ∧
          (traceEvent rt now args).rejects = true := by
        unfold TraceEvent.entry TraceEvent.rejects traceEvent
        rw [kind]
        exact ⟨rfl, rfl⟩
      rw [noteEvent_emit trace]
      refine books.aside invariant quiet trace aside.1 credits ?_
      rw [aside.2]
      exact same.rejectedSubmits
  | accepted now taskIndex free trace acceptedSubmits rejectedSubmits =>
      obtain ⟨slot, started, start, quiet, type⟩ :=
        change.started_of_counted answered acceptedSubmits
      obtain ⟨-, -, grammatical⟩ := (invariant.entries index).ready ready
      obtain rfl : slot = taskIndex := Option.some.inj (start.free.symm.trans free)
      rw [noteEvent_emit trace]
      exact books.accepted_task invariant after start quiet (grammatical.submission type).1 trace
        rejectedSubmits

end Requests

/-- Every step keeps the books. -/
theorem Books.stepped (books : Books rt log) (invariant : Invariant config rt)
    (taken : step rt action = .ok next) : Books next (noteEvent rt action next log) := by
  have after : Invariant config next := invariant.stepped taken
  have grounded := invariant.grounded
  cases step_cases taken with
  | idle => exact books.silent (.refl rt) (.refl rt)
  | accepted fd env valid =>
      exact books.silent (openClient_quiet grounded.idle grounded.credits) .openClient
  | served index incoming _ connected only served =>
      exact books.silent (only.quiet served.quiet) (.only only)
  | dispatched index env middle bytes _ connected ready change answered =>
      simp only [step, connected, ↓reduceIte] at taken
      obtain ⟨result, dispatched, done⟩ := bind_ok taken
      cases done
      rw [dispatchClientRequest, if_pos ready] at dispatched
      obtain ⟨next, requested, done⟩ := bind_ok dispatched
      cases done
      exact books.requested invariant after ready requested change answered
  | completed _ taskIndex res ring _ occupied source completed =>
      have held := grounded.placed taskIndex occupied
      have placed : Placed { rt with ring } (rt.tasks taskIndex) :=
        ⟨held.client, held.file, held.result, held.buffer, held.fixed⟩
      obtain ⟨resourceId, traced, recorded⟩ := completeTask_recorded placed completed
      have reaped : SameTrace rt { rt with ring } := ⟨rfl, rfl, rfl⟩
      have same := (reaped.emit _ _).trans recorded
      rw [noteEvent_emit same]
      exact books.completed_task invariant after occupied
        (completeTask_completed placed completed) same
  | swept updates result swept =>
      exact books.silent (sweepClosingResources_quiet swept)
        (.swept (sweepClosingResources_swept swept))
  | flushed index writes connected =>
      exact books.silent (flushOrClose_quiet rt index writes) (.only (flushOrClose_only ..))
  | disconnected index connected =>
      exact books.silent (closeClient_quiet rt index) (.only .closeClient)
  | cursorMoved cursor =>
      exact books.silent
        ⟨rfl, rfl, rfl, rfl, rfl, rfl, rfl, rfl, rfl, rfl, fun _ => .refl _, fun _ => .refl _⟩
        ⟨⟨rfl, rfl, rfl⟩, rfl, rfl, rfl, rfl⟩
  | posted position res => exact books.silent (quiet_of_ring rt _) .framed
  | stored store =>
      have same : SameBooks rt (rt.stored store) := by
        cases store with
        | _ => exact .framed
      exact books.silent (stored_quiet rt store) same

/-- Along every run the events that were recorded, whether or not the ring still holds them,
are a journal of tasks from which the counters, the table of tasks and the credits column of
each event follow. -/
theorem books_kept {actions : List Action}
    (ran : run (recorded step noteEvent) (Runtime.initial config, []) actions = .ok (rt, log)) :
    Books rt log := by
  have kept := @run_preserves _ _ _ _ _ _ _
    (fun state => Invariant config state.1 ∧ Books state.1 state.2) ?_
    ⟨.initial config, .initial config⟩ ran
  · exact kept.2
  · rintro ⟨before, earlier⟩ action ⟨after, later⟩ - ⟨invariant, books⟩ taken
    obtain ⟨stepped, noted⟩ := recorded_ok taken
    dsimp only at stepped noted
    rw [noted]
    exact ⟨invariant.stepped stepped, books.stepped invariant stepped⟩

/-- A NOP that was accepted and completed, and one that is still open. -/
theorem books_kept_two_requests :
    ∃ rt log, run (recorded step noteEvent)
        (Runtime.initial (.small 2 (by decide) (by decide)), [])
        (joining 0 7 ++ requesting 0 (requestHeader .nop).encode .smooth ++
          [.post 0 0, .reap .smooth] ++ requesting 0 (requestHeader .nop).encode .smooth) =
        .ok (rt, log) ∧
      log.map TraceEvent.eventKind = [1, 3, 1] ∧ (pendingMarks log).map TaskMark.taskId = [2] ∧
      Books rt log := by
  have ends : ((run (recorded step noteEvent)
      (Runtime.initial (.small 2 (by decide) (by decide)), [])
      (joining 0 7 ++ requesting 0 (requestHeader .nop).encode .smooth ++
        [.post 0 0, .reap .smooth] ++
        requesting 0 (requestHeader .nop).encode .smooth)).toOption.map fun state =>
          (state.2.map TraceEvent.eventKind,
            (pendingMarks state.2).map TaskMark.taskId)) = some ([1, 3, 1], [2]) := by
    decide +kernel
  obtain ⟨⟨rt, log⟩, ran, seen⟩ := exists_of_toOption_map ends
  obtain ⟨kinds, pending⟩ := Prod.mk.inj seen
  exact ⟨rt, log, ran, kinds, pending, books_kept ran⟩

end Steps

end Iouringd
