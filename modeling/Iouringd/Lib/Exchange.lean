import Iouringd.Foundation.Transition
import Iouringd.Lib.Deliveries
import Iouringd.Lib.Scripts

/-! # Calls of the library on several connections

A process calls the library on connections known by their descriptor numbers, in any
order. With a call its reply is sent, perhaps with completions in front of it and behind it;
a script says in which pieces this arrives and how the system calls end. What was sent on a
connection, what the waits returned and which payloads were taken are noted beside the process;
`Tracked` ties these notes to the two lists and to the unread bytes.
-/

namespace Iouringd

open Foundation

/-- The synchronous calls, by the reply they wait for. -/
inductive Call where
  | submit
  | resource
  | stats
  | trace (capacity : Nat)
  deriving DecidableEq, Repr

/-- The replies of the daemon. -/
inductive Reply where
  | submit (result : SubmitResult)
  | resource (result : ResourceResult)
  | stats (result : StatsResult)
  | trace (result : TraceResult) (events : List TraceEvent)
  deriving DecidableEq, Repr

namespace Reply

/-- The bytes of a reply. -/
def encode : Reply → List UInt8
  | .submit result => result.encode
  | .resource result => result.encode
  | .stats result => result.encode
  | .trace result events => result.encode ++ events.flatMap TraceEvent.encode

/-- A reply is at least a header long. -/
theorem length_encode (reply : Reply) : 8 ≤ reply.encode.length := by
  cases reply with
  | submit result =>
      rw [encode, result.length_encode]
      decide
  | resource result =>
      rw [encode, result.length_encode]
      decide
  | stats result =>
      rw [encode, result.length_encode]
      decide
  | trace result events =>
      rw [encode, List.length_append, result.length_encode]
      exact Nat.le_add_right_of_le (by decide)

/-- The error a call returns for its reply; a rejection is one. -/
def error : Reply → Option Errno
  | .submit result => if submitResultIsRejection result then some (-result.res) else none
  | .resource result => if resourceResultIsRejection result then some (-result.res) else none
  | .stats _ => none
  | .trace _ _ => none

/-- A valid reply to a call. -/
def Answers : Reply → Call → Prop
  | .submit result, .submit => submitResultIsValid result = true
  | .resource result, .resource => resourceResultIsValid result = true
  | .stats _, .stats => True
  | .trace result events, .trace capacity =>
      result.reserved = 0 ∧ result.count.toNat = events.length ∧ events.length ≤ capacity ∧
        ∀ event ∈ events, traceEventIsValid event = true
  | _, _ => False

instance : (reply : Reply) → (call : Call) → Decidable (reply.Answers call)
  | .submit _, .submit => inferInstanceAs (Decidable (_ = true))
  | .resource _, .resource => inferInstanceAs (Decidable (_ = true))
  | .stats _, .stats => .isTrue trivial
  | .trace _ _, .trace _ => inferInstanceAs (Decidable (_ ∧ _ ∧ _ ∧ _))
  | .submit _, .resource | .submit _, .stats | .submit _, .trace _ => .isFalse nofun
  | .resource _, .submit | .resource _, .stats | .resource _, .trace _ => .isFalse nofun
  | .stats _, .submit | .stats _, .resource | .stats _, .trace _ => .isFalse nofun
  | .trace _ _, .submit | .trace _ _, .resource | .trace _ _, .stats => .isFalse nofun

end Reply

namespace Process

/-- The read of a call. -/
def call (process : Process) (fd : Fd) : Call → Answer Reply × Process
  | .submit =>
      let read := process.readSubmitResult fd
      (⟨read.1.result.map .submit, read.1.error⟩, read.2)
  | .resource =>
      let read := process.readResourceResult fd
      (⟨read.1.result.map .resource, read.1.error⟩, read.2)
  | .stats =>
      let read := process.readStatsResult fd
      (⟨read.1.result.map .stats, read.1.error⟩, read.2)
  | .trace capacity =>
      let read := process.readTraceResult fd capacity
      (⟨read.1.result.map fun found => .trace found.1 found.2, read.1.error⟩, read.2)

/-- A call in pieces. -/
theorem call_calmly (fd : Fd) (call : Call) : Calmly fun process => process.call fd call := by
  intro process calm
  cases call with
  | submit =>
      obtain ⟨answer, next, still, rough, smooth⟩ := readReply_calmly fd SubmitResult.size
        SubmitResult.decode submitResultError process calm
      dsimp only at rough smooth
      simp only [Process.call, readSubmitResult, rough, smooth]
      exact ⟨_, next, still, rfl, rfl⟩
  | resource =>
      obtain ⟨answer, next, still, rough, smooth⟩ := readReply_calmly fd ResourceResult.size
        ResourceResult.decode resourceResultError process calm
      dsimp only at rough smooth
      simp only [Process.call, readResourceResult, rough, smooth]
      exact ⟨_, next, still, rfl, rfl⟩
  | stats =>
      obtain ⟨answer, next, still, rough, smooth⟩ := readReply_calmly fd StatsResult.size
        StatsResult.decode (fun _ => none) process calm
      dsimp only at rough smooth
      simp only [Process.call, readStatsResult, rough, smooth]
      exact ⟨_, next, still, rfl, rfl⟩
  | trace capacity =>
      obtain ⟨answer, next, still, rough, smooth⟩ :=
        readTraceResult_calmly fd capacity process calm
      dsimp only at rough smooth
      simp only [Process.call, rough, smooth]
      exact ⟨_, next, still, rfl, rfl⟩

variable {process : Process} {fd : Fd}

/-- A reply of fixed size is read as it was sent, behind the completions in front of it. -/
theorem readReply_eq (still : process.script = .smooth) {α : Type} {size : Nat}
    {decode : List UInt8 → α} {check : α → Option Errno} {unread : List Delivery}
    {bytes rest : List UInt8}
    (sent : process.inbox fd = unread.flatMap Delivery.encode ++ (bytes ++ rest))
    (valid : ∀ delivery ∈ unread, delivery.Valid) (unlike : Unlike bytes)
    (long : bytes.length = size) :
    process.readReply fd size decode check =
      (⟨some (decode bytes), check (decode bytes)⟩, { process.setInbox fd rest with
        completions := process.completions ++ unread.map (Delivery.entry fd) }) := by
  unfold readReply
  rw [drainCompletionPrefix_eq still sent valid (unlike.append rest)]
  dsimp only
  have next : ({ process.setInbox fd (bytes ++ rest) with
      completions := process.completions ++ unread.map (Delivery.entry fd) } : Process).inbox fd =
      bytes ++ rest := inbox_setInbox _ _ _
  rw [readFull_eq next still long]
  simp only [setInbox, Function.update_idem]

/-- The events of a trace are read as they were sent. -/
theorem readTraceEvents_eq {events found : List TraceEvent} {rest : List UInt8}
    (sent : process.inbox fd = events.flatMap TraceEvent.encode ++ rest)
    (still : process.script = .smooth)
    (valid : ∀ event ∈ events, traceEventIsValid event = true) :
    readTraceEvents fd events.length process found =
      ((found ++ events, none), process.setInbox fd rest) := by
  induction events generalizing process found with
  | nil =>
      rw [List.flatMap_nil, List.nil_append] at sent
      have same : process.setInbox fd rest = process := by
        rw [← sent, setInbox, Function.update_eq_self]
      rw [List.length_nil, List.append_nil, same]
      rfl
  | cons event later ih =>
      rw [List.flatMap_cons, List.append_assoc] at sent
      rw [List.length_cons, readTraceEvents, readFull_eq sent still event.length_encode]
      simp only [TraceEvent.decode_encode, valid event List.mem_cons_self, Bool.not_true,
        Bool.false_eq_true, ↓reduceIte]
      rw [ih (inbox_setInbox _ _ _) still
        fun other member => valid other (List.mem_cons_of_mem _ member), setInbox_setInbox,
        List.append_assoc, List.singleton_append]

/-- A trace is read as it was sent. -/
theorem readTraceResult_eq (still : process.script = .smooth) {unread : List Delivery}
    {result : TraceResult} {events : List TraceEvent} {capacity : Nat} {rest : List UInt8}
    (sent : process.inbox fd = unread.flatMap Delivery.encode ++
      ((Reply.trace result events).encode ++ rest))
    (valid : ∀ delivery ∈ unread, delivery.Valid)
    (unlike : Unlike (Reply.trace result events).encode)
    (answers : (Reply.trace result events).Answers (.trace capacity)) :
    process.readTraceResult fd capacity =
      (⟨some (result, events), none⟩, { process.setInbox fd rest with
        completions := process.completions ++ unread.map (Delivery.entry fd) }) := by
  obtain ⟨reserved, count, fits, good⟩ := answers
  unfold readTraceResult
  rw [drainCompletionPrefix_eq still sent valid (unlike.append rest)]
  dsimp only
  have next : ({ process.setInbox fd ((Reply.trace result events).encode ++ rest) with
      completions := process.completions ++ unread.map (Delivery.entry fd) } : Process).inbox fd =
      result.encode ++ (events.flatMap TraceEvent.encode ++ rest) := by
    rw [← List.append_assoc]
    exact inbox_setInbox _ _ _
  rw [readFull_eq next still result.length_encode]
  have last : (({ process.setInbox fd ((Reply.trace result events).encode ++ rest) with
      completions := process.completions ++ unread.map (Delivery.entry fd) } : Process).setInbox fd
        (events.flatMap TraceEvent.encode ++ rest)).inbox fd =
      events.flatMap TraceEvent.encode ++ rest := inbox_setInbox _ _ _
  simp only [TraceResult.decode_encode, reserved, count, ne_eq, not_true_eq_false, ↓reduceIte,
    Nat.not_lt.mpr fits]
  rw [readTraceEvents_eq last still good]
  simp only [setInbox, Function.update_idem, List.nil_append]

/-- Every call gets its reply, and the completions in front of it are kept. -/
theorem call_eq (still : process.script = .smooth) {call : Call} {reply : Reply}
    {unread : List Delivery} {rest : List UInt8}
    (sent : process.inbox fd = unread.flatMap Delivery.encode ++ (reply.encode ++ rest))
    (valid : ∀ delivery ∈ unread, delivery.Valid) (unlike : Unlike reply.encode)
    (answers : reply.Answers call) :
    process.call fd call =
      (⟨some reply, reply.error⟩, { process.setInbox fd rest with
        completions := process.completions ++ unread.map (Delivery.entry fd) }) := by
  cases reply with
  | submit result =>
      cases call with
      | submit =>
          have good : submitResultIsValid result = true := answers
          simp only [Reply.encode] at sent unlike
          simp only [Process.call, readSubmitResult,
            readReply_eq still sent valid unlike result.length_encode, SubmitResult.decode_encode,
            submitResultError, good, Bool.not_true, Bool.false_eq_true, ↓reduceIte,
            Option.map_some, Reply.error]
      | resource => cases answers
      | stats => cases answers
      | trace => cases answers
  | resource result =>
      cases call with
      | resource =>
          have good : resourceResultIsValid result = true := answers
          simp only [Reply.encode] at sent unlike
          simp only [Process.call, readResourceResult,
            readReply_eq still sent valid unlike result.length_encode, ResourceResult.decode_encode,
            resourceResultError, good, Bool.not_true, Bool.false_eq_true, ↓reduceIte,
            Option.map_some, Reply.error]
      | submit => cases answers
      | stats => cases answers
      | trace => cases answers
  | stats result =>
      cases call with
      | stats =>
          simp only [Reply.encode] at sent unlike
          simp only [Process.call, readStatsResult,
            readReply_eq still sent valid unlike result.length_encode, StatsResult.decode_encode,
            Option.map_some, Reply.error]
      | submit => cases answers
      | resource => cases answers
      | trace => cases answers
  | trace result events =>
      cases call with
      | trace capacity =>
          simp only [Process.call, readTraceResult_eq still sent valid unlike answers,
            Option.map_some, Reply.error]
      | submit => cases answers
      | resource => cases answers
      | stats => cases answers

end Process

/-- What happens on a descriptor number: the daemon sends completions; the process makes a call,
with which its reply is sent and more completions behind it; it makes a call to which no reply
comes; it waits for a completion, reads a payload, or opens a connection under the number after
the earlier one, if any, was closed. -/
inductive Event where
  | sends (fd : Fd) (deliveries : List Delivery)
  | call (fd : Fd) (call : Call) (reply : Reply) (behind : List Delivery) (script : Script)
  | unanswered (fd : Fd) (call : Call) (script : Script)
  | wait (fd : Fd) (script : Script)
  | payload (fd : Fd) (record : CompletionRecord) (capacity : Nat)
  | connect (fd : Fd)
  deriving DecidableEq, Repr

namespace Event

/-- The event with every system call going well. -/
def smoothed : Event → Event
  | call fd request reply behind _ => call fd request reply behind .smooth
  | unanswered fd request _ => unanswered fd request .smooth
  | wait fd _ => wait fd .smooth
  | event => event

/-- Every call gets its reply, no peek finds a part of a header, no `recv` fails and there is
memory. -/
def Undisturbed : Event → Prop
  | call _ _ _ _ script | wait _ script => script.Calm
  | unanswered _ _ _ => False
  | _ => True

instance : (event : Event) → Decidable event.Undisturbed
  | call _ _ _ _ script | wait _ script => inferInstanceAs (Decidable script.Calm)
  | unanswered _ _ _ => .isFalse id
  | sends _ _ | payload _ _ _ | connect _ => .isTrue trivial

end Event

/-- What the process sees of an event. -/
inductive Outcome where
  | silent
  | replied (answer : Answer Reply)
  | waited (answer : Answer CompletionRecord)
  | paid (payload : Except Errno (List UInt8))

/-- The answer of a call. -/
def Outcome.answer : Outcome → Option (Answer Reply)
  | .replied answer => some answer
  | _ => none

/-- Only a call has an answer. -/
theorem Outcome.eq_replied {outcome : Outcome} {answer : Answer Reply}
    (answered : outcome.answer = some answer) : outcome = .replied answer := by
  cases outcome with
  | replied found => exact congrArg Outcome.replied (Option.some.inj answered)
  | silent => cases answered
  | waited found => cases answered
  | paid found => cases answered

namespace Process

/-- A read that finds nothing stands for one that blocks until the connection ends. -/
def perform (process : Process) : Event → Outcome × Process
  | .sends fd deliveries =>
      (.silent, process.setInbox fd (process.inbox fd ++ deliveries.flatMap Delivery.encode))
  | .call fd call reply behind script =>
      let sent := process.setInbox fd
        (process.inbox fd ++ (reply.encode ++ behind.flatMap Delivery.encode))
      let read := (sent.under script).call fd call
      (.replied read.1, read.2.under .smooth)
  | .unanswered fd call script =>
      let read := (process.under script).call fd call
      (.replied read.1, read.2.under .smooth)
  | .wait fd script =>
      let read := (process.under script).waitCompletion fd
      (.waited read.1, read.2.under .smooth)
  | .payload fd record capacity =>
      let read := process.readCompletionPayload fd record capacity
      (.paid read.1, read.2)
  | .connect fd => (.silent, process.setInbox fd [])

/-- In how many pieces the bytes of an undisturbed event come makes no difference. -/
theorem perform_smoothed {event : Event} (undisturbed : event.Undisturbed) (process : Process) :
    process.perform event = process.perform event.smoothed := by
  cases event with
  | call fd call reply behind script =>
      obtain ⟨answer, next, -, rough, smooth⟩ := call_calmly fd call ((process.setInbox fd
        (process.inbox fd ++ (reply.encode ++ behind.flatMap Delivery.encode))).under script)
        undisturbed
      dsimp only [under] at rough smooth
      simp only [perform, Event.smoothed, under, rough, smooth]
  | wait fd script =>
      obtain ⟨answer, next, -, rough, smooth⟩ :=
        waitCompletion_calmly fd (process.under script) undisturbed
      dsimp only [under] at rough smooth
      simp only [perform, Event.smoothed, under, rough, smooth]
  | unanswered fd call script => cases undisturbed
  | sends fd deliveries => rfl
  | payload fd record capacity => rfl
  | connect fd => rfl

end Process

/-- A process with notes on the current connection of each number: the completions sent on
it, all the bytes sent on it, the completions the waits returned, and the tasks whose payloads
were taken. -/
structure Caller where
  process : Process
  sent : Fd → List Delivery
  came : Fd → List UInt8
  returned : Fd → List CompletionRecord
  taken : Fd → List TaskId

namespace Caller

/-- Nothing has happened. -/
def fresh : Caller := ⟨.fresh, fun _ => [], fun _ => [], fun _ => [], fun _ => []⟩

/-- The daemon sends a reply, or none, and completions. -/
def noteSent (caller : Caller) (fd : Fd) (reply : List UInt8) (deliveries : List Delivery) :
    Caller :=
  { caller with
    sent := Function.update caller.sent fd (caller.sent fd ++ deliveries)
    came := Function.update caller.came fd
      (caller.came fd ++ (reply ++ deliveries.flatMap Delivery.encode)) }

/-- The notes after an event, from the event and its outcome. -/
def note (caller : Caller) : Event → Outcome → Caller
  | .sends fd deliveries, _ => caller.noteSent fd [] deliveries
  | .call fd _ reply behind _, _ => caller.noteSent fd reply.encode behind
  | .wait fd _, .waited ⟨some record, none⟩ =>
      { caller with
        returned := Function.update caller.returned fd (caller.returned fd ++ [record]) }
  | .payload fd record _, .paid (.ok (_ :: _)) =>
      { caller with taken := Function.update caller.taken fd (caller.taken fd ++ [record.taskId]) }
  | .connect fd, _ =>
      { caller with
        sent := Function.update caller.sent fd []
        came := Function.update caller.came fd []
        returned := Function.update caller.returned fd []
        taken := Function.update caller.taken fd [] }
  | _, _ => caller

/-- Completions that may follow those sent: whole, valid, and of tasks not seen before. -/
def Fresh (sent deliveries : List Delivery) : Prop :=
  (∀ delivery ∈ deliveries, delivery.Valid) ∧
    ((sent ++ deliveries).map fun delivery => delivery.record.taskId).Nodup

instance (sent deliveries : List Delivery) : Decidable (Fresh sent deliveries) :=
  inferInstanceAs (Decidable (_ ∧ _))

/-- What the daemon may send: valid completions of new tasks, and a valid reply that is not
taken for a completion. -/
def Legal (caller : Caller) : Event → Prop
  | .sends fd deliveries => Fresh (caller.sent fd) deliveries
  | .call fd call reply behind _ =>
      reply.Answers call ∧ Process.isCompletionHeader (reply.encode.take 8) = false ∧
        Fresh (caller.sent fd) behind
  | _ => True

instance (caller : Caller) : (event : Event) → Decidable (caller.Legal event)
  | .sends _ _ => inferInstanceAs (Decidable (Fresh _ _))
  | .call _ _ _ _ _ => inferInstanceAs (Decidable (_ ∧ _ ∧ _))
  | .unanswered _ _ _ | .wait _ _ | .payload _ _ _ | .connect _ => .isTrue trivial

/-- One event; it fails when the daemon may not send what it brings. -/
def step (caller : Caller) (event : Event) : Except Unit Caller :=
  if caller.Legal event then
    let performed := caller.process.perform event
    .ok ({ caller with process := performed.2 }.note event performed.1)
  else .error ()

end Caller

/-- The part of the state that belongs to one descriptor number. -/
structure Channel where
  completions : List BufferedCompletion
  payloads : List BufferedPayload
  inbox : List UInt8
  sent : List Delivery
  returned : List CompletionRecord
  taken : List TaskId

/-- The entries of the number in the two lists, its stream and its notes. -/
def Caller.channel (caller : Caller) (fd : Fd) : Channel :=
  ⟨caller.process.completions.filter fun entry => entry.fd == fd,
    caller.process.payloads.filter fun entry => entry.fd == fd,
    caller.process.inbox fd, caller.sent fd, caller.returned fd, caller.taken fd⟩

/-- A payload that can still be read. -/
def Delivery.isHeld (taken : List TaskId) (delivery : Delivery) : Bool :=
  decide (delivery.payload ≠ [] ∧ delivery.record.taskId ∉ taken)

/-- The completions sent on a connection are, in order, those returned, those buffered and
those unread, and the payloads held are those of the returned ones that were not taken. -/
structure Channel.Tracked (fd : Fd) (channel : Channel) (back buffered unread : List Delivery) :
    Prop where
  sent : back ++ buffered ++ unread = channel.sent
  returned : back.map Delivery.record = channel.returned
  completions : channel.completions = buffered.map (Delivery.entry fd)
  inbox : channel.inbox = unread.flatMap Delivery.encode
  payloads : channel.payloads =
    (back.filter (Delivery.isHeld channel.taken)).map (Delivery.held fd)
  valid : ∀ delivery ∈ channel.sent, delivery.Valid
  unique : (channel.sent.map fun delivery => delivery.record.taskId).Nodup
  taken : ∀ taskId ∈ channel.taken, ∃ delivery ∈ back, delivery.record.taskId = taskId

namespace Channel.Tracked

variable {fd : Fd} {channel : Channel} {back buffered unread : List Delivery} {delivery : Delivery}

/-- A new connection. -/
theorem empty : Tracked fd ⟨[], [], [], [], [], []⟩ [] [] [] where
  sent := rfl
  returned := rfl
  completions := rfl
  inbox := rfl
  payloads := rfl
  valid := nofun
  unique := List.nodup_nil
  taken := nofun

/-- The completions sent stay valid. -/
theorem valid_append (tracked : channel.Tracked fd back buffered unread)
    {deliveries : List Delivery} (new : Caller.Fresh channel.sent deliveries) :
    ∀ delivery ∈ channel.sent ++ deliveries, delivery.Valid := by
  intro delivery member
  rcases List.mem_append.mp member with old | added
  · exact tracked.valid delivery old
  · exact new.1 delivery added

/-- Completions are sent behind the unread ones. -/
theorem arrived (tracked : channel.Tracked fd back buffered unread) {deliveries : List Delivery}
    (new : Caller.Fresh channel.sent deliveries) :
    Tracked fd { channel with
        inbox := channel.inbox ++ deliveries.flatMap Delivery.encode
        sent := channel.sent ++ deliveries } back buffered (unread ++ deliveries) where
  sent := by rw [← tracked.sent, List.append_assoc, List.append_assoc, List.append_assoc]
  returned := tracked.returned
  completions := tracked.completions
  inbox := by rw [tracked.inbox, List.flatMap_append]
  payloads := tracked.payloads
  valid := tracked.valid_append new
  unique := new.2
  taken := tracked.taken

/-- A call buffers what is in front of its reply and leaves what is behind it. -/
theorem called (tracked : channel.Tracked fd back buffered unread) {behind : List Delivery}
    (new : Caller.Fresh channel.sent behind) :
    Tracked fd { channel with
        completions := channel.completions ++ unread.map (Delivery.entry fd)
        inbox := behind.flatMap Delivery.encode
        sent := channel.sent ++ behind } back (buffered ++ unread) behind where
  sent := by
    change _ = channel.sent ++ behind
    rw [← tracked.sent, ← List.append_assoc back]
  returned := tracked.returned
  completions := by rw [tracked.completions, List.map_append]
  inbox := rfl
  payloads := tracked.payloads
  valid := tracked.valid_append new
  unique := new.2
  taken := tracked.taken

/-- No payload of a completion that is still to come was taken. -/
theorem not_taken {coming : List Delivery} (tracked : channel.Tracked fd back buffered unread)
    (next : buffered ++ unread = delivery :: coming) :
    delivery.record.taskId ∉ channel.taken := by
  intro member
  obtain ⟨earlier, returned, same⟩ := tracked.taken _ member
  have unique := tracked.unique
  rw [← tracked.sent, List.append_assoc, next, List.map_append, List.map_cons] at unique
  refine (List.nodup_append.mp unique).2.2 earlier.record.taskId (List.mem_map_of_mem returned)
    delivery.record.taskId List.mem_cons_self same

/-- A wait returns the first completion that was not returned; its payload is held. -/
theorem handed {later rest : List Delivery} (tracked : channel.Tracked fd back buffered unread)
    (next : buffered ++ unread = delivery :: (later ++ rest)) :
    Tracked fd { channel with
        completions := later.map (Delivery.entry fd)
        payloads := channel.payloads ++
          if delivery.payload ≠ [] then [Delivery.held fd delivery] else []
        inbox := rest.flatMap Delivery.encode
        returned := channel.returned ++ [delivery.record] } (back ++ [delivery]) later rest where
  sent := by
    rw [← tracked.sent, List.append_assoc, List.append_assoc, List.append_assoc, next]
    rfl
  returned := by rw [List.map_append, tracked.returned, List.map_singleton]
  completions := rfl
  inbox := rfl
  payloads := by
    change channel.payloads ++ _ = ((back ++ [delivery]).filter
      (Delivery.isHeld channel.taken)).map (Delivery.held fd)
    rw [List.filter_append, List.map_append, tracked.payloads]
    by_cases kept : delivery.payload ≠ []
    · have held : delivery.isHeld channel.taken = true :=
        decide_eq_true ⟨kept, tracked.not_taken next⟩
      rw [if_pos kept, List.filter_cons_of_pos held, List.filter_nil, List.map_singleton]
    · have dropped : ¬ delivery.isHeld channel.taken = true :=
        fun held => kept (of_decide_eq_true held).1
      rw [if_neg kept, List.filter_cons_of_neg dropped, List.filter_nil, List.map_nil]
  valid := tracked.valid
  unique := tracked.unique
  taken := fun taskId member => by
    obtain ⟨earlier, returned, same⟩ := tracked.taken taskId member
    exact ⟨earlier, List.mem_append_left _ returned, same⟩

/-- The completions returned are of different tasks. -/
theorem returned_unique (tracked : channel.Tracked fd back buffered unread) :
    (back.map fun delivery => delivery.record.taskId).Nodup := by
  have unique := tracked.unique
  rw [← tracked.sent, List.append_assoc, List.map_append] at unique
  exact (List.nodup_append.mp unique).1

/-- The held payloads of a task: there is at most one. -/
theorem payloads_of_task (tracked : channel.Tracked fd back buffered unread) (taskId : TaskId) :
    channel.payloads.filter (fun entry => entry.taskId == taskId) = [] ∨
      ∃ delivery ∈ back, delivery.isHeld channel.taken = true ∧ delivery.record.taskId = taskId ∧
        channel.payloads.filter (fun entry => entry.taskId == taskId) =
          [Delivery.held fd delivery] := by
  have shape : channel.payloads.filter (fun entry => entry.taskId == taskId) =
      ((back.filter (Delivery.isHeld channel.taken)).filter
        fun delivery => delivery.record.taskId == taskId).map (Delivery.held fd) := by
    rw [tracked.payloads, List.filter_map]
    rfl
  rw [shape]
  cases found : (back.filter (Delivery.isHeld channel.taken)).filter
      fun delivery => delivery.record.taskId == taskId with
  | nil => exact .inl rfl
  | cons delivery more =>
      have member : delivery ∈ (back.filter (Delivery.isHeld channel.taken)).filter
          fun delivery => delivery.record.taskId == taskId := found ▸ List.mem_cons_self
      obtain ⟨inside, task⟩ := List.mem_filter.mp member
      obtain ⟨returned, held⟩ := List.mem_filter.mp inside
      have alone : more = [] := by
        cases more with
        | nil => rfl
        | cons other others =>
            have second : other ∈ (back.filter (Delivery.isHeld channel.taken)).filter
                fun delivery => delivery.record.taskId == taskId :=
              found ▸ List.mem_cons_of_mem _ List.mem_cons_self
            have pair : ((delivery :: other :: others).map
                fun delivery => delivery.record.taskId).Nodup :=
              tracked.returned_unique.sublist
                ((found ▸ (List.filter_sublist.trans List.filter_sublist)).map _)
            rw [List.map_cons, List.map_cons, List.nodup_cons] at pair
            refine absurd ?_ pair.1
            rw [eq_of_beq task, ← eq_of_beq (List.mem_filter.mp second).2]
            exact List.mem_cons_self
      subst alone
      exact .inr ⟨delivery, returned, held, eq_of_beq task, rfl⟩

/-- A payload that was read is not held any more. -/
theorem paid (tracked : channel.Tracked fd back buffered unread) (returned : delivery ∈ back) :
    Tracked fd { channel with
        payloads := channel.payloads.filter fun entry => !(entry.taskId == delivery.record.taskId)
        taken := channel.taken ++ [delivery.record.taskId] } back buffered unread where
  sent := tracked.sent
  returned := tracked.returned
  completions := tracked.completions
  inbox := tracked.inbox
  payloads := by
    rw [tracked.payloads, List.filter_map, List.filter_filter]
    refine congrArg _ (List.filter_congr ?_)
    intro other _
    rw [Bool.eq_iff_iff]
    simp only [Function.comp_apply, Delivery.held, Delivery.isHeld, Bool.and_eq_true,
      Bool.not_eq_true', beq_eq_false_iff_ne, ne_eq, decide_eq_true_eq, List.mem_append,
      List.mem_singleton, not_or]
    tauto
  valid := tracked.valid
  unique := tracked.unique
  taken := fun taskId member => by
    rcases List.mem_append.mp member with old | new
    · exact tracked.taken taskId old
    · rw [List.mem_singleton] at new
      exact ⟨delivery, returned, new.symm⟩

end Channel.Tracked

end Iouringd
