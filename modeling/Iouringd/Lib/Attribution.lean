import Mathlib.Data.List.Nodup
import Iouringd.Lib.Received

/-! # Completions reach the connection they came on

Every event keeps each connection's channel tracked, as long as a number is not given to a
new connection while entries of the old one are left in the lists. Without reuse of numbers
nothing is lost, repeated, reordered or misattributed; with reuse the entries that are left
cross over.
-/

namespace Iouringd

open Foundation

/-- Nothing but the entries of one number differs. -/
def Process.Apart (fd : Fd) (process next : Process) : Prop :=
  ∀ other ≠ fd,
    (next.completions.filter fun entry => entry.fd == other) =
        (process.completions.filter fun entry => entry.fd == other) ∧
      (next.payloads.filter fun entry => entry.fd == other) =
        (process.payloads.filter fun entry => entry.fd == other) ∧
      next.inbox other = process.inbox other

namespace Process

variable {process next : Process} {fd : Fd}

/-- Setting a stream differs on its number alone. -/
theorem Apart.setInbox (apart : process.Apart fd next) (bytes : List UInt8) :
    process.Apart fd (next.setInbox fd bytes) := by
  intro other different
  obtain ⟨completions, payloads, inbox⟩ := apart other different
  exact ⟨completions, payloads, (inbox_setInbox_of_ne different bytes).trans inbox⟩

/-- So does setting it first of all. -/
theorem apart_setInbox (bytes : List UInt8) : process.Apart fd (process.setInbox fd bytes) :=
  Apart.setInbox (fun _ _ => ⟨rfl, rfl, rfl⟩) bytes

/-- The entries of a number are of no other. -/
theorem filter_entry {other : Fd} (deliveries : List Delivery) (different : other ≠ fd) :
    ((deliveries.map (Delivery.entry fd)).filter fun entry => entry.fd == other) = [] := by
  rw [List.filter_map, List.map_eq_nil_iff]
  refine List.filter_eq_nil_iff.mpr fun delivery _ => ?_
  simpa only [Function.comp_apply, Delivery.entry, beq_iff_eq] using different.symm

/-- The entries of a number are all its own. -/
theorem filter_entry_self (deliveries : List Delivery) :
    ((deliveries.map (Delivery.entry fd)).filter fun entry => entry.fd == fd) =
      deliveries.map (Delivery.entry fd) := by
  rw [List.filter_map]
  refine congrArg _ (List.filter_eq_self.mpr fun delivery _ => ?_)
  exact beq_self_eq_true fd

/-- The payload of a number is of no other. -/
theorem filter_held {other : Fd} (delivery : Delivery) (different : other ≠ fd) :
    (if delivery.payload ≠ [] then [Delivery.held fd delivery] else []).filter
      (fun entry => entry.fd == other) = [] := by
  split
  · exact List.filter_cons_of_neg (by simpa only [Delivery.held, beq_iff_eq] using different.symm)
  · rfl

/-- The payload of a number is its own. -/
theorem filter_held_self (delivery : Delivery) :
    (if delivery.payload ≠ [] then [Delivery.held fd delivery] else []).filter
      (fun entry => entry.fd == fd) =
        if delivery.payload ≠ [] then [Delivery.held fd delivery] else [] := by
  split
  · exact List.filter_cons_of_pos (beq_self_eq_true fd)
  · rfl

/-- Keeping a payload differs on its number alone. -/
theorem Apart.keeping (apart : process.Apart fd next) (delivery : Delivery) :
    process.Apart fd (next.keeping fd delivery) := by
  intro other different
  obtain ⟨completions, payloads, inbox⟩ := apart other different
  refine ⟨completions, ?_, inbox⟩
  change (next.payloads ++ _).filter _ = _
  rw [List.filter_append, filter_held delivery different, List.append_nil, payloads]

/-- The payloads of its number grow by it. -/
theorem filter_keeping (delivery : Delivery) :
    ((process.keeping fd delivery).payloads.filter fun entry => entry.fd == fd) =
      (process.payloads.filter fun entry => entry.fd == fd) ++
        if delivery.payload ≠ [] then [Delivery.held fd delivery] else [] := by
  change (process.payloads ++ _).filter _ = _
  rw [List.filter_append, filter_held_self]

end Process

namespace Caller

variable {caller next : Caller} {fd : Fd} {event : Event}

/-- What a wait does to a tracked connection: with nothing to return it changes nothing, and
otherwise it hands over the first completion that was not returned. -/
theorem waitCompletion_cases {back buffered unread : List Delivery}
    (tracked : (caller.channel fd).Tracked fd back buffered unread) :
    (buffered ++ unread = [] ∧ (caller.process.under .smooth).waitCompletion fd =
        (⟨none, some EPIPE⟩, caller.process.under .smooth)) ∨
      ∃ delivery later rest process, buffered ++ unread = delivery :: (later ++ rest) ∧
        (caller.process.under .smooth).waitCompletion fd =
          (⟨some delivery.record, none⟩, process) ∧
        caller.process.Apart fd process ∧
        (process.completions.filter fun entry => entry.fd == fd) =
          later.map (Delivery.entry fd) ∧
        (process.payloads.filter fun entry => entry.fd == fd) =
          (caller.channel fd).payloads ++
            (if delivery.payload ≠ [] then [Delivery.held fd delivery] else []) ∧
        process.inbox fd = rest.flatMap Delivery.encode := by
  have queued : (caller.process.completions.filter fun entry => entry.fd == fd) =
      buffered.map (Delivery.entry fd) := tracked.completions
  have arrived : (caller.process.under .smooth).inbox fd = unread.flatMap Delivery.encode :=
    tracked.inbox
  have still : (caller.process.under .smooth).script = .smooth := rfl
  unfold Process.waitCompletion
  cases found : takeFirst (fun entry : BufferedCompletion => entry.fd == fd)
      (caller.process.under .smooth).completions with
  | some pair =>
      obtain ⟨entry, rest⟩ := pair
      have head := takeFirst_filter found
      change (caller.process.completions.filter fun entry => entry.fd == fd) = _ at head
      rw [queued] at head
      cases buffered with
      | nil => cases head
      | cons delivery later =>
          rw [List.map_cons, List.cons.injEq] at head
          obtain ⟨rfl, left⟩ := head
          refine .inr ⟨delivery, later, unread, { caller.process.under .smooth with
            completions := rest }.keeping fd delivery, rfl, ?_, ?_, ?_, ?_, ?_⟩
          · simp only [Process.popBufferedCompletion_smooth still found]
          · refine Process.Apart.keeping ?_ delivery
            intro other different
            refine ⟨takeFirst_filter_other found ?_, rfl, rfl⟩
            intro entry here
            rw [beq_eq_false_iff_ne, eq_of_beq here]
            exact different.symm
          · exact left.symm
          · exact Process.filter_keeping delivery
          · exact arrived
  | none =>
      have nothing : buffered = [] := by
        rw [takeFirst_eq_none] at found
        exact List.map_eq_nil_iff.mp (queued.symm.trans found)
      subst nothing
      cases unread with
      | nil =>
          refine .inl ⟨rfl, ?_⟩
          simp only [Process.popBufferedCompletion_none found,
            Process.readCompletionWithPayload_empty still arrived]
      | cons delivery rest =>
          rw [List.flatMap_cons] at arrived
          have valid : delivery.Valid := by
            apply tracked.valid delivery
            rw [← tracked.sent]
            exact List.mem_append_right _ List.mem_cons_self
          have calm : ((caller.process.under .smooth).setInbox fd
            (rest.flatMap Delivery.encode)).script = .smooth := rfl
          refine .inr ⟨delivery, [], rest, ((caller.process.under .smooth).setInbox fd
            (rest.flatMap Delivery.encode)).keeping fd delivery, rfl, ?_, ?_, ?_, ?_, ?_⟩
          · simp only [Process.popBufferedCompletion_none found,
              Process.readCompletionWithPayload_eq still arrived valid,
              Process.keepPayload_smooth calm]
          · exact Process.Apart.keeping (Process.apart_setInbox _) delivery
          · exact queued
          · exact Process.filter_keeping delivery
          · exact Process.inbox_setInbox _ _ _

/-- The payloads under which a read looks are those of the task in the channel. -/
theorem filter_payloads (taskId : TaskId) :
    (caller.process.payloads.filter fun entry => entry.fd == fd && entry.taskId == taskId) =
      (caller.channel fd).payloads.filter fun entry => entry.taskId == taskId := by
  rw [channel, List.filter_filter]
  exact List.filter_congr fun entry _ => Bool.and_comm _ _

/-- What reading a payload does to a tracked connection: it takes the payload of a completion
that was returned, or it changes nothing. -/
theorem readCompletionPayload_cases {back buffered unread : List Delivery}
    (tracked : (caller.channel fd).Tracked fd back buffered unread) (record : CompletionRecord)
    (capacity : Nat) :
    (∃ delivery ∈ back, ∃ process, delivery.isHeld (caller.taken fd) = true ∧
        delivery.record.taskId = record.taskId ∧
        caller.process.readCompletionPayload fd record capacity = (.ok delivery.payload, process) ∧
        caller.process.Apart fd process ∧
        (process.completions.filter fun entry => entry.fd == fd) =
          (caller.channel fd).completions ∧
        (process.payloads.filter fun entry => entry.fd == fd) =
          ((caller.channel fd).payloads.filter
            fun entry => !(entry.taskId == delivery.record.taskId)) ∧
        process.inbox fd = caller.process.inbox fd) ∨
      (∃ result, (∀ bytes, result = .ok bytes → bytes = []) ∧
        caller.process.readCompletionPayload fd record capacity = (result, caller.process)) := by
  unfold Process.readCompletionPayload
  split
  · exact .inr ⟨.error _, nofun, rfl⟩
  split
  · exact .inr ⟨_, fun bytes same => (Except.ok.inj same).symm, rfl⟩
  split
  · exact .inr ⟨.error _, nofun, rfl⟩
  cases found : takeFirst
      (fun entry : BufferedPayload => entry.fd == fd && entry.taskId == record.taskId)
      caller.process.payloads with
  | none => exact .inr ⟨.error _, nofun, rfl⟩
  | some pair =>
      obtain ⟨entry, rest⟩ := pair
      have head := takeFirst_filter found
      rw [filter_payloads] at head
      rcases tracked.payloads_of_task record.taskId with
        none | ⟨delivery, returned, held, task, only⟩
      · rw [none] at head
        cases head
      · rw [only, List.cons.injEq] at head
        obtain ⟨rfl, alone⟩ := head
        refine .inl ⟨delivery, returned, { caller.process with payloads := rest }, held, task, rfl,
          ?_, rfl, ?_, rfl⟩
        · intro other different
          refine ⟨rfl, takeFirst_filter_other found ?_, rfl⟩
          intro entry here
          rw [Bool.and_eq_true] at here
          rw [beq_eq_false_iff_ne, eq_of_beq here.1]
          exact different.symm
        · -- No other entry of the task is left, so what is left is the rest of the list.
          have gone : rest = caller.process.payloads.filter
              fun entry => !(entry.fd == fd && entry.taskId == record.taskId) := by
            have others : rest.filter
                (fun entry => !(entry.fd == fd && entry.taskId == record.taskId)) = _ :=
              takeFirst_filter_other found fun entry here => by rw [here, Bool.not_true]
            rw [← others]
            refine (List.filter_eq_self.mpr ?_).symm
            intro entry member
            rw [Bool.not_eq_true']
            by_contra here
            rw [Bool.not_eq_false] at here
            have inside : entry ∈ rest.filter
                fun entry => entry.fd == fd && entry.taskId == record.taskId :=
              List.mem_filter.mpr ⟨member, here⟩
            rw [← alone] at inside
            cases inside
          change rest.filter _ = _
          rw [gone, channel, task, List.filter_filter, List.filter_filter]
          refine List.filter_congr fun entry _ => ?_
          cases entry.fd == fd
          · simp only [Bool.false_and, Bool.and_false]
          · simp only [Bool.true_and, Bool.and_true]

/-- The channels of all numbers are tracked. -/
def Tracks (caller : Caller) : Prop :=
  ∀ fd, ∃ back buffered unread, (caller.channel fd).Tracked fd back buffered unread

/-- At first nothing was sent. -/
theorem tracks_fresh : fresh.Tracks := fun _ => ⟨[], [], [], .empty⟩

/-- An event on one number leaves the channels of the others. -/
theorem tracks_of_apart (fd : Fd) (tracks : caller.Tracks)
    (apart : caller.process.Apart fd next.process)
    (notes : ∀ other ≠ fd, next.sent other = caller.sent other ∧
      next.returned other = caller.returned other ∧ next.taken other = caller.taken other)
    (here : ∃ back buffered unread, (next.channel fd).Tracked fd back buffered unread) :
    next.Tracks := by
  intro other
  by_cases same : other = fd
  · subst same
    exact here
  · obtain ⟨back, buffered, unread, tracked⟩ := tracks other
    obtain ⟨completions, payloads, inbox⟩ := apart other same
    obtain ⟨sent, returned, taken⟩ := notes other same
    have kept : next.channel other = caller.channel other := by
      unfold channel
      rw [completions, payloads, inbox, sent, returned, taken]
    exact ⟨back, buffered, unread, kept ▸ tracked⟩

/-- A call on a tracked connection gets its reply and buffers what is in front of it. -/
theorem call_eq_of_tracked {back buffered unread behind : List Delivery} {call : Call}
    {reply : Reply} {script : Script}
    (tracked : (caller.channel fd).Tracked fd back buffered unread)
    (legal : caller.Legal (.call fd call reply behind script)) (calm : script.Calm) :
    caller.process.perform (.call fd call reply behind script) =
      (.replied ⟨some reply, reply.error⟩,
        { (caller.process.setInbox fd (behind.flatMap Delivery.encode)).under .smooth with
          completions := caller.process.completions ++ unread.map (Delivery.entry fd) }) := by
  obtain ⟨answers, unlike, -⟩ := legal
  have arrived : caller.process.inbox fd = unread.flatMap Delivery.encode := tracked.inbox
  let sent := (caller.process.setInbox fd (caller.process.inbox fd ++
    (reply.encode ++ behind.flatMap Delivery.encode))).under .smooth
  have still : sent.script = .smooth := rfl
  have stream : sent.inbox fd =
      unread.flatMap Delivery.encode ++ (reply.encode ++ behind.flatMap Delivery.encode) := by
    rw [← arrived]
    exact Process.inbox_setInbox _ _ _
  have valid : ∀ delivery ∈ unread, delivery.Valid := by
    intro delivery member
    apply tracked.valid delivery
    rw [← tracked.sent]
    exact List.mem_append_right _ member
  have read := Process.call_eq still stream valid ⟨reply.length_encode, unlike⟩ answers
  rw [@Process.perform_smoothed (.call fd call reply behind script) calm, Event.smoothed,
    Process.perform]
  simp only [sent] at read
  simp only [read]
  simp only [Process.setInbox, Process.under, Function.update_idem]

/-- Every undisturbed event keeps the channels tracked. -/
theorem Tracks.stepped (tracks : caller.Tracks) (clean : caller.Clean event)
    (undisturbed : event.Undisturbed) (happened : caller.step event = .ok next) :
    next.Tracks := by
  obtain ⟨legal, rfl⟩ := step_ok happened
  cases event with
  | sends fd deliveries =>
      obtain ⟨back, buffered, unread, tracked⟩ := tracks fd
      apply tracks_of_apart fd tracks (Process.apart_setInbox _)
      · intro other different
        exact ⟨Function.update_of_ne different _ _, rfl, rfl⟩
      · refine ⟨back, buffered, unread ++ deliveries, ?_⟩
        have arrived := tracked.arrived legal
        simpa only [channel, note, noteSent, Process.perform, Process.inbox_setInbox,
          Process.completions_setInbox, Process.payloads_setInbox, Function.update_self]
          using arrived
  | call fd call reply behind script =>
      obtain ⟨back, buffered, unread, tracked⟩ := tracks fd
      rw [call_eq_of_tracked tracked legal undisturbed]
      apply tracks_of_apart fd tracks
      · intro other different
        refine ⟨?_, rfl, Process.inbox_setInbox_of_ne different _⟩
        change (caller.process.completions ++ unread.map (Delivery.entry fd)).filter _ = _
        rw [List.filter_append, Process.filter_entry unread different, List.append_nil]
      · intro other different
        exact ⟨Function.update_of_ne different _ _, rfl, rfl⟩
      · refine ⟨back, buffered ++ unread, behind, ?_⟩
        have called := tracked.called legal.2.2
        simpa only [channel, note, noteSent, Process.under, Process.inbox_setInbox,
          Process.payloads_setInbox, Function.update_self, List.filter_append,
          Process.filter_entry_self] using called
  | unanswered fd call script => cases undisturbed
  | wait fd script =>
      obtain ⟨back, buffered, unread, tracked⟩ := tracks fd
      rw [Process.perform_smoothed undisturbed]
      rcases waitCompletion_cases tracked with ⟨-, nothing⟩ | found
      · simp only [Event.smoothed, Process.perform, nothing]
        exact tracks
      · obtain ⟨delivery, later, rest, process, next, waited, apart, completions, payloads,
          inbox⟩ := found
        simp only [Event.smoothed, Process.perform, waited]
        apply tracks_of_apart fd tracks apart
        · intro other different
          exact ⟨rfl, Function.update_of_ne different _ _, rfl⟩
        · refine ⟨back ++ [delivery], later, rest, ?_⟩
          have handed := tracked.handed next
          simpa only [channel, note, Process.under, Function.update_self, completions, payloads,
            inbox] using handed
  | payload fd record capacity =>
      obtain ⟨back, buffered, unread, tracked⟩ := tracks fd
      rcases readCompletionPayload_cases tracked record capacity with found | ⟨result, empty, read⟩
      · obtain ⟨delivery, returned, process, held, task, read, apart, completions, payloads,
          inbox⟩ := found
        have some : delivery.payload ≠ [] := (of_decide_eq_true held).1
        obtain ⟨byte, bytes, whole⟩ := List.exists_cons_of_ne_nil some
        simp only [Process.perform, read, whole]
        apply tracks_of_apart fd tracks apart
        · intro other different
          exact ⟨rfl, rfl, Function.update_of_ne different _ _⟩
        · refine ⟨back, buffered, unread, ?_⟩
          have paid := tracked.paid returned
          simpa only [channel, note, Function.update_self, completions, payloads, inbox, task]
            using paid
      · have quiet : caller.note (.payload fd record capacity) (.paid result) = caller := by
          cases result with
          | error errno => rfl
          | ok bytes =>
              rw [empty bytes rfl]
              rfl
        simp only [Process.perform, read]
        exact quiet.symm ▸ tracks
  | connect fd =>
      apply tracks_of_apart fd tracks (Process.apart_setInbox _)
      · intro other different
        exact ⟨Function.update_of_ne different _ _, Function.update_of_ne different _ _,
          Function.update_of_ne different _ _⟩
      · refine ⟨[], [], [], ?_⟩
        have completions : (caller.process.completions.filter fun entry => entry.fd == fd) = [] :=
          List.filter_eq_nil_iff.mpr fun entry member =>
            beq_iff_eq.not.mpr (clean.1 entry member)
        have payloads : (caller.process.payloads.filter fun entry => entry.fd == fd) = [] :=
          List.filter_eq_nil_iff.mpr fun entry member =>
            beq_iff_eq.not.mpr (clean.2 entry member)
        simpa only [channel, note, Process.perform, Process.inbox_setInbox,
          Process.completions_setInbox, Process.payloads_setInbox, Function.update_self,
          completions, payloads] using Channel.Tracked.empty

/-- A completion that was returned was sent. -/
theorem sent_of_returned {back buffered unread : List Delivery}
    (tracked : (caller.channel fd).Tracked fd back buffered unread) {delivery : Delivery}
    (returned : delivery ∈ back) : delivery ∈ caller.sent fd := by
  have whole : back ++ buffered ++ unread = caller.sent fd := tracked.sent
  rw [← whole, List.append_assoc]
  exact List.mem_append_left _ returned

/-- A task number belongs to one completion of a connection. -/
theorem delivery_unique {back buffered unread : List Delivery}
    (tracked : (caller.channel fd).Tracked fd back buffered unread) {first second : Delivery}
    (sentFirst : first ∈ caller.sent fd) (sentSecond : second ∈ caller.sent fd)
    (same : first.record.taskId = second.record.taskId) : first = second :=
  List.inj_on_of_nodup_map tracked.unique sentFirst sentSecond same

/-- The payload of a completion that was returned is read once, byte for byte. -/
theorem readCompletionPayload_eq {back buffered unread : List Delivery}
    (tracked : (caller.channel fd).Tracked fd back buffered unread) {delivery : Delivery}
    (returned : delivery ∈ back) {capacity : Nat}
    (carries : (isReadKind delivery.record.taskKind ||
      delivery.record.taskKind == RequestKind.accept.toWire) = true)
    (fits : delivery.payload.length ≤ capacity) :
    (caller.process.readCompletionPayload fd delivery.record capacity).1 =
      if delivery.payload = [] then .ok []
      else if delivery.record.taskId ∈ caller.taken fd then .error EPROTO
      else .ok delivery.payload := by
  have length := (tracked.valid delivery (sent_of_returned tracked returned)).2
  unfold Process.readCompletionPayload
  rw [carries, Bool.not_true, if_neg Bool.false_ne_true]
  by_cases none : delivery.payload = []
  · have zero : delivery.record.payloadLength = 0 := by
      rw [none] at length
      exact UInt16.toNat_inj.mp length.symm
    rw [if_pos zero, if_pos none]
  · have some : ¬ delivery.record.payloadLength = 0 := by
      intro zero
      rw [zero] at length
      exact none (List.eq_nil_of_length_eq_zero length)
    rw [if_neg some, if_neg (by omega), if_neg none]
    have head := tracked.payloads_of_task delivery.record.taskId
    cases found : takeFirst (fun entry : BufferedPayload =>
        entry.fd == fd && entry.taskId == delivery.record.taskId) caller.process.payloads with
    | none =>
        rw [takeFirst_eq_none, filter_payloads] at found
        by_cases gone : delivery.record.taskId ∈ caller.taken fd
        · rw [if_pos gone]
        · have held : Delivery.held fd delivery ∈ (caller.channel fd).payloads := by
            rw [tracked.payloads]
            exact List.mem_map_of_mem
              (List.mem_filter.mpr ⟨returned, decide_eq_true ⟨none, gone⟩⟩)
          have inside : Delivery.held fd delivery ∈ (caller.channel fd).payloads.filter
              fun entry => entry.taskId == delivery.record.taskId :=
            List.mem_filter.mpr ⟨held, beq_self_eq_true _⟩
          rw [found] at inside
          cases inside
    | some pair =>
        obtain ⟨entry, rest⟩ := pair
        have first := takeFirst_filter found
        rw [filter_payloads] at first
        rcases head with empty | ⟨other, member, held, task, only⟩
        · rw [empty] at first
          cases first
        · rw [only, List.cons.injEq] at first
          have same : other = delivery :=
            delivery_unique tracked (sent_of_returned tracked member)
              (sent_of_returned tracked returned) task
          subst same
          have fresh : ¬ other.record.taskId ∈ caller.taken fd := (of_decide_eq_true held).2
          rw [if_neg fresh, ← first.1]
          rfl

end Caller

/-- The completion an entry holds. -/
def BufferedCompletion.delivery (entry : BufferedCompletion) : Delivery :=
  ⟨entry.completion, entry.payload⟩

namespace Caller

variable {caller next : Caller} {fd : Fd} {event : Event} {events : List Event}

/-- The completions the waits returned on a connection, then those buffered for it, then
those unread in its stream are in order those sent on it. -/
def InOrder (caller : Caller) (fd : Fd) : Prop :=
  ∃ back unread : List Delivery,
    back.map Delivery.record = caller.returned fd ∧
      caller.process.inbox fd = unread.flatMap Delivery.encode ∧
      back ++ ((caller.process.completions.filter fun entry => entry.fd == fd).map
        BufferedCompletion.delivery) ++ unread = caller.sent fd

/-- What the process is to see: a call its own reply, and a read of the payload of a
completion that was returned the bytes that followed the record, once. -/
def Faithful (caller : Caller) : Event → Outcome → Prop
  | .call _ _ reply _ _, outcome => outcome = .replied ⟨some reply, reply.error⟩
  | .payload fd record capacity, outcome =>
      ∀ delivery ∈ caller.sent fd, delivery.record = record → record ∈ caller.returned fd →
        (isReadKind record.taskKind || record.taskKind == RequestKind.accept.toWire) = true →
        delivery.payload.length ≤ capacity →
          outcome = .paid (if delivery.payload = [] then .ok []
            else if record.taskId ∈ caller.taken fd then .error EPROTO
            else .ok delivery.payload)
  | _, _ => True

/-- In tracked channels the completions are in order. -/
theorem Tracks.inOrder (tracks : caller.Tracks) (fd : Fd) : caller.InOrder fd := by
  obtain ⟨back, buffered, unread, tracked⟩ := tracks fd
  refine ⟨back, unread, tracked.returned, tracked.inbox, ?_⟩
  have queued : (caller.process.completions.filter fun entry => entry.fd == fd) =
      buffered.map (Delivery.entry fd) := tracked.completions
  have same : (buffered.map (Delivery.entry fd)).map BufferedCompletion.delivery = buffered := by
    rw [List.map_map]
    exact List.map_id _
  rw [queued, same]
  exact tracked.sent

/-- An undisturbed event brings the process what it is to see. -/
theorem Tracks.faithful (tracks : caller.Tracks) (legal : caller.Legal event)
    (undisturbed : event.Undisturbed) :
    caller.Faithful event (caller.process.perform event).1 := by
  cases event with
  | call fd call reply behind script =>
      obtain ⟨back, buffered, unread, tracked⟩ := tracks fd
      rw [call_eq_of_tracked tracked legal undisturbed]
      rfl
  | payload fd record capacity =>
      intro delivery sent same returned carries fits
      subst same
      obtain ⟨back, buffered, unread, tracked⟩ := tracks fd
      have noted : delivery.record ∈ back.map Delivery.record := tracked.returned ▸ returned
      obtain ⟨other, member, record⟩ := List.mem_map.mp noted
      have equal : other = delivery := delivery_unique tracked (sent_of_returned tracked member)
        sent (congrArg CompletionRecord.taskId record)
      subst equal
      exact congrArg Outcome.paid (readCompletionPayload_eq tracked member carries fits)
  | sends fd deliveries => trivial
  | unanswered fd call script => trivial
  | wait fd script => trivial
  | connect fd => trivial

/-- Without reuse of descriptor numbers, in every run of calls, waits, payload reads and
sends on any connections in which every peek finds a whole header, no `recv` fails and there is
memory, each call gets its own reply, the completions of each connection are returned in the
order they were sent, and payloads are read once. -/
theorem completions_attributed (ran : run step fresh events = .ok caller)
    (kept : ∀ event ∈ events, ∀ fd, event ≠ .connect fd)
    (undisturbed : ∀ event ∈ events, event.Undisturbed) :
    (∀ fd, caller.InOrder fd) ∧ ∀ event, caller.Legal event → event.Undisturbed →
      caller.Faithful event (caller.process.perform event).1 := by
  have tracks : caller.Tracks := by
    refine run_preserves ?_ tracks_fresh ran
    intro state event next member holds happened
    refine holds.stepped ?_ (undisturbed event member) happened
    cases event with
    | connect fd => exact absurd rfl (kept _ member fd)
    | sends fd deliveries => trivial
    | call fd call reply behind script => trivial
    | unanswered fd call script => trivial
    | wait fd script => trivial
    | payload fd record capacity => trivial
  exact ⟨tracks.inOrder, fun event legal smooth => tracks.faithful legal smooth⟩

/-- A read of two bytes, task 1. -/
def readDone : Delivery :=
  ⟨⟨wireMagic, protocolMajor, protocolMinor, 1, 2, RequestKind.sockRead.toWire, 2⟩, [104, 105]⟩

/-- A no-op, task 2. -/
def nopDone : Delivery :=
  ⟨⟨wireMagic, protocolMajor, protocolMinor, 2, 0, RequestKind.nop.toWire, 0⟩, []⟩

/-- Completions are sent on two connections; a submission on the first drains its own, which
come in pieces. -/
def twoConnections : List Event :=
  [.sends 3 [readDone], .sends 4 [nopDone],
    .call 3 .submit (.submit ⟨2, 0, 7⟩) [nopDone] ⟨[.interrupted, .bytes 8],
      [.bytes 5, .interrupted, .bytes 9], [true]⟩,
    .wait 4 .smooth, .wait 3 .smooth]

theorem completions_attributed_two_connections :
    ∃ caller, run step fresh twoConnections = .ok caller ∧
      caller.returned 3 = [readDone.record] ∧ (∀ fd, caller.InOrder fd) ∧
      caller.Faithful (.payload 3 readDone.record 16)
        (caller.process.perform (.payload 3 readDone.record 16)).1 := by
  have seen : ((run step fresh twoConnections).toOption.map fun caller => caller.returned 3) =
      some [readDone.record] := by decide +kernel
  obtain ⟨caller, ran, returned⟩ := exists_of_toOption_map seen
  have kept : ∀ event ∈ twoConnections, ∀ fd, event ≠ .connect fd := by
    simp only [twoConnections, List.mem_cons, List.not_mem_nil, or_false, forall_eq_or_imp,
      forall_eq, ne_eq, reduceCtorEq, not_false_eq_true, implies_true, and_self]
  have undisturbed : ∀ event ∈ twoConnections, event.Undisturbed := by decide
  have attributed := completions_attributed ran kept undisturbed
  exact ⟨caller, ran, returned, attributed.1, attributed.2 _ trivial trivial⟩

/-- A submission whose peek finds four bytes of its reply. -/
def cutShort : Event := .call 3 .submit (.submit ⟨2, 0, 7⟩) [] ⟨[.bytes 4], [], []⟩

/-- The next submission. -/
def afterCutShort : Event := .call 3 .submit (.submit ⟨3, 0, 6⟩) [] .smooth

/-- A wait for whose payload there is no memory. -/
def withoutMemory : List Event := [.sends 3 [readDone], .wait 3 ⟨[], [], [false]⟩]

/-- The submission fails although its reply comes whole, and the next one gets that reply; a
completion for which there is no memory is lost. -/
theorem reply_shifted :
    (∃ caller, run step fresh [cutShort] = .ok caller ∧
      (fresh.process.perform cutShort).1 = .replied ⟨none, some EPROTO⟩ ∧
      ¬ fresh.Faithful cutShort (fresh.process.perform cutShort).1 ∧
      caller.Legal afterCutShort ∧
      (caller.process.perform afterCutShort).1 =
        .replied ⟨some (.submit ⟨2, 0, 7⟩), none⟩ ∧
      ¬ caller.Faithful afterCutShort (caller.process.perform afterCutShort).1) ∧
    ∃ caller, run step fresh withoutMemory = .ok caller ∧ ¬ caller.InOrder 3 := by
  refine ⟨?_, ?_⟩
  · have failed : (fresh.process.perform cutShort).1.answer = some ⟨none, some EPROTO⟩ := by
      decide +kernel
    have seen : ((run step fresh [cutShort]).toOption.map fun caller =>
        (decide (caller.Legal afterCutShort),
          (caller.process.perform afterCutShort).1.answer)) =
        some (true, some ⟨some (.submit ⟨2, 0, 7⟩), none⟩) := by decide +kernel
    obtain ⟨caller, ran, both⟩ := exists_of_toOption_map seen
    obtain ⟨legal, shifted⟩ := Prod.mk.inj both
    have first := Outcome.eq_replied failed
    have second := Outcome.eq_replied shifted
    refine ⟨caller, ran, first, ?_, of_decide_eq_true legal, second, ?_⟩
    · intro faithful
      exact absurd (Outcome.replied.inj (first.symm.trans faithful)) (by decide)
    · intro faithful
      exact absurd (Outcome.replied.inj (second.symm.trans faithful)) (by decide)
  · have seen : ((run step fresh withoutMemory).toOption.map fun caller =>
        (caller.returned 3, caller.process.inbox 3, caller.process.completions,
          caller.sent 3)) = some ([], [104, 105], [], [readDone]) := by decide +kernel
    obtain ⟨caller, ran, all⟩ := exists_of_toOption_map seen
    simp only [Prod.mk.injEq] at all
    obtain ⟨returned, inbox, completions, sent⟩ := all
    refine ⟨caller, ran, ?_⟩
    rintro ⟨back, unread, same, stream, whole⟩
    rw [returned, List.map_eq_nil_iff] at same
    rw [same, completions, sent] at whole
    rw [inbox] at stream
    have all : unread = [readDone] := whole
    rw [all] at stream
    exact absurd stream (by decide)

/-- What a wait or a payload read returns came on the current connection of the number: the
waits return a beginning of the completions sent on it, and a payload is one of theirs. -/
def Current (caller : Caller) : Event → Outcome → Prop
  | .wait fd _, .waited ⟨some record, _⟩ =>
      caller.returned fd ++ [record] <+: (caller.sent fd).map Delivery.record
  | .payload fd record _, .paid (.ok bytes) =>
      bytes = [] ∨ ∃ delivery ∈ caller.sent fd,
        delivery.record.taskId = record.taskId ∧ delivery.payload = bytes
  | _, _ => True

/-- In tracked channels an undisturbed event brings what came on the current connection. -/
theorem Tracks.current (tracks : caller.Tracks) (undisturbed : event.Undisturbed) :
    caller.Current event (caller.process.perform event).1 := by
  cases event with
  | wait fd script =>
      obtain ⟨back, buffered, unread, tracked⟩ := tracks fd
      rw [Process.perform_smoothed undisturbed]
      rcases waitCompletion_cases tracked with ⟨-, nothing⟩ | found
      · simp only [Event.smoothed, Process.perform, nothing]
        trivial
      · obtain ⟨delivery, later, rest, process, next, waited, -⟩ := found
        simp only [Event.smoothed, Process.perform, waited]
        have whole : back ++ buffered ++ unread = caller.sent fd := tracked.sent
        have noted : back.map Delivery.record = caller.returned fd := tracked.returned
        refine ⟨(later ++ rest).map Delivery.record, ?_⟩
        rw [← whole, ← noted, List.append_assoc, List.append_assoc, next]
        simp only [List.map_append, List.map_cons, List.cons_append, List.nil_append]
  | payload fd record capacity =>
      obtain ⟨back, buffered, unread, tracked⟩ := tracks fd
      rcases readCompletionPayload_cases tracked record capacity with found | ⟨result, empty, read⟩
      · obtain ⟨delivery, returned, process, -, task, read, -⟩ := found
        simp only [Process.perform, read]
        exact .inr ⟨delivery, sent_of_returned tracked returned, task, rfl⟩
      · simp only [Process.perform, read]
        cases result with
        | error errno => trivial
        | ok bytes => exact .inl (empty bytes rfl)
  | sends fd deliveries => trivial
  | call fd call reply behind script => trivial
  | unanswered fd call script => trivial
  | connect fd => trivial

/-- In every run in which a number gets a new connection only when nothing of the earlier one
is left in the lists, what the waits and the payload reads return came on the current
connection, however the system calls end; and as long as they go well, the waits return its
completions in order and the payload reads a payload of one of them. -/
theorem completions_current (ran : run step fresh events = .ok caller)
    (clean : Along step Clean fresh events) (event : Event) :
    caller.AsReceived event (caller.process.perform event).1 ∧
      ((∀ earlier ∈ events, earlier.Undisturbed) → event.Undisturbed →
        caller.Current event (caller.process.perform event).1) := by
  refine ⟨?_, ?_⟩
  · have received : caller.process.Received caller.came :=
      clean.preserves (fun _ _ _ kept holds happened => received_stepped holds kept happened)
        ⟨fun _ => List.suffix_rfl, nofun, nofun⟩ ran
    exact asReceived received event
  · intro undisturbed smooth
    have tracks : caller.Tracks := (clean.with_mem undisturbed).preserves
      (fun _ _ _ kept holds happened => holds.stepped kept.1 kept.2 happened) tracks_fresh ran
    exact tracks.current smooth

/-- The number is reused after its completion was waited for. -/
def reusedWhenDrained : List Event :=
  [.sends 3 [nopDone], .call 3 .submit (.submit ⟨2, 0, 7⟩) [] .smooth, .wait 3 .smooth,
    .connect 3, .sends 3 [nopDone]]

theorem completions_current_reused_when_drained :
    ∃ caller, run step fresh reusedWhenDrained = .ok caller ∧ caller.returned 3 = [] ∧
      caller.AsReceived (.wait 3 .smooth) (caller.process.perform (.wait 3 .smooth)).1 ∧
      caller.Current (.wait 3 .smooth) (caller.process.perform (.wait 3 .smooth)).1 := by
  have seen : ((run step fresh reusedWhenDrained).toOption.map fun caller => caller.returned 3) =
      some [] := by decide +kernel
  have checked : checkAlong step (fun caller event => decide (caller.Clean event)) fresh
      reusedWhenDrained = true := by decide +kernel
  obtain ⟨caller, ran, returned⟩ := exists_of_toOption_map seen
  have clean := along_of_checkAlong checked
  simp only [decide_eq_true_eq] at clean
  have undisturbed : ∀ event ∈ reusedWhenDrained, event.Undisturbed := by decide
  obtain ⟨received, current⟩ := completions_current ran clean (.wait 3 .smooth)
  exact ⟨caller, ran, returned, received, current undisturbed Script.smooth_calm⟩

/-- A submission buffers a completion, the connection is closed, and its number goes to a new
connection on which nothing has been sent. -/
def reusedWhileBuffered : List Event :=
  [.sends 3 [nopDone], .call 3 .submit (.submit ⟨3, 0, 7⟩) [] .smooth, .connect 3]

/-- The wait on the new connection returns the completion of the closed one. -/
theorem completion_crosses_connections :
    ∃ caller, run step fresh reusedWhileBuffered = .ok caller ∧ caller.sent 3 = [] ∧
      (caller.process.perform (.wait 3 .smooth)).1 = .waited ⟨some nopDone.record, none⟩ ∧
      ¬ caller.AsReceived (.wait 3 .smooth) (caller.process.perform (.wait 3 .smooth)).1 ∧
      ¬ caller.Current (.wait 3 .smooth) (caller.process.perform (.wait 3 .smooth)).1 := by
  have seen : ((run step fresh reusedWhileBuffered).toOption.map fun caller =>
      (caller.sent 3, caller.came 3,
        ((caller.process.under .smooth).waitCompletion 3).1)) =
      some ([], [], ⟨some nopDone.record, none⟩) := by decide +kernel
  obtain ⟨caller, ran, all⟩ := exists_of_toOption_map seen
  simp only [Prod.mk.injEq] at all
  obtain ⟨nothing, silence, crossed⟩ := all
  have waited : (caller.process.perform (.wait 3 .smooth)).1 =
      .waited ⟨some nopDone.record, none⟩ := congrArg Outcome.waited crossed
  refine ⟨caller, ran, nothing, waited, ?_, ?_⟩
  · rw [waited]
    rintro ⟨payload, came⟩
    rw [silence] at came
    exact not_came_nil _ _ came
  · rw [waited]
    intro current
    change caller.returned 3 ++ [nopDone.record] <+: (caller.sent 3).map Delivery.record at current
    rw [nothing] at current
    exact absurd (List.append_eq_nil_iff.mp (List.prefix_nil.mp current)).2 (List.cons_ne_nil _ _)

end Caller

end Iouringd
