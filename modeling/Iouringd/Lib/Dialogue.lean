import Iouringd.Daemon.Network
import Iouringd.Lib.Attribution
import Iouringd.Lib.Requests
import Iouringd.Lib.Transcript

/-! # The library and the daemon

A process calls the library on its connections while the daemon serves these and others. A
connection is `Linked` when the daemon reads the bytes the calls write and the process gets the
messages the daemon queues, as far as each of them is. Then every call gets the answer to its own
request, and every wait a completion of an earlier submission on the connection.
-/

namespace Iouringd

open Foundation

/-! ## What both ends speak of -/

/-- A reply as the daemon queues it. -/
def Reply.message : Reply → Message
  | .submit result => .submit result
  | .resource result => .resource result
  | .stats result => .stats result
  | .trace result events => .trace result events

theorem Reply.encode_message (reply : Reply) : reply.message.encode = reply.encode := by
  cases reply with
  | _ => rfl

theorem Reply.replyType_message (reply : Reply) : reply.message.replyType.isSome = true := by
  cases reply with
  | _ => rfl

/-- A completion as the daemon queues it. -/
def Delivery.message (delivery : Delivery) : Message :=
  .completion delivery.record delivery.payload

/-- What a call reads once its request is written. -/
def RequestCall.awaits : RequestCall → Call
  | registerFd _ | registerBuffer _ _ | releaseResource _ => .resource
  | getStats => .stats
  | getTrace _ _ capacity => .trace capacity
  | _ => .submit

/-- The bytes a call writes. -/
def RequestCall.bytes (fd : Fd) (call : RequestCall) : List UInt8 :=
  match call.write fd with
  | .ok written => written.bytes
  | .error _ => []

/-- A call that passes its own checks and stays within the limits of the daemon. -/
def RequestCall.Sends (limit : Nat) (fd : Fd) (call : RequestCall) : Prop :=
  ∃ written, call.write fd = .ok written ∧ call.variableLength ≤ limit ∧
    call.eventsWanted ≤ traceCapacity ∧ written.bytes.length ≤ maxRequestBytes

theorem RequestCall.Sends.parses {limit : Nat} {fd : Fd} {call : RequestCall}
    (sends : call.Sends limit fd) :
    parseRequest limit (call.bytes fd) = .message call.request [] := by
  obtain ⟨written, wrote, within, few, fits⟩ := sends
  unfold bytes
  rw [wrote]
  exact call.parses wrote within few fits

theorem completionIds_append (first second : List Message) :
    completionIds (first ++ second) = completionIds first ++ completionIds second :=
  List.filterMap_append

theorem replies_append (first second : List Message) :
    replies (first ++ second) = replies first ++ replies second :=
  List.filter_append _ _

namespace Event

/-- The descriptor number an event is about. -/
def fd : Event → Fd
  | sends fd _ | call fd _ _ _ _ | unanswered fd _ _ | wait fd _ | payload fd _ _ | connect fd => fd

/-- The call an event makes. -/
def calls : Event → List Call
  | call _ request _ _ _ | unanswered _ request _ => [request]
  | _ => []

/-- The reply that comes with an event. -/
def answers : Event → List Reply
  | call _ _ reply _ _ => [reply]
  | _ => []

/-- The completions that come with an event. -/
def completions : Event → List Delivery
  | sends _ deliveries => deliveries
  | call _ _ _ behind _ => behind
  | _ => []

/-- The calls of an event on a connection. -/
def asks (fd : Fd) (event : Event) : List Call := if event.fd = fd then event.calls else []

/-- The completions that come with an event on a connection. -/
def deliveries (fd : Fd) (event : Event) : List Delivery :=
  if event.fd = fd then event.completions else []

/-- The messages that come with an event on a connection: a reply is in front. -/
def brings (fd : Fd) (event : Event) : List Message :=
  if event.fd = fd then
    event.answers.map Reply.message ++ event.completions.map Delivery.message
  else []

variable {fd : Fd} {events : List Event}

/-- The messages that come with a call or without. -/
theorem mem_brings {event : Event} {message : Message} (member : message ∈ event.brings fd) :
    event.fd = fd ∧ ((∃ reply ∈ event.answers, reply.message = message) ∨
      ∃ delivery ∈ event.completions, delivery.message = message) := by
  unfold brings at member
  split at member
  · rename_i same
    rcases List.mem_append.mp member with first | later
    · exact ⟨same, Or.inl (List.mem_map.mp first)⟩
    · exact ⟨same, Or.inr (List.mem_map.mp later)⟩
  · cases member

theorem message_mem_brings {event : Event} {delivery : Delivery}
    (member : delivery ∈ event.deliveries fd) : delivery.message ∈ event.brings fd := by
  unfold deliveries at member
  unfold brings
  split at member
  · rename_i same
    rw [if_pos same]
    exact List.mem_append_right _ (List.mem_map_of_mem member)
  · cases member

theorem completionIds_brings (event : Event) :
    completionIds (event.brings fd) =
      (event.deliveries fd).map fun delivery => delivery.record.taskId := by
  unfold brings deliveries
  split
  · have none : completionIds (event.answers.map Reply.message) = [] := by
      refine List.filterMap_eq_nil_iff.mpr ?_
      intro message member
      obtain ⟨reply, -, rfl⟩ := List.mem_map.mp member
      cases reply with
      | _ => rfl
    rw [completionIds_append, none, List.nil_append, completionIds, List.filterMap_map]
    exact congrFun List.filterMap_eq_map _
  · rfl

/-- The completions among the messages that came. -/
theorem completionIds_flatMap (events : List Event) :
    completionIds (events.flatMap (brings fd)) =
      (events.flatMap (deliveries fd)).map fun delivery => delivery.record.taskId := by
  induction events with
  | nil => rfl
  | cons event rest ih =>
      rw [List.flatMap_cons, List.flatMap_cons, List.map_append, completionIds_append, ih,
        completionIds_brings]

/-- The reply is the one among the messages of an event. -/
theorem replies_brings (event : Event) :
    replies (event.brings fd) =
      if event.fd = fd then event.answers.map Reply.message else [] := by
  unfold brings
  split
  · have all : replies (event.answers.map Reply.message) =
        event.answers.map Reply.message := by
      refine List.filter_eq_self.mpr ?_
      intro message member
      obtain ⟨reply, -, rfl⟩ := List.mem_map.mp member
      exact reply.replyType_message
    have none : replies (event.completions.map Delivery.message) = [] := by
      refine List.filter_eq_nil_iff.mpr ?_
      intro message member
      obtain ⟨delivery, -, rfl⟩ := List.mem_map.mp member
      exact Bool.false_ne_true
    rw [replies_append, all, none, List.append_nil]
  · rfl

/-- With every call comes one reply, when none is without. -/
theorem length_replies (events : List Event) (answered : ∀ event ∈ events, event.Undisturbed) :
    (replies (events.flatMap (brings fd))).length = (events.flatMap (asks fd)).length := by
  induction events with
  | nil => rfl
  | cons event rest ih =>
      have one : (replies (event.brings fd)).length = (event.asks fd).length := by
        rw [replies_brings]
        unfold asks
        split
        · cases event with
          | unanswered other request script =>
              cases answered (.unanswered other request script) List.mem_cons_self
          | _ => rfl
        · rfl
      rw [List.flatMap_cons, List.flatMap_cons, List.length_append, replies_append,
        List.length_append, one,
        ih fun other member => answered other (List.mem_cons_of_mem event member)]

/-- An id that was announced was announced to a call. -/
theorem announced {id : TaskId} (member : id ∈ acceptIds (events.flatMap (brings fd))) :
    ∃ request result behind script, call fd request (.submit result) behind script ∈ events ∧
      result.taskId = id ∧ result.res = completionResOk := by
  obtain ⟨message, inside, accepts⟩ := List.mem_filterMap.mp member
  obtain ⟨event, happened, brought⟩ := List.mem_flatMap.mp inside
  obtain ⟨same, ⟨reply, answered, rfl⟩ | ⟨delivery, -, rfl⟩⟩ := mem_brings brought
  · cases event with
    | call other request answer behind script =>
        cases same
        cases List.mem_singleton.mp answered
        cases reply with
        | submit result =>
            simp only [Reply.message, Message.accepts] at accepts
            split at accepts
            · rename_i accepted
              exact ⟨request, result, behind, script, happened, Option.some.inj accepts, accepted⟩
            · cases accepts
        | resource result => cases accepts
        | stats result => cases accepts
        | trace result events => cases accepts
    | sends other deliveries => cases answered
    | unanswered other request script => cases answered
    | wait other script => cases answered
    | payload other record capacity => cases answered
    | connect other => cases answered
  · cases accepts

end Event

/-! ## The log of a connection -/

section Logs

variable {world : World} {log : Nat → List Message} {conn : Nat}

/-- A log starts with a greeting. -/
theorem Logged.starts (logged : Logged world log) (conn : Nat) :
    log conn = [] ∨ ∃ result, log conn = .greeting result :: (log conn).tail := by
  have started : ∀ {first : Message} {later : List Message}, log conn = first :: later →
      (∃ result, first = .greeting result) → ∃ result, log conn = .greeting result ::
        (log conn).tail := by
    intro first later same greeting
    obtain ⟨result, rfl⟩ := greeting
    exact ⟨result, by rw [same, List.tail_cons]⟩
  rcases logged.shape conn with opening | ⟨refusals, result, body, same, opening, -, -⟩
  · cases shape : log conn with
    | nil => exact Or.inl rfl
    | cons first later =>
        obtain ⟨result, greeting, -⟩ := opening first (shape ▸ List.mem_cons_self)
        exact Or.inr (shape ▸ started shape ⟨result, greeting⟩)
  · right
    cases refusals with
    | nil => exact started same ⟨result, rfl⟩
    | cons first later =>
        obtain ⟨other, greeting, -⟩ := opening first List.mem_cons_self
        exact started same ⟨other, greeting⟩

/-- Behind the greeting are all replies of the log. -/
theorem Logged.replies_tail (logged : Logged world log) (conn : Nat) :
    Iouringd.replies (log conn).tail = Iouringd.replies (log conn) := by
  rcases logged.starts conn with empty | ⟨result, same⟩
  · rw [empty]
    rfl
  · conv_rhs => rw [same]
    rfl

theorem Logged.acceptIds_tail (logged : Logged world log) (conn : Nat) :
    acceptIds (log conn).tail = acceptIds (log conn) := by
  rcases logged.starts conn with empty | ⟨result, same⟩
  · rw [empty]
    rfl
  · conv_rhs => rw [same]
    rfl

/-- No task is completed twice. -/
theorem Logged.completionIds_nodup (logged : Logged world log) (conn : Nat) :
    (completionIds (log conn)).Nodup := by
  refine List.nodup_iff_count_le_one.mpr fun id => ?_
  rw [logged.completions]
  split
  · exact Nat.le_refl 1
  · exact Nat.zero_le 1

/-- When a completion has come, so has the reply that announced its task. -/
theorem Logged.announced_before (logged : Logged world log) {come : List Message}
    (front : come <+: (log conn).tail) {id : TaskId} (member : id ∈ completionIds come) :
    id ∈ acceptIds come := by
  obtain ⟨later, split⟩ := front
  have completed : id ∈ completionIds (log conn).tail := by
    rw [← split, completionIds_append]
    exact List.mem_append_left _ member
  have inside : id ∈ completionIds (log conn) :=
    ((List.tail_sublist _).filterMap _).subset completed
  have accepted := logged.preceded conn id inside
  rw [← logged.acceptIds_tail, ← split, acceptIds, List.filterMap_append] at accepted
  rcases List.mem_append.mp accepted with here | after
  · exact here
  · -- Announced behind its completion: the log does not say that.
    obtain ⟨earlier, first, completes⟩ := List.mem_filterMap.mp member
    obtain ⟨message, second, accepts⟩ := List.mem_filterMap.mp after
    have ordered := (logged.ordered conn).sublist (List.tail_sublist _)
    rw [← split] at ordered
    exact absurd completes ((List.pairwise_append.mp ordered).2.2 earlier first message second id
      accepts)

end Logs

/-! ## Replies -/

def Call.replyType : Call → ReplyType
  | .submit => .submit
  | .resource => .resource
  | .stats => .stats
  | .trace _ => .trace

/-- A call waits for the type of reply its request calls for. -/
theorem RequestCall.replyType_awaits (call : RequestCall) :
    call.awaits.replyType = call.request.kind.replyType := by
  cases call with
  | _ => rfl

/-- A message that suits the request of a call is a valid reply to it. -/
theorem RequestCall.Sends.answers {limit : Nat} {fd : Fd} {call : RequestCall} {reply : Reply}
    (sends : call.Sends limit fd) (passes : reply.message.Passes)
    (suits : reply.message.Suits call.request) : reply.Answers call.awaits := by
  obtain ⟨type, fits⟩ := suits
  rw [← call.replyType_awaits] at type
  cases awaits : call.awaits with
  | submit =>
      rw [awaits] at type
      cases reply with
      | submit result => exact passes
      | resource | stats | trace => cases type
  | resource =>
      rw [awaits] at type
      cases reply with
      | resource result => exact passes
      | submit | stats | trace => cases type
  | stats =>
      rw [awaits] at type
      cases reply with
      | stats result => trivial
      | submit | resource | trace => cases type
  | trace capacity =>
      rw [awaits] at type
      cases reply with
      | submit | resource | stats => cases type
      | trace result events =>
          obtain ⟨after, most, rfl⟩ : ∃ after most, call = .getTrace after most capacity := by
            cases call with
            | getTrace after most room =>
                cases awaits
                exact ⟨after, most, rfl⟩
            | _ => cases awaits
          obtain ⟨reserved, count, sound⟩ := passes
          have few := UInt32.le_iff_toNat_le.mp (fits after most rfl)
          obtain ⟨written, wrote, -⟩ := sends
          obtain ⟨room, -⟩ := checked_ok wrote
          refine ⟨reserved, count, ?_, sound⟩
          rw [Bool.and_eq_false_iff, bne_eq_false_iff_eq, decide_eq_false_iff_not] at room
          rcases room with none | enough
          · rw [none] at few
            rw [← count]
            exact Nat.le_trans few (Nat.zero_le _)
          · omega

/-! ## Linked connections -/

/-- A connection seen from both ends. The daemon reads, behind the handshake request, what the
calls asked for write; the events of the process bring, behind the answer to that, what the daemon
queued. Neither end has to be through. -/
structure Linked (limit : Nat) (socket : List RecvOutcome) (log : List Message) (fd : Fd)
    (asked : List RequestCall) (events : List Event) : Prop where
  sends : ∀ call ∈ asked, call.Sends limit fd
  written : ∃ stream, stream <+: asked.flatMap (RequestCall.bytes fd) ∧ Peer limit stream socket
  asks : events.flatMap (Event.asks fd) <+: asked.map RequestCall.awaits
  brings : events.flatMap (Event.brings fd) <+: log.tail

section Lists

variable {α β : Type} {first whole : List α} {index : Nat} {item : α}

theorem getElem?_of_prefix (front : first <+: whole) (found : first[index]? = some item) :
    whole[index]? = some item := by
  obtain ⟨more, rfl⟩ := front
  obtain ⟨inside, -⟩ := List.getElem?_eq_some_iff.mp found
  rw [List.getElem?_append_left inside, found]

theorem getElem?_of_forall₂ {related : α → β → Prop} {other : List β}
    (all : List.Forall₂ related whole other) (found : whole[index]? = some item) :
    ∃ partner, other[index]? = some partner ∧ related item partner := by
  obtain ⟨inside, rfl⟩ := List.getElem?_eq_some_iff.mp found
  have within := all.length_eq ▸ inside
  exact ⟨other[index], List.getElem?_eq_getElem within, all.get inside within⟩

end Lists

section Links

variable {config : Config} {net : Network} {sent : Nat → List RecvOutcome} {actions : List Action}
  {world : World} {log : Nat → List Message} {conn limit : Nat} {socket : List RecvOutcome}
  {fd : Fd} {asked : List RequestCall} {events before after : List Event} {event : Event}

/-- The daemon hears what was asked for, in order, and nothing else. -/
theorem Linked.requests {log : List Message}
    (linked : Linked config.limits.ioBytesMax (sent conn) log fd asked events)
    (ran : run Network.step (.initial config sent) actions = .ok net) :
    net.world.requests conn <+: asked.map RequestCall.request := by
  obtain ⟨stream, front, peer⟩ := linked.written
  have heard := (Network.requests_heard ran peer).trans (Framing.messages_prefix front)
  rwa [Framing.messages_encoded fun call member => (linked.sends call member).parses] at heard

/-- What comes has passed the checks of the library, and its replies are known as such. -/
theorem Linked.brought (linked : Linked limit socket (log conn) fd asked events)
    (passing : Passing world log) (legible : Legible log) :
    ∀ message ∈ events.flatMap (Event.brings fd), message.Passes ∧
      (message.replyType.isSome = true → Unlike message.encode) := by
  intro message member
  have inside : message ∈ log conn := List.mem_of_mem_tail (linked.brings.subset member)
  exact ⟨passing.passes conn message inside, legible conn message inside⟩

theorem Linked.completionIds_nodup (linked : Linked limit socket (log conn) fd asked events)
    (logged : Logged world log) : (completionIds (events.flatMap (Event.brings fd))).Nodup :=
  (logged.completionIds_nodup conn).sublist
    ((linked.brings.sublist.trans (List.tail_sublist _)).filterMap _)

/-- The reply to a call is the answer of the daemon to the request of that call. -/
theorem Linked.replied (linked : Linked limit socket (log conn) fd asked events)
    (logged : Logged world log) (passing : Passing world log)
    (heard : world.requests conn <+: asked.map RequestCall.request) {call : Call} {reply : Reply}
    {behind : List Delivery} {script : Script}
    (split : events = before ++ .call fd call reply behind script :: after)
    (undisturbed : ∀ event ∈ before, event.Undisturbed) :
    ∃ request, asked[(before.flatMap (Event.asks fd)).length]? = some request ∧
      request.awaits = call ∧
      (world.answered conn)[(before.flatMap (Event.asks fd)).length]? = some request.request ∧
      reply.message.Suits request.request := by
  have asks : (events.flatMap (Event.asks fd))[(before.flatMap (Event.asks fd)).length]? =
      some call := by
    have here : (Event.call fd call reply behind script).asks fd = [call] := if_pos rfl
    rw [split, List.flatMap_append, List.flatMap_cons, here,
      List.getElem?_append_right (Nat.le_refl _), Nat.sub_self]
    rfl
  have answers : (replies (events.flatMap (Event.brings fd)))[
      (before.flatMap (Event.asks fd)).length]? = some reply.message := by
    have here : replies ((Event.call fd call reply behind script).brings fd) =
        [reply.message] := by
      rw [Event.replies_brings]
      exact if_pos rfl
    rw [split, List.flatMap_append, List.flatMap_cons, replies_append, replies_append, here,
      ← Event.length_replies before undisturbed, List.getElem?_append_right (Nat.le_refl _),
      Nat.sub_self]
    rfl
  have answered := getElem?_of_prefix (linked.brings.filter _) answers
  change (replies _)[_]? = _ at answered
  rw [logged.replies_tail] at answered
  obtain ⟨request, answer, suits⟩ := getElem?_of_forall₂ (passing.suits conn) answered
  have wanted := getElem?_of_prefix ((logged.answered conn).trans heard) answer
  have reads := getElem?_of_prefix linked.asks asks
  rw [List.getElem?_map, Option.map_eq_some_iff] at wanted reads
  obtain ⟨made, found, rfl⟩ := wanted
  obtain ⟨same, again, awaits⟩ := reads
  rw [found] at again
  cases again
  exact ⟨made, found, awaits, answer, suits⟩

end Links

/-! ## The process -/

namespace Caller

variable {caller next : Caller} {event : Event} {events before after : List Event} {fd : Fd}

/-- What was sent on a connection grows by what comes with an event. -/
theorem sent_stepped (happened : caller.step event = .ok next)
    (kept : ∀ fd, event ≠ .connect fd) (fd : Fd) :
    next.sent fd = caller.sent fd ++ event.deliveries fd := by
  obtain ⟨-, rfl⟩ := step_ok happened
  have update : ∀ (other : Fd) (deliveries : List Delivery),
      Function.update caller.sent other (caller.sent other ++ deliveries) fd =
        caller.sent fd ++ if other = fd then deliveries else [] := by
    intro other deliveries
    by_cases same : other = fd
    · subst same
      rw [Function.update_self, if_pos rfl]
    · rw [Function.update_of_ne (Ne.symm same), if_neg same, List.append_nil]
  have quiet : event.completions = [] → caller.sent fd ++ event.deliveries fd = caller.sent fd := by
    intro none
    unfold Event.deliveries
    rw [none, ite_self, List.append_nil]
  cases event with
  | sends other deliveries => exact update other deliveries
  | call other call reply behind script => exact update other behind
  | unanswered other call script => exact (quiet rfl).symm
  | wait other script =>
      rw [quiet rfl]
      unfold note
      split
      · contradiction
      · contradiction
      · rfl
      · contradiction
      · contradiction
      · rfl
  | payload other record capacity =>
      rw [quiet rfl]
      unfold note
      split
      · contradiction
      · contradiction
      · contradiction
      · rfl
      · contradiction
      · rfl
  | connect other => exact absurd rfl (kept other)

/-- No task is returned twice. -/
theorem Tracks.returned_nodup (tracks : caller.Tracks) (fd : Fd) :
    ((caller.returned fd).map fun record => record.taskId).Nodup := by
  obtain ⟨back, buffered, unread, tracked⟩ := tracks fd
  have returned : back.map Delivery.record = caller.returned fd := tracked.returned
  rw [← returned, List.map_map]
  exact tracked.returned_unique

/-- A completion that a wait returns came with an earlier event. -/
theorem Tracks.waited (tracks : caller.Tracks) {script : Script} (calm : script.Calm)
    {record : CompletionRecord} {error : Option Errno}
    (waited : (caller.process.perform (.wait fd script)).1 = .waited ⟨some record, error⟩) :
    ∃ delivery ∈ caller.sent fd, delivery.record = record := by
  have current := @Tracks.current caller (.wait fd script) tracks calm
  rw [waited] at current
  have inside : record ∈ (caller.sent fd).map Delivery.record :=
    current.subset (List.mem_append_right _ (List.mem_singleton_self record))
  exact List.mem_map.mp inside

/-- Completions that passed the checks and are of different tasks may come. -/
theorem fresh_of_split
    (passes : ∀ message ∈ events.flatMap (Event.brings fd), message.Passes)
    (nodup : (completionIds (events.flatMap (Event.brings fd))).Nodup)
    (split : events = before ++ event :: after) :
    Fresh (before.flatMap (Event.deliveries fd)) (event.deliveries fd) := by
  rw [split, List.flatMap_append, List.flatMap_cons] at passes nodup
  constructor
  · intro delivery member
    exact passes _ (List.mem_append_right _
      (List.mem_append_left _ (Event.message_mem_brings member)))
  · rw [List.map_append, ← Event.completionIds_flatMap, ← Event.completionIds_brings]
    refine nodup.sublist ?_
    rw [← List.append_assoc, completionIds_append, completionIds_append]
    exact List.sublist_append_left _ _

end Caller

/-- What is true of an event of the process, given those before it. -/
structure Exchanged (world : World) (conn : Fd → Nat) (asked : Fd → List RequestCall)
    (before : List Event) (event : Event) (caller : Caller) : Prop where
  /-- The event happens. -/
  happens : ∃ next, caller.step event = .ok next
  /-- The waits so far have returned the completions of every connection in order, each once. -/
  ordered : ∀ fd, caller.InOrder fd ∧
    ((caller.returned fd).map fun record => record.taskId).Nodup
  /-- A call gets its reply and a payload is that of its completion. -/
  faithful : caller.Faithful event (caller.process.perform event).1
  /-- The reply to a call is the answer of the daemon to the request of the same call. -/
  replied : ∀ fd call reply behind script, event = .call fd call reply behind script →
    ∃ request, (asked fd)[(before.flatMap (Event.asks fd)).length]? = some request ∧
      request.awaits = call ∧
      (world.answered (conn fd))[(before.flatMap (Event.asks fd)).length]? =
        some request.request ∧ reply.message.Suits request.request
  /-- What a wait returns completes a task that an earlier call on the connection announced. -/
  announced : ∀ fd script record error, event = .wait fd script →
    (caller.process.perform event).1 = .waited ⟨some record, error⟩ →
    ∃ call result behind script, Event.call fd call (.submit result) behind script ∈ before ∧
      result.taskId = record.taskId ∧ result.res = completionResOk

/-! ## Every run of both -/

section Dialogue

variable {config : Config} {net : Network} {sent : Nat → List RecvOutcome} {actions : List Action}
  {log : Nat → List Message} {conn : Fd → Nat} {asked : Fd → List RequestCall}
  {events before after : List Event} {event : Event} {caller : Caller} {fd : Fd}

/-- Every connection on which something comes is linked, no number gets a second connection, and
the system calls of the process go well: every peek finds a whole header, no `recv` fails, and
there is memory. -/
structure Connected (config : Config) (sent : Nat → List RecvOutcome)
    (log : Nat → List Message) (conn : Fd → Nat) (asked : Fd → List RequestCall)
    (events : List Event) : Prop where
  linked : ∀ fd, events.flatMap (Event.brings fd) ≠ [] →
    Linked config.limits.ioBytesMax (sent (conn fd)) (log (conn fd)) fd (asked fd) events
  once : ∀ event ∈ events, ∀ fd, event ≠ .connect fd
  undisturbed : ∀ event ∈ events, event.Undisturbed

theorem Connected.brought (connected : Connected config sent log conn asked events)
    (logged : Logged net.world log) (passing : Passing net.world log) (legible : Legible log)
    (fd : Fd) :
    (∀ message ∈ events.flatMap (Event.brings fd), message.Passes ∧
      (message.replyType.isSome = true → Unlike message.encode)) ∧
      (completionIds (events.flatMap (Event.brings fd))).Nodup := by
  by_cases none : events.flatMap (Event.brings fd) = []
  · rw [none]
    exact ⟨nofun, List.nodup_nil⟩
  · have linked := connected.linked fd none
    exact ⟨linked.brought passing legible, linked.completionIds_nodup logged⟩

/-- So they go well up to every event. -/
theorem Connected.front (connected : Connected config sent log conn asked events)
    (split : events = before ++ after) : ∀ event ∈ before, event.Undisturbed := by
  intro event member
  exact connected.undisturbed event (split ▸ List.mem_append_left _ member)

/-- A connection on which a call is made is linked, and its reply is one of the messages. -/
theorem Connected.called (connected : Connected config sent log conn asked events) {call : Call}
    {reply : Reply} {behind : List Delivery} {script : Script}
    (split : events = before ++ .call fd call reply behind script :: after) :
    reply.message ∈ events.flatMap (Event.brings fd) ∧
      Linked config.limits.ioBytesMax (sent (conn fd)) (log (conn fd)) fd (asked fd) events := by
  have member : reply.message ∈ events.flatMap (Event.brings fd) := by
    refine List.mem_flatMap.mpr ⟨.call fd call reply behind script, ?_, ?_⟩
    · rw [split]
      exact List.mem_append_right _ List.mem_cons_self
    · unfold Event.brings
      rw [if_pos (show (Event.call fd call reply behind script).fd = fd from rfl)]
      exact List.mem_cons_self
  exact ⟨member, connected.linked fd (List.ne_nil_of_mem member)⟩

/-- Every event is one the library is prepared for. -/
theorem Connected.legal (connected : Connected config sent log conn asked events)
    (ran : run Network.step (.initial config sent) actions = .ok net)
    (logged : Logged net.world log) (passing : Passing net.world log) (legible : Legible log)
    (split : events = before ++ event :: after)
    (come : ∀ fd, caller.sent fd = before.flatMap (Event.deliveries fd)) : caller.Legal event := by
  have brought := connected.brought logged passing legible
  have fresh : Caller.Fresh (caller.sent event.fd) event.completions := by
    have new := Caller.fresh_of_split
      (fun message member => ((brought event.fd).1 message member).1) (brought event.fd).2 split
    rw [← come] at new
    unfold Event.deliveries at new
    rwa [if_pos rfl] at new
  cases event with
  | sends fd deliveries => exact fresh
  | call fd call reply behind script =>
      obtain ⟨member, linked⟩ := connected.called split
      obtain ⟨request, found, awaits, -, suits⟩ :=
        linked.replied logged passing (linked.requests ran) split (connected.front split)
      obtain ⟨passes, unlike⟩ := (brought fd).1 _ member
      refine ⟨?_, ?_, fresh⟩
      · rw [← awaits]
        exact (linked.sends request (List.mem_of_getElem? found)).answers passes suits
      · rw [← reply.encode_message]
        exact (unlike reply.replyType_message).2
  | unanswered fd call script => trivial
  | wait fd script => trivial
  | payload fd record capacity => trivial
  | connect fd => trivial

/-- Up to every event the process runs, and its completions are those that came. -/
theorem Connected.reaches (connected : Connected config sent log conn asked events)
    (ran : run Network.step (.initial config sent) actions = .ok net)
    (logged : Logged net.world log) (passing : Passing net.world log) (legible : Legible log)
    (split : events = before ++ after) :
    ∃ caller, run Caller.step .fresh before = .ok caller ∧ caller.Tracks ∧
      ∀ fd, caller.sent fd = before.flatMap (Event.deliveries fd) := by
  refine @run_knowing _ _ _ Caller.step .fresh events (fun before caller => caller.Tracks ∧
    ∀ fd, caller.sent fd = before.flatMap (Event.deliveries fd)) ?_
    ⟨Caller.tracks_fresh, fun _ => rfl⟩ before after split
  rintro before event after caller split ⟨tracks, come⟩
  have inside : event ∈ events := split ▸ List.mem_append_right _ List.mem_cons_self
  have once := connected.once event inside
  have happened : caller.step event = .ok _ :=
    if_pos (connected.legal ran logged passing legible split come)
  refine ⟨_, happened, tracks.stepped ?_ (connected.undisturbed event inside) happened, ?_⟩
  · cases event with
    | connect fd => exact absurd rfl (once fd)
    | _ => trivial
  · intro fd
    rw [Caller.sent_stepped happened once, come, List.flatMap_append, List.flatMap_singleton]

/-- The library and the daemon understand each other. In every run of the daemon whose kernel
reports honestly, and whatever its other peers do, a process that calls the library on linked
connections, and whose own system calls go well, finds every event to be as the library promises,
in however many pieces its messages arrive. -/
theorem library_understood
    (ran : run Network.step (.initial config sent) actions = .ok net)
    (looped : ∀ action ∈ actions, action.looped = true)
    (kept : Along Network.step (fun net action => honest net.world.rt action = true)
      (.initial config sent) actions) (short : actions.length < completionHeader) :
    Logged net.world net.world.transcript ∧
      ∀ conn asked events, Connected config sent net.world.transcript conn asked events →
        ∀ before event after, events = before ++ event :: after →
          ∃ caller, run Caller.step .fresh before = .ok caller ∧
            Exchanged net.world conn asked before event caller := by
  obtain ⟨performed, below, length, loops, along⟩ := Network.run_world ran looped
  have honestly : (fun (net : Network) action => honest net.world.rt action = true) =
      fun net action => honest net.world.rt (net.action action) = true := by
    funext net action
    cases action with
    | _ => rfl
  rw [honestly] at kept
  obtain ⟨log, logged, passing, legible⟩ := emissions_legible below loops
    (along (fun world action => honest world.rt action = true) kept) (length ▸ short)
  have read : net.world.transcript = log := funext (logged.transcript passing legible)
  rw [read]
  refine ⟨logged, ?_⟩
  intro conn asked events connected before event after split
  obtain ⟨caller, reached, tracks, come⟩ := connected.reaches ran logged passing legible split
  have legal := connected.legal ran logged passing legible split come
  have smooth := connected.undisturbed event (split ▸ List.mem_append_right _ List.mem_cons_self)
  refine ⟨caller, reached, ⟨_, if_pos legal⟩,
    fun fd => ⟨tracks.inOrder fd, tracks.returned_nodup fd⟩, tracks.faithful legal smooth, ?_, ?_⟩
  · rintro fd call reply behind script rfl
    obtain ⟨-, linked⟩ := connected.called split
    exact linked.replied logged passing (linked.requests ran) split (connected.front split)
  · rintro fd script record error rfl waited
    obtain ⟨delivery, sent, rfl⟩ := tracks.waited smooth waited
    rw [come] at sent
    have completed : delivery.record.taskId ∈ completionIds (before.flatMap (Event.brings fd)) := by
      rw [Event.completionIds_flatMap]
      exact List.mem_map_of_mem sent
    have some : events.flatMap (Event.brings fd) ≠ [] := by
      intro none
      rw [split, List.flatMap_append] at none
      rw [(List.append_eq_nil_iff.mp none).1] at completed
      cases completed
    have front : before.flatMap (Event.brings fd) <+: (log (conn fd)).tail := by
      refine List.IsPrefix.trans ?_ (connected.linked fd some).brings
      rw [split, List.flatMap_append]
      exact List.prefix_append _ _
    exact Event.announced (logged.announced_before front completed)

end Dialogue

/-- One peer sends the handshake and, after a while, a NOP. -/
def sendingNop (conn : Nat) : List RecvOutcome :=
  if conn = 0 then
    [.data clientHandshakeRequest.encode [] false, .again,
      .data (RequestCall.submitNop.bytes 4) [] false]
  else []

/-- The daemon reads it and the kernel completes it. -/
def servingNop : List Action :=
  [.connect 7 ⟨true, true⟩, .input 0 [], .input 0 [], .input 0 [], .dispatch 0 .smooth,
    .post 0 0, .reap .smooth]

/-- The completion of the NOP. -/
def firstNop : Delivery :=
  ⟨⟨wireMagic, protocolMajor, protocolMinor, 1, 0, RequestKind.nop.toWire, 0⟩, []⟩

/-- The process makes the call, whose reply arrives in two pieces, and waits for the completion. -/
def callingNop : List Event :=
  [.call 4 .submit (.submit ⟨1, 0, 0⟩) [] ⟨[.interrupted], [.bytes 7], []⟩,
    .sends 4 [firstNop], .wait 4 .smooth]

/-- The wait finds the completion of the call. -/
theorem library_understood_nop :
    ∃ net caller, run Network.step (.initial (.small 1 (by decide) (by decide)) sendingNop)
        servingNop = .ok net ∧
      run Caller.step .fresh (callingNop.take 2) = .ok caller ∧
      ((caller.process.under .smooth).waitCompletion 4).1.result = some firstNop.record ∧
      Exchanged net.world (fun _ => 0) (fun _ => [.submitNop]) (callingNop.take 2)
        (.wait 4 .smooth) caller := by
  have seen : ((run Network.step (.initial (.small 1 (by decide) (by decide)) sendingNop)
      servingNop).toOption.map fun net => (net.world.transcript 0).tail) =
      some (callingNop.flatMap (Event.brings 4)) := by decide +kernel
  have waits : ((run Caller.step .fresh (callingNop.take 2)).toOption.map fun caller =>
      ((caller.process.under .smooth).waitCompletion 4).1.result) =
      some (some firstNop.record) := by decide +kernel
  have checked : checkAlong Network.step (fun net action => honest net.world.rt action)
      (.initial (.small 1 (by decide) (by decide)) sendingNop) servingNop = true := by
    decide +kernel
  have looped : ∀ action ∈ servingNop, action.looped = true := by
    rw [← List.all_eq_true]
    rfl
  obtain ⟨net, ran, tail⟩ := exists_of_toOption_map seen
  obtain ⟨waiting, reached, result⟩ := exists_of_toOption_map waits
  have connected : Connected (.small 1 (by decide) (by decide)) sendingNop net.world.transcript
      (fun _ => 0) (fun _ => [.submitNop]) callingNop := by
    refine ⟨?_, ?_, by decide⟩
    · intro fd some
      have same : fd = 4 := by
        by_contra other
        refine some (List.flatMap_eq_nil_iff.mpr fun event member => ?_)
        have four : event.fd = 4 := by
          simp only [callingNop, List.mem_cons, List.not_mem_nil, or_false] at member
          rcases member with rfl | rfl | rfl
          · rfl
          · rfl
          · rfl
        exact if_neg fun here => other (here.symm.trans four)
      subst same
      refine ⟨?_, ⟨RequestCall.submitNop.bytes 4, ?_, ?_⟩, ?_, ?_⟩
      · intro call member
        rw [List.mem_singleton] at member
        subst member
        exact ⟨_, rfl, by decide, by decide, by decide⟩
      · rw [List.flatMap_singleton]
      · have proper := @Written.arrives_proper 16 9 ⟨RequestCall.submitNop.bytes 4, none⟩
          [RequestCall.submitNop.bytes 4] (by decide) nofun (by decide)
        refine .speaks [.data clientHandshakeRequest.encode [] false, .again]
          [.data (RequestCall.submitNop.bytes 4) [] false] [] ?_
          (by decide) proper (by decide) .none
        intro outcome member
        rcases List.mem_cons.mp member with rfl | rest
        · exact Or.inr (Or.inr ⟨_, rfl⟩)
        · exact Or.inl (List.mem_singleton.mp rest)
      · exact List.prefix_rfl
      · rw [tail]
    · intro event member fd same
      subst same
      simp only [callingNop, List.mem_cons, List.not_mem_nil, or_false, reduceCtorEq] at member
  obtain ⟨-, understood⟩ := library_understood ran looped (along_of_checkAlong checked) (by decide)
  obtain ⟨caller, again, exchanged⟩ := understood (fun _ => 0) (fun _ => [.submitNop]) callingNop
    connected (callingNop.take 2) (.wait 4 .smooth) [] rfl
  rw [reached] at again
  cases again
  exact ⟨net, waiting, ran, reached, result, exchanged⟩

end Iouringd
