import Iouringd.Daemon.Messages

/-! # Sessions

What was queued for a connection, read as a list of messages. `Logged` ties the messages
to the observer's notes: the bytes are those of the messages, a log opens with the answers
to handshakes, replies come in the order of the requests, and a completion is in the log
of the connection that submitted the task, once, if that was open when it was read.
-/

namespace Iouringd

open Foundation

/-- No handshake has been accepted yet. -/
def Opening (log : List Message) : Prop :=
  ∀ message ∈ log, ∃ result, message = .greeting result ∧ result.status = handshakeReject

/-- A handshake was accepted, and what follows is no handshake. -/
def Established (log : List Message) : Prop :=
  ∃ refusals result body, log = refusals ++ .greeting result :: body ∧ Opening refusals ∧
    result.status = handshakeAccept ∧ ∀ message ∈ body, message.isGreeting = false

/-- The request that waits to be dispatched. -/
def Client.waiting (client : Client) : List Request :=
  if client.requestReady then [client.decodedRequest] else []

/-- The log after a step that queues `extra`. -/
def World.extend (world : World) (log extra : Nat → List Message) (conn : Nat) : List Message :=
  log conn ++ ((world.hostOf conn).map extra).getD []

/-- What was sent on each connection, as messages, and how it stands to the world. -/
structure Logged (world : World) (log : Nat → List Message) : Prop where
  bytes : ∀ conn, world.stream conn = (log conn).flatMap Message.encode
  whole : ∀ conn, ∀ message ∈ log conn, message.Whole
  fresh : ∀ conn, world.opened ≤ conn →
    log conn = [] ∧ world.requests conn = [] ∧ world.answered conn = []
  shape : ∀ conn, Opening (log conn) ∨ Established (log conn)
  replies : ∀ conn, replyTypes (log conn) = (world.answered conn).map (·.kind.replyType)
  answered : ∀ conn, world.answered conn <+: world.requests conn
  phases : ∀ conn index, world.hostOf conn = some index →
    ((world.rt.clients index).phase = .handshake → Opening (log conn)) ∧
      ((world.rt.clients index).phase = .submit → Established (log conn))
  waiting : ∀ conn index, world.hostOf conn = some index →
    world.requests conn = world.answered conn ++ (world.rt.clients index).waiting
  announced : ∀ conn, ∀ id ∈ acceptIds (log conn), id = taskIdInvalid ∨
    world.owner id = some conn ∧ id < world.rt.nextTaskId
  tasks : ∀ taskIndex, world.rt.occupied taskIndex = true → ∃ conn,
    world.owner (world.rt.tasks taskIndex).taskId = some conn ∧
      (world.rt.tasks taskIndex).taskId ∈ acceptIds (log conn)
  completions : ∀ conn id, (completionIds (log conn)).count id =
    if world.owner id = some conn ∧ (id, true) ∈ world.reaped then 1 else 0
  preceded : ∀ conn, ∀ id ∈ completionIds (log conn), id ∈ acceptIds (log conn)
  ordered : ∀ conn, (log conn).Pairwise fun earlier later =>
    ∀ id, later.accepts = some id → earlier.completes ≠ some id
  reaped : ∀ entry ∈ world.reaped, 1 ≤ entry.1 ∧ entry.1 < world.rt.nextTaskId ∧
    ∀ taskIndex, world.rt.occupied taskIndex = true →
      (world.rt.tasks taskIndex).taskId ≠ entry.1
  once : (world.reaped.map Prod.fst).Nodup

/-! ## One entry -/

section Entry

variable {client after : Client} {messages : List Message}

/-- A log of handshake results goes on. -/
theorem Opening.append {log more : List Message} (opening : Opening log) (rest : Opening more) :
    Opening (log ++ more) := by
  intro message member
  rcases List.mem_append.mp member with old | new
  · exact opening message old
  · exact rest message new

/-- An established log goes on without another greeting. -/
theorem Established.append {log more : List Message} (established : Established log)
    (rest : ∀ message ∈ more, message.isGreeting = false) : Established (log ++ more) := by
  obtain ⟨refusals, result, body, same, opening, accepted, plain⟩ := established
  refine ⟨refusals, result, body ++ more, ?_, opening, accepted, ?_⟩
  · rw [same, List.append_assoc, List.cons_append]
  · intro message member
    rcases List.mem_append.mp member with old | new
    · exact plain message old
    · exact rest message new

/-- A log without an accepted handshake announces no task. -/
theorem Opening.acceptIds {log : List Message} (opening : Opening log) : acceptIds log = [] := by
  apply List.filterMap_eq_nil_iff.mpr
  intro message member
  obtain ⟨result, same, -⟩ := opening message member
  subst same
  rfl

/-- A step sends whole messages. -/
theorem SessionStep.whole (session : SessionStep client after messages) :
    ∀ message ∈ messages, message.Whole := by
  cases session with
  | greeted result | answered message | delivered record payload =>
      intro queued member
      rw [List.mem_singleton] at member
      subst member
      first | assumption | trivial
  | _ => exact nofun

/-- A step queues one message at most. -/
theorem SessionStep.pairwise (session : SessionStep client after messages)
    (related : Message → Message → Prop) : messages.Pairwise related := by
  cases session with
  | greeted result | answered message | delivered record payload =>
      exact List.pairwise_singleton _ _
  | _ => exact List.Pairwise.nil

/-- The bytes a step adds to the output of an entry that stays open. -/
theorem SessionStep.pending (session : SessionStep client after messages)
    (active : after.isActive = true) :
    after.pendingOutput.drop client.pendingOutput.length =
      messages.flatMap Message.encode := by
  cases session with
  | quiet phase ready request closing pending =>
      obtain ⟨count, pending⟩ := pending
      rw [pending, List.drop_drop, List.drop_eq_nil_of_le (Nat.le_add_left _ _)]
      rfl
  | received submit phase idle ready closing pending =>
      rw [pending, List.drop_length]
      rfl
  | greeted result _ phase idle ready answer pending =>
      rw [pending, List.drop_left, List.flatMap_singleton]
      rfl
  | answered message _ phase samePhase ready idle whole type pending =>
      rw [pending, List.drop_left, List.flatMap_singleton]
  | delivered record payload _ phase ready request closing whole pending =>
      rw [pending, List.drop_left, List.flatMap_singleton]
      rfl
  | closed inactive ready =>
      rw [inactive] at active
      cases active

/-- An entry that is not open any more was sent nothing. -/
theorem SessionStep.inactive (session : SessionStep client after messages)
    (inactive : after.isActive = false) : messages = [] := by
  cases session with
  | greeted result active | answered message active | delivered record payload active =>
      rw [active] at inactive
      cases inactive
  | _ => rfl

end Entry

section Notes

variable {rt next : Runtime} {index : Nat} {messages : List Message}

/-- The bytes of a step are those of its messages. -/
theorem SessionStep.queuedBytes
    (session : SessionStep (rt.clients index) (next.clients index) messages) :
    queuedBytes rt next index = messages.flatMap Message.encode := by
  unfold Iouringd.queuedBytes
  cases active : (next.clients index).isActive with
  | true => exact session.pending active
  | false =>
      rw [session.inactive active]
      rfl

/-- A step queues a reply exactly when it finishes a request, and of its type. -/
theorem SessionStep.replyTypes
    (session : SessionStep (rt.clients index) (next.clients index) messages) :
    replyTypes messages = (answeredRequest rt next index).map (·.kind.replyType) := by
  unfold answeredRequest
  cases session with
  | quiet phase ready request closing pending =>
      rw [ready]
      cases (rt.clients index).requestReady <;> rfl
  | received submit phase idle ready closing pending =>
      rw [idle]
      rfl
  | greeted result _ phase idle ready answer pending =>
      rw [idle]
      rfl
  | answered message active phase samePhase ready idle whole type pending =>
      rw [ready, idle, active]
      change [message].filterMap Message.replyType = [_]
      rw [List.filterMap_cons_some type]
      rfl
  | delivered record payload _ phase ready request closing whole pending =>
      rw [ready]
      cases (rt.clients index).requestReady <;> rfl
  | closed inactive ready =>
      rw [inactive, Bool.and_false]
      rfl

/-- The books of requests received and answered stay balanced by the one that waits. -/
theorem SessionStep.waiting (active : (next.clients index).isActive = true)
    (session : SessionStep (rt.clients index) (next.clients index) messages) :
    (rt.clients index).waiting ++ receivedRequest rt next index =
      answeredRequest rt next index ++ (next.clients index).waiting := by
  unfold receivedRequest answeredRequest Client.waiting
  rw [active]
  cases session with
  | quiet phase ready request closing pending =>
      rw [ready]
      cases before : (rt.clients index).requestReady with
      | true => simp only [request before, Bool.not_true, Bool.and_true, Bool.and_false,
          Bool.false_eq_true, ↓reduceIte, List.append_nil, List.nil_append]
      | false => rfl
  | received submit phase idle ready closing pending =>
      rw [idle, ready]
      rfl
  | greeted result _ phase idle ready answer pending =>
      rw [idle, ready]
      rfl
  | answered message _ phase samePhase ready idle whole type pending =>
      rw [ready, idle]
      rfl
  | delivered record payload _ phase ready request closing whole pending =>
      rw [ready, request]
      cases (rt.clients index).requestReady <;> rfl
  | closed inactive ready =>
      rw [inactive] at active
      cases active

/-- A connection that is closed takes no more requests. -/
theorem SessionStep.answeredRequest (inactive : (next.clients index).isActive = false) :
    answeredRequest rt next index = [] := by
  unfold Iouringd.answeredRequest
  rw [inactive, Bool.and_false]
  rfl

/-- How the log of an open connection goes on: in the handshake phase by greetings, one
of which may be accepted, afterwards without them. A completion is for a connection that
was established. -/
theorem SessionStep.shape {log : List Message}
    (session : SessionStep (rt.clients index) (next.clients index) messages)
    (phases : ((rt.clients index).phase = .handshake → Opening log) ∧
      ((rt.clients index).phase = .submit → Established log))
    (served : completionIds messages ≠ [] → ¬ Opening log) :
    (Opening (log ++ messages) ∨ Established (log ++ messages)) ∧
      ((next.clients index).isActive = true →
        ((next.clients index).phase = .handshake → Opening (log ++ messages)) ∧
          ((next.clients index).phase = .submit → Established (log ++ messages))) := by
  have either : Opening log ∨ Established log := by
    cases phase : (rt.clients index).phase with
    | handshake => exact Or.inl (phases.1 phase)
    | submit => exact Or.inr (phases.2 phase)
  cases session with
  | quiet phase ready request closing pending =>
      rw [List.append_nil, phase]
      exact ⟨either, fun _ => phases⟩
  | received submit phase idle ready closing pending =>
      rw [List.append_nil, phase]
      exact ⟨either, fun _ => phases⟩
  | greeted result _ phase idle ready answer pending =>
      have opening := phases.1 phase
      rcases answer with ⟨status, submit⟩ | ⟨status, handshake, -⟩
      · have established : Established (log ++ [.greeting result]) :=
          ⟨log, result, [], rfl, opening, status, nofun⟩
        refine ⟨Or.inr established, fun _ => ⟨?_, fun _ => established⟩⟩
        rw [submit]
        exact nofun
      · have refused : Opening (log ++ [.greeting result]) := by
          apply opening.append
          intro message member
          rw [List.mem_singleton] at member
          exact ⟨result, member, status⟩
        refine ⟨Or.inl refused, fun _ => ⟨fun _ => refused, ?_⟩⟩
        rw [handshake]
        exact nofun
  | answered message active phase samePhase ready idle whole type pending =>
      have established : Established (log ++ [message]) := by
        refine (phases.2 phase).append ?_
        intro queued member
        rw [List.mem_singleton] at member
        subst member
        cases queued with
        | greeting result => cases type
        | _ => rfl
      refine ⟨Or.inr established, fun _ => ⟨?_, fun _ => established⟩⟩
      rw [samePhase]
      exact nofun
  | delivered record payload _ phase ready request closing whole pending =>
      have established : Established (log ++ [.completion record payload]) := by
        refine (either.resolve_left (served nofun)).append ?_
        intro queued member
        rw [List.mem_singleton] at member
        subst member
        rfl
      refine ⟨Or.inr established, fun _ => ⟨?_, fun _ => established⟩⟩
      intro handshake
      exact absurd (phases.1 (phase ▸ handshake)) (served nofun)
  | closed inactive ready =>
      rw [List.append_nil]
      refine ⟨either, ?_⟩
      rw [inactive]
      exact nofun

end Notes

/-! ## One step -/

section Step

variable {config : Config} {world : World} {action : Action} {next : Runtime}
  {log extra : Nat → List Message}

/-- A connection starts in the handshake, with no request. -/
theorem ClientStep.opened_entry {rt : Runtime} {index : Nat} (view : ClientStep rt next index)
    (opens : opensAt rt next index = true) :
    (next.clients index).phase = .handshake ∧ (next.clients index).requestReady = false := by
  obtain ⟨fd, -, entry⟩ := view.entry_of_opens opens
  rw [entry]
  exact ⟨rfl, rfl⟩

/-- At most one task is reaped. -/
theorem World.reapedAfter_eq (world : World) (action : Action) :
    world.reapedAfter action = world.reaped ++
      (world.reaping action).toList.map fun id => (id, world.ownerOpen id) := by
  cases action with
  | reap env =>
      simp only [World.reapedAfter, World.reaping]
      cases (ringPeekCompletion world.rt.ring).2 with
      | none => exact (List.append_nil _).symm
      | some cqe => rfl
  | _ => exact (List.append_nil _).symm

/-- A completion that is read is that of an active task, which then is active no more. -/
theorem Hosted.reaping_task (hosted : Hosted config world)
    (taken : step world.rt action = .ok next) {id : TaskId}
    (reaping : world.reaping action = some id) :
    ∃ taskIndex, world.rt.occupied taskIndex = true ∧ (world.rt.tasks taskIndex).taskId = id ∧
      next.occupied taskIndex = false := by
  have effect := step_effect hosted.invariant.grounded taken
  cases action with
  | reap env =>
      cases effect with
      | idle _ unread =>
          unfold World.reaping at reaping
          rw [unread env rfl] at reaping
          cases reaping
      | completed _ taskIndex res ring _ occupied source completed =>
          obtain ⟨cqe, peeked, found, -⟩ := source
          have matching := (firstBelow_some found).2
          simp only [Bool.and_eq_true, beq_iff_eq] at matching
          unfold World.reaping at reaping
          rw [peeked] at reaping
          refine ⟨taskIndex, occupied, matching.2.trans (Option.some.inj reaping), ?_⟩
          have cleared : next.tasks taskIndex = .cleared := by
            rw [completed.frame]
            exact Function.update_self _ _ _
          simp only [Runtime.occupied, cleared, TaskSlot.cleared, Bool.and_false]
  | _ => cases reaping

section Hosts

variable (hosted : Hosted config world)
  (taken : step world.rt action = .ok next)

include hosted taken

/-- The entry that serves a connection after the step served it before, or opened it. -/
theorem Hosted.host_after {conn index : Nat}
    (hosts : (world.advance action next).hostOf conn = some index) :
    (conn = world.opened ∧ opensAt world.rt next index = true) ∨
      (world.hostOf conn = some index ∧ (next.clients index).isActive = true) := by
  have after := hosted.stepped taken
  obtain ⟨active, serves⟩ := after.hostOf_eq_some.mp hosts
  change (next.clients index).isActive = true at active
  unfold World.advance at serves
  dsimp only at serves
  split at serves
  · rename_i opens
    exact Or.inl ⟨(Option.some.inj serves).symm, opens⟩
  · rename_i opens
    refine Or.inr ⟨hosted.hostOf_eq_some.mpr ⟨?_, serves⟩, active⟩
    simpa only [opensAt, active, Bool.and_true, Bool.not_eq_true', Bool.not_eq_false] using opens

end Hosts

/-- A connection that has not been opened has no entry. -/
theorem Hosted.hostOf_eq_none (hosted : Hosted config world) {conn : Nat}
    (unopened : world.opened ≤ conn) : world.hostOf conn = none := by
  cases hosts : world.hostOf conn with
  | none => rfl
  | some index =>
      have bound := hosted.bounded index conn (hosted.hostOf_eq_some.mp hosts).2
      omega

/-- The log of a connection that no entry serves stays as it is. -/
theorem World.extend_none {conn : Nat} (closed : world.hostOf conn = none) :
    world.extend log extra conn = log conn := by
  unfold World.extend
  rw [closed]
  exact List.append_nil _

/-- The messages of the step go to the connection behind the client. -/
theorem World.extend_some {conn index : Nat} (hosts : world.hostOf conn = some index) :
    world.extend log extra conn = log conn ++ extra index := by
  unfold World.extend
  rw [hosts]
  rfl

section Fields

variable (hosted : Hosted config world) (logged : Logged world log)
  (taken : step world.rt action = .ok next) (emission : Emission world action next extra)

include hosted emission in
/-- What the entry of a connection does. -/
theorem Emission.of_host {conn index : Nat} (hosts : world.hostOf conn = some index) :
    SessionStep (world.rt.clients index) (next.clients index) (extra index) :=
  emission.session index (hosted.hostOf_eq_some.mp hosts).1

include hosted logged emission

/-- The messages still are the bytes of the stream. -/
theorem Logged.bytes_after (conn : Nat) : (world.advance action next).stream conn =
    (world.extend log extra conn).flatMap Message.encode := by
  change world.stream conn ++ _ = _
  cases hosts : world.hostOf conn with
  | none =>
      rw [World.extend_none hosts, logged.bytes conn]
      exact List.append_nil _
  | some index =>
      rw [World.extend_some hosts, List.flatMap_append, logged.bytes conn,
        ← (emission.of_host hosted hosts).queuedBytes]
      rfl

/-- The messages are whole ones. -/
theorem Logged.whole_after (conn : Nat) :
    ∀ message ∈ world.extend log extra conn, message.Whole := by
  intro message member
  cases hosts : world.hostOf conn with
  | none =>
      rw [World.extend_none hosts] at member
      exact logged.whole conn message member
  | some index =>
      rw [World.extend_some hosts] at member
      rcases List.mem_append.mp member with old | new
      · exact logged.whole conn message old
      · exact (emission.of_host hosted hosts).whole message new

omit emission in
/-- Nothing is noted about a connection before it is opened. -/
theorem Logged.fresh_after {conn : Nat} (unopened : world.opened ≤ conn) :
    world.extend log extra conn = [] ∧ (world.advance action next).requests conn = [] ∧
      (world.advance action next).answered conn = [] := by
  have closed := hosted.hostOf_eq_none unopened
  obtain ⟨empty, requests, answered⟩ := logged.fresh conn unopened
  refine ⟨(World.extend_none closed).trans empty, ?_, ?_⟩
  · change world.requests conn ++ _ = []
    rw [closed, requests]
    rfl
  · change world.answered conn ++ _ = []
    rw [closed, answered]
    rfl

/-- The replies are of the types of the requests that were answered. -/
theorem Logged.replies_after (conn : Nat) : replyTypes (world.extend log extra conn) =
    ((world.advance action next).answered conn).map (·.kind.replyType) := by
  change _ = (world.answered conn ++ _).map _
  cases hosts : world.hostOf conn with
  | none =>
      rw [World.extend_none hosts, logged.replies conn, Option.map_none, Option.getD_none,
        List.append_nil]
  | some index =>
      rw [World.extend_some hosts, Option.map_some, Option.getD_some, List.map_append,
        ← logged.replies conn, ← (emission.of_host hosted hosts).replyTypes]
      exact List.filterMap_append

/-- The request that waits is the one that was received and not answered. -/
theorem Logged.waiting_of_open {conn index : Nat} (hosts : world.hostOf conn = some index)
    (active : (next.clients index).isActive = true) :
    (world.advance action next).requests conn =
      (world.advance action next).answered conn ++ (next.clients index).waiting := by
  change world.requests conn ++ _ = (world.answered conn ++ _) ++ _
  rw [hosts, Option.map_some, Option.getD_some, Option.map_some, Option.getD_some,
    logged.waiting conn index hosts, List.append_assoc, List.append_assoc,
    (emission.of_host hosted hosts).waiting active]

/-- Requests are answered in the order in which they came. -/
theorem Logged.answered_after (conn : Nat) :
    (world.advance action next).answered conn <+: (world.advance action next).requests conn := by
  cases hosts : world.hostOf conn with
  | none =>
      change world.answered conn ++ _ <+: world.requests conn ++ _
      rw [hosts]
      simpa only [Option.map_none, Option.getD_none, List.append_nil] using logged.answered conn
  | some index =>
      cases active : (next.clients index).isActive with
      | true =>
          rw [logged.waiting_of_open hosted emission hosts active]
          exact List.prefix_append _ _
      | false =>
          change world.answered conn ++ _ <+: world.requests conn ++ _
          rw [hosts, Option.map_some, Option.getD_some, SessionStep.answeredRequest active,
            List.append_nil]
          exact (logged.answered conn).trans (List.prefix_append _ _)

include taken

/-- A connection that gets a completion was answered when it submitted the task. -/
theorem Logged.completion_established {conn index : Nat} (hosts : world.hostOf conn = some index)
    {id : TaskId} (member : id ∈ completionIds (extra index)) :
    world.reaping action = some id ∧ world.owner id = some conn ∧ id ∈ acceptIds (log conn) := by
  obtain ⟨active, serves⟩ := hosted.hostOf_eq_some.mp hosts
  rw [emission.completes index active, List.mem_filter, Option.mem_toList, beq_iff_eq, serves]
    at member
  obtain ⟨reaping, own⟩ := member
  obtain ⟨taskIndex, occupied, taskId, -⟩ := hosted.reaping_task taken reaping
  obtain ⟨other, owner, announced⟩ := logged.tasks taskIndex occupied
  rw [taskId, own] at owner
  cases owner
  rw [taskId] at announced
  exact ⟨reaping, own, announced⟩

/-- The shape of the log of a connection that has a client. -/
theorem Logged.shape_of_host {conn index : Nat} (hosts : world.hostOf conn = some index) :
    (Opening (log conn ++ extra index) ∨ Established (log conn ++ extra index)) ∧
      ((next.clients index).isActive = true →
        ((next.clients index).phase = .handshake → Opening (log conn ++ extra index)) ∧
          ((next.clients index).phase = .submit → Established (log conn ++ extra index))) := by
  refine (emission.of_host hosted hosts).shape (logged.phases conn index hosts) ?_
  intro some opening
  obtain ⟨id, member⟩ := List.exists_mem_of_ne_nil _ some
  have announced := (logged.completion_established hosted taken emission hosts member).2.2
  rw [opening.acceptIds] at announced
  cases announced

/-- The shape of the log of any connection. -/
theorem Logged.shape_after (conn : Nat) :
    Opening (world.extend log extra conn) ∨ Established (world.extend log extra conn) := by
  cases hosts : world.hostOf conn with
  | none =>
      rw [World.extend_none hosts]
      exact logged.shape conn
  | some index =>
      rw [World.extend_some hosts]
      exact (logged.shape_of_host hosted taken emission hosts).1

/-- What waits at the client is what was asked and not yet answered. -/
theorem Logged.waiting_after {conn index : Nat}
    (hosts : (world.advance action next).hostOf conn = some index) :
    (world.advance action next).requests conn =
      (world.advance action next).answered conn ++ (next.clients index).waiting := by
  rcases hosted.host_after taken hosts with ⟨same, opens⟩ | ⟨before, active⟩
  · subst same
    obtain ⟨-, requests, answered⟩ := @Logged.fresh_after config world action next log extra
      hosted logged world.opened (Nat.le_refl _)
    have entry := (step_clients hosted.invariant.grounded taken index).opened_entry opens
    rw [requests, answered, Client.waiting, entry.2]
    rfl
  · exact logged.waiting_of_open hosted emission before active

/-- The phase of the client tells the shape of the log. -/
theorem Logged.phases_after {conn index : Nat}
    (hosts : (world.advance action next).hostOf conn = some index) :
    ((next.clients index).phase = .handshake → Opening (world.extend log extra conn)) ∧
      ((next.clients index).phase = .submit → Established (world.extend log extra conn)) := by
  rcases hosted.host_after taken hosts with ⟨same, opens⟩ | ⟨before, active⟩
  · subst same
    have empty := (@Logged.fresh_after config world action next log extra hosted logged
      world.opened (Nat.le_refl _)).1
    have entry := (step_clients hosted.invariant.grounded taken index).opened_entry opens
    rw [empty, entry.1]
    exact ⟨fun _ => nofun, nofun⟩
  · rw [World.extend_some before]
    exact (logged.shape_of_host hosted taken emission before).2 active

end Fields

/-- Tasks that were started before keep their owner. -/
theorem Hosted.owner_kept (hosted : Hosted config world)
    (taken : step world.rt action = .ok next) {id : TaskId} (older : id < world.rt.nextTaskId) :
    (world.advance action next).owner id = world.owner id := by
  have shape := step_shape hosted.invariant.grounded taken
  have kept : id ∉ startedIds world.rt next := by
    intro drawn
    exact absurd (shape.startedIds_bounds drawn).1 (UInt64.not_le.mpr older)
  change world.ownerAfter next action id = _
  cases action with
  | dispatch index env => exact if_neg kept
  | _ => rfl

/-- What was accepted stays accepted. -/
theorem World.mem_acceptIds_extend {conn : Nat} {id : TaskId}
    (member : id ∈ acceptIds (log conn)) : id ∈ acceptIds (world.extend log extra conn) := by
  unfold World.extend acceptIds
  rw [List.filterMap_append]
  exact List.mem_append_left _ member

/-- Ids of active tasks have been drawn. -/
theorem Hosted.active_id (hosted : Hosted config world) {taskIndex : Nat}
    (occupied : world.rt.occupied taskIndex = true) :
    1 ≤ (world.rt.tasks taskIndex).taskId ∧
      (world.rt.tasks taskIndex).taskId < world.rt.nextTaskId :=
  hosted.invariant.ledger.ids taskIndex occupied

section Routing

variable (hosted : Hosted config world) (logged : Logged world log)
  (taken : step world.rt action = .ok next) (emission : Emission world action next extra)

include hosted logged taken emission

/-- Accepted ids belong to the connection and are below the counter. -/
theorem Logged.announced_after (conn : Nat) :
    ∀ id ∈ acceptIds (world.extend log extra conn), id = taskIdInvalid ∨
      (world.advance action next).owner id = some conn ∧ id < next.nextTaskId := by
  have shape := step_shape hosted.invariant.grounded taken
  have old : ∀ id ∈ acceptIds (log conn), id = taskIdInvalid ∨
      (world.advance action next).owner id = some conn ∧ id < next.nextTaskId := by
    intro id member
    rcases logged.announced conn id member with invalid | ⟨owner, older⟩
    · exact Or.inl invalid
    · exact Or.inr ⟨(hosted.owner_kept taken older).trans owner,
        UInt64.lt_of_lt_of_le older shape.nextTaskId_le⟩
  intro id member
  cases hosts : world.hostOf conn with
  | none =>
      rw [World.extend_none hosts] at member
      exact old id member
  | some index =>
      rw [World.extend_some hosts, acceptIds, List.filterMap_append] at member
      rcases List.mem_append.mp member with before | new
      · exact old id before
      · rcases emission.accepts index id new with invalid | ⟨started, env, dispatch⟩
        · exact Or.inl invalid
        · subst dispatch
          refine Or.inr ⟨?_, (shape.startedIds_bounds started).2⟩
          exact (if_pos started).trans (hosted.hostOf_eq_some.mp hosts).2

/-- Every task was announced to the connection it belongs to. -/
theorem Logged.tasks_after {taskIndex : Nat} (occupied : next.occupied taskIndex = true) :
    ∃ conn, (world.advance action next).owner (next.tasks taskIndex).taskId = some conn ∧
      (next.tasks taskIndex).taskId ∈ acceptIds (world.extend log extra conn) := by
  rcases hosted.started_or_before taken occupied with
    ⟨index, env, started, credits, dispatch, connected, start, answered, drawn⟩ | ⟨before, older⟩
  · obtain ⟨entry, env', dispatch', active, announced⟩ := emission.starts _ drawn
    subst dispatch'
    obtain ⟨conn, serves⟩ := Option.isSome_iff_exists.mp (hosted.known entry active).2
    refine ⟨conn, (if_pos drawn).trans serves, ?_⟩
    rw [World.extend_some (hosted.hostOf_eq_some.mpr ⟨active, serves⟩), acceptIds,
      List.filterMap_append]
    exact List.mem_append_right _ announced
  · have same : (next.tasks taskIndex).taskId = (world.rt.tasks taskIndex).taskId := by
      rw [(step_shape hosted.invariant.grounded taken).same_task before occupied]
    obtain ⟨conn, owner, announced⟩ := logged.tasks taskIndex before
    rw [same]
    exact ⟨conn, (hosted.owner_kept taken (hosted.active_id before).2).trans owner,
      World.mem_acceptIds_extend announced⟩

omit logged taken in
/-- The completions a step adds to a log. -/
theorem Emission.count_completions (conn : Nat) (id : TaskId) :
    (completionIds (((world.hostOf conn).map extra).getD [])).count id =
      if world.reaping action = some id ∧ world.owner id = some conn ∧
        (world.hostOf conn).isSome = true then 1 else 0 := by
  cases hosts : world.hostOf conn with
  | none =>
      rw [if_neg (fun all => absurd all.2.2 Bool.false_ne_true)]
      rfl
  | some index =>
      obtain ⟨active, serves⟩ := hosted.hostOf_eq_some.mp hosts
      rw [Option.map_some, Option.getD_some, emission.completes index active, serves]
      cases reaping : world.reaping action with
      | none => simp only [Option.toList_none, List.filter_nil, List.count_nil, reduceCtorEq,
          false_and, ↓reduceIte]
      | some other =>
          simp only [Option.toList_some, List.filter_cons, beq_iff_eq, List.filter_nil,
            Option.some.injEq, Option.isSome_some, and_true]
          by_cases same : other = id
          · subst same
            by_cases own : world.owner other = some conn
            · rw [if_pos own, if_pos ⟨rfl, own⟩, List.count_singleton_self]
            · rw [if_neg own, if_neg fun all => own all.2, List.count_nil]
          · rw [if_neg fun all : other = id ∧ _ => same all.1]
            apply List.count_eq_zero.mpr
            intro member
            split at member
            · exact same (List.mem_singleton.mp member).symm
            · cases member

omit hosted taken emission in
/-- A task that has not been reaped has no completion anywhere. -/
theorem Logged.not_reaped {id : TaskId} (active : world.rt.nextTaskId ≤ id ∨
    ∃ taskIndex, world.rt.occupied taskIndex = true ∧ (world.rt.tasks taskIndex).taskId = id)
    (open' : Bool) : (id, open') ∉ world.reaped := by
  intro member
  obtain ⟨-, older, inactive⟩ := logged.reaped (id, open') member
  rcases active with fresh | ⟨taskIndex, occupied, same⟩
  · exact absurd older (UInt64.not_lt.mpr fresh)
  · exact inactive taskIndex occupied same

/-- Each completion is in the log of its owner, once, if the owner was there to get it. -/
theorem Logged.completions_after (conn : Nat) (id : TaskId) :
    (completionIds (world.extend log extra conn)).count id =
      if (world.advance action next).owner id = some conn ∧
        (id, true) ∈ (world.advance action next).reaped then 1 else 0 := by
  have added := emission.count_completions hosted conn id
  have before := logged.completions conn id
  unfold World.extend completionIds at *
  rw [List.filterMap_append, List.count_append, added, before]
  have reaped : (world.advance action next).reaped = world.reaped ++
      (world.reaping action).toList.map fun id => (id, world.ownerOpen id) :=
    World.reapedAfter_eq world action
  simp only [reaped]
  by_cases fresh : world.rt.nextTaskId ≤ id
  · -- an id that was not drawn before the step is not read by it either
    have unread : world.reaping action ≠ some id := by
      intro reaping
      obtain ⟨taskIndex, occupied, same, -⟩ := hosted.reaping_task taken reaping
      have older := (hosted.active_id occupied).2
      rw [same] at older
      exact absurd fresh (UInt64.not_le.mpr older)
    rw [if_neg fun all => logged.not_reaped (Or.inl fresh) true all.2,
      if_neg fun all => unread all.1, if_neg]
    rintro ⟨-, member⟩
    rcases List.mem_append.mp member with old | new
    · exact logged.not_reaped (Or.inl fresh) true old
    · obtain ⟨other, reaping, same⟩ := List.mem_map.mp new
      rw [Option.mem_toList] at reaping
      exact unread (reaping.trans (congrArg (fun entry => some entry.1) same))
  · simp only [hosted.owner_kept taken (UInt64.not_le.mp fresh)]
    by_cases reaping : world.reaping action = some id
    · obtain ⟨taskIndex, occupied, same, -⟩ := hosted.reaping_task taken reaping
      have unread := logged.not_reaped (Or.inr ⟨taskIndex, occupied, same⟩) true
      rw [if_neg fun all => unread all.2, reaping, Nat.zero_add]
      refine if_congr ?_ rfl rfl
      rw [List.mem_append, Option.toList_some, List.map_singleton, List.mem_singleton]
      simp only [unread, Prod.mk.injEq, true_and, false_or, World.ownerOpen]
      constructor
      · rintro ⟨own, some⟩
        rw [own]
        exact ⟨rfl, some.symm⟩
      · rintro ⟨own, some⟩
        rw [own] at some
        exact ⟨own, some.symm⟩
    · rw [if_neg fun all : world.reaping action = some id ∧ _ => reaping all.1, Nat.add_zero]
      refine if_congr (and_congr_right fun _ => ?_) rfl rfl
      rw [List.mem_append]
      refine (or_iff_left ?_).symm
      intro new
      obtain ⟨other, read, same⟩ := List.mem_map.mp new
      rw [Option.mem_toList] at read
      exact reaping (read.trans (congrArg (fun entry => some entry.1) same))

/-- What completes was accepted. -/
theorem Logged.preceded_after (conn : Nat) :
    ∀ id ∈ completionIds (world.extend log extra conn),
      id ∈ acceptIds (world.extend log extra conn) := by
  intro id member
  apply World.mem_acceptIds_extend
  cases hosts : world.hostOf conn with
  | none =>
      rw [World.extend_none hosts] at member
      exact logged.preceded conn id member
  | some index =>
      rw [World.extend_some hosts, completionIds, List.filterMap_append] at member
      rcases List.mem_append.mp member with before | new
      · exact logged.preceded conn id before
      · exact (logged.completion_established hosted taken emission hosts new).2.2

/-- No completion comes before its acceptance. -/
theorem Logged.ordered_after (conn : Nat) :
    (world.extend log extra conn).Pairwise fun earlier later =>
      ∀ id, later.accepts = some id → earlier.completes ≠ some id := by
  cases hosts : world.hostOf conn with
  | none =>
      rw [World.extend_none hosts]
      exact logged.ordered conn
  | some index =>
      rw [World.extend_some hosts]
      refine List.pairwise_append.mpr ⟨logged.ordered conn,
        (emission.of_host hosted hosts).pairwise _, ?_⟩
      intro earlier before later new id announced completed
      have inside : id ∈ acceptIds (extra index) := List.mem_filterMap.mpr ⟨later, new, announced⟩
      have counted : 0 < (completionIds (log conn)).count id :=
        List.count_pos_iff.mpr (List.mem_filterMap.mpr ⟨earlier, before, completed⟩)
      rw [logged.completions conn id] at counted
      split at counted
      · rename_i reaped
        obtain ⟨valid, older, -⟩ := logged.reaped (id, true) reaped.2
        rcases emission.accepts index id inside with invalid | ⟨started, -⟩
        · subst invalid
          exact absurd valid (by decide)
        · have shape := step_shape hosted.invariant.grounded taken
          exact absurd (shape.startedIds_bounds started).1 (UInt64.not_le.mpr older)
      · exact absurd counted (Nat.lt_irrefl 0)

omit emission in
/-- What was reaped is no task any more. -/
theorem Logged.reaped_after : ∀ entry ∈ (world.advance action next).reaped,
    1 ≤ entry.1 ∧ entry.1 < next.nextTaskId ∧ ∀ taskIndex, next.occupied taskIndex = true →
      (next.tasks taskIndex).taskId ≠ entry.1 := by
  have shape := step_shape hosted.invariant.grounded taken
  -- an id drawn before the step whose task is gone does not come back
  have gone : ∀ id : TaskId, id < world.rt.nextTaskId →
      (∀ taskIndex, world.rt.occupied taskIndex = true → next.occupied taskIndex = true →
        (world.rt.tasks taskIndex).taskId ≠ id) →
      ∀ taskIndex, next.occupied taskIndex = true → (next.tasks taskIndex).taskId ≠ id := by
    intro id older inactive taskIndex occupied same
    rcases hosted.started_or_before taken occupied with
      ⟨-, -, -, -, -, -, -, -, drawn⟩ | ⟨before, -⟩
    · rw [same] at drawn
      exact absurd (shape.startedIds_bounds drawn).1 (UInt64.not_le.mpr older)
    · apply inactive taskIndex before occupied
      rw [← same, shape.same_task before occupied]
  intro entry member
  change entry ∈ world.reapedAfter action at member
  rw [World.reapedAfter_eq] at member
  rcases List.mem_append.mp member with old | new
  · obtain ⟨valid, older, inactive⟩ := logged.reaped entry old
    exact ⟨valid, UInt64.lt_of_lt_of_le older shape.nextTaskId_le,
      gone entry.1 older fun taskIndex before _ => inactive taskIndex before⟩
  · obtain ⟨id, reaping, same⟩ := List.mem_map.mp new
    rw [Option.mem_toList] at reaping
    subst same
    obtain ⟨taskIndex, occupied, taskId, cleared⟩ := hosted.reaping_task taken reaping
    obtain ⟨valid, older⟩ := hosted.active_id occupied
    rw [taskId] at valid older
    refine ⟨valid, UInt64.lt_of_lt_of_le older shape.nextTaskId_le, gone id older ?_⟩
    intro other before after same
    have slot := hosted.invariant.ledger.distinct other taskIndex before occupied
      (same.trans taskId.symm)
    rw [slot, cleared] at after
    cases after

omit emission in
/-- No id is reaped twice. -/
theorem Logged.once_after : ((world.advance action next).reaped.map Prod.fst).Nodup := by
  change ((world.reapedAfter action).map Prod.fst).Nodup
  rw [World.reapedAfter_eq, List.map_append]
  cases reaping : world.reaping action with
  | none => simpa only [Option.toList_none, List.map_nil, List.append_nil] using logged.once
  | some id =>
      obtain ⟨taskIndex, occupied, same, -⟩ := hosted.reaping_task taken reaping
      refine List.nodup_append.mpr ⟨logged.once, List.nodup_singleton _, ?_⟩
      intro left old right new
      rw [Option.toList_some, List.map_singleton, List.map_singleton, List.mem_singleton] at new
      subst new
      rintro rfl
      obtain ⟨entry, member, first⟩ := List.mem_map.mp old
      exact logged.not_reaped (Or.inr ⟨taskIndex, occupied, same⟩) entry.2
        (by rw [← first]; exact member)

end Routing

/-- The messages of a step extend the logs. -/
theorem Logged.extended (hosted : Hosted config world) (logged : Logged world log)
    (taken : step world.rt action = .ok next) (emission : Emission world action next extra) :
    Logged (world.advance action next) (world.extend log extra) where
  bytes := logged.bytes_after hosted emission
  whole := logged.whole_after hosted emission
  fresh := by
    intro conn unopened
    refine logged.fresh_after hosted (Nat.le_trans ?_ unopened)
    change world.opened ≤ if _ then _ else _
    split
    · exact Nat.le_succ _
    · exact Nat.le_refl _
  shape := logged.shape_after hosted taken emission
  replies := logged.replies_after hosted emission
  answered := logged.answered_after hosted emission
  phases := fun _ _ hosts => logged.phases_after hosted taken emission hosts
  waiting := fun _ _ hosts => logged.waiting_after hosted taken emission hosts
  announced := logged.announced_after hosted taken emission
  tasks := fun _ occupied => logged.tasks_after hosted taken emission occupied
  completions := logged.completions_after hosted taken emission
  preceded := logged.preceded_after hosted taken emission
  ordered := logged.ordered_after hosted taken emission
  reaped := logged.reaped_after hosted taken
  once := logged.once_after hosted taken

/-- Nothing was sent at the start. -/
theorem Logged.initial (config : Config) : Logged (.initial config) fun _ => [] where
  bytes := fun _ => rfl
  whole := fun _ => nofun
  fresh := fun _ _ => ⟨rfl, rfl, rfl⟩
  shape := fun _ => Or.inl nofun
  replies := fun _ => rfl
  answered := fun _ => List.prefix_refl _
  phases := by
    intro conn index hosts
    obtain ⟨active, -⟩ := (Hosted.initial config).hostOf_eq_some.mp hosts
    have inactive : ¬ Client.fresh.isActive = true := by decide
    exact absurd active inactive
  waiting := by
    intro conn index hosts
    obtain ⟨active, -⟩ := (Hosted.initial config).hostOf_eq_some.mp hosts
    have inactive : ¬ Client.fresh.isActive = true := by decide
    exact absurd active inactive
  announced := fun _ => nofun
  tasks := by
    intro taskIndex occupied
    simp only [World.initial, Runtime.occupied, Runtime.initial, TaskSlot.cleared, Bool.and_false,
      Bool.false_eq_true] at occupied
  completions := fun _ _ => (if_neg fun all => absurd all.2 nofun).symm
  preceded := fun _ => nofun
  ordered := fun _ => List.Pairwise.nil
  reaped := nofun
  once := List.nodup_nil

end Step

/-- The notes and the logs after every run of the loop. -/
theorem run_logged {config : Config} {actions : List Action} {world : World}
    (ran : run World.step (.initial config) actions = .ok world)
    (looped : ∀ action ∈ actions, action.looped = true) :
    Hosted config world ∧ ∃ log, Logged world log := by
  refine @run_preserves _ _ _ World.step _ world actions
    (fun state => Hosted config state ∧ ∃ log, Logged state log) ?_
    ⟨.initial config, _, .initial config⟩ ran
  intro before action after member holds taken
  obtain ⟨stepped, same⟩ := World.step_ok taken
  obtain ⟨hosted, log, logged⟩ := holds
  rw [same]
  obtain ⟨extra, emission⟩ := hosted.emission (looped action member) stepped
  exact ⟨hosted.stepped stepped, _, logged.extended hosted stepped emission⟩

end Iouringd
