import Iouringd.Daemon.Sessions
import Iouringd.Daemon.Submissions

/-! # Routing and session discipline

The two results about what a client sees: a completion goes to the connection that
submitted the task and to no other, and what is queued on a connection after an accepted
handshake is a sequence of whole messages that answer its requests in order.
-/

namespace Iouringd

open Foundation

/-- The completion of a task is queued on the connection that owns the task if it is
open, and no other connection is sent anything. -/
def Routes (world next : World) (id : TaskId) : Prop :=
  ∃ conn, world.owner id = some conn ∧
    (∀ other, other ≠ conn → next.stream other = world.stream other) ∧
    (world.hostOf conn = none → next.stream conn = world.stream conn) ∧
    (world.hostOf conn ≠ none → ∃ (record : CompletionRecord) (payload : List UInt8),
      record.taskId = id ∧ payload.length = record.payloadLength.toNat ∧
      next.stream conn = world.stream conn ++ (record.encode ++ payload))

section Routing

variable {config : Config} {world : World}

theorem queuedBytes_of_eq {rt next : Runtime} {index : Nat}
    (same : next.clients index = rt.clients index) : queuedBytes rt next index = [] := by
  unfold queuedBytes
  rw [same, List.drop_length, ite_self]

/-- The head of the completion queue names an active task. -/
theorem Matched.findTaskSlot_isSome {world : World} (matched : Matched world.rt) {cqe : Cqe}
    (read : (ringPeekCompletion world.rt.ring).2 = some cqe) :
    (findTaskSlot world.rt cqe.userData).isSome = true := by
  have token : cqe.userData ∈ world.rt.ring.tokens := by
    have peeked : ringPeekCompletion world.rt.ring =
        ((ringPeekCompletion world.rt.ring).1, some cqe) := by
      rw [← read]
    obtain ⟨-, -, posted⟩ := ringPeekCompletion_some peeked
    unfold Ring.tokens
    rw [posted]
    exact List.mem_append_right _ List.mem_cons_self
  obtain ⟨taskIndex, occupied, same⟩ := matched.found _ token
  obtain ⟨below, active⟩ := occupied_iff.mp occupied
  cases found : findTaskSlot world.rt cqe.userData with
  | some _ => rfl
  | none =>
      have missing := firstBelow_eq_none.mp found taskIndex below
      simp only [active, same, beq_self_eq_true, Bool.and_self, Bool.true_eq_false] at missing

/-- Reading a completion. -/
theorem Hosted.reap_routes {env : CompleteEnv} {next : World} {cqe : Cqe}
    (hosted : Hosted config world) (taken : world.step (.reap env) = .ok next)
    (read : (ringPeekCompletion world.rt.ring).2 = some cqe) :
    Routes world next cqe.userData := by
  obtain ⟨stepped, same⟩ := World.step_ok taken
  rw [same]
  generalize next.rt = after at stepped
  cases step_effect hosted.invariant.grounded stepped with
  | idle _ unread =>
      rw [unread env rfl] at read
      cases read
  | completed _ taskIndex res ring _ occupied source completed =>
      obtain ⟨found, peeked, located, -⟩ := source
      rw [peeked] at read
      cases read
      have matching := (firstBelow_some located).2
      simp only [Bool.and_eq_true, beq_iff_eq] at matching
      obtain ⟨owner, known, -⟩ := hosted.tasks taskIndex occupied
      obtain ⟨conn, serves⟩ := Option.isSome_iff_exists.mp known
      rw [matching.2, serves] at owner
      have others : ∀ index, index ≠ (world.rt.tasks taskIndex).clientIndex →
          queuedBytes world.rt after index = [] := by
        intro index apart
        apply queuedBytes_of_eq
        rw [completed.frame]
        exact Function.update_of_ne apart _ _
      refine ⟨conn, owner, ?_, ?_, ?_⟩
      · intro other apart
        change world.stream other ++ _ = _
        cases hosts : world.hostOf other with
        | none => exact List.append_nil _
        | some index =>
            rw [Option.map_some, Option.getD_some, others index, List.append_nil]
            rintro rfl
            have own := (hosted.hostOf_eq_some.mp hosts).2
            rw [serves] at own
            exact apart (Option.some.inj own).symm
      · intro closed
        change world.stream conn ++ _ = _
        rw [closed]
        exact List.append_nil _
      · intro hosts
        obtain ⟨index, hosts⟩ := Option.ne_none_iff_exists'.mp hosts
        obtain ⟨active, own⟩ := hosted.hostOf_eq_some.mp hosts
        have same := hosted.injective index _ conn own serves
        subst same
        have connected : taskConnected world.rt (world.rt.tasks taskIndex) = true := by
          rw [hosted.taskConnected_eq occupied, active]
        obtain ⟨record, payload, taskId, -, length, pending, -⟩ :=
          completed.delivers.connected connected
        refine ⟨record, payload, taskId.trans matching.2, length, ?_⟩
        change world.stream conn ++ _ = _
        rw [hosts, Option.map_some, Option.getD_some, queuedBytes]
        have stays : (after.clients (world.rt.tasks taskIndex).clientIndex).isActive = true := by
          rw [completed.frame]
          dsimp only
          rw [Function.update_self]
          exact active
        rw [if_pos stays]
        dsimp only at pending
        rw [pending, List.drop_left]

end Routing

/-- Steps without a failing `io_uring_enter` are steps of the loop. -/
theorem Action.looped_of_clean (action : Action) (clean : action.clean = true) :
    action.looped = true := by
  cases action with
  | complete taskIndex res env => cases clean
  | _ => rfl

section Runs

variable {config : Config} {actions : List Action} {world : World}

/-- In every run without a failing `io_uring_enter`, with clients that come and go: a
completion that is read names an active task and goes to the connection that submitted
it, if that is still open, and nowhere else; over the run no completion is read twice,
and each is in the stream of the task's connection once or, if that was closed, not at
all. -/
theorem completions_routed (ran : run World.step (.initial config) actions = .ok world)
    (clean : ∀ action ∈ actions, action.clean = true) :
    (∀ cqe, (ringPeekCompletion world.rt.ring).2 = some cqe →
      (findTaskSlot world.rt cqe.userData).isSome = true ∧
      ∀ env next, world.step (.reap env) = .ok next → Routes world next cqe.userData) ∧
    (world.reaped.map Prod.fst).Nodup ∧
    ∃ log : Nat → List Message,
      (∀ conn, world.stream conn = (log conn).flatMap Message.encode ∧
        ∀ message ∈ log conn, message.Whole) ∧
      ∀ conn id, (completionIds (log conn)).count id =
        if world.owner id = some conn ∧ (id, true) ∈ world.reaped then 1 else 0 := by
  obtain ⟨hosted, log, logged⟩ := run_logged ran fun action member =>
    action.looped_of_clean (clean action member)
  have matched := (run_matched (World.run_iff.mpr ⟨world, ran, rfl⟩) clean).2
  refine ⟨?_, logged.once, log, fun conn => ⟨logged.bytes conn, logged.whole conn⟩,
    logged.completions⟩
  intro cqe read
  exact ⟨matched.findTaskSlot_isSome read, fun env next taken => hosted.reap_routes taken read⟩

/-- A client submits two NOPs; the first is completed and reaped, the second completed. -/
def twoNops : List Action :=
  joining 0 5 ++ requesting 0 (requestHeader .nop).encode .smooth ++
    [.post 0 0, .reap .smooth] ++ requesting 0 (requestHeader .nop).encode .smooth ++ [.post 0 0]

theorem twoNops_clean : ∀ action ∈ twoNops, action.clean = true := by
  rw [← List.all_eq_true]
  rfl

/-- The second completion finds its task and goes to the first connection. -/
theorem completions_routed_second_nop :
    ∃ world cqe, run World.step (.initial (.small 1 (by decide) (by decide))) twoNops =
        .ok world ∧
      (ringPeekCompletion world.rt.ring).2 = some cqe ∧ world.owner cqe.userData = some 0 ∧
      world.reaped = [(1, true)] ∧ (findTaskSlot world.rt cqe.userData).isSome = true ∧
      ∀ env next, world.step (.reap env) = .ok next → Routes world next cqe.userData := by
  have seen : ((run World.step (.initial (.small 1 (by decide) (by decide))) twoNops).toOption.map
      fun world => ((ringPeekCompletion world.rt.ring).2, world.owner 2, world.reaped)) =
        some (some ⟨2, 0⟩, some 0, [(1, true)]) := by decide +kernel
  obtain ⟨world, ran, view⟩ := exists_of_toOption_map seen
  obtain ⟨read, more⟩ := Prod.mk.inj view
  obtain ⟨owner, reaped⟩ := Prod.mk.inj more
  have routed := (completions_routed ran twoNops_clean).1 ⟨2, 0⟩ read
  exact ⟨world, ⟨2, 0⟩, ran, read, owner, reaped, routed.1, routed.2⟩

/-- What follows the accepted handshake of a connection: whole messages, replies in the
order and of the types of the requests, and completions of announced tasks only, once
each if the connection was open when they were read, and never before the announcement. -/
structure Session (world : World) (conn : Nat) (body : List Message) : Prop where
  whole : ∀ message ∈ body, message.Whole ∧ message.isGreeting = false
  replies : replyTypes body = (world.answered conn).map (·.kind.replyType)
  requests : world.answered conn <+: world.requests conn
  completions : ∀ id ∈ acceptIds body,
    (completionIds body).count id = if (id, true) ∈ world.reaped then 1 else 0
  announced : ∀ id ∈ completionIds body, id ∈ acceptIds body
  ordered : body.Pairwise fun earlier later =>
    ∀ id, later.accepts = some id → earlier.completes ≠ some id

/-- A log that starts with an accepted handshake has no other. -/
theorem Logged.body {log : Nat → List Message} (logged : Logged world log) {conn : Nat}
    {greeting : HandshakeResult} {rest : List UInt8}
    (starts : world.stream conn = greeting.encode ++ rest)
    (accepted : greeting.status = handshakeAccept) :
    ∃ result body, log conn = .greeting result :: body ∧ rest = body.flatMap Message.encode ∧
      ∀ message ∈ body, message.isGreeting = false := by
  rw [logged.bytes conn] at starts
  have first : ∀ result tail, log conn = .greeting result :: tail →
      result.encode = greeting.encode ∧ tail.flatMap Message.encode = rest := by
    intro result tail same
    rw [same, List.flatMap_cons] at starts
    apply List.append_inj starts
    exact result.length_encode.trans greeting.length_encode.symm
  rcases logged.shape conn with opening | ⟨refusals, result, body, same, opening, status, plain⟩
  · cases messages : log conn with
    | nil =>
        rw [messages] at starts
        have length := congrArg List.length starts
        rw [List.length_append, greeting.length_encode] at length
        change 0 = 52 + rest.length at length
        omega
    | cons message tail =>
        obtain ⟨refusal, named, refused⟩ := opening message (messages ▸ List.mem_cons_self)
        subst named
        have status := HandshakeResult.status_of_encode (first refusal tail messages).1
        rw [refused, accepted] at status
        exact absurd status (by decide)
  · cases refusals with
    | nil => exact ⟨result, body, same, (first result body same).2.symm, plain⟩
    | cons message tail =>
        obtain ⟨refusal, named, refused⟩ := opening message List.mem_cons_self
        subst named
        have status := HandshakeResult.status_of_encode (first refusal _ same).1
        rw [refused, accepted] at status
        exact absurd status (by decide)

/-- In every run without a failing `io_uring_enter`, what is queued on a connection whose
first handshake was accepted is that answer and then a session. -/
theorem session_discipline (ran : run World.step (.initial config) actions = .ok world)
    (clean : ∀ action ∈ actions, action.clean = true) {conn : Nat} {greeting : HandshakeResult}
    {rest : List UInt8} (starts : world.stream conn = greeting.encode ++ rest)
    (accepted : greeting.status = handshakeAccept) :
    ∃ body : List Message, rest = body.flatMap Message.encode ∧ Session world conn body := by
  obtain ⟨-, log, logged⟩ := run_logged ran fun action member =>
    action.looped_of_clean (clean action member)
  obtain ⟨result, body, same, bytes, plain⟩ := logged.body starts accepted
  have whole := logged.whole conn
  have replies := logged.replies conn
  have announced := logged.announced conn
  have completions := logged.completions conn
  have preceded := logged.preceded conn
  have ordered := logged.ordered conn
  rw [same] at whole replies announced completions preceded ordered
  refine ⟨body, bytes, ?_, replies, logged.answered conn, ?_, preceded,
    (List.pairwise_cons.mp ordered).2⟩
  · intro message member
    exact ⟨whole message (List.mem_cons_of_mem _ member), plain message member⟩
  · intro id member
    refine (completions id).trans (if_congr ?_ rfl rfl)
    rcases announced id member with invalid | ⟨owner, -⟩
    · subst invalid
      have unread : (taskIdInvalid, true) ∉ world.reaped := by
        intro reaped
        exact absurd (logged.reaped _ reaped).1 (by decide)
      simp only [unread, and_false]
    · simp only [owner, true_and]

/-- The connection of the two NOPs got its handshake accepted and 56 bytes since. -/
theorem session_discipline_two_nops :
    ∃ world greeting rest, run World.step (.initial (.small 1 (by decide) (by decide))) twoNops =
        .ok world ∧
      world.stream 0 = HandshakeResult.encode greeting ++ rest ∧
      greeting.status = handshakeAccept ∧ rest.length = 56 ∧
      ∃ body : List Message, rest = body.flatMap Message.encode ∧ Session world 0 body := by
  have seen : ((run World.step (.initial (.small 1 (by decide) (by decide))) twoNops).toOption.map
      fun world => (world.stream 0)) = some (HandshakeResult.encode
        ⟨wireMagic, protocolMajor, protocolMinor, abiMajor, abiMinor, handshakeAccept, 0,
          ⟨0, 0, 0, 0, 4095, 1, 1, 1, 16⟩⟩ ++
        (SubmitResult.encode ⟨1, 0, 0⟩ ++
          (CompletionRecord.encode ⟨wireMagic, protocolMajor, protocolMinor, 1, 0, 1, 0⟩ ++
            SubmitResult.encode ⟨2, 0, 0⟩))) := by decide +kernel
  obtain ⟨world, ran, starts⟩ := exists_of_toOption_map seen
  exact ⟨world, _, _, ran, starts, rfl, rfl,
    session_discipline ran twoNops_clean starts rfl⟩

end Runs

end Iouringd
