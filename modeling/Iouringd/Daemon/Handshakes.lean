import Iouringd.Daemon.Sessions

/-! # Rejected handshakes

A rejection sets `close_after_flush`, and the connection is closed when its output has
been written. The poll set does not wait for input of such a client any more, but the
pass over all clients at the start of the loop reads it all the same, and the bytes
behind a rejected handshake are read as another handshake. What follows is the exact
step at which a rejection is not final, and that it is final in every run without it.
-/

namespace Iouringd

open Foundation

/-- The step completes a valid handshake request on a connection that was rejected. -/
def secondHandshake (rt : Runtime) : Action → Bool
  | .input index incoming =>
      let read := readClientInput (rt.clients index) incoming
      (rt.clients index).closeAfterFlush && decide (read.status = .full) &&
        !handshakeRefused (HandshakeRequest.decode (read.client.fixedPart 16))
  | _ => false

section Input

variable {rt next : Runtime} {index : Nat}

/-- A handshake that is refused leaves the phase as it is. -/
theorem queueHandshakeResult_phase {request : HandshakeRequest}
    (refused : handshakeRefused request = true)
    (queued : queueHandshakeResult rt index request = .ok next) :
    (next.clients index).phase = (rt.clients index).phase := by
  unfold queueHandshakeResult at queued
  obtain ⟨answered, taken, done⟩ := bind_ok queued
  cases done
  rw [Runtime.clients_setClient, Runtime.queue_ok taken, Runtime.clients_setClient,
    Runtime.clients_setClient]
  simp only [refused, ↓reduceIte]
  rfl

/-- Reading a client that is in the handshake takes it out of it by a valid request
only. -/
theorem serviceClientReadable_phase {incoming rest : List RecvOutcome} {outcome : Bool}
    (phase : (rt.clients index).phase = .handshake)
    (refuses : (readClientInput (rt.clients index) incoming).status = .full →
      handshakeRefused (HandshakeRequest.decode
        ((readClientInput (rt.clients index) incoming).client.fixedPart 16)) = true)
    (serviced : serviceClientReadable rt index incoming = .ok (next, outcome, rest)) :
    (next.clients index).isActive = true → (next.clients index).phase = .handshake := by
  have closing : ∀ middle : Runtime,
      ((closeClient middle index).clients index).isActive = true →
        ((closeClient middle index).clients index).phase = .handshake := by
    intro middle
    rw [closeClient_client, closedClient_inactive]
    exact nofun
  have read : (readClientInput (rt.clients index) incoming).client.phase = .handshake := by
    have erased := congrArg Client.phase (readClientInput_erase (rt.clients index) incoming)
    exact Eq.trans erased phase
  unfold serviceClientReadable serviceLoop at serviced
  split at serviced
  · cases serviced
    exact fun _ => phase
  · dsimp only at serviced
    split at serviced
    · cases serviced
      exact closing _
    · cases serviced
      exact closing _
    · cases serviced
      intro _
      rw [closeAll_clients, Runtime.clients_setClient]
      exact read
    · rename_i full
      split at serviced
      · obtain ⟨answered, taken, done⟩ := bind_ok serviced
        cases done
        intro _
        rw [queueHandshakeResult_phase (refuses full) taken, closeAll_clients,
          Runtime.clients_setClient]
        exact read
      · rename_i submit
        rw [read] at submit
        cases submit

end Input

/-- A rejection is final: a log that has one holds nothing else. -/
structure Final (world : World) (log : Nat → List Message) : Prop where
  shape : ∀ conn, Opening (log conn) ∨ ∃ result body, log conn = .greeting result :: body ∧
    result.status = handshakeAccept ∧ ∀ message ∈ body, message.isGreeting = false
  flagged : ∀ conn index, world.hostOf conn = some index → log conn ≠ [] →
    (world.rt.clients index).phase = .handshake → (world.rt.clients index).closeAfterFlush = true
  silent : ∀ conn, Opening (log conn) → world.requests conn = []

section Step

variable {config : Config} {world : World} {action : Action} {next : Runtime}
  {log extra : Nat → List Message}

/-- No connection is both rejected and accepted. -/
theorem Opening.not_accepted {messages body : List Message} {result : HandshakeResult}
    (opening : Opening messages) (same : messages = .greeting result :: body) :
    result.status ≠ handshakeAccept := by
  intro accepted
  obtain ⟨refusal, named, refused⟩ := opening (.greeting result) (same ▸ List.mem_cons_self)
  cases named
  rw [accepted] at refused
  exact absurd refused (by decide)

/-- After the handshake there are no greetings. -/
theorem SessionStep.plain {client after : Client} {messages : List Message}
    (session : SessionStep client after messages) (submit : client.phase = .submit) :
    ∀ message ∈ messages, message.isGreeting = false := by
  cases session with
  | greeted result active phase =>
      rw [submit] at phase
      cases phase
  | answered message active phase samePhase ready idle whole type pending =>
      intro queued member
      rw [List.mem_singleton] at member
      subst member
      cases queued with
      | greeting result => cases type
      | _ => rfl
  | delivered record payload =>
      intro queued member
      rw [List.mem_singleton] at member
      subst member
      rfl
  | _ => exact nofun

section Fields

variable (hosted : Hosted config world) (logged : Logged world log)

include logged

/-- A connection that was not accepted is in the handshake. -/
theorem Logged.phase_of_opening {conn index : Nat} (hosts : world.hostOf conn = some index)
    (opening : Opening (log conn)) : (world.rt.clients index).phase = .handshake := by
  cases phase : (world.rt.clients index).phase with
  | handshake => rfl
  | submit =>
      obtain ⟨refusals, result, body, same, -, accepted, -⟩ :=
        (logged.phases conn index hosts).2 phase
      obtain ⟨refusal, named, refused⟩ := opening (.greeting result)
        (same ▸ List.mem_append_right _ List.mem_cons_self)
      cases named
      rw [accepted] at refused
      exact absurd refused (by decide)

/-- A connection whose first handshake was accepted is past it. -/
theorem Logged.phase_of_accepted {conn index : Nat} (hosts : world.hostOf conn = some index)
    {result : HandshakeResult} {body : List Message} (same : log conn = .greeting result :: body)
    (accepted : result.status = handshakeAccept) : (world.rt.clients index).phase = .submit := by
  cases phase : (world.rt.clients index).phase with
  | submit => rfl
  | handshake =>
      have opening := (logged.phases conn index hosts).1 phase
      exact absurd accepted (opening.not_accepted same)

variable (final : Final world log) (taken : step world.rt action = .ok next)
  (emission : Emission world action next extra)
  (once : secondHandshake world.rt action = false)

include hosted final taken emission once

omit logged in
/-- A connection that was rejected is not taken out of the handshake. -/
theorem Final.stays {conn index : Nat} (hosts : world.hostOf conn = some index)
    (answered : log conn ≠ []) (phase : (world.rt.clients index).phase = .handshake)
    {message : Message} (queued : message ∈ extra index) (greeting : message.isGreeting = true)
    (active : (next.clients index).isActive = true) :
    (next.clients index).phase = .handshake := by
  obtain ⟨incoming, input⟩ := emission.greets index message queued greeting
  subst input
  have flag := final.flagged conn index hosts answered phase
  obtain ⟨before, -⟩ := hosted.hostOf_eq_some.mp hosts
  have connected : world.rt.connected index = true := by
    simp only [Runtime.connected, (hosted.known index before).1, before, decide_true,
      Bool.and_self]
  simp only [step, connected, ↓reduceIte] at taken
  obtain ⟨⟨reached, outcome, rest⟩, serviced, done⟩ := bind_ok taken
  cases done
  refine serviceClientReadable_phase phase ?_ serviced active
  intro full
  simpa only [secondHandshake, flag, full, decide_true, Bool.and_self, Bool.true_and,
    Bool.not_eq_false'] using once

/-- The log of a connection that was not accepted goes on with a rejection, or starts with
the acceptance. -/
theorem Final.opening_extended {conn index : Nat} (hosts : world.hostOf conn = some index)
    (opening : Opening (log conn)) :
    Opening (log conn ++ extra index) ∨ ∃ result, log conn ++ extra index = [.greeting result] ∧
      result.status = handshakeAccept := by
  have phase := logged.phase_of_opening hosts opening
  have stays : ∀ message ∈ extra index, log conn ≠ [] → message.isGreeting = true →
      (next.clients index).isActive = true → (next.clients index).phase = .handshake :=
    fun message queued answered greeting active => final.stays hosted taken emission once
      hosts answered phase queued greeting active
  have established : ∀ id ∈ completionIds (extra index), id ∈ acceptIds (log conn) :=
    fun _ member => (logged.completion_established hosted taken emission hosts member).2.2
  have session := emission.of_host hosted hosts
  generalize extra index = messages at session stays established
  cases session with
  | greeted result active handshake idle ready answer pending =>
      rcases answer with ⟨accepted, submit⟩ | ⟨refused, -, -⟩
      · right
        cases before : log conn with
        | nil => exact ⟨result, rfl, accepted⟩
        | cons first others =>
            have kept := stays _ (List.mem_singleton_self _) (before ▸ List.cons_ne_nil _ _) rfl
              active
            rw [submit] at kept
            cases kept
      · left
        apply opening.append
        intro message member
        exact ⟨result, List.mem_singleton.mp member, refused⟩
  | answered message active submit =>
      rw [phase] at submit
      cases submit
  | delivered record payload =>
      have announced := established record.taskId (List.mem_singleton_self _)
      rw [opening.acceptIds] at announced
      cases announced
  | quiet | received | closed =>
      rw [List.append_nil]
      exact Or.inl opening

theorem Final.shape_after (conn : Nat) : Opening (world.extend log extra conn) ∨
    ∃ result body, world.extend log extra conn = .greeting result :: body ∧
      result.status = handshakeAccept ∧ ∀ message ∈ body, message.isGreeting = false := by
  cases hosts : world.hostOf conn with
  | none =>
      rw [World.extend_none hosts]
      exact final.shape conn
  | some index =>
      rw [World.extend_some hosts]
      rcases final.shape conn with opening | ⟨result, body, same, accepted, plain⟩
      · rcases final.opening_extended hosted logged taken emission once hosts opening with
          rejected | ⟨result, same, accepted⟩
        · exact Or.inl rejected
        · exact Or.inr ⟨result, [], same, accepted, nofun⟩
      · refine Or.inr ⟨result, body ++ extra index, by rw [same]; rfl, accepted, ?_⟩
        have more := (emission.of_host hosted hosts).plain
          (logged.phase_of_accepted hosts same accepted)
        intro message member
        rcases List.mem_append.mp member with old | new
        · exact plain message old
        · exact more message new

omit once in
theorem Final.flagged_after {conn index : Nat}
    (hosts : (world.advance action next).hostOf conn = some index)
    (answered : world.extend log extra conn ≠ [])
    (phase : (next.clients index).phase = .handshake) :
    (next.clients index).closeAfterFlush = true := by
  rcases hosted.host_after taken hosts with ⟨same, -⟩ | ⟨before, active⟩
  · subst same
    exact absurd (@Logged.fresh_after config world action next log extra hosted logged
      world.opened (Nat.le_refl _)).1 answered
  · rw [World.extend_some before] at answered
    have flag := final.flagged conn index before
    have opening := (logged.phases conn index before).1
    have established : ∀ id ∈ completionIds (extra index), id ∈ acceptIds (log conn) :=
      fun _ member => (logged.completion_established hosted taken emission before member).2.2
    have session := emission.of_host hosted before
    generalize extra index = messages at session answered established
    cases session with
    | quiet samePhase ready request closing pending =>
        rw [List.append_nil] at answered
        rw [closing]
        exact flag answered (samePhase ▸ phase)
    | received submit samePhase =>
        rw [samePhase, submit] at phase
        cases phase
    | greeted result _ handshake idle ready answer pending =>
        rcases answer with ⟨-, submit⟩ | ⟨-, -, closing⟩
        · rw [submit] at phase
          cases phase
        · exact closing
    | answered message _ submit samePhase =>
        rw [samePhase] at phase
        cases phase
    | delivered record payload _ samePhase =>
        have announced := established record.taskId (List.mem_singleton_self _)
        rw [(opening (samePhase ▸ phase)).acceptIds] at announced
        cases announced
    | closed inactive =>
        rw [inactive] at active
        cases active

omit taken once in
theorem Final.silent_after (conn : Nat) (opening : Opening (world.extend log extra conn)) :
    (world.advance action next).requests conn = [] := by
  change world.requests conn ++ _ = []
  cases hosts : world.hostOf conn with
  | none =>
      rw [World.extend_none hosts] at opening
      rw [final.silent conn opening]
      rfl
  | some index =>
      rw [World.extend_some hosts] at opening
      have before : Opening (log conn) :=
        fun message member => opening message (List.mem_append_left _ member)
      have phase := logged.phase_of_opening hosts before
      have none : receivedRequest world.rt next index = [] := by
        have session := emission.of_host hosted hosts
        unfold receivedRequest
        generalize extra index = messages at session
        cases session with
        | received submit =>
            rw [phase] at submit
            cases submit
        | quiet samePhase ready =>
            rw [ready]
            cases (world.rt.clients index).requestReady <;> rfl
        | greeted result _ _ _ ready | closed _ ready | answered _ _ _ _ _ ready =>
            rw [ready, Bool.and_false]
            rfl
        | delivered record payload _ samePhase ready =>
            rw [ready]
            cases (world.rt.clients index).requestReady <;> rfl
      rw [final.silent conn before, Option.map_some, Option.getD_some, none]
      rfl

theorem Final.extended : Final (world.advance action next) (world.extend log extra) where
  shape := final.shape_after hosted logged taken emission once
  flagged := fun _ _ hosts answered phase =>
    final.flagged_after hosted logged taken emission hosts answered phase
  silent := final.silent_after hosted logged emission

end Fields

end Step

/-! ## Runs -/

/-- What a rejection is meant to be for a connection: requests are taken only after an
acceptance, and once the answer was a rejection nothing but rejections is queued, no
request is taken or dispatched and the phase does not change. -/
structure RejectionFinal (world : World) (conn : Nat) : Prop where
  accepted : world.requests conn ≠ [] → ∃ (greeting : HandshakeResult) (rest : List UInt8),
    world.stream conn = greeting.encode ++ rest ∧ greeting.status = handshakeAccept
  rejected : ∀ (greeting : HandshakeResult) (rest : List UInt8),
    world.stream conn = greeting.encode ++ rest → greeting.status = handshakeReject →
    (∃ answers : List HandshakeResult, world.stream conn = answers.flatMap (·.encode) ∧
      ∀ answer ∈ answers, answer.status = handshakeReject) ∧
    world.requests conn = [] ∧ world.answered conn = [] ∧
    ∀ index, world.hostOf conn = some index → (world.rt.clients index).phase = .handshake ∧
      (world.rt.clients index).requestReady = false

section Runs

variable {config : Config} {actions : List Action} {world : World}

theorem Opening.answers {messages : List Message} (opening : Opening messages) :
    ∃ answers : List HandshakeResult, messages.flatMap Message.encode =
        answers.flatMap (·.encode) ∧ ∀ answer ∈ answers, answer.status = handshakeReject := by
  induction messages with
  | nil => exact ⟨[], rfl, nofun⟩
  | cons message rest ih =>
      obtain ⟨result, named, refused⟩ := opening message List.mem_cons_self
      obtain ⟨answers, same, all⟩ := ih fun other member =>
        opening other (List.mem_cons_of_mem _ member)
      subst named
      refine ⟨result :: answers, ?_, ?_⟩
      · rw [List.flatMap_cons, List.flatMap_cons, same]
        rfl
      · intro answer member
        rcases List.mem_cons.mp member with here | later
        · rw [here]
          exact refused
        · exact all answer later

theorem Final.rejectionFinal {log : Nat → List Message} (hosted : Hosted config world)
    (logged : Logged world log) (final : Final world log) (conn : Nat) :
    RejectionFinal world conn := by
  constructor
  · intro some
    rcases final.shape conn with opening | ⟨result, body, same, accepted, -⟩
    · exact absurd (final.silent conn opening) some
    · refine ⟨result, body.flatMap Message.encode, ?_, accepted⟩
      rw [logged.bytes conn, same, List.flatMap_cons]
      rfl
  · intro greeting rest starts refused
    have opening : Opening (log conn) := by
      rcases final.shape conn with opening | ⟨result, body, same, accepted, -⟩
      · exact opening
      · rw [logged.bytes conn, same, List.flatMap_cons] at starts
        have encoded := (List.append_inj starts
          (result.length_encode.trans greeting.length_encode.symm)).1
        have status := HandshakeResult.status_of_encode encoded
        rw [accepted, refused] at status
        exact absurd status (by decide)
    have taken := final.silent conn opening
    refine ⟨?_, taken, ?_, ?_⟩
    · rw [logged.bytes conn]
      exact opening.answers
    · have prefixed := logged.answered conn
      rw [taken] at prefixed
      exact List.prefix_nil.mp prefixed
    · intro index hosts
      have phase := logged.phase_of_opening hosts opening
      refine ⟨phase, ?_⟩
      cases ready : (world.rt.clients index).requestReady with
      | false => rfl
      | true =>
          rw [((hosted.invariant.entries index).ready ready).2.1] at phase
          cases phase

/-- In every run of the loop in which no valid handshake is read on a connection that was
rejected, rejections are final. -/
theorem rejection_final (ran : run World.step (.initial config) actions = .ok world)
    (looped : ∀ action ∈ actions, action.looped = true)
    (once : Along World.step (fun world action => secondHandshake world.rt action = false)
      (.initial config) actions) (conn : Nat) : RejectionFinal world conn := by
  have initially : Hosted config (.initial config) ∧ ∃ log, Logged (.initial config) log ∧
      Final (.initial config) log := by
    refine ⟨.initial config, fun _ => [], .initial config, fun _ => Or.inl nofun, ?_,
      fun _ _ => rfl⟩
    intro conn index hosts answered
    exact absurd rfl answered
  have reached : Hosted config world ∧ ∃ log, Logged world log ∧ Final world log := by
    refine @Along.preserves _ _ _ World.step _ _ _ actions
      (fun state => Hosted config state ∧ ∃ log, Logged state log ∧ Final state log)
      (once.with_mem looped) ?_ initially ran
    intro before action after meets holds taken
    obtain ⟨stepped, same⟩ := World.step_ok taken
    obtain ⟨hosted, log, logged, final⟩ := holds
    obtain ⟨extra, emission⟩ := hosted.emission meets.2 stepped
    rw [same]
    exact ⟨hosted.stepped stepped, _, logged.extended hosted stepped emission,
      final.extended hosted logged stepped emission meets.1⟩
  obtain ⟨hosted, log, logged, final⟩ := reached
  exact final.rejectionFinal hosted logged conn

/-- A handshake with a reserved field set, which is rejected. -/
def badHandshake : List UInt8 :=
  HandshakeRequest.encode ⟨wireMagic, protocolMajor, protocolMinor, abiMajor, abiMinor, 1⟩

/-- A client is rejected and its socket is read once more, with nothing in it. -/
def rejectedOnce : List Action :=
  [.connect 5 ⟨true, true⟩, .input 0 [.data badHandshake [] false], .input 0 [.again]]

theorem rejection_final_rejected_once :
    ∃ world greeting, run World.step (.initial (.small 1 (by decide) (by decide))) rejectedOnce =
        .ok world ∧
      world.stream 0 = HandshakeResult.encode greeting ∧ greeting.status = handshakeReject ∧
      RejectionFinal world 0 := by
  have seen : ((run World.step (.initial (.small 1 (by decide) (by decide)))
      rejectedOnce).toOption.map fun world => (world.stream 0)) = some (HandshakeResult.encode
        ⟨wireMagic, protocolMajor, protocolMinor, abiMajor, abiMinor, handshakeReject, 0,
          .zero⟩) := by decide +kernel
  have checked : checkAlong World.step (fun world action => !secondHandshake world.rt action)
      (.initial (.small 1 (by decide) (by decide))) rejectedOnce = true := by decide +kernel
  have looped : ∀ action ∈ rejectedOnce, action.looped = true := by
    rw [← List.all_eq_true]
    rfl
  obtain ⟨world, ran, starts⟩ := exists_of_toOption_map seen
  have once := along_of_checkAlong checked
  simp only [Bool.not_eq_true'] at once
  exact ⟨world, _, ran, starts, rfl, rejection_final ran looped once 0⟩

/-- The bytes behind the rejected handshake are a valid one. The first 16 are read when the
socket is polled, the next 16 by the pass over all clients that follows. -/
def rejectedThenAccepted : List Action :=
  [.connect 5 ⟨true, true⟩, .input 0 [.data badHandshake [] false],
    .input 0 [.data (HandshakeRequest.encode
      ⟨wireMagic, protocolMajor, protocolMinor, abiMajor, abiMinor, 0⟩) [] false]]

/-- A rejected connection is answered ACCEPT and enters the submit phase. -/
theorem rejection_not_final :
    ∃ world greeting second, run World.step (.initial (.small 1 (by decide) (by decide)))
        rejectedThenAccepted = .ok world ∧
      (∀ action ∈ rejectedThenAccepted, action.looped = true) ∧
      world.stream 0 = HandshakeResult.encode greeting ++ HandshakeResult.encode second ∧
      greeting.status = handshakeReject ∧ second.status = handshakeAccept ∧
      world.hostOf 0 = some 0 ∧ (world.rt.clients 0).phase = .submit ∧
      ¬ RejectionFinal world 0 := by
  have seen : ((run World.step (.initial (.small 1 (by decide) (by decide)))
      rejectedThenAccepted).toOption.map fun world =>
        (world.stream 0, world.hostOf 0, (world.rt.clients 0).phase)) =
      some (HandshakeResult.encode
        ⟨wireMagic, protocolMajor, protocolMinor, abiMajor, abiMinor, handshakeReject, 0,
          .zero⟩ ++ HandshakeResult.encode
        ⟨wireMagic, protocolMajor, protocolMinor, abiMajor, abiMinor, handshakeAccept, 0,
          ⟨0, 0, 0, 0, 4095, 1, 1, 1, 16⟩⟩, some 0, .submit) := by decide +kernel
  have looped : ∀ action ∈ rejectedThenAccepted, action.looped = true := by
    rw [← List.all_eq_true]
    rfl
  obtain ⟨world, ran, view⟩ := exists_of_toOption_map seen
  obtain ⟨starts, view⟩ := Prod.mk.inj view
  obtain ⟨hosts, phase⟩ := Prod.mk.inj view
  refine ⟨world, _, _, ran, looped, starts, rfl, rfl, hosts, phase, ?_⟩
  intro final
  have stays := ((final.rejected _ _ starts rfl).2.2.2 0 hosts).1
  rw [phase] at stays
  cases stays

end Runs

end Iouringd
