import Iouringd.Daemon.World

/-! # Messages

Everything the daemon queues for a client is a whole message: a handshake result, a
reply, or a completion record with its payload. `SessionStep` is a step seen from one
connected entry, with the messages the step queues there, and `Emission` says for a
whole step which messages are queued on which entry.
-/

namespace Iouringd

open Foundation

/-- What is queued for a client. -/
inductive Message where
  | greeting (result : HandshakeResult)
  | submit (result : SubmitResult)
  | resource (result : ResourceResult)
  | stats (result : StatsResult)
  | trace (result : TraceResult) (events : List TraceEvent)
  | completion (record : CompletionRecord) (payload : List UInt8)

namespace Message

def encode : Message → List UInt8
  | greeting result => result.encode
  | submit result => result.encode
  | resource result => result.encode
  | stats result => result.encode
  | trace result events => result.encode ++ events.flatMap TraceEvent.encode
  | completion record payload => record.encode ++ payload

/-- The parts a message announces are there. -/
def Whole : Message → Prop
  | trace result events => result.count.toNat = events.length
  | completion record payload => payload.length = record.payloadLength.toNat
  | _ => True

/-- The type of a reply; greetings and completions are none. -/
def replyType : Message → Option ReplyType
  | submit _ => some .submit
  | resource _ => some .resource
  | stats _ => some .stats
  | trace _ _ => some .trace
  | _ => none

/-- The task a submit result with result 0 announces. -/
def accepts : Message → Option TaskId
  | submit result => if result.res = completionResOk then some result.taskId else none
  | _ => none

/-- The task a completion is for. -/
def completes : Message → Option TaskId
  | completion record _ => some record.taskId
  | _ => none

def isGreeting : Message → Bool
  | greeting _ => true
  | _ => false

end Message

/-- The type of reply a kind calls for. -/
def RequestKind.replyType : RequestKind → ReplyType
  | .registerFd | .registerBuffer | .releaseResource => .resource
  | .getStats => .stats
  | .getTrace => .trace
  | _ => .submit

/-- A grammatical request is answered by its kind. -/
theorem Grammatical.replyType {client : Client} (grammatical : Grammatical client) :
    client.decodedRequest.kind.replyType = client.replyType := by
  unfold Client.replyType
  rw [grammatical.controlOp]
  change client.request.taskKind.replyType = _
  cases kind : client.request.taskKind with
  | _ => rfl

/-- A step seen from an entry that was connected before it, with what is queued there. -/
inductive SessionStep (client next : Client) : List Message → Prop where
  | quiet (phase : next.phase = client.phase) (ready : next.requestReady = client.requestReady)
      (request : client.requestReady = true → next.decodedRequest = client.decodedRequest)
      (closing : next.closeAfterFlush = client.closeAfterFlush)
      (pending : ∃ count, next.pendingOutput = client.pendingOutput.drop count) :
      SessionStep client next []
  | received (submit : client.phase = .submit) (phase : next.phase = client.phase)
      (idle : client.requestReady = false)
      (ready : next.requestReady = true)
      (closing : next.closeAfterFlush = client.closeAfterFlush)
      (pending : next.pendingOutput = client.pendingOutput) : SessionStep client next []
  | greeted (result : HandshakeResult) (active : next.isActive = true)
      (phase : client.phase = .handshake) (idle : client.requestReady = false)
      (ready : next.requestReady = false)
      (answer : (result.status = handshakeAccept ∧ next.phase = .submit) ∨
        (result.status = handshakeReject ∧ next.phase = .handshake ∧ next.closeAfterFlush = true))
      (pending : next.pendingOutput = client.pendingOutput ++ result.encode) :
      SessionStep client next [.greeting result]
  | answered (message : Message) (active : next.isActive = true)
      (phase : client.phase = .submit) (samePhase : next.phase = .submit)
      (ready : client.requestReady = true) (idle : next.requestReady = false)
      (whole : message.Whole)
      (type : message.replyType = some client.decodedRequest.kind.replyType)
      (pending : next.pendingOutput = client.pendingOutput ++ message.encode) :
      SessionStep client next [message]
  | delivered (record : CompletionRecord) (payload : List UInt8) (active : next.isActive = true)
      (phase : next.phase = client.phase) (ready : next.requestReady = client.requestReady)
      (request : next.decodedRequest = client.decodedRequest)
      (closing : next.closeAfterFlush = client.closeAfterFlush)
      (whole : payload.length = record.payloadLength.toNat)
      (pending : next.pendingOutput = client.pendingOutput ++ (record.encode ++ payload)) :
      SessionStep client next [.completion record payload]
  | closed (inactive : next.isActive = false) (ready : next.requestReady = false) :
      SessionStep client next []

section Views

variable {client next : Client}

theorem SessionStep.of_core (count : Nat) (core : next.core = client.core)
    (pending : next.pendingOutput = client.pendingOutput.drop count) :
    SessionStep client next [] := by
  have phase := congrArg Client.phase core
  have ready := congrArg Client.requestReady core
  have request := congrArg Client.decodedRequest core
  have closing := congrArg Client.closeAfterFlush core
  exact .quiet phase ready (fun _ => request) closing ⟨count, pending⟩

theorem SessionStep.of_closed (last : Client) : SessionStep client (closedClient last) [] :=
  .closed (closedClient_inactive last) rfl

/-- Reading an entry queues nothing, or the answer to a handshake. -/
theorem Served.session {config : Config} (entry : Entry config client)
    (active : client.isActive = true) (served : Served client next) :
    ∃ messages, SessionStep client next messages ∧ ∀ message ∈ messages,
      message.isGreeting = true := by
  cases served with
  | reading _ same busy ready =>
      refine ⟨[], ?_, nofun⟩
      have phase : next.phase = client.phase := congrArg (·.phase) same
      have pending : next.pendingOutput = client.pendingOutput := congrArg (·.pendingOutput) same
      have closing : next.closeAfterFlush = client.closeAfterFlush :=
        congrArg (·.closeAfterFlush) same
      cases before : client.requestReady with
      | true =>
          rw [busy before]
          exact .quiet rfl rfl (fun _ => rfl) rfl ⟨0, rfl⟩
      | false =>
          cases after : next.requestReady with
          | false =>
              refine .quiet phase (after.trans before.symm) ?_ closing ⟨0, pending⟩
              rw [before]
              exact nofun
          | true =>
              rcases ready after with ⟨set, -⟩ | ⟨submit, -⟩
              · rw [before] at set
                cases set
              · exact .received submit phase before after closing pending
  | greeted result _ phase ready answer =>
      refine ⟨[.greeting result], ?_, ?_⟩
      · have idle : client.requestReady = false := by
          cases before : client.requestReady with
          | false => rfl
          | true =>
              rw [(entry.ready before).2.1] at phase
              cases phase
        rcases answer with ⟨status, same⟩ | ⟨status, same⟩
        · have fd : next.fd = client.fd := congrArg (·.fd) same
          have submit : next.phase = .submit := congrArg (·.phase) same
          have pending : next.pendingOutput = client.pendingOutput ++ result.encode :=
            congrArg (·.pendingOutput) same
          refine .greeted result ?_ phase idle ready (Or.inl ⟨status, submit⟩) pending
          unfold Client.isActive
          rw [fd]
          exact active
        · have fd : next.fd = client.fd := congrArg (·.fd) same
          have handshake : next.phase = client.phase := congrArg (·.phase) same
          have pending : next.pendingOutput = client.pendingOutput ++ result.encode :=
            congrArg (·.pendingOutput) same
          have closing : next.closeAfterFlush = true := congrArg (·.closeAfterFlush) same
          refine .greeted result ?_ phase idle ready
            (Or.inr ⟨status, handshake.trans phase, closing⟩) pending
          unfold Client.isActive
          rw [fd]
          exact active
      · intro message member
        rw [List.mem_singleton] at member
        subst member
        rfl
  | closed last same => exact ⟨[], .of_closed last, nofun⟩

theorem Flushed.session (flushed : Flushed client next) : SessionStep client next [] := by
  cases flushed with
  | sent count core pending => exact .of_core count core pending
  | closed last same entry =>
      subst entry
      exact .of_closed last

end Views

/-! ## The messages of a step -/

/-- The tasks the completions in a log are for. -/
def completionIds (log : List Message) : List TaskId := log.filterMap Message.completes

/-- The tasks the submit results in a log announce. -/
def acceptIds (log : List Message) : List TaskId := log.filterMap Message.accepts

/-- The types of the replies in a log. -/
def replyTypes (log : List Message) : List ReplyType := log.filterMap Message.replyType

/-- The task whose completion an action reads. -/
def World.reaping (world : World) : Action → Option TaskId
  | .reap _ => (ringPeekCompletion world.rt.ring).2.map (·.userData)
  | _ => none

section Dispatch

variable {rt middle next : Runtime} {index : Nat} {env : DispatchEnv} {bytes : List UInt8}

/-- What the reply to a request says. -/
def Message.Answers (rt : Runtime) (index : Nat) (env : DispatchEnv) : Message → Prop
  | submit result =>
      (∃ errno credits, result = ⟨taskIdInvalid, -errno, credits⟩ ∧
        (env.sane = true → 0 < errno)) ∨
      (∃ credits, result = ⟨rt.nextTaskId, completionResOk, credits⟩ ∧
        rt.nextTaskId < taskIdReservedMin)
  | resource result => result.Refuses env ∨ result.Grants
  | stats result => result = statsResult rt
  | trace result events =>
      result = traceResult rt (rt.clients index) ∧ events = traceReplyEvents rt (rt.clients index)
  | _ => False

/-- The answer of a dispatch is one reply of the type the request calls for. Only the
answer to a request that starts a task announces an id the daemon has given out. -/
theorem Dispatched.message (change : Dispatched rt index env middle bytes) :
    ∃ message : Message, message.encode = bytes ∧ message.Whole ∧
      message.replyType = some (rt.clients index).replyType ∧ message.completes = none ∧
      message.Answers rt index env ∧
      ((∃ taskIndex started, Started rt index taskIndex env started ∧
          middle = started.countAccepted index (rt.clients index).usesCredit ∧
          message.accepts = some rt.nextTaskId) ∨
        (middle.nextTaskId = rt.nextTaskId ∧
          ∀ id, message.accepts = some id → id = taskIdInvalid)) := by
  have silent : ∀ {message : Message}, message.accepts = none →
      ∀ id, message.accepts = some id → id = taskIdInvalid := by
    intro message none id announced
    rw [none] at announced
    cases announced
  have resource : (rt.clients index).controlOp = some .registerFd ∨
      (rt.clients index).controlOp = some .registerBuffer ∨
      (rt.clients index).controlOp = some .releaseResource →
      (rt.clients index).replyType = .resource := by
    rintro (named | named | named) <;> simp only [Client.replyType, named]
  cases change with
  | resourceRefused nextId result type unheld refuses =>
      exact ⟨.resource result, rfl, trivial, congrArg some type.symm, rfl, Or.inl refuses,
        Or.inr ⟨rfl, silent rfl⟩⟩
  | descriptorDropped nextId result operation held refuses =>
      have type := resource (Or.inl operation)
      exact ⟨.resource result, rfl, trivial, congrArg some type.symm, rfl, Or.inl refuses,
        Or.inr ⟨rfl, silent rfl⟩⟩
  | fileRegistered slot resourceId nextId ring result operation held found allocated valid
      updated grants =>
      have type := resource (Or.inl operation)
      exact ⟨.resource result, rfl, trivial, congrArg some type.symm, rfl, Or.inr grants,
        Or.inr ⟨rfl, silent rfl⟩⟩
  | bufferRegistered slot resourceId nextId result operation found allocated valid grants =>
      have type := resource (Or.inr (Or.inl operation))
      exact ⟨.resource result, rfl, trivial, congrArg some type.symm, rfl, Or.inr grants,
        Or.inr ⟨rfl, silent rfl⟩⟩
  | fileReleased slot ring result operation found idle updated grants =>
      have type := resource (Or.inr (Or.inr operation))
      refine ⟨.resource result, rfl, trivial, congrArg some type.symm, rfl, Or.inr grants,
        Or.inr ⟨?_, silent rfl⟩⟩
      unfold clearFileSlot
      dsimp only
      split <;> rfl
  | bufferReleased slot result operation found idle grants =>
      have type := resource (Or.inr (Or.inr operation))
      exact ⟨.resource result, rfl, trivial, congrArg some type.symm, rfl, Or.inr grants,
        Or.inr ⟨rfl, silent rfl⟩⟩
  | stats operation =>
      have type : (rt.clients index).replyType = .stats := by
        simp only [Client.replyType, operation]
      exact ⟨.stats (statsResult rt), rfl, trivial, congrArg some type.symm, rfl, rfl,
        Or.inr ⟨rfl, silent rfl⟩⟩
  | trace result events operation counted head listed =>
      have type : (rt.clients index).replyType = .trace := by
        simp only [Client.replyType, operation]
      exact ⟨.trace result events, rfl, counted, congrArg some type.symm, rfl, ⟨head, listed⟩,
        Or.inr ⟨rfl, silent rfl⟩⟩
  | refused _ errno credits type rolledBack positive =>
      refine ⟨.submit ⟨taskIdInvalid, -errno, credits⟩, rfl, trivial, congrArg some type.symm, rfl,
        Or.inl ⟨errno, credits, rfl, positive⟩, Or.inr ⟨?_, ?_⟩⟩
      · rw [rolledBack.frame]
      · intro id announced
        simp only [Message.accepts] at announced
        split at announced
        · exact (Option.some.inj announced).symm
        · cases announced
  | accepted taskIndex started credits type admitted start =>
      exact ⟨.submit ⟨rt.nextTaskId, completionResOk, credits⟩, rfl, trivial,
        congrArg some type.symm, rfl, Or.inr ⟨credits, rfl, start.fresh⟩,
        Or.inl ⟨taskIndex, started, start, rfl, rfl⟩⟩

end Dispatch

/-- What a message queued on an entry stands for. -/
inductive Origin (rt : Runtime) (index : Nat) : Action → Message → Prop where
  | greeting (result : HandshakeResult) (incoming : List RecvOutcome) :
      Origin rt index (.input index incoming) (.greeting result)
  | reply (env : DispatchEnv) (message : Message)
      (ready : (rt.clients index).requestReady = true)
      (answers : message.Answers rt index env) : Origin rt index (.dispatch index env) message
  | completion (env : CompleteEnv) (taskIndex : Nat) (res : Int32) (ring : Ring)
      (prepared : Preparation) (occupied : rt.occupied taskIndex = true)
      (own : (rt.tasks taskIndex).clientIndex = index)
      (connected : taskConnected rt (rt.tasks taskIndex) = true)
      (source : CompletionSource rt taskIndex res ring (.reap env))
      (prepares : Prepared { rt with ring } (rt.tasks taskIndex) res env.register prepared) :
      Origin rt index (.reap env) (.completion prepared.record
        (readPayload (rt.tasks taskIndex) res prepared).payloadBytes)

/-- The messages a step queues, by entry, and what they say about tasks: a completion is
queued on the entry that serves the owner of the task just reaped, and an id is announced
on the entry whose request drew it. -/
structure Emission (world : World) (action : Action) (next : Runtime)
    (extra : Nat → List Message) : Prop where
  session : ∀ index, (world.rt.clients index).isActive = true →
    SessionStep (world.rt.clients index) (next.clients index) (extra index)
  completes : ∀ index, (world.rt.clients index).isActive = true →
    completionIds (extra index) = (world.reaping action).toList.filter
      fun id => world.owner id == world.connection index
  accepts : ∀ index id, id ∈ acceptIds (extra index) → id = taskIdInvalid ∨
    (id ∈ startedIds world.rt next ∧ ∃ env, action = .dispatch index env)
  starts : ∀ id ∈ startedIds world.rt next, ∃ index env, action = .dispatch index env ∧
    (world.rt.clients index).isActive = true ∧ id ∈ acceptIds (extra index)
  greets : ∀ index, ∀ message ∈ extra index, message.isGreeting = true →
    ∃ incoming, action = .input index incoming
  origin : ∀ index, ∀ message ∈ extra index, Origin world.rt index action message

section Emission

variable {config : Config} {world : World} {action : Action} {next : Runtime}

/-- A step that leaves the id counter alone starts no task. -/
theorem StepShape.startedIds_eq_nil {rt : Runtime} (shape : StepShape rt next)
    (same : next.nextTaskId = rt.nextTaskId) : startedIds rt next = [] := by
  apply List.eq_nil_iff_forall_not_mem.mpr
  intro id member
  obtain ⟨low, high⟩ := shape.startedIds_bounds member
  rw [same] at high
  exact absurd low (UInt64.not_le.mpr high)

/-- A step that reads no completion, starts no task and queues messages on one entry. -/
theorem Emission.of_messages {extra : Nat → List Message}
    (session : ∀ index, (world.rt.clients index).isActive = true →
      SessionStep (world.rt.clients index) (next.clients index) (extra index))
    (unread : world.reaping action = none)
    (idle : startedIds world.rt next = [])
    (neutral : ∀ index, ∀ message ∈ extra index, message.completes = none ∧
      ∀ id, message.accepts = some id → id = taskIdInvalid)
    (greets : ∀ index, ∀ message ∈ extra index, message.isGreeting = true →
      ∃ incoming, action = .input index incoming)
    (origin : ∀ index, ∀ message ∈ extra index, Origin world.rt index action message) :
    Emission world action next extra where
  session := session
  completes := by
    intro index _
    rw [unread]
    apply List.filterMap_eq_nil_iff.mpr
    intro message member
    exact (neutral index message member).1
  accepts := by
    intro index id member
    obtain ⟨message, inside, announced⟩ := List.mem_filterMap.mp member
    exact Or.inl ((neutral index message inside).2 id announced)
  starts := by
    rw [idle]
    exact nofun
  greets := greets
  origin := origin

/-- A step that queues nothing. -/
theorem Emission.silent (session : ∀ index, (world.rt.clients index).isActive = true →
      SessionStep (world.rt.clients index) (next.clients index) [])
    (unread : world.reaping action = none) (idle : startedIds world.rt next = []) :
    Emission world action next fun _ => [] :=
  .of_messages session unread idle (fun _ => nofun) (fun _ => nofun) (fun _ => nofun)

/-- An entry that a step leaves as it was. -/
theorem SessionStep.of_eq {client after : Client} (same : after = client) :
    SessionStep client after [] := by
  subst same
  exact .of_core 0 rfl rfl

/-- The messages of a step that changes one entry. -/
theorem SessionStep.at_entry {rt : Runtime} {index : Nat} {messages : List Message}
    (here : SessionStep (rt.clients index) (next.clients index) messages)
    (others : ∀ other, other ≠ index → next.clients other = rt.clients other) (other : Nat) :
    SessionStep (rt.clients other) (next.clients other)
      (Function.update (fun _ => []) index messages other) := by
  by_cases same : other = index
  · subst same
    rw [Function.update_self]
    exact here
  · rw [Function.update_of_ne same]
    exact .of_eq (others other same)

/-- Messages on one entry are all the messages there are. -/
theorem mem_update_nil {index other : Nat} {messages : List Message} {message : Message}
    (member : message ∈ Function.update (fun _ => ([] : List Message)) index messages other) :
    other = index ∧ message ∈ messages := by
  by_cases same : other = index
  · subst same
    rw [Function.update_self] at member
    exact ⟨rfl, member⟩
  · rw [Function.update_of_ne same] at member
    cases member

theorem OnlyClient.client_other {rt : Runtime} {index other : Nat}
    (only : OnlyClient rt index next) (apart : other ≠ index) :
    next.clients other = rt.clients other := by
  rw [only.frame]
  exact Function.update_of_ne apart _ _

/-- The reply to a dispatched request. -/
theorem Hosted.dispatch_emission {index : Nat} {env : DispatchEnv} {middle : Runtime}
    {bytes : List UInt8} (hosted : Hosted config world)
    (taken : step world.rt (.dispatch index env) = .ok next)
    (connected : world.rt.connected index = true)
    (ready : (world.rt.clients index).requestReady = true)
    (change : Dispatched world.rt index env middle bytes)
    (answered : Answered middle index bytes next) :
    ∃ extra, Emission world (.dispatch index env) next extra := by
  have shape := step_shape hosted.invariant.grounded taken
  simp only [Runtime.connected, Bool.and_eq_true] at connected
  obtain ⟨-, submit, grammatical⟩ := (hosted.invariant.entries index).ready ready
  obtain ⟨core, unsent, -⟩ := change.core
  obtain ⟨message, encodes, whole, type, plain, answers, announces⟩ := change.message
  have entry := answered.client
  have session : SessionStep (world.rt.clients index) (next.clients index) [message] := by
    have fd := congrArg Client.fd core
    have phase := congrArg Client.phase core
    have active : (middle.clients index).isActive = (world.rt.clients index).isActive :=
      congrArg (fun fd : Fd => decide (0 ≤ fd)) fd
    rw [entry]
    refine .answered message (active.trans connected.2) submit (phase.trans submit) ready rfl whole
      ?_ ?_
    · rw [type, grammatical.replyType]
    · rw [encodes, ← unsent]
      rfl
  have others : ∀ other, other ≠ index → next.clients other = world.rt.clients other :=
    fun other apart => (answered.client_other apart).trans (change.client_other apart)
  have counter : next.nextTaskId = middle.nextTaskId := by rw [answered]
  have reply : message.isGreeting ≠ true := by
    intro greeting
    cases message with
    | greeting result => cases type
    | _ => cases greeting
  have greets : ∀ other, ∀ queued ∈ Function.update (fun _ => []) index [message] other,
      queued.isGreeting = true → ∃ incoming, Action.dispatch index env = .input other incoming := by
    intro other queued member greeting
    rw [List.mem_singleton.mp (mem_update_nil member).2] at greeting
    exact absurd greeting reply
  have origin : ∀ other, ∀ queued ∈ Function.update (fun _ => []) index [message] other,
      Origin world.rt other (.dispatch index env) queued := by
    intro other queued member
    obtain ⟨here, is⟩ := mem_update_nil member
    rw [here, List.mem_singleton.mp is]
    exact .reply env message ready answers
  refine ⟨Function.update (fun _ => []) index [message], ?_⟩
  rcases announces with ⟨taskIndex, started, start, same, announced⟩ | ⟨same, silent⟩
  · -- the one slot the step fills is that of the accepted request
    have filled : taskIndex ∈ startedSlots world.rt next := by
      have quiet := answered.quiet
      have occupied : next.occupied taskIndex = true := by
        rw [quiet.occupied_eq, same]
        refine occupied_iff.mpr ⟨?_, start.identifies.active⟩
        rw [start.countAccepted_eq]
        exact start.slot.1
      have vacant : world.rt.occupied taskIndex = false := by
        simp only [Runtime.occupied, start.slot.2, Bool.and_false]
      have within : taskIndex < next.taskCapacity := (occupied_iff.mp occupied).1
      simp only [startedSlots, List.mem_filter, List.mem_range, within, occupied, vacant,
        Bool.false_and, Bool.not_false, Bool.and_self, and_self]
    have drawn : (next.tasks taskIndex).taskId = world.rt.nextTaskId := (shape.started_id filled).1
    refine ⟨fun other _ => session.at_entry others other, ?_, ?_, ?_, greets, origin⟩
    · intro other _
      apply List.filterMap_eq_nil_iff.mpr
      intro queued member
      rw [List.mem_singleton.mp (mem_update_nil member).2]
      exact plain
    · intro other id member
      obtain ⟨queued, inside, id'⟩ := List.mem_filterMap.mp member
      obtain ⟨here, is⟩ := mem_update_nil inside
      rw [List.mem_singleton.mp is, announced] at id'
      rw [here, ← Option.some.inj id', ← drawn]
      exact Or.inr ⟨List.mem_map_of_mem filled, env, rfl⟩
    · intro id member
      obtain ⟨slot, inside, rfl⟩ := List.mem_map.mp member
      refine ⟨index, env, rfl, connected.2, ?_⟩
      rw [(shape.started_id inside).1, Function.update_self]
      exact List.mem_filterMap.mpr ⟨message, List.mem_singleton_self _, announced⟩
  · refine .of_messages (fun other _ => session.at_entry others other) rfl
      (shape.startedIds_eq_nil (counter.trans same)) ?_ greets origin
    intro other queued member
    rw [List.mem_singleton.mp (mem_update_nil member).2]
    exact ⟨plain, silent⟩

/-- The client of an active task is connected under the task's generation exactly if the
connection that owns the task is open. -/
theorem Hosted.taskConnected_eq (hosted : Hosted config world) {taskIndex : Nat}
    (occupied : world.rt.occupied taskIndex = true) :
    taskConnected world.rt (world.rt.tasks taskIndex) =
      (world.rt.clients (world.rt.tasks taskIndex).clientIndex).isActive := by
  unfold taskConnected
  rw [(hosted.tasks taskIndex occupied).2.2, beq_self_eq_true, Bool.and_true]

/-- The completion that is read goes to the owner of its task. -/
theorem Hosted.reap_emission {env : CompleteEnv} {taskIndex : Nat} {res : Int32} {ring : Ring}
    (hosted : Hosted config world) (taken : step world.rt (.reap env) = .ok next)
    (occupied : world.rt.occupied taskIndex = true)
    (source : CompletionSource world.rt taskIndex res ring (.reap env))
    (completed : Completed { world.rt with ring } taskIndex res env next) :
    ∃ extra, Emission world (.reap env) next extra := by
  obtain ⟨cqe, peeked, found, result⟩ := source
  have shape := step_shape hosted.invariant.grounded taken
  have idle : startedIds world.rt next = [] := by
    apply shape.startedIds_eq_nil
    rw [completed.frame]
  have id : cqe.userData = (world.rt.tasks taskIndex).taskId := by
    have matching := (firstBelow_some found).2
    simp only [Bool.and_eq_true, beq_iff_eq] at matching
    exact matching.2.symm
  have reaping : world.reaping (.reap env) = some (world.rt.tasks taskIndex).taskId := by
    rw [← id]
    unfold World.reaping
    rw [peeked]
    rfl
  obtain ⟨owner, known, generation⟩ := hosted.tasks taskIndex occupied
  have others : ∀ other, other ≠ (world.rt.tasks taskIndex).clientIndex →
      next.clients other = world.rt.clients other := by
    intro other apart
    rw [completed.frame]
    exact Function.update_of_ne apart _ _
  have core : (next.clients (world.rt.tasks taskIndex).clientIndex).core =
      (world.rt.clients (world.rt.tasks taskIndex).clientIndex).core := by
    rw [completed.frame]
    dsimp only
    rw [Function.update_self]
    rfl
  cases active : (world.rt.clients (world.rt.tasks taskIndex).clientIndex).isActive with
  | false =>
      refine ⟨fun _ => [], ?_, ?_, fun _ _ => nofun, ?_, fun _ => nofun, fun _ => nofun⟩
      · intro index present
        refine .of_eq (others index ?_)
        rintro rfl
        rw [active] at present
        cases present
      · intro index present
        rw [reaping]
        refine (List.filter_eq_nil_iff.mpr ?_).symm
        intro id' member own
        rw [Option.mem_toList.mp member |> Option.some.inj |>.symm, owner, beq_iff_eq] at own
        obtain ⟨conn, serves⟩ := Option.isSome_iff_exists.mp known
        have same := hosted.injective _ _ conn serves (own ▸ serves)
        rw [same, present] at active
        cases active
      · rw [idle]
        exact nofun
  | true =>
      have connected : taskConnected world.rt (world.rt.tasks taskIndex) = true := by
        rw [hosted.taskConnected_eq occupied, active]
      obtain ⟨record, payload, taskId, -, length, pending, prepared, prepares, sameRecord,
        samePayload⟩ := completed.delivers.connected connected
      have fd := congrArg Client.fd core
      have phase := congrArg Client.phase core
      have ready := congrArg Client.requestReady core
      have request := congrArg Client.decodedRequest core
      have closing := congrArg Client.closeAfterFlush core
      have stays : (next.clients (world.rt.tasks taskIndex).clientIndex).isActive =
          (world.rt.clients (world.rt.tasks taskIndex).clientIndex).isActive :=
        congrArg (fun fd : Fd => decide (0 ≤ fd)) fd
      have session : SessionStep (world.rt.clients (world.rt.tasks taskIndex).clientIndex)
          (next.clients (world.rt.tasks taskIndex).clientIndex) [.completion record payload] :=
        .delivered record payload (stays.trans active) phase ready request closing length
          pending
      refine ⟨Function.update (fun _ => []) _ [.completion record payload],
        fun other _ => session.at_entry others other, ?_, ?_, ?_, ?_, ?_⟩
      · intro index present
        rw [reaping]
        by_cases here : index = (world.rt.tasks taskIndex).clientIndex
        · subst here
          rw [Function.update_self]
          change [record.taskId] = _
          simp only [taskId, Option.toList_some, List.filter_cons, owner, beq_self_eq_true,
            ↓reduceIte, List.filter_nil]
        · rw [Function.update_of_ne here]
          refine (List.filter_eq_nil_iff.mpr ?_).symm
          intro id' member own
          rw [Option.mem_toList.mp member |> Option.some.inj |>.symm, owner, beq_iff_eq] at own
          obtain ⟨conn, serves⟩ := Option.isSome_iff_exists.mp known
          exact here (hosted.injective _ _ conn (own ▸ serves) serves)
      · intro index id' member
        obtain ⟨queued, inside, announced⟩ := List.mem_filterMap.mp member
        rw [List.mem_singleton.mp (mem_update_nil inside).2] at announced
        cases announced
      · rw [idle]
        exact nofun
      · intro index queued member greeting
        rw [List.mem_singleton.mp (mem_update_nil member).2] at greeting
        cases greeting
      · intro index queued member
        obtain ⟨here, is⟩ := mem_update_nil member
        rw [here, List.mem_singleton.mp is, sameRecord, samePayload]
        exact .completion env taskIndex res ring prepared occupied rfl connected
          ⟨cqe, peeked, found, result⟩ prepares

/-- Every step of the loop queues whole messages. -/
theorem Hosted.emission (hosted : Hosted config world) (looped : action.looped = true)
    (taken : step world.rt action = .ok next) : ∃ extra, Emission world action next extra := by
  have shape := step_shape hosted.invariant.grounded taken
  have idle : next.nextTaskId = world.rt.nextTaskId → startedIds world.rt next = [] :=
    shape.startedIds_eq_nil
  cases step_effect hosted.invariant.grounded taken with
  | idle action unread =>
      refine ⟨_, .silent (fun _ _ => .of_eq rfl) ?_ (idle rfl)⟩
      cases action with
      | reap env =>
          unfold World.reaping
          rw [unread env rfl]
          rfl
      | _ => rfl
  | turnedAway fd env => exact ⟨_, .silent (fun _ _ => .of_eq rfl) rfl (idle rfl)⟩
  | opened index fd env valid found =>
      refine ⟨_, .silent ?_ rfl (idle rfl)⟩
      intro other present
      refine .of_eq (Function.update_of_ne ?_ _ _)
      rintro rfl
      have free := (firstBelow_some found).2
      simp only [Bool.and_eq_true, Bool.not_eq_true', present, Bool.true_eq_false, false_and]
        at free
  | served index incoming _ connected only served =>
      simp only [Runtime.connected, Bool.and_eq_true] at connected
      obtain ⟨messages, session, greetings⟩ :=
        served.session (hosted.invariant.entries index) connected.2
      refine ⟨_, .of_messages (fun other _ => session.at_entry
        (fun other apart => only.client_other apart) other) rfl (idle (by rw [only.frame]))
        ?_ ?_ ?_⟩
      · intro other message member
        have greeting := greetings message (mem_update_nil member).2
        cases message with
        | greeting result => exact ⟨rfl, by rintro _ ⟨⟩⟩
        | _ => cases greeting
      · intro other message member _
        rw [(mem_update_nil member).1]
        exact ⟨incoming, rfl⟩
      · intro other message member
        obtain ⟨here, inside⟩ := mem_update_nil member
        have greeting := greetings message inside
        rw [here]
        cases message with
        | greeting result => exact .greeting result incoming
        | _ => cases greeting
  | dispatched index env middle bytes _ connected ready change answered =>
      exact hosted.dispatch_emission taken connected ready change answered
  | completed _ taskIndex res ring _ occupied source completed calls =>
      cases action with
      | reap env =>
          cases calls env rfl
          exact hosted.reap_emission taken occupied source completed
      | complete other result env => cases looped
      | _ => exact source.elim
  | swept updates _ swept slots =>
      refine ⟨_, .silent ?_ rfl (idle (by rw [swept.frame]))⟩
      intro other _
      exact .of_core 0 (slots.core other) (slots.pending other)
  | flushed index writes _ connected only flushed =>
      refine ⟨_, .of_messages (fun other _ => flushed.session.at_entry
        (fun other apart => only.client_other apart) other) rfl (idle (by rw [only.frame]))
        ?_ ?_ ?_⟩
      · intro other message member
        cases (mem_update_nil member).2
      · intro other message member
        cases (mem_update_nil member).2
      · intro other message member
        cases (mem_update_nil member).2
  | disconnected index connected =>
      have only : OnlyClient world.rt index (closeClient world.rt index) := .closeClient
      have session : SessionStep (world.rt.clients index)
          ((closeClient world.rt index).clients index) [] := by
        rw [closeClient_client]
        exact .of_closed _
      refine ⟨_, .of_messages (fun other _ => session.at_entry
        (fun other apart => only.client_other apart) other) rfl (idle (by rw [only.frame]))
        ?_ ?_ ?_⟩
      · intro other message member
        cases (mem_update_nil member).2
      · intro other message member
        cases (mem_update_nil member).2
      · intro other message member
        cases (mem_update_nil member).2
  | cursorMoved cursor => exact ⟨_, .silent (fun _ _ => .of_eq rfl) rfl (idle rfl)⟩
  | posted position res => exact ⟨_, .silent (fun _ _ => .of_eq rfl) rfl (idle rfl)⟩
  | stored store =>
      have clients : (world.rt.stored store).clients = world.rt.clients := by
        cases store <;> rfl
      refine ⟨_, .silent (fun other _ => .of_eq (by rw [clients])) rfl (idle ?_)⟩
      cases store <;> rfl

end Emission

end Iouringd
