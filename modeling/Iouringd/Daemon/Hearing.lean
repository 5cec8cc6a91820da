import Iouringd.Daemon.InputBounds
import Iouringd.Daemon.Machine
import Iouringd.Daemon.Stream

/-! # A connection and the grammar

After the handshake the peer of a connection sends a stream of bytes. It reaches the daemon in
pieces, `iouringd_service_client_readable` is called between other work of the loop, and the
requests it makes ready are dispatched before it reads on. Whatever the pieces, the gaps and
the work in between, the requests made ready are those the grammar reads off the whole stream,
and the connection is refused where the grammar refuses it.
-/

namespace Iouringd

open Foundation

/-! ## Decoding one request -/

/-- Two records are decoded alike. -/
def DecodedAlike (first second : Client) : Prop :=
  match processSubmitInput first, processSubmitInput second with
  | .error _, .error _ => True
  | .ok next, .ok other =>
      next.requestReady = other.requestReady ∧ next.expectedInput = other.expectedInput ∧
        (next.requestReady = true →
          next.decodedRequest = other.decodedRequest ∧ next.controlOp = other.controlOp)
  | _, _ => False

/-- What earlier requests left in the record has no influence on the next one. -/
theorem decodedAlike {first second : Client} (received : first.received = second.received)
    (limit : first.ioBytesMax = second.ioBytesMax) (within : first.ioBytesMax ≤ maxIoBytes)
    (descriptor : 0 ≤ first.receivedFd ↔ 0 ≤ second.receivedFd)
    (unready : first.requestReady = false ∧ second.requestReady = false) :
    DecodedAlike first second := by
  have agrees := @processSubmitInput_agrees first within
  have agreesOther := @processSubmitInput_agrees second (limit ▸ within)
  unfold Agrees at agrees agreesOther
  rw [← limit, ← received] at agreesOther
  unfold DecodedAlike
  cases parsed : parseRequest first.ioBytesMax first.received with
  | incomplete needed =>
      rw [parsed] at agrees agreesOther
      obtain ⟨request, processed⟩ := agrees
      obtain ⟨other, processedOther⟩ := agreesOther
      rw [processed, processedOther]
      refine ⟨unready.1.trans unready.2.symm, rfl, fun ready => ?_⟩
      exact absurd (unready.1.symm.trans ready) nofun
  | malformed =>
      rw [parsed] at agrees agreesOther
      obtain ⟨errno, processed⟩ := agrees
      obtain ⟨other, processedOther⟩ := agreesOther
      rw [processed, processedOther]
      trivial
  | message request rest =>
      have stray : first.strayDescriptor request.kind = second.strayDescriptor request.kind := by
        unfold Client.strayDescriptor
        simp only [descriptor]
      simp only [parsed] at agrees agreesOther
      rw [← stray] at agreesOther
      by_cases carries : first.strayDescriptor request.kind = true
      · rw [if_pos carries] at agrees agreesOther
        obtain ⟨errno, processed⟩ := agrees
        obtain ⟨other, processedOther⟩ := agreesOther
        rw [processed, processedOther]
        trivial
      · rw [if_neg carries] at agrees agreesOther
        obtain ⟨next, processed, made⟩ := agrees
        obtain ⟨other, processedOther, madeOther⟩ := agreesOther
        rw [processed, processedOther]
        exact ⟨made.ready.trans madeOther.ready.symm,
          made.expectedInput.trans madeOther.expectedInput.symm, fun _ =>
          ⟨made.decoded.trans madeOther.decoded.symm,
            made.controlOp.trans madeOther.controlOp.symm⟩⟩

/-! ## Listening to one connection -/

/-- How it stands with the connection: it is open, its decoder refused what the peer sent, or
it was closed for another reason. -/
inductive Ending where
  | listening
  | refused
  | lost
  deriving DecidableEq, Repr

/-- The daemon, what the socket of the connection still holds, and the requests that were made
ready. -/
structure Hearing where
  rt : Runtime
  socket : List RecvOutcome
  requests : List Request
  ending : Ending

/-- The connection is served, or the daemon does something else. -/
inductive HearingAction where
  | serve
  | act (action : Action)

/-- The daemon reads from the connection at `index`. -/
def Action.readsFrom (index : Nat) : Action → Bool
  | .input other _ => other == index
  | _ => false

/-- One step. While the connection is open only `serve` reads from it, and it reads what its
peer sent. -/
def Hearing.step (index : Nat) (state : Hearing) : HearingAction → Except Errno Hearing
  | .serve =>
      if state.ending = .listening then do
        let result ← serviceClientReadable state.rt index state.socket
        let client := result.1.clients index
        .ok {
          rt := result.1
          socket := result.2.2
          requests :=
            if (state.rt.clients index).requestReady = false ∧ client.requestReady = true then
              state.requests ++ [client.decodedRequest]
            else state.requests
          ending := if client.isActive then .listening else .refused }
      else .ok state
  | .act action =>
      if state.ending = .listening ∧ action.readsFrom index = true then .ok state
      else do
        let rt ← Iouringd.step state.rt action
        .ok { state with
          rt
          ending :=
            if state.ending = .listening ∧ (rt.clients index).isActive = false then .lost
            else state.ending }

section Client

variable {limit : Nat} {heard : List UInt8} {requests : List Request} {client next : Client}
  {socket : List RecvOutcome}

/-- The decoder of an open connection waits for bytes, or a request is ready and nothing behind
it was read. -/
inductive Attends (limit : Nat) (heard : List UInt8) (requests : List Request) (client : Client)
    (socket : List RecvOutcome) : Prop
  | waiting (unready : client.requestReady = false)
      (listens : Listens limit heard requests client) (bound : Bound client socket)
  | holding (ready : client.requestReady = true)
      (start : client.received = [] ∧ client.expectedInput = SubmitRequest.size ∧
        client.ioBytesMax = limit)
      (descriptor : 0 ≤ client.receivedFd → client.controlOp = some .registerFd)
      (reading : (requestFraming limit).read heard = ⟨requests, [], false⟩)

/-- Output, slots and counters play no part. -/
theorem Attends.of_core (core : next.core = client.core)
    (attends : Attends limit heard requests client socket) :
    Attends limit heard requests next socket := by
  have field : ∀ {α : Type} (get : Client → α), get next.core = get client.core :=
    fun get => congrArg get core
  have requestReady : next.requestReady = client.requestReady := field Client.requestReady
  have received : next.received = client.received := field Client.received
  have expectedInput : next.expectedInput = client.expectedInput := field Client.expectedInput
  have ioBytesMax : next.ioBytesMax = client.ioBytesMax := field Client.ioBytesMax
  have receivedFd : next.receivedFd = client.receivedFd := field Client.receivedFd
  have controlOp : next.controlOp = client.controlOp := field Client.controlOp
  cases attends with
  | waiting unready listens bound =>
      refine .waiting (requestReady.trans unready) ⟨ioBytesMax.trans listens.ioBytesMax, ?_, ?_⟩ ?_
      · rw [received]
        exact listens.reading
      · rw [received, expectedInput]
        exact listens.expected
      · unfold Bound
        rw [received, receivedFd]
        exact bound
  | holding ready start descriptor reading =>
      refine .holding (requestReady.trans ready) ?_ ?_ reading
      · rw [received, expectedInput, ioBytesMax]
        exact start
      · rw [receivedFd, controlOp]
        exact descriptor

/-- A request that was answered gives way to the next one. -/
theorem Attends.answered (attends : Attends limit heard requests client socket)
    (ready : client.requestReady = true)
    (core : next.core =
      ({ client.finishRequest with receivedFd := next.receivedFd } : Client).core)
    (descriptor : next.receivedFd < 0 ∨
      client.controlOp ≠ some .registerFd ∧ next.receivedFd = client.receivedFd) :
    Attends limit heard requests next socket := by
  cases attends with
  | waiting unready listens bound => exact absurd (unready.symm.trans ready) nofun
  | holding ready start held reading =>
      have none : next.receivedFd < 0 := by
        rcases descriptor with none | ⟨other, same⟩
        · exact none
        · rw [same]
          exact Int32.not_le.mp fun valid => other (held valid)
      obtain ⟨empty, expected, bytes⟩ := start
      refine .of_core core (.waiting rfl ⟨bytes, ?_, ?_⟩ ?_)
      · have rest : ({ client.finishRequest with receivedFd := next.receivedFd } :
          Client).received = [] := empty
        rw [rest]
        exact reading
      · change parseRequest limit client.received = .incomplete client.expectedInput
        rw [empty, expected]
        rfl
      · exact fun valid => absurd none (Int32.not_lt.mpr valid)

end Client

/-! ## Every run -/

section Runs

variable {config : Config} {index : Nat} {stream heard : List UInt8} {state next : Hearing}

/-- What was read so far, against what the grammar makes of it. -/
inductive Told (config : Config) (index : Nat) (heard : List UInt8) (state : Hearing) : Prop
  | listening (ending : state.ending = .listening)
      (proper : Proper config.limits.ioBytesMax heard state.socket)
      (active : (state.rt.clients index).isActive = true)
      (submit : (state.rt.clients index).phase = .submit)
      (attends : Attends config.limits.ioBytesMax heard state.requests (state.rt.clients index)
        state.socket)
  | refused (ending : state.ending = .refused)
      (messages : ((requestFraming config.limits.ioBytesMax).read heard).messages = state.requests)
      (broken : ((requestFraming config.limits.ioBytesMax).read heard).broken = true)
  | lost (ending : state.ending = .lost)
      (messages : ((requestFraming config.limits.ioBytesMax).read heard).messages = state.requests)

/-- The part of the stream that was read amounts to the requests made ready. -/
structure Heeds (config : Config) (index : Nat) (stream : List UInt8) (state : Hearing) :
    Prop where
  reachable : Reachable config state.rt
  told : ∃ heard, stream = heard ++ incomingBytes state.socket ∧ Told config index heard state

theorem Attends.messages {limit : Nat} {requests : List Request} {client : Client}
    {socket : List RecvOutcome} (attends : Attends limit heard requests client socket) :
    ((requestFraming limit).read heard).messages = requests ∧
      ((requestFraming limit).read heard).broken = false := by
  cases attends with
  | waiting unready listens bound =>
      rw [listens.reading]
      exact ⟨rfl, rfl⟩
  | holding ready start descriptor reading =>
      rw [reading]
      exact ⟨rfl, rfl⟩

theorem Told.messages (told : Told config index heard state) :
    ((requestFraming config.limits.ioBytesMax).read heard).messages = state.requests := by
  cases told with
  | listening ending proper active submit attends => exact attends.messages.1
  | refused ending messages broken => exact messages
  | lost ending messages => exact messages

/-- Serving an open connection that waits for bytes. -/
theorem serve_hears (reachable : Reachable config state.rt)
    (below : index < config.limits.maxClients) (ending : state.ending = .listening)
    (proper : Proper config.limits.ioBytesMax heard state.socket)
    (active : (state.rt.clients index).isActive = true)
    (submit : (state.rt.clients index).phase = .submit)
    (unready : (state.rt.clients index).requestReady = false)
    (listens : Listens config.limits.ioBytesMax heard state.requests (state.rt.clients index))
    (bound : Bound (state.rt.clients index) state.socket) :
    ∃ next taken, state.step index .serve = .ok next ∧
      Reachable config next.rt ∧
      incomingBytes state.socket = taken ++ incomingBytes next.socket ∧
      Told config index (heard ++ taken) next ∧
      (next.ending = .refused ∨ (∃ request, next.requests = state.requests ++ [request]) ∨
        next.socket = [] ∨ .again :: next.socket <:+ state.socket) := by
  obtain ⟨⟨rt, progress, rest⟩, serviced⟩ := @serviceLoop_total index
    ((incomingBytes state.socket).length + 2) state.rt false state.socket submit
  obtain ⟨taken, split, behind, hears⟩ := serviceLoop_hears config.ioBytesMax_le active submit
    unready listens bound proper (by omega) serviced
  have served : serviceClientReadable state.rt index state.socket = .ok (rt, progress, rest) :=
    serviced
  have after : Reachable config rt :=
    reachable.serviced (reachable.invariant.limits ▸ below) active served
  simp only [Hearing.step, ending, ↓reduceIte, served, unready, true_and]
  refine ⟨_, taken, rfl, after, split, ?_⟩
  cases hears with
  | waits activeNow submitNow unreadyNow boundNow listensNow gap =>
      simp only [activeNow, unreadyNow, Bool.false_eq_true, ↓reduceIte]
      exact ⟨.listening rfl behind activeNow submitNow (.waiting unreadyNow listensNow boundNow),
        Or.inr (Or.inr gap)⟩
  | readied request activeNow submitNow ready decoded controlOp some stray start reading =>
      simp only [activeNow, ready, decoded, ↓reduceIte]
      refine ⟨.listening rfl behind activeNow submitNow (.holding ready start ?_ reading),
        Or.inr (Or.inl ⟨request, rfl⟩)⟩
      intro held
      rw [controlOp, stray held]
      rfl
  | refused gone reading =>
      have idle : (rt.clients index).requestReady = false := by
        rw [Bool.eq_false_iff]
        intro ready
        have active := ((after.invariant.entries index).ready ready).1
        exact absurd (gone.symm.trans active) nofun
      simp only [gone, idle, Bool.false_eq_true, ↓reduceIte, true_or, and_true]
      exact .refused rfl reading.1 reading.2

/-- A step of the daemon that does not read from the connection. -/
theorem act_hears {action : Action} {rt : Runtime} (reachable : Reachable config state.rt)
    (told : Told config index heard state) (taken : Iouringd.step state.rt action = .ok rt)
    (elsewhere : state.ending = .listening → action.readsFrom index = false) :
    Told config index heard { state with
      rt
      ending :=
        if state.ending = .listening ∧ (rt.clients index).isActive = false then .lost
        else state.ending } := by
  cases told with
  | refused ending messages broken =>
      exact .refused (by simp only [ending, reduceCtorEq, false_and, ↓reduceIte]) messages broken
  | lost ending messages =>
      exact .lost (by simp only [ending, reduceCtorEq, false_and, ↓reduceIte]) messages
  | listening ending proper active submit attends =>
      by_cases gone : (rt.clients index).isActive = false
      · exact .lost (by simp only [ending, gone, and_self, ↓reduceIte]) attends.messages.1
      have still := Bool.eq_true_of_not_eq_false gone
      have elsewhere : ∀ incoming, action ≠ .input index incoming := by
        intro incoming same
        have reads := elsewhere ending
        rw [same, Action.readsFrom, beq_self_eq_true] at reads
        cases reads
      cases (step_effect reachable.invariant.grounded taken).between elsewhere with
      | same core =>
          refine .listening (by simp only [ending, still, reduceCtorEq, and_false, ↓reduceIte])
            proper still ?_ (attends.of_core core)
          exact (congrArg Client.phase core).trans submit
      | opened fd found entry =>
          obtain ⟨-, reusable⟩ := firstBelow_some found
          simp only [Bool.and_eq_true, Bool.not_eq_true'] at reusable
          exact absurd (reusable.1.1.symm.trans active) nofun
      | answered ready core descriptor =>
          refine .listening (by simp only [ending, still, reduceCtorEq, and_false, ↓reduceIte])
            proper still ?_ (attends.answered ready core descriptor)
          exact (congrArg Client.phase core).trans submit
      | gone inactive => exact absurd inactive gone

/-- A connection whose request is ready is not read from. -/
theorem serve_holding (ending : state.ending = .listening)
    (active : (state.rt.clients index).isActive = true)
    (ready : (state.rt.clients index).requestReady = true) :
    state.step index .serve = .ok state := by
  have served : serviceClientReadable state.rt index state.socket =
      .ok (state.rt, false, state.socket) := by
    unfold serviceClientReadable serviceLoop
    simp only [ready, Bool.or_true, ↓reduceIte]
  simp only [Hearing.step, ending, ↓reduceIte, served, ready, Bool.true_eq_false, false_and]
  refine congrArg Except.ok (congrArg (Hearing.mk _ _ _) ?_)
  exact (if_pos active).trans ending.symm

theorem Heeds.stepped {action : HearingAction} (below : index < config.limits.maxClients)
    (heeds : Heeds config index stream state)
    (taken : state.step index action = .ok next) : Heeds config index stream next := by
  obtain ⟨reachable, heard, split, told⟩ := heeds
  cases action with
  | serve =>
      by_cases open_ : state.ending = .listening
      · cases told with
        | refused ending messages broken => exact absurd (open_.symm.trans ending) nofun
        | lost ending messages => exact absurd (open_.symm.trans ending) nofun
        | listening ending proper active submit attends =>
            cases attends with
            | waiting unready listens bound =>
                obtain ⟨after, piece, served, reachableNext, cut, toldNext, -⟩ := serve_hears
                  reachable below ending proper active submit unready listens bound
                cases served.symm.trans taken
                refine ⟨reachableNext, heard ++ piece, ?_, toldNext⟩
                rw [split, cut, List.append_assoc]
            | holding ready start descriptor reading =>
                cases (serve_holding ending active ready).symm.trans taken
                exact ⟨reachable, heard, split,
                  .listening ending proper active submit (.holding ready start descriptor reading)⟩
      · simp only [Hearing.step, open_, ↓reduceIte] at taken
        cases taken
        exact ⟨reachable, heard, split, told⟩
  | act action =>
      simp only [Hearing.step] at taken
      split at taken
      · cases taken
        exact ⟨reachable, heard, split, told⟩
      · rename_i apart
        obtain ⟨rt, stepped, done⟩ := bind_ok taken
        cases done
        refine ⟨reachable.stepped stepped, heard, split, act_hears reachable told stepped ?_⟩
        intro ending
        rw [Bool.eq_false_iff]
        exact fun reads => apart ⟨ending, reads⟩

/-- What the daemon makes of a stream, against what the grammar makes of it: as long as the
connection is open or when it was lost, the requests made ready are the first of the stream; all
of them when it was refused, and then the grammar refuses what follows; all of them when the
stream was read to its end, and then the grammar refuses nothing. A call always takes the next
bytes, unless a request waits to be dispatched. -/
structure FollowsGrammar (framing : Framing Request UInt8) (index : Nat) (stream : List UInt8)
    (state : Hearing) : Prop where
  requests : state.requests <+: (framing.read stream).messages
  refused : state.ending = .refused →
    state.requests = (framing.read stream).messages ∧ (framing.read stream).broken = true
  drained : state.ending = .listening → incomingBytes state.socket = [] →
    state.requests = (framing.read stream).messages ∧ (framing.read stream).broken = false
  progress : state.ending = .listening → (state.rt.clients index).requestReady = false →
    state.socket ≠ [] → ∃ next, state.step index .serve = .ok next ∧
      (next.ending = .refused ∨ (∃ request, next.requests = state.requests ++ [request]) ∨
        next.socket.length < state.socket.length)

theorem Heeds.grammar (below : index < config.limits.maxClients)
    (heeds : Heeds config index stream state) :
    FollowsGrammar (requestFraming config.limits.ioBytesMax) index stream state := by
  obtain ⟨reachable, heard, split, told⟩ := heeds
  have messages := told.messages
  have whole := @Framing.read_append _ _ (requestFraming config.limits.ioBytesMax) heard
    (incomingBytes state.socket)
  rw [← split] at whole
  constructor
  · rw [whole]
    split
    · exact messages ▸ List.prefix_rfl
    · exact messages ▸ List.prefix_append _ _
  · intro ending
    cases told with
    | refused _ _ broken =>
        rw [whole, if_pos broken]
        exact ⟨messages.symm, rfl⟩
    | listening other _ _ _ _ => exact absurd (ending.symm.trans other) nofun
    | lost other _ => exact absurd (ending.symm.trans other) nofun
  · intro ending empty
    rw [empty, List.append_nil] at split
    cases told with
    | listening _ _ _ _ attends =>
        rw [split]
        exact ⟨messages.symm, attends.messages.2⟩
    | refused other _ _ => exact absurd (ending.symm.trans other) nofun
    | lost other _ => exact absurd (ending.symm.trans other) nofun
  · intro ending unready some
    cases told with
    | listening _ proper active submit attends =>
        cases attends with
        | holding ready _ _ _ => exact absurd (unready.symm.trans ready) nofun
        | waiting _ listens bound =>
            obtain ⟨next, taken, served, -, -, -, gained⟩ := serve_hears
              reachable below ending proper active submit unready listens bound
            refine ⟨next, served, ?_⟩
            rcases gained with refused | more | empty | gap
            · exact Or.inl refused
            · exact Or.inr (Or.inl more)
            · refine Or.inr (Or.inr ?_)
              rw [empty]
              exact List.length_pos_iff.mpr some
            · exact Or.inr (Or.inr (Nat.lt_of_succ_le gap.length_le))
    | refused other _ _ => exact absurd (ending.symm.trans other) nofun
    | lost other _ => exact absurd (ending.symm.trans other) nofun

/-- In every run after the handshake of a connection, whatever the pieces of its stream and the
gaps between them and whatever the daemon does besides, the requests made ready and the message
at which the connection is refused are those of the grammar; and each request is decoded from
its own bytes. -/
theorem decoder_refines_grammar {rt : Runtime} {socket : List RecvOutcome}
    {actions : List HearingAction} (reachable : Reachable config rt)
    (below : index < config.limits.maxClients)
    (boundary : AtBoundary config.limits.ioBytesMax (rt.clients index))
    (proper : Proper config.limits.ioBytesMax [] socket)
    (ran : run (Hearing.step index) ⟨rt, socket, [], .listening⟩ actions = .ok state) :
    FollowsGrammar (requestFraming config.limits.ioBytesMax) index (incomingBytes socket) state ∧
      ∀ first second : Client, first.received = second.received →
        first.ioBytesMax = second.ioBytesMax → first.ioBytesMax ≤ maxIoBytes →
        (0 ≤ first.receivedFd ↔ 0 ≤ second.receivedFd) →
        first.requestReady = false ∧ second.requestReady = false → DecodedAlike first second := by
  refine ⟨?_, fun _ _ => decodedAlike⟩
  have start : Heeds config index (incomingBytes socket) ⟨rt, socket, [], .listening⟩ :=
    ⟨reachable, [], rfl, .listening rfl proper boundary.active boundary.submit
      (.waiting boundary.unready boundary.listens boundary.bound)⟩
  have heeds : Heeds config index (incomingBytes socket) state :=
    run_preserves (fun _ _ _ _ heeds taken => heeds.stepped below taken) start ran
  exact heeds.grammar below

/-- A socket that carries no descriptors. -/
theorem Proper.plain {limit : Nat} {socket : List RecvOutcome}
    (plain : ∀ outcome ∈ socket, outcome = .again ∨ ∃ bytes, outcome = .data bytes [] false) :
    Proper limit heard socket := by
  constructor
  · intro outcome member
    rcases plain outcome member with rfl | ⟨bytes, rfl⟩
    · exact ⟨nofun, nofun⟩
    · exact ⟨nofun, nofun⟩
  · intro before bytes control truncated after same
    have member : RecvOutcome.data bytes control truncated ∈ socket := by
      rw [same]
      exact List.mem_append_right _ List.mem_cons_self
    rcases plain _ member with gap | ⟨piece, data⟩
    · cases gap
    · cases data
      exact ⟨rfl, Or.inl rfl⟩

/-- A NOP, the write of three bytes to a file and a message without the magic number, cut in
pieces with gaps between them. -/
def cutStream : List RecvOutcome :=
  let stream := (requestHeader .nop).encode ++ IoRequest.encode ⟨requestHeader .fileWrite, 5, 3⟩ ++
    [1, 2, 3] ++ List.replicate 16 0
  [.data (stream.take 7) [] false, .again, .data ((stream.drop 7).take 30) [] false,
    .data ((stream.drop 37).take 5) [] false, .again, .data (stream.drop 42) [] false]

/-- The two requests are made ready one behind the other, and the connection is refused. -/
theorem decoder_refines_grammar_cut :
    ∃ rt state, run step (Runtime.initial (.small 1 (by decide) (by decide))) (joining 0 7) =
        .ok rt ∧
      run (Hearing.step 0) ⟨rt, cutStream, [], .listening⟩
        [.serve, .serve, .act (.dispatch 0 .smooth), .serve, .serve, .act (.dispatch 0 .smooth),
          .serve] = .ok state ∧
      state.requests = [⟨.nop, .normal, .plain⟩, ⟨.fileWrite, .normal, .payload 5 [1, 2, 3]⟩] ∧
      state.ending = .refused ∧
      FollowsGrammar (requestFraming 16) 0 (incomingBytes cutStream) state := by
  have seen : ((run step (Runtime.initial (.small 1 (by decide) (by decide)))
      (joining 0 7)).toOption.map fun rt =>
        decide ((rt.clients 0).isActive = true ∧ (rt.clients 0).phase = .submit ∧
          (rt.clients 0).requestReady = false ∧ (rt.clients 0).inputLen = 0 ∧
          (rt.clients 0).expectedInput = SubmitRequest.size ∧ (rt.clients 0).receivedFd < 0 ∧
          (rt.clients 0).ioBytesMax = 16 ∧
          (run (Hearing.step 0) ⟨rt, cutStream, [], .listening⟩
            [.serve, .serve, .act (.dispatch 0 .smooth), .serve, .serve,
              .act (.dispatch 0 .smooth), .serve]).toOption.map (fun state =>
                decide (state.requests = [⟨.nop, .normal, .plain⟩,
                  ⟨.fileWrite, .normal, .payload 5 [1, 2, 3]⟩] ∧ state.ending = .refused)) =
            some true)) = some true := by decide +kernel
  obtain ⟨rt, ran, view⟩ := exists_of_toOption_map seen
  obtain ⟨active, submit, unready, inputLen, expected, receivedFd, limit, heard⟩ :=
    of_decide_eq_true view
  obtain ⟨state, listened, told⟩ := exists_of_toOption_map heard
  obtain ⟨requests, ending⟩ := of_decide_eq_true told
  have plain : ∀ outcome ∈ cutStream, outcome = .again ∨
      ∃ bytes, outcome = .data bytes [] false := by
    intro outcome member
    simp only [cutStream, List.mem_cons, List.not_mem_nil, or_false] at member
    rcases member with rfl | rfl | rfl | rfl | rfl | rfl
    all_goals first | exact Or.inl rfl | exact Or.inr ⟨_, rfl⟩
  have heeds := (@decoder_refines_grammar (.small 1 (by decide) (by decide)) 0 state rt cutStream
    _ ⟨_, ran⟩ (by decide) ⟨active, submit, unready, inputLen, expected, receivedFd, limit⟩
    (.plain plain) listened).1
  exact ⟨rt, state, ran, listened, requests, ending, heeds⟩

end Runs

end Iouringd
