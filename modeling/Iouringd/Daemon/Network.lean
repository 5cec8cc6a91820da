import Iouringd.Daemon.Handshakes
import Iouringd.Daemon.Hearing
import Iouringd.Lib.Handshake

/-! # The daemon and its peers

Every connection has a socket from which the daemon reads what the peer sent, handshake and
requests, until the peer hangs up. A `Network` is the daemon with these sockets; its runs are
runs of the daemon in which a connection only hears its own peer. The requests noted for a
connection are those the grammar reads off the stream of its peer.
-/

namespace Iouringd

open Foundation

/-! ## The end of a socket -/

/-- How a socket ends: it stays open, or the peer hangs up. -/
inductive Hangup : List RecvOutcome → Prop where
  | none : Hangup []
  | eof : Hangup [.eof]
  | failed (errno : Errno) : Hangup [.failed errno]

/-- A read that ends the connection. -/
def ReadStatus.ends : ReadStatus → Bool
  | .closed | .failed _ => true
  | _ => false

section Endings

variable {index fuel : Nat} {rt next : Runtime} {progress outcome : Bool}
  {live ending rest : List RecvOutcome}

theorem Hangup.incomingBytes_append (hangup : Hangup ending) (live : List RecvOutcome) :
    incomingBytes (live ++ ending) = incomingBytes live := by
  unfold incomingBytes
  rw [List.flatMap_append]
  cases hangup with
  | _ => exact List.append_nil _

/-- The end of a socket plays no part before it is reached, and then ends the connection. -/
theorem Hangup.read (hangup : Hangup ending) (client : Client) :
    readClientInput client (live ++ ending) =
        { readClientInput client live with rest := (readClientInput client live).rest ++ ending } ∨
      (readClientInput client (live ++ ending)).status.ends = true := by
  induction live generalizing client with
  | nil =>
      by_cases short : client.inputLen < client.expectedInput
      · cases hangup with
        | none => exact Or.inl (by rw [List.append_nil, List.append_nil])
        | eof =>
            right
            simp only [List.nil_append, readClientInput, short, ↓reduceIte]
            split <;> rfl
        | failed errno =>
            right
            simp only [List.nil_append, readClientInput, short, ↓reduceIte]
            rfl
      · left
        cases hangup with
        | _ => simp only [List.nil_append, List.append_nil, readClientInput, short, ↓reduceIte]
  | cons first rest ih =>
      rw [List.cons_append]
      by_cases short : client.inputLen < client.expectedInput
      · cases first with
        | data bytes control truncated =>
            have leftover : ∀ left : List UInt8, (if left.isEmpty then rest ++ ending
                else .data left [] false :: (rest ++ ending)) =
                  (if left.isEmpty then rest else .data left [] false :: rest) ++ ending := by
              intro left
              split <;> rfl
            simp only [readClientInput, short, ↓reduceIte, leftover]
            split
            · exact ih client
            · split
              · exact Or.inl rfl
              · split
                · exact Or.inl rfl
                · split
                  · exact ih _
                  · exact Or.inl rfl
        | eof =>
            right
            simp only [readClientInput, short, ↓reduceIte]
            split <;> rfl
        | again =>
            left
            simp only [readClientInput, short, ↓reduceIte]
        | interrupted =>
            simp only [readClientInput, short, ↓reduceIte]
            exact ih client
        | failed errno =>
            right
            simp only [readClientInput, short, ↓reduceIte]
            rfl
      · left
        simp only [readClientInput, short, ↓reduceIte, List.cons_append]

/-- So it is for a call of the service loop. -/
theorem Hangup.serviceLoop (hangup : Hangup ending)
    (serviced : serviceLoop index fuel rt progress (live ++ ending) = .ok (next, outcome, rest)) :
    (∃ rest', rest = rest' ++ ending ∧
      serviceLoop index fuel rt progress live = .ok (next, outcome, rest')) ∨
    (next.clients index).isActive = false := by
  induction fuel generalizing rt progress live with
  | zero =>
      cases serviced
      exact Or.inl ⟨live, rfl, rfl⟩
  | succ fuel ih =>
      unfold Iouringd.serviceLoop at serviced ⊢
      split at serviced
      · rename_i idle
        cases serviced
        rw [if_pos idle]
        exact Or.inl ⟨live, rfl, rfl⟩
      · rename_i busy
        rw [if_neg busy]
        rcases hangup.read (rt.clients index) with same | ends
        · rw [same] at serviced
          dsimp only at serviced ⊢
          generalize readClientInput (rt.clients index) live = result at *
          cases status : result.status with
          | closed =>
              simp only [status] at serviced ⊢
              cases serviced
              exact Or.inl ⟨_, rfl, rfl⟩
          | failed errno =>
              simp only [status] at serviced ⊢
              cases serviced
              exact Or.inl ⟨_, rfl, rfl⟩
          | again =>
              simp only [status] at serviced ⊢
              cases serviced
              exact Or.inl ⟨_, rfl, rfl⟩
          | full =>
              simp only [status] at serviced ⊢
              cases phase : result.client.phase with
              | handshake =>
                  simp only [phase] at serviced ⊢
                  obtain ⟨answered, queued, done⟩ := bind_ok serviced
                  cases done
                  rw [queued]
                  exact Or.inl ⟨_, rfl, rfl⟩
              | submit =>
                  simp only [phase] at serviced ⊢
                  cases processed : processSubmitInput result.client with
                  | error errno =>
                      simp only [processed] at serviced ⊢
                      cases serviced
                      exact Or.inl ⟨_, rfl, rfl⟩
                  | ok client =>
                      simp only [processed] at serviced ⊢
                      split at serviced
                      · rename_i ready
                        rw [if_pos ready]
                        cases serviced
                        exact Or.inl ⟨_, rfl, rfl⟩
                      · rename_i waits
                        rw [if_neg waits]
                        exact ih serviced
        · right
          dsimp only at serviced
          generalize readClientInput (rt.clients index) (live ++ ending) = result at *
          cases status : result.status with
          | closed =>
              simp only [status] at serviced
              cases serviced
              rw [closeClient_client]
              exact closedClient_inactive _
          | failed errno =>
              simp only [status] at serviced
              cases serviced
              rw [closeClient_client]
              exact closedClient_inactive _
          | again =>
              rw [status] at ends
              cases ends
          | full =>
              rw [status] at ends
              cases ends

theorem Hangup.serviced (hangup : Hangup ending)
    (serviced : serviceClientReadable rt index (live ++ ending) = .ok (next, outcome, rest)) :
    (∃ rest', rest = rest' ++ ending ∧
      serviceClientReadable rt index live = .ok (next, outcome, rest')) ∨
    (next.clients index).isActive = false := by
  unfold serviceClientReadable at serviced ⊢
  rw [hangup.incomingBytes_append] at serviced
  exact hangup.serviceLoop serviced

end Endings

/-! ## The handshake -/

/-- Pieces without descriptors, and gaps between them. -/
def Plain (socket : List RecvOutcome) : Prop :=
  ∀ outcome ∈ socket, outcome = .again ∨ outcome = .interrupted ∨
    ∃ bytes, outcome = .data bytes [] false

/-- What a read takes of plain pieces that hold no more than it waits for. -/
structure TakesPlain (client : Client) (opening later : List RecvOutcome) (result : ReadResult)
    (left : List RecvOutcome) : Prop where
  plain : Plain left
  rest : result.rest = left ++ later
  same : ∃ input length, result.client = { client with input, inputLen := length }
  received : client.received ++ incomingBytes opening =
    result.client.received ++ incomingBytes left
  closedFds : result.closedFds = []
  status : result.status = .again ∧ result.client.inputLen < client.expectedInput ∨
    result.status = .full ∧ result.client.inputLen = client.expectedInput

section Greetings

variable {config : Config} {index : Nat} {rt next : Runtime} {progress outcome : Bool}
  {opening later rest : List RecvOutcome}

theorem readClientInput_full {client : Client} (full : client.inputLen = client.expectedInput)
    (socket : List RecvOutcome) : readClientInput client socket = ⟨.full, client, [], socket⟩ := by
  have done : ¬ client.inputLen < client.expectedInput := by omega
  cases socket with
  | nil => simp only [readClientInput, done, ↓reduceIte]
  | cons first others => simp only [readClientInput, done, ↓reduceIte]

theorem Plain.tail {first : RecvOutcome} (plain : Plain (first :: opening)) : Plain opening :=
  fun outcome member => plain outcome (List.mem_cons_of_mem first member)

theorem readClientInput_plain {client : Client} (plain : Plain opening)
    (exact : client.inputLen + (incomingBytes opening).length = client.expectedInput) :
    ∃ left, TakesPlain client opening later (readClientInput client (opening ++ later)) left := by
  induction opening generalizing client with
  | nil =>
      rw [List.nil_append, readClientInput_full exact]
      exact ⟨[], nofun, rfl, ⟨_, _, rfl⟩, rfl, rfl, Or.inr ⟨rfl, exact⟩⟩
  | cons first others ih =>
      have behind := plain.tail
      have sizes : (incomingBytes (first :: others)).length =
          first.bytes.length + (incomingBytes others).length := by
        rw [incomingBytes_cons, List.length_append]
      -- a piece without bytes is passed over
      have pass : first.bytes = [] → ∃ left, TakesPlain client (first :: others) later
          (readClientInput client (others ++ later)) left := by
        intro empty
        have same : incomingBytes (first :: others) = incomingBytes others := by
          rw [incomingBytes_cons, empty, List.nil_append]
        obtain ⟨left, takes⟩ := ih behind (same ▸ exact)
        exact ⟨left, takes.plain, takes.rest, takes.same, same ▸ takes.received, takes.closedFds,
          takes.status⟩
      rw [List.cons_append]
      by_cases full : client.inputLen = client.expectedInput
      · rw [readClientInput_full full]
        exact ⟨first :: others, plain, rfl, ⟨_, _, rfl⟩, rfl, rfl, Or.inr ⟨rfl, full⟩⟩
      have short : client.inputLen < client.expectedInput := by omega
      rcases plain first List.mem_cons_self with rfl | rfl | ⟨bytes, rfl⟩
      · refine ⟨others, ?_⟩
        simp only [readClientInput, short, ↓reduceIte]
        exact ⟨behind, rfl, ⟨_, _, rfl⟩, rfl, rfl, Or.inl ⟨rfl, short⟩⟩
      · simp only [readClientInput, short, ↓reduceIte]
        exact pass rfl
      · simp only [readClientInput, short, ↓reduceIte]
        split
        · rename_i empty
          exact pass (List.isEmpty_iff.mp empty)
        · have within : bytes.length ≤ client.expectedInput - client.inputLen := by
            change _ + (incomingBytes (.data bytes [] false :: others)).length = _ at exact
            rw [sizes] at exact
            change _ + (bytes.length + _) = _ at exact
            omega
          rw [List.take_of_length_le within, List.drop_of_length_le within]
          simp only [receiveControl, Bool.false_eq_true, List.isEmpty_nil, ↓reduceIte]
          have grown := received_write client bytes client.receivedFd
          obtain ⟨left, takes⟩ := @ih { client with
            input := client.input.write client.inputLen bytes
            inputLen := client.inputLen + bytes.length } behind (by
              rw [sizes] at exact
              change _ + (bytes.length + _) = _ at exact
              dsimp only
              omega)
          obtain ⟨input, length, same⟩ := takes.same
          refine ⟨left, takes.plain, takes.rest, ⟨input, length, same⟩, ?_, takes.closedFds,
            takes.status⟩
          rw [← takes.received, incomingBytes_cons, ← List.append_assoc]
          exact congrArg (· ++ incomingBytes others) grown.symm

/-- The entry waits for the rest of the handshake request, which is in the first pieces of its
socket. -/
structure Greets (config : Config) (client : Client) (opening : List RecvOutcome) : Prop where
  active : client.isActive = true
  handshake : client.phase = .handshake
  unready : client.requestReady = false
  descriptor : client.receivedFd < 0
  expectedInput : client.expectedInput = SubmitRequest.size
  ioBytesMax : client.ioBytesMax = config.limits.ioBytesMax
  plain : Plain opening
  request : client.received ++ incomingBytes opening = clientHandshakeRequest.encode

/-- The request is accepted once it is there, and nothing behind it is taken. -/
theorem Greets.serviced (greets : Greets config (rt.clients index) opening)
    (serviced : serviceClientReadable rt index (opening ++ later) = .ok (next, outcome, rest)) :
    ∃ left, Plain left ∧ rest = left ++ later ∧ (Greets config (next.clients index) left ∨
      incomingBytes left = [] ∧ AtBoundary config.limits.ioBytesMax (next.clients index)) := by
  have size : (rt.clients index).inputLen + (incomingBytes opening).length =
      (rt.clients index).expectedInput := by
    rw [greets.expectedInput, ← Client.length_received, ← List.length_append, greets.request]
    rfl
  unfold serviceClientReadable serviceLoop at serviced
  simp only [greets.active, greets.unready, Bool.not_true, Bool.or_self, Bool.false_eq_true,
    ↓reduceIte] at serviced
  obtain ⟨left, takes⟩ := @readClientInput_plain opening later _ greets.plain size
  generalize readClientInput (rt.clients index) (opening ++ later) = result at *
  obtain ⟨input, length, same⟩ := takes.same
  have whole : result.client.received ++ incomingBytes left = clientHandshakeRequest.encode :=
    takes.received.symm.trans greets.request
  rw [takes.closedFds, List.foldl_nil] at serviced
  refine ⟨left, takes.plain, ?_⟩
  rcases takes.status with ⟨again, short⟩ | ⟨full, filled⟩
  · rw [again] at serviced
    cases serviced
    refine ⟨takes.rest, Or.inl ?_⟩
    rw [Runtime.clients_setClient]
    exact {
      active := by rw [same]; exact greets.active
      handshake := by rw [same]; exact greets.handshake
      unready := by rw [same]; exact greets.unready
      descriptor := by rw [same]; exact greets.descriptor
      expectedInput := by rw [same]; exact greets.expectedInput
      ioBytesMax := by rw [same]; exact greets.ioBytesMax
      plain := takes.plain
      request := whole }
  · have handshake : result.client.phase = .handshake := by
      rw [same]
      exact greets.handshake
    rw [full] at serviced
    simp only [handshake] at serviced
    obtain ⟨queued, answered, done⟩ := bind_ok serviced
    cases done
    have sixteen : result.client.inputLen = 16 := filled.trans greets.expectedInput
    have ends : incomingBytes left = [] := by
      have lengths := congrArg List.length whole
      rw [List.length_append, Client.length_received, sixteen] at lengths
      exact List.eq_nil_of_length_eq_zero (Nat.add_left_cancel (lengths.trans rfl))
    have request : HandshakeRequest.decode (result.client.fixedPart 16) =
        clientHandshakeRequest := by
      rw [Client.fixedPart_eq (Nat.le_of_eq sixteen.symm), ← sixteen, ← Client.length_received,
        List.take_length]
      rw [ends, List.append_nil] at whole
      rw [whole]
      rfl
    have accepted : handshakeRefused clientHandshakeRequest = false :=
      handshakeRefused_eq_false.mpr rfl
    rw [request] at answered
    unfold queueHandshakeResult at answered
    obtain ⟨sent, taken, last⟩ := bind_ok answered
    cases last
    refine ⟨takes.rest, Or.inr ⟨ends, ?_⟩⟩
    simp only [Runtime.clients_setClient, Runtime.queue_ok taken, accepted, Bool.false_eq_true,
      ↓reduceIte]
    rw [same]
    exact ⟨greets.active, rfl, greets.unready, rfl, rfl, greets.descriptor, greets.ioBytesMax⟩

end Greetings

/-! ## Which entry serves a connection -/

section Hosts

variable {config : Config} {world : World} {action : Action} {next : Runtime} {conn index : Nat}

/-- The note of a step on the requests of a connection. -/
theorem World.requests_advance (world : World) (action : Action) (next : Runtime) (conn : Nat) :
    (world.advance action next).requests conn = world.requests conn ++
      ((world.hostOf conn).map (receivedRequest world.rt next)).getD [] := rfl

theorem World.opened_advance (world : World) (action : Action) (next : Runtime) :
    (world.advance action next).opened =
      if (List.range world.rt.limits.maxClients).any (opensAt world.rt next) then
        world.opened + 1 else world.opened := rfl

theorem World.opened_le (world : World) (action : Action) (next : Runtime) :
    world.opened ≤ (world.advance action next).opened := by
  rw [world.opened_advance]
  split
  · exact Nat.le_succ _
  · exact Nat.le_refl _

/-- A step that makes no request ready notes none. -/
theorem receivedRequest_of_unready (idle : (next.clients index).requestReady = false) :
    receivedRequest world.rt next index = [] := by
  unfold receivedRequest
  rw [idle, Bool.and_false]
  rfl

theorem Hosted.opened_of_host (hosted : Hosted config world)
    (hosts : world.hostOf conn = some index) : conn < world.opened :=
  hosted.bounded index conn (hosted.hostOf_eq_some.mp hosts).2

variable (hosted : Hosted config world) (taken : Iouringd.step world.rt action = .ok next)

include hosted taken

/-- An entry that stays open goes on serving its connection. -/
theorem Hosted.host_kept (hosts : world.hostOf conn = some index)
    (active : (next.clients index).isActive = true) :
    (world.advance action next).hostOf conn = some index := by
  obtain ⟨before, serves⟩ := hosted.hostOf_eq_some.mp hosts
  refine (hosted.stepped taken).hostOf_eq_some.mpr ⟨active, ?_⟩
  unfold World.advance
  dsimp only
  rw [if_neg]
  · exact serves
  · simp only [opensAt, before, Bool.not_true, Bool.false_and, Bool.false_eq_true,
      not_false_eq_true]

/-- A connection whose entry is closed is served no more. -/
theorem Hosted.host_lost (hosts : world.hostOf conn = some index)
    (inactive : (next.clients index).isActive = false) :
    (world.advance action next).hostOf conn = none := by
  cases after : (world.advance action next).hostOf conn with
  | none => rfl
  | some other =>
      rcases hosted.host_after taken after with ⟨fresh, -⟩ | ⟨same, active⟩
      · exact absurd (hosted.opened_of_host hosts) (Nat.not_lt.mpr (Nat.le_of_eq fresh.symm))
      · rw [hosts] at same
        cases same
        exact absurd (inactive.symm.trans active) nofun

/-- A connection that is served no more stays so. -/
theorem Hosted.host_gone (opened : conn < world.opened) (hosts : world.hostOf conn = none) :
    (world.advance action next).hostOf conn = none := by
  cases after : (world.advance action next).hostOf conn with
  | none => rfl
  | some other =>
      rcases hosted.host_after taken after with ⟨fresh, -⟩ | ⟨same, -⟩
      · omega
      · exact absurd (hosts.symm.trans same) nofun

/-- A connection that the step opens gets the entry that is reused. -/
theorem Hosted.host_opened (unopened : world.opened ≤ conn)
    (opened : conn < (world.advance action next).opened) :
    ∃ index fd, (world.advance action next).hostOf conn = some index ∧
      (next.clients index).isActive = true ∧
      next.clients index = openedClient world.rt index fd := by
  rw [world.opened_advance] at opened
  split at opened
  · rename_i some
    obtain ⟨index, -, opens⟩ := List.any_eq_true.mp some
    obtain ⟨fd, -, entry⟩ :=
      (step_clients hosted.invariant.grounded taken index).entry_of_opens opens
    have active : (next.clients index).isActive = true := by
      unfold opensAt at opens
      exact (Bool.and_eq_true _ _ ▸ opens).2
    refine ⟨index, fd, (hosted.stepped taken).hostOf_eq_some.mpr ⟨active, ?_⟩, active, entry⟩
    unfold World.advance
    dsimp only
    rw [if_pos opens]
    have same : conn = world.opened := by omega
    rw [same]
  · omega

end Hosts

/-! ## The network -/

/-- The daemon, and what the sockets of its connections still hold. -/
structure Network where
  world : World
  socket : Nat → List RecvOutcome

namespace Network

/-- What the connection of an entry has to read. -/
def incoming (net : Network) (index : Nat) : List RecvOutcome :=
  ((net.world.connection index).map net.socket).getD []

/-- An input reads what the socket of its connection holds. -/
def action (net : Network) : Action → Action
  | .input index _ => .input index (net.incoming index)
  | action => action

/-- What a call that reads the entry leaves in the socket. -/
def unread (net : Network) (index : Nat) : List RecvOutcome :=
  match serviceClientReadable net.world.rt index (net.incoming index) with
  | .ok result => result.2.2
  | .error _ => []

/-- The sockets after a step. -/
def socketAfter (net : Network) (action : Action) (conn : Nat) : List RecvOutcome :=
  match action with
  | .input index _ =>
      if net.world.hostOf conn = some index then net.unread index else net.socket conn
  | _ => net.socket conn

/-- One step of the daemon on its network. -/
def step (net : Network) (action : Action) : Except Errno Network := do
  let world ← net.world.step (net.action action)
  .ok ⟨world, net.socketAfter action⟩

/-- A daemon that starts, with what its peers are going to send. -/
def initial (config : Config) (sent : Nat → List RecvOutcome) : Network :=
  ⟨.initial config, sent⟩

end Network

/-- The peer of a connection sends the handshake request of the library and then a stream, cut
anywhere, and may hang up in the end. -/
inductive Peer (limit : Nat) (stream : List UInt8) : List RecvOutcome → Prop where
  | speaks (opening later ending : List RecvOutcome) (plain : Plain opening)
      (request : incomingBytes opening = clientHandshakeRequest.encode)
      (proper : Proper limit [] later) (bytes : incomingBytes later = stream)
      (hangup : Hangup ending) : Peer limit stream (opening ++ (later ++ ending))

/-- How it stands with a connection whose peer sends the stream. -/
inductive Attended (config : Config) (net : Network) (conn : Nat) (stream : List UInt8) : Prop
  | unopened (fresh : net.world.opened ≤ conn)
      (peer : Peer config.limits.ioBytesMax stream (net.socket conn))
      (quiet : net.world.requests conn = [])
  | greeting (index : Nat) (opening later ending : List RecvOutcome)
      (hosts : net.world.hostOf conn = some index)
      (socket : net.socket conn = opening ++ later ++ ending)
      (greets : Greets config (net.world.rt.clients index) opening)
      (proper : Proper config.limits.ioBytesMax [] later) (bytes : incomingBytes later = stream)
      (hangup : Hangup ending) (quiet : net.world.requests conn = [])
  | served (index : Nat) (live ending : List RecvOutcome) (heard : List UInt8)
      (hosts : net.world.hostOf conn = some index) (socket : net.socket conn = live ++ ending)
      (hangup : Hangup ending) (split : stream = heard ++ incomingBytes live)
      (told : Told config index heard ⟨net.world.rt, live, net.world.requests conn, .listening⟩)
  | gone (opened : conn < net.world.opened) (hosts : net.world.hostOf conn = none)
      (requests : net.world.requests conn <+:
        ((requestFraming config.limits.ioBytesMax).read stream).messages)

section Steps

variable {config : Config} {net next : Network} {action : Action} {conn index : Nat}
  {stream heard : List UInt8} {opening later live ending : List RecvOutcome}

/-- A step on the network is a step of the daemon. -/
theorem Network.step_ok (taken : net.step action = .ok next) :
    Iouringd.step net.world.rt (net.action action) = .ok next.world.rt ∧
      next.world = net.world.advance (net.action action) next.world.rt ∧
      next.socket = net.socketAfter action := by
  obtain ⟨world, stepped, done⟩ := bind_ok taken
  cases done
  obtain ⟨moved, noted⟩ := World.step_ok stepped
  exact ⟨moved, noted, rfl⟩

/-- A step that does not read the entry of a connection leaves its socket as it is. -/
theorem Network.socket_kept (hosts : net.world.hostOf conn = some index)
    (elsewhere : ∀ incoming, action ≠ .input index incoming)
    (taken : net.step action = .ok next) :
    next.socket conn = net.socket conn ∧ ∀ incoming, net.action action ≠ .input index incoming := by
  obtain ⟨-, -, sockets⟩ := Network.step_ok taken
  rw [sockets]
  cases action with
  | input other incoming =>
      have apart : other ≠ index := fun same => elsewhere incoming (by rw [same])
      refine ⟨if_neg ?_, ?_⟩
      · rw [hosts]
        exact fun same => apart (Option.some.inj same).symm
      · intro pieces same
        cases same
        exact apart rfl
  | _ => exact ⟨rfl, elsewhere⟩

/-- What the requests noted for a connection become. -/
theorem Network.requests_after (hosts : net.world.hostOf conn = some index)
    (taken : net.step action = .ok next) : next.world.requests conn =
      net.world.requests conn ++ receivedRequest net.world.rt next.world.rt index := by
  obtain ⟨-, noted, -⟩ := Network.step_ok taken
  rw [noted, World.requests_advance, hosts]
  rfl

theorem Network.requests_kept (hosts : net.world.hostOf conn = some index)
    (taken : net.step action = .ok next)
    (idle : (next.world.rt.clients index).requestReady = false) :
    next.world.requests conn = net.world.requests conn := by
  rw [Network.requests_after hosts taken, receivedRequest_of_unready idle, List.append_nil]

/-- The requests of what was heard are the first of the stream. -/
theorem Told.requests_prefix {more : List UInt8} {state : Hearing}
    (told : Told config index heard state) (split : stream = heard ++ more) :
    state.requests <+: ((requestFraming config.limits.ioBytesMax).read stream).messages := by
  rw [← told.messages]
  exact Framing.messages_prefix ⟨more, split.symm⟩

/-- Plain pieces without bytes in front of a socket. -/
theorem Plain.proper {limit : Nat} (plain : Plain opening) (empty : incomingBytes opening = [])
    (proper : Proper limit [] later) : Proper limit [] (opening ++ later) := by
  induction opening with
  | nil => exact proper
  | cons first others ih =>
      obtain ⟨none, rest⟩ := List.append_eq_nil_iff.mp (incomingBytes_cons.symm.trans empty)
      have behind := ih plain.tail rest
      have front := plain first List.mem_cons_self
      constructor
      · intro outcome member
        rcases List.mem_cons.mp member with rfl | later
        · rcases front with rfl | rfl | ⟨bytes, rfl⟩
          · exact ⟨nofun, nofun⟩
          · exact ⟨nofun, nofun⟩
          · exact ⟨nofun, nofun⟩
        · exact behind.alive outcome later
      · intro before bytes control truncated after same
        cases before with
        | nil =>
            obtain ⟨head, -⟩ := List.cons.inj same
            rcases front with again | interrupted | ⟨piece, data⟩
            · exact absurd (head.symm.trans again) nofun
            · exact absurd (head.symm.trans interrupted) nofun
            · cases head.symm.trans data
              exact ⟨rfl, Or.inl rfl⟩
        | cons outcome before =>
            obtain ⟨head, tail⟩ := List.cons.inj same
            have whole := behind.segments before bytes control truncated after tail
            rw [incomingBytes_cons, ← head, none, List.nil_append]
            exact whole

variable (hosted : Hosted config net.world)

include hosted

theorem Network.connected_of_host (hosts : net.world.hostOf conn = some index) :
    net.world.rt.connected index = true := by
  obtain ⟨active, -⟩ := hosted.hostOf_eq_some.mp hosts
  exact Runtime.connected_of (hosted.known index active).1 active

/-- Reading the entry of a connection reads its socket. -/
theorem Network.input_ok {incoming : List RecvOutcome}
    (hosts : net.world.hostOf conn = some index)
    (taken : net.step (.input index incoming) = .ok next) :
    ∃ outcome, serviceClientReadable net.world.rt index (net.socket conn) =
      .ok (next.world.rt, outcome, next.socket conn) := by
  obtain ⟨stepped, -, sockets⟩ := Network.step_ok taken
  have reads : net.incoming index = net.socket conn := by
    unfold Network.incoming
    rw [(hosted.hostOf_eq_some.mp hosts).2]
    rfl
  simp only [Network.action, Iouringd.step, Network.connected_of_host hosted hosts,
    ↓reduceIte] at stepped
  obtain ⟨⟨rt, outcome, rest⟩, serviced, done⟩ := bind_ok stepped
  cases done
  rw [reads] at serviced
  refine ⟨outcome, ?_⟩
  rw [serviced, sockets]
  simp only [Network.socketAfter, hosts, ↓reduceIte, Network.unread, reads, serviced]

/-- A connection that is closed keeps its requests. -/
theorem Attended.lost (hosts : net.world.hostOf conn = some index)
    (taken : net.step action = .ok next)
    (inactive : (next.world.rt.clients index).isActive = false)
    (requests : net.world.requests conn <+:
      ((requestFraming config.limits.ioBytesMax).read stream).messages) :
    Attended config next conn stream := by
  obtain ⟨stepped, noted, -⟩ := Network.step_ok taken
  have idle : (next.world.rt.clients index).requestReady = false := by
    rw [Bool.eq_false_iff]
    intro ready
    have entry := (hosted.invariant.stepped stepped).entries index
    exact absurd (inactive.symm.trans (entry.ready ready).1) nofun
  refine .gone ?_ ?_ ?_
  · rw [noted]
    exact Nat.lt_of_lt_of_le (hosted.opened_of_host hosts) (World.opened_le ..)
  · rw [noted]
    exact hosted.host_lost stepped hosts inactive
  · rw [Network.requests_kept hosts taken idle]
    exact requests

theorem Network.host_kept (hosts : net.world.hostOf conn = some index)
    (taken : net.step action = .ok next)
    (active : (next.world.rt.clients index).isActive = true) :
    next.world.hostOf conn = some index := by
  obtain ⟨stepped, noted, -⟩ := Network.step_ok taken
  rw [noted]
  exact hosted.host_kept stepped hosts active

/-- A connection in the handshake. -/
theorem Attended.greeted (hosts : net.world.hostOf conn = some index)
    (socket : net.socket conn = opening ++ later ++ ending)
    (greets : Greets config (net.world.rt.clients index) opening)
    (proper : Proper config.limits.ioBytesMax [] later) (bytes : incomingBytes later = stream)
    (hangup : Hangup ending) (quiet : net.world.requests conn = [])
    (taken : net.step action = .ok next) : Attended config next conn stream := by
  have none : net.world.requests conn <+:
      ((requestFraming config.limits.ioBytesMax).read stream).messages := by
    rw [quiet]
    exact List.nil_prefix
  by_cases reads : ∃ incoming, action = .input index incoming
  · obtain ⟨incoming, same⟩ := reads
    subst same
    obtain ⟨outcome, serviced⟩ := Network.input_ok hosted hosts taken
    rw [socket] at serviced
    rcases hangup.serviced serviced with ⟨rest, cut, serviced⟩ | inactive
    · obtain ⟨left, plain, split, stays | ⟨empty, boundary⟩⟩ := greets.serviced serviced
      · have kept := (Network.requests_kept hosts taken stays.unready).trans quiet
        exact .greeting index left later ending (Network.host_kept hosted hosts taken stays.active)
          (by rw [cut, split]) stays proper bytes hangup kept
      · have kept := (Network.requests_kept hosts taken boundary.unready).trans quiet
        refine .served index (left ++ later) ending []
          (Network.host_kept hosted hosts taken boundary.active) (by rw [cut, split]) hangup ?_ ?_
        · unfold incomingBytes at empty bytes ⊢
          rw [List.flatMap_append, empty, bytes]
          rfl
        · rw [kept]
          exact .listening rfl (plain.proper empty proper) boundary.active boundary.submit
            (.waiting boundary.unready boundary.listens boundary.bound)
    · exact .lost hosted hosts taken inactive none
  · obtain ⟨kept, elsewhere⟩ := Network.socket_kept hosts (fun incoming same =>
      reads ⟨incoming, same⟩) taken
    obtain ⟨stepped, -⟩ := Network.step_ok taken
    cases (step_effect hosted.invariant.grounded stepped).between elsewhere with
    | same core =>
        have field : ∀ {α : Type} (get : Client → α),
            get (next.world.rt.clients index).core = get (net.world.rt.clients index).core :=
          fun get => congrArg get core
        have stays : Greets config (next.world.rt.clients index) opening := {
          active := (field Client.isActive).trans greets.active
          handshake := (field Client.phase).trans greets.handshake
          unready := (field Client.requestReady).trans greets.unready
          descriptor := by
            have same : (next.world.rt.clients index).receivedFd =
                (net.world.rt.clients index).receivedFd := field Client.receivedFd
            rw [same]
            exact greets.descriptor
          expectedInput := (field Client.expectedInput).trans greets.expectedInput
          ioBytesMax := (field Client.ioBytesMax).trans greets.ioBytesMax
          plain := greets.plain
          request := by
            have same : (next.world.rt.clients index).received =
                (net.world.rt.clients index).received := field Client.received
            rw [same]
            exact greets.request }
        exact .greeting index opening later ending
          (Network.host_kept hosted hosts taken stays.active) (kept.trans socket) stays proper bytes
          hangup ((Network.requests_kept hosts taken stays.unready).trans quiet)
    | opened fd found entry =>
        obtain ⟨-, reusable⟩ := firstBelow_some found
        simp only [Bool.and_eq_true, Bool.not_eq_true'] at reusable
        exact absurd (reusable.1.1.symm.trans greets.active) nofun
    | answered ready core descriptor => exact absurd (greets.unready.symm.trans ready) nofun
    | gone inactive => exact .lost hosted hosts taken inactive none

/-- A connection behind the handshake whose entry is read. -/
theorem Attended.read (reachable : Reachable config net.world.rt)
    (hosts : net.world.hostOf conn = some index) (socket : net.socket conn = live ++ ending)
    (hangup : Hangup ending) (split : stream = heard ++ incomingBytes live)
    (told : Told config index heard ⟨net.world.rt, live, net.world.requests conn, .listening⟩)
    {incoming : List RecvOutcome} (taken : net.step (.input index incoming) = .ok next) :
    Attended config next conn stream := by
  have below : index < config.limits.maxClients := by
    rw [← reachable.invariant.limits]
    exact (hosted.known index (hosted.hostOf_eq_some.mp hosts).1).1
  have none := told.requests_prefix split
  obtain ⟨outcome, serviced⟩ := Network.input_ok hosted hosts taken
  rw [socket] at serviced
  rcases hangup.serviced serviced with ⟨rest, cut, serviced⟩ | inactive
  · cases active : (next.world.rt.clients index).isActive with
    | false => exact .lost hosted hosts taken active none
    | true =>
        have kept := Network.host_kept hosted hosts taken active
        have noted := Network.requests_after hosts taken
        cases told with
        | refused ended _ _ => cases ended
        | lost ended _ => cases ended
        | listening ending' proper open' submit attends =>
            cases attends with
            | waiting unready listens bound =>
                obtain ⟨after, piece, served, -, bytes, heardMore, -⟩ := serve_hears reachable below
                  ending' proper open' submit unready listens bound
                simp only [Hearing.step, ↓reduceIte, serviced] at served
                cases served
                dsimp only at heardMore
                rw [if_pos active] at heardMore
                refine .served index rest ending (heard ++ piece) kept cut hangup
                  (by rw [split, bytes, List.append_assoc]) ?_
                have same : next.world.requests conn =
                    if (net.world.rt.clients index).requestReady = false ∧
                        (next.world.rt.clients index).requestReady = true then
                      net.world.requests conn ++ [(next.world.rt.clients index).decodedRequest]
                    else net.world.requests conn := by
                  rw [noted, receivedRequest, unready]
                  cases (next.world.rt.clients index).requestReady with
                  | true => rfl
                  | false => exact List.append_nil _
                rw [same]
                exact heardMore
            | holding ready start descriptor reading =>
                have held : serviceClientReadable net.world.rt index live =
                    .ok (net.world.rt, false, live) := by
                  unfold serviceClientReadable serviceLoop
                  simp only [show (net.world.rt.clients index).requestReady = true from ready,
                    Bool.or_true, ↓reduceIte]
                obtain ⟨same, more⟩ := Prod.mk.inj (Except.ok.inj (held.symm.trans serviced))
                obtain ⟨-, left⟩ := Prod.mk.inj more
                have quiet : next.world.requests conn = net.world.requests conn := by
                  rw [noted, receivedRequest, ← same,
                    show (net.world.rt.clients index).requestReady = true from ready]
                  exact List.append_nil _
                refine .served index live ending heard kept (by rw [cut, left]) hangup split ?_
                rw [quiet, ← same]
                exact .listening rfl proper open' submit (.holding ready start descriptor reading)
  · exact .lost hosted hosts taken inactive none

/-- A connection behind the handshake while the daemon does something else. -/
theorem Attended.left (reachable : Reachable config net.world.rt)
    (hosts : net.world.hostOf conn = some index) (socket : net.socket conn = live ++ ending)
    (hangup : Hangup ending) (split : stream = heard ++ incomingBytes live)
    (told : Told config index heard ⟨net.world.rt, live, net.world.requests conn, .listening⟩)
    (elsewhere : ∀ incoming, action ≠ .input index incoming)
    (taken : net.step action = .ok next) : Attended config next conn stream := by
  obtain ⟨kept, apart⟩ := Network.socket_kept hosts elsewhere taken
  obtain ⟨stepped, -⟩ := Network.step_ok taken
  have after := act_hears reachable told stepped fun _ => by
    rw [Bool.eq_false_iff]
    intro reads
    generalize net.action action = act at apart reads
    cases act with
    | input other incoming =>
        have same : other = index := eq_of_beq reads
        exact apart incoming (by rw [same])
    | _ => cases reads
  cases active : (next.world.rt.clients index).isActive with
  | false => exact .lost hosted hosts taken active (told.requests_prefix split)
  | true =>
      have quiet : receivedRequest net.world.rt next.world.rt index = [] := by
        have unready : (net.world.rt.clients index).requestReady = true ∨
            (next.world.rt.clients index).requestReady = false := by
          cases (step_effect hosted.invariant.grounded stepped).between apart with
          | same core =>
              have same := congrArg Client.requestReady core
              cases ready : (net.world.rt.clients index).requestReady with
              | true => exact Or.inl rfl
              | false => exact Or.inr (Eq.trans same ready)
          | opened fd found entry => exact Or.inr (congrArg Client.requestReady entry)
          | answered ready core descriptor => exact Or.inl ready
          | gone inactive => exact absurd (inactive.symm.trans active) nofun
        unfold receivedRequest
        rcases unready with ready | idle
        · rw [ready]
          rfl
        · rw [idle, Bool.and_false]
          rfl
      have same : next.world.requests conn = net.world.requests conn := by
        rw [Network.requests_after hosts taken, quiet, List.append_nil]
      refine .served index live ending heard (Network.host_kept hosted hosts taken active)
        (kept.trans socket) hangup split ?_
      rw [same]
      dsimp only at after
      rw [active, if_neg (by rintro ⟨-, inactive⟩; cases inactive)] at after
      exact after

/-- Every step keeps track of every connection. -/
theorem Attended.stepped (reachable : Reachable config net.world.rt)
    (attended : Attended config net conn stream) (taken : net.step action = .ok next) :
    Attended config next conn stream := by
  obtain ⟨stepped, noted, sockets⟩ := Network.step_ok taken
  cases attended with
  | unopened fresh peer quiet =>
      have none := hosted.hostOf_eq_none fresh
      have socket : next.socket conn = net.socket conn := by
        rw [sockets]
        cases action with
        | input index incoming =>
            refine if_neg ?_
            rw [none]
            exact nofun
        | _ => rfl
      have requests : next.world.requests conn = [] := by
        rw [noted, World.requests_advance, none, quiet]
        rfl
      by_cases still : next.world.opened ≤ conn
      · exact .unopened still (socket ▸ peer) requests
      · rw [noted] at still
        obtain ⟨index, fd, hosts, active, entry⟩ :=
          hosted.host_opened stepped fresh (Nat.lt_of_not_le still)
        rw [← noted] at hosts
        rw [← socket] at peer
        generalize sent : next.socket conn = pieces at peer
        cases peer with
        | speaks opening later ending plain request proper bytes hangup =>
            refine .greeting index opening later ending hosts
              (sent.trans (List.append_assoc ..).symm) ?_ proper bytes hangup requests
            rw [entry]
            exact {
              active := entry ▸ active
              handshake := rfl
              unready := rfl
              descriptor := by
                change (-1 : Int32) < 0
                decide
              expectedInput := rfl
              ioBytesMax := congrArg Limits.ioBytesMax reachable.invariant.limits
              plain
              request := request }
  | greeting index opening later ending hosts socket greets proper bytes hangup quiet =>
      exact .greeted hosted hosts socket greets proper bytes hangup quiet taken
  | served index live ending heard hosts socket hangup split told =>
      by_cases reads : ∃ incoming, action = .input index incoming
      · obtain ⟨incoming, same⟩ := reads
        subst same
        exact .read hosted reachable hosts socket hangup split told taken
      · exact .left hosted reachable hosts socket hangup split told (fun incoming same =>
          reads ⟨incoming, same⟩) taken
  | gone opened hosts requests =>
      refine .gone ?_ ?_ ?_
      · rw [noted]
        exact Nat.lt_of_lt_of_le opened (World.opened_le ..)
      · rw [noted]
        exact hosted.host_gone stepped opened hosts
      · rw [noted, World.requests_advance, hosts]
        exact (List.append_nil _).symm ▸ requests

end Steps

/-! ## Every run -/

section Runs

variable {config : Config} {sent : Nat → List RecvOutcome} {net : Network} {actions : List Action}
  {conn : Nat} {stream : List UInt8}

theorem Network.looped_action (net : Network) (action : Action) :
    (net.action action).looped = action.looped := by
  cases action with
  | _ => rfl

/-- A run on the network is a run of the daemon. -/
theorem Network.run_world (ran : run Network.step (.initial config sent) actions = .ok net)
    (looped : ∀ action ∈ actions, action.looped = true) :
    ∃ performed, run World.step (.initial config) performed = .ok net.world ∧
      performed.length = actions.length ∧ (∀ action ∈ performed, action.looped = true) ∧
      ∀ condition : World → Action → Prop,
        Along Network.step (fun net action => condition net.world (net.action action))
          (.initial config sent) actions →
          Along World.step condition (.initial config) performed := by
  have each : ∀ (net : Network) action next, net.step action = .ok next →
      net.world.step (net.action action) = .ok next.world := by
    intro net action next taken
    obtain ⟨world, stepped, done⟩ := bind_ok taken
    cases done
    exact stepped
  obtain ⟨performed, below, length, allowed, along⟩ := run_projects each ran
  refine ⟨performed, below, length, ?_, along⟩
  exact allowed (fun action => action.looped = true) fun action member net =>
    (net.looped_action action).trans (looped action member)

/-- Every connection whose peer speaks as the library does is kept track of. -/
theorem Network.run_attended (ran : run Network.step (.initial config sent) actions = .ok net)
    (peer : Peer config.limits.ioBytesMax stream (sent conn)) :
    Attended config net conn stream := by
  have initially : Hosted config (Network.initial config sent).world ∧
      Reachable config (Network.initial config sent).world.rt ∧
      Attended config (.initial config sent) conn stream :=
    ⟨.initial config, ⟨[], rfl⟩, .unopened (Nat.zero_le _) peer rfl⟩
  have tracked : Hosted config net.world ∧ Reachable config net.world.rt ∧
      Attended config net conn stream := by
    refine @run_preserves _ _ _ _ _ _ _ (fun net => Hosted config net.world ∧
      Reachable config net.world.rt ∧ Attended config net conn stream) ?_ initially ran
    intro state action next _ holds taken
    obtain ⟨hosted, reachable, attended⟩ := holds
    obtain ⟨stepped, noted, -⟩ := Network.step_ok taken
    refine ⟨?_, reachable.stepped stepped, attended.stepped hosted reachable taken⟩
    rw [noted]
    exact hosted.stepped stepped
  exact tracked.2.2

/-- The requests that reach the daemon are the first that the grammar reads off the stream of the
peer, whatever the other peers send. -/
theorem Network.requests_heard (ran : run Network.step (.initial config sent) actions = .ok net)
    (peer : Peer config.limits.ioBytesMax stream (sent conn)) :
    net.world.requests conn <+:
      ((requestFraming config.limits.ioBytesMax).read stream).messages := by
  cases Network.run_attended ran peer with
  | unopened fresh peer quiet =>
      rw [quiet]
      exact List.nil_prefix
  | greeting index opening later ending hosts socket greets proper bytes hangup quiet =>
      rw [quiet]
      exact List.nil_prefix
  | served index live ending heard hosts socket hangup split told =>
      exact told.requests_prefix split
  | gone opened hosts requests => exact requests

end Runs

end Iouringd
