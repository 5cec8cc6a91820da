import Iouringd.Daemon.Invariant
import Iouringd.Daemon.StepEffects

/-! # The input buffer of a connection

`expected_input` is set from lengths the peer chose, `iouringd_read_client_input` trusts it, and
`iouringd_finish_submit_request` reads the lengths a second time. On an open connection
`input_len` stays below `expected_input` and `expected_input` within the buffer, so that every
turn of the loop takes bytes and every `memcpy` out of the buffer stays within what was
received.
-/

namespace Iouringd

open Foundation

/-- The decoder waits for bytes it has room for. -/
structure Client.Bounded (client : Client) : Prop where
  short : client.inputLen < client.expectedInput
  within : client.expectedInput ≤ maxRequestBytes

/-- The counters are bounded after a reset. -/
theorem Client.bounded_resetInput (client : Client) : client.resetInput.Bounded where
  short := (by decide : 0 < SubmitRequest.size)
  within := (by decide : SubmitRequest.size ≤ maxRequestBytes)

/-! ## Between two reads -/

/-- What a step that does not read from a connection does to its entry. -/
inductive Between (rt next : Runtime) (index : Nat) : Prop
  | same (core : (next.clients index).core = (rt.clients index).core)
  | opened (fd : Fd) (found : reusableClient rt = some index)
      (entry : next.clients index = openedClient rt index fd)
  | answered (ready : (rt.clients index).requestReady = true)
      (core : (next.clients index).core =
        ({ (rt.clients index).finishRequest with
          receivedFd := (next.clients index).receivedFd } : Client).core)
      (descriptor : (next.clients index).receivedFd < 0 ∨
        (rt.clients index).controlOp ≠ some .registerFd ∧
          (next.clients index).receivedFd = (rt.clients index).receivedFd)
  | gone (inactive : (next.clients index).isActive = false)

section Steps

variable {rt next : Runtime} {action : Action} {index : Nat}

/-- Another client was changed. -/
theorem Between.of_other {other : Nat} {client : Client} (apart : index ≠ other)
    (clients : next.clients = Function.update rt.clients other client) : Between rt next index := by
  refine .same ?_
  rw [clients, Function.update_of_ne apart]

/-- Only reading its connection moves the counters of a client. -/
theorem StepEffect.between (effect : StepEffect rt action next)
    (elsewhere : ∀ incoming, action ≠ .input index incoming) : Between rt next index := by
  cases effect with
  | idle => exact .same rfl
  | turnedAway fd env => exact .same rfl
  | opened other fd env valid found =>
      by_cases same : index = other
      · subst same
        exact .opened fd found (Function.update_self _ _ _)
      · exact .of_other same rfl
  | served other incoming next connected only served =>
      have apart : index ≠ other := fun same => elsewhere incoming (by rw [same])
      exact .of_other apart (congrArg Runtime.clients only.frame : _)
  | dispatched other env middle bytes next connected ready change answered recorded =>
      by_cases same : index = other
      · subst same
        obtain ⟨core, -, descriptor⟩ := change.core
        have entry := answered.client
        refine .answered ready ?_ ?_
        · have finished : ∀ client : Client,
              ((client.appendOutput bytes).finishRequest).core = client.core.finishRequest :=
            fun _ => rfl
          rw [entry, finished, core]
          rfl
        · rw [entry]
          exact descriptor
      · refine .same ?_
        rw [answered.client_other same, change.client_other same]
  | completed action taskIndex res ring next occupied source completed calls =>
      by_cases same : index = (rt.tasks taskIndex).clientIndex
      · refine .same ?_
        rw [completed.frame, same]
        dsimp only
        rw [Function.update_self]
        rfl
      · exact .of_other same (congrArg Runtime.clients completed.frame : _)
  | swept updates next swept slots => exact .same (slots.core index)
  | flushed other writes next connected only flushed =>
      by_cases same : index = other
      · subst same
        cases flushed with
        | sent count core pending => exact .same core
        | closed last same entry =>
            refine .gone ?_
            rw [entry]
            exact closedClient_inactive last
      · exact .of_other same (congrArg Runtime.clients only.frame : _)
  | disconnected other connected =>
      by_cases same : index = other
      · subst same
        refine .gone ?_
        rw [closeClient_client]
        exact closedClient_inactive _
      · have only : OnlyClient rt other (closeClient rt other) := .closeClient
        exact .of_other same (congrArg Runtime.clients only.frame : _)
  | cursorMoved cursor => exact .same rfl
  | posted position res => exact .same rfl
  | stored store =>
      refine .same ?_
      cases store with
      | _ => rfl

/-- Steps that do not read leave the input alone. -/
theorem Between.bounded (between : Between rt next index)
    (before : (rt.clients index).isActive = true → (rt.clients index).Bounded)
    (active : (next.clients index).isActive = true) : (next.clients index).Bounded := by
  have of_core : ∀ first second : Client, first.core = second.core →
      first.isActive = second.isActive ∧ (second.Bounded → first.Bounded) := by
    intro first second core
    have field : ∀ {α : Type} (get : Client → α), get first.core = get second.core :=
      fun get => congrArg get core
    refine ⟨field Client.isActive, fun bounded => ⟨?_, ?_⟩⟩
    · have length : first.inputLen = second.inputLen := field Client.inputLen
      have expected : first.expectedInput = second.expectedInput := field Client.expectedInput
      rw [length, expected]
      exact bounded.short
    · have expected : first.expectedInput = second.expectedInput := field Client.expectedInput
      rw [expected]
      exact bounded.within
  cases between with
  | same core =>
      obtain ⟨isActive, bounded⟩ := of_core _ _ core
      exact bounded (before (isActive.symm.trans active))
  | opened fd found entry =>
      rw [entry]
      exact Client.bounded_resetInput _
  | answered ready core descriptor =>
      obtain ⟨isActive, bounded⟩ := of_core _ _ core
      have held := before (isActive.symm.trans active)
      exact bounded ⟨held.short, held.within⟩
  | gone inactive =>
      rw [active] at inactive
      cases inactive

end Steps

/-! ## One read -/

/-- What a call of `iouringd_read_client_input` took from the socket, and how it ended. -/
structure ReadWithin (client : Client) (incoming : List RecvOutcome) (result : ReadResult)
    (taken : List UInt8) : Prop where
  split : incomingBytes incoming = taken ++ incomingBytes result.rest
  within : client.inputLen + taken.length ≤ client.expectedInput
  expected : result.client.expectedInput = client.expectedInput
  length : result.client.inputLen ≤ client.expectedInput
  full : result.status = .full → result.client.inputLen = client.inputLen + taken.length ∧
    result.client.inputLen = client.expectedInput
  again : result.status = .again → result.client.inputLen < client.expectedInput

section Reading

variable {client : Client} {incoming : List RecvOutcome}

/-- A call that takes nothing more. -/
theorem ReadWithin.nothing {result : ReadResult} (bounded : client.inputLen ≤ client.expectedInput)
    (bytes : incomingBytes result.rest = incomingBytes incoming) (same : result.client = client)
    (full : result.status = .full → client.inputLen = client.expectedInput)
    (again : result.status = .again → client.inputLen < client.expectedInput) :
    ReadWithin client incoming result [] where
  split := by rw [bytes, List.nil_append]
  within := bounded
  expected := by rw [same]
  length := by
    rw [same]
    exact bounded
  full := fun status => ⟨by rw [same]; rfl, by rw [same]; exact full status⟩
  again := fun status => by
    rw [same]
    exact again status

/-- The reading of a piece goes on behind it. -/
theorem ReadWithin.behind {outcome : RecvOutcome} {middle : Client} {result : ReadResult}
    {chunk taken : List UInt8} (reads : ReadWithin middle incoming result taken)
    (bytes : outcome.bytes = chunk)
    (length : middle.inputLen = client.inputLen + chunk.length)
    (expected : middle.expectedInput = client.expectedInput) :
    ReadWithin client (outcome :: incoming) result (chunk ++ taken) where
  split := by
    change (outcome :: incoming).flatMap RecvOutcome.bytes = _
    rw [List.flatMap_cons, bytes, List.append_assoc]
    exact congrArg (chunk ++ ·) reads.split
  within := by
    have within := reads.within
    rw [List.length_append]
    omega
  expected := reads.expected.trans expected
  length := expected ▸ reads.length
  full := fun status => by
    obtain ⟨counted, through⟩ := reads.full status
    rw [List.length_append]
    exact ⟨by omega, through.trans expected⟩
  again := fun status => expected ▸ reads.again status

/-- What a `recvmsg` leaves of a piece stays in the socket. -/
theorem incomingBytes_piece (bytes : List UInt8) (control : List ControlMessage)
    (truncated : Bool) (rest : List RecvOutcome) (wanted : Nat) :
    incomingBytes (.data bytes control truncated :: rest) = bytes.take wanted ++
      incomingBytes (if (bytes.drop wanted).isEmpty then rest
        else .data (bytes.drop wanted) [] false :: rest) := by
  change bytes ++ incomingBytes rest = _
  split
  · rename_i none
    have whole := List.take_append_drop wanted bytes
    rw [List.isEmpty_iff.mp none, List.append_nil] at whole
    rw [whole]
  · change _ = bytes.take wanted ++ (bytes.drop wanted ++ incomingBytes rest)
    rw [← List.append_assoc, List.take_append_drop]

/-- A call that fails over a piece. -/
theorem ReadWithin.stopped {result : ReadResult} {taken : List UInt8} {errno : Errno}
    (split : incomingBytes incoming = taken ++ incomingBytes result.rest)
    (within : client.inputLen + taken.length ≤ client.expectedInput)
    (expected : result.client.expectedInput = client.expectedInput)
    (length : result.client.inputLen = client.inputLen)
    (failed : result.status = .failed errno) : ReadWithin client incoming result taken where
  split := split
  within := within
  expected := expected
  length := by omega
  full := fun status => by
    rw [failed] at status
    cases status
  again := fun status => by
    rw [failed] at status
    cases status

/-- Whatever the peer sends, a read takes no more than the decoder waits for. -/
theorem readClientInput_within (bounded : client.inputLen ≤ client.expectedInput) :
    ∃ taken, ReadWithin client incoming (readClientInput client incoming) taken := by
  induction incoming generalizing client with
  | nil =>
      unfold readClientInput
      split
      · rename_i short
        exact ⟨[], .nothing bounded rfl rfl (by rintro ⟨⟩) fun _ => short⟩
      · rename_i through
        exact ⟨[], .nothing bounded rfl rfl
          (fun _ => Nat.le_antisymm bounded (Nat.not_lt.mp through)) (by rintro ⟨⟩)⟩
  | cons outcome rest ih =>
      unfold readClientInput
      split
      · rename_i short
        cases outcome with
        | data bytes control truncated =>
            dsimp only
            split
            · rename_i empty
              obtain ⟨taken, reads⟩ := ih bounded
              exact ⟨[] ++ taken, reads.behind (List.isEmpty_iff.mp empty) rfl rfl⟩
            · have piece := incomingBytes_piece bytes control truncated rest
                (client.expectedInput - client.inputLen)
              have fits : client.inputLen +
                  (bytes.take (client.expectedInput - client.inputLen)).length ≤
                    client.expectedInput := by
                rw [List.length_take]
                omega
              split
              · exact ⟨_, .stopped piece fits rfl rfl rfl⟩
              · generalize client.input.write client.inputLen
                  (bytes.take (client.expectedInput - client.inputLen)) = input
                have received := receiveControl_client { client with input } control
                split
                · rename_i stopped closed outcome
                  rw [outcome] at received
                  obtain ⟨fd, same⟩ := received
                  dsimp only at same ⊢
                  subst same
                  exact ⟨_, .stopped piece fits rfl rfl rfl⟩
                · rename_i kept closed outcome
                  rw [outcome] at received
                  obtain ⟨fd, same⟩ := received
                  dsimp only at same ⊢
                  subst same
                  split
                  · rename_i all
                    have whole := List.take_append_drop
                      (client.expectedInput - client.inputLen) bytes
                    rw [List.isEmpty_iff.mp all, List.append_nil] at whole
                    obtain ⟨taken, reads⟩ := @ih { client with
                      input
                      inputLen := client.inputLen +
                        (bytes.take (client.expectedInput - client.inputLen)).length
                      receivedFd := fd } fits
                    exact ⟨_, reads.behind whole.symm rfl rfl⟩
                  · rename_i more
                    rw [if_neg more] at piece
                    have filled : client.inputLen +
                        (bytes.take (client.expectedInput - client.inputLen)).length =
                          client.expectedInput := by
                      have left : bytes.drop (client.expectedInput - client.inputLen) ≠ [] :=
                        fun none => more (List.isEmpty_iff.mpr none)
                      rw [ne_eq, List.drop_eq_nil_iff] at left
                      rw [List.length_take]
                      omega
                    exact ⟨_, piece, fits, rfl, fits, fun _ => ⟨rfl, filled⟩, by rintro ⟨⟩⟩
        | eof =>
            dsimp only
            split
            · exact ⟨[], .nothing bounded rfl rfl (by rintro ⟨⟩) (by rintro ⟨⟩)⟩
            · exact ⟨[], .nothing bounded rfl rfl (by rintro ⟨⟩) (by rintro ⟨⟩)⟩
        | again => exact ⟨[], .nothing bounded rfl rfl (by rintro ⟨⟩) fun _ => short⟩
        | interrupted =>
            obtain ⟨taken, reads⟩ := ih bounded
            exact ⟨[] ++ taken, reads.behind rfl rfl rfl⟩
        | failed errno => exact ⟨[], .nothing bounded rfl rfl (by rintro ⟨⟩) (by rintro ⟨⟩)⟩
      · rename_i through
        exact ⟨[], .nothing bounded rfl rfl
          (fun _ => Nat.le_antisymm bounded (Nat.not_lt.mp through)) (by rintro ⟨⟩)⟩

end Reading

/-! ## One turn of the decoder -/

/-- The request in the buffer was taken out of it. -/
structure Client.Emptied (client : Client) : Prop where
  ready : client.requestReady = true
  inputLen : client.inputLen = 0
  expectedInput : client.expectedInput = SubmitRequest.size

/-- An empty input is bounded. -/
theorem Client.Emptied.bounded {client : Client} (emptied : client.Emptied) : client.Bounded where
  short := by
    rw [emptied.inputLen, emptied.expectedInput]
    decide
  within := by
    rw [emptied.expectedInput]
    decide

/-- A decoder that goes on waits for more bytes than it has and has room for them; unless it has
finished its request, it keeps those it has. -/
def Waits (client : Client) (outcome : Except Errno Client) : Prop :=
  ∀ next, outcome = .ok next →
    next.Bounded ∧ (next.requestReady = false → next.inputLen = client.inputLen)

section Decoding

variable {client : Client}

/-- A failure waits for nothing. -/
theorem Waits.of_error {errno : Errno} : Waits client (.error errno) := by
  intro next failed
  cases failed

/-- The input is empty behind a message with a payload. -/
theorem finishIoWithPayload_emptied {next : Client}
    (finished : finishIoWithPayload client = .ok next) : next.Emptied := by
  unfold finishIoWithPayload at finished
  dsimp only at finished
  split at finished
  · cases finished
  · cases finished
    exact ⟨rfl, rfl, rfl⟩

/-- The input is empty behind an OPENAT. -/
theorem finishOpenat_emptied {next : Client} (finished : finishOpenat client = .ok next) :
    next.Emptied := by
  unfold finishOpenat at finished
  dsimp only at finished
  split at finished
  · cases finished
  · split at finished
    · cases finished
    · cases finished
      exact ⟨rfl, rfl, rfl⟩

/-- The input is empty behind a REGISTER_BUFFER. -/
theorem finishRegisterBuffer_emptied {next : Client}
    (finished : finishRegisterBuffer client = .ok next) : next.Emptied := by
  unfold finishRegisterBuffer at finished
  dsimp only at finished
  split at finished
  · cases finished
  · cases finished
    exact ⟨rfl, rfl, rfl⟩

/-- `iouringd_finish_submit_request` never returns 0. -/
theorem finishSubmitRequest_emptied {next : Client}
    (finished : finishSubmitRequest client = .ok next) : next.Emptied := by
  unfold finishSubmitRequest at finished
  split at finished
  · cases finished
  · split at finished
    · cases finished
    · split at finished
      · cases finished
      · cases kind : client.request.taskKind with
        | sockWrite | fileWrite =>
            simp only [kind] at finished
            exact finishIoWithPayload_emptied finished
        | connect =>
            simp only [kind] at finished
            obtain ⟨middle, first, done⟩ := bind_ok finished
            cases done
            have emptied := finishIoWithPayload_emptied first
            exact ⟨emptied.ready, emptied.inputLen, emptied.expectedInput⟩
        | openat =>
            simp only [kind] at finished
            exact finishOpenat_emptied finished
        | registerBuffer =>
            simp only [kind] at finished
            exact finishRegisterBuffer_emptied finished
        | unknown raw =>
            simp only [kind] at finished
            cases finished
        | _ =>
            simp only [kind] at finished
            cases finished
            exact ⟨rfl, rfl, rfl⟩

/-- A request without further parts is complete. -/
theorem finishSubmitRequest_waits (client reached : Client) :
    Waits client (finishSubmitRequest reached) := by
  intro next finished
  have emptied := finishSubmitRequest_emptied finished
  refine ⟨emptied.bounded, fun unready => ?_⟩
  rw [emptied.ready] at unready
  cases unready

/-- Waiting for a fixed part asks for no more than the buffer holds. -/
theorem awaitFixed_waits {size : Nat} {proceed : Client → Except Errno Client}
    (fits : size ≤ maxRequestBytes)
    (proceeds : ∀ reached, reached.inputLen = client.inputLen → Waits client (proceed reached))
    {reached : Client} (same : reached.inputLen = client.inputLen) :
    Waits client (awaitFixed size proceed reached) := by
  unfold awaitFixed
  dsimp only
  split
  · rename_i short
    intro next waiting
    cases waiting
    exact ⟨⟨short, fits⟩, fun _ => same⟩
  · exact proceeds _ same

/-- Waiting for a payload asks for no more than the buffer holds. -/
theorem awaitPayload_waits {total : Nat} {reached : Client}
    (same : reached.inputLen = client.inputLen) : Waits client (awaitPayload total reached) := by
  unfold awaitPayload
  dsimp only
  split
  · exact .of_error
  · rename_i fits
    split
    · rename_i short
      intro next waiting
      cases waiting
      exact ⟨⟨short, Nat.not_lt.mp fits⟩, fun _ => same⟩
    · exact finishSubmitRequest_waits client _

/-- `iouringd_process_submit_input` returns 0 only to wait for more than it has. -/
theorem processSubmitInput_waits (client : Client) :
    Waits client (processSubmitInput client) := by
  unfold processSubmitInput
  split
  · rename_i short
    intro next waiting
    cases waiting
    exact ⟨⟨short, (by decide : SubmitRequest.size ≤ maxRequestBytes)⟩, fun _ => rfl⟩
  · dsimp only
    split
    · exact .of_error
    · cases kind : (SubmitRequest.decode (client.fixedPart SubmitRequest.size)).taskKind with
      | timeout | cancel | sockRead | fileRead | sockReadFixed | sockWriteFixed
      | releaseResource | getStats =>
          refine awaitFixed_waits ?_ (fun reached _ => finishSubmitRequest_waits client reached) rfl
          decide
      | poll | accept | close | getTrace =>
          refine awaitFixed_waits ?_ (fun reached _ => ?_) rfl
          · decide
          · split
            · exact .of_error
            · exact finishSubmitRequest_waits client reached
      | connect | openat | registerBuffer | sockWrite | fileWrite =>
          refine awaitFixed_waits ?_ (fun reached same => ?_) rfl
          · decide
          · split
            · exact .of_error
            · exact awaitPayload_waits same
      | nop | registerFd | unknown raw => exact finishSubmitRequest_waits client _

end Decoding

/-! ## The loop -/

/-- The records `iouringd_read_client_input` is called with in one call of
`iouringd_service_client_readable`, in order. -/
def readCalls : Nat → Client → List RecvOutcome → List Client
  | 0, _, _ => []
  | fuel + 1, client, incoming =>
      if !client.isActive || client.requestReady then []
      else
        client ::
          let result := readClientInput client incoming
          match result.status, result.client.phase with
          | .full, .submit =>
              match processSubmitInput result.client with
              | .error _ => []
              | .ok next => if next.requestReady then [] else readCalls fuel next result.rest
          | _, _ => []

section Loop

variable {client : Client} {incoming : List RecvOutcome} {fuel : Nat}

/-- The first call of the loop, and those behind it when it got all it waited for and that was
not a whole request. -/
theorem readCalls_cases (bounded : client.Bounded) :
    readCalls (fuel + 1) client incoming = [] ∨
      readCalls (fuel + 1) client incoming = [client] ∨
      ∃ next rest taken, readCalls (fuel + 1) client incoming = client :: readCalls fuel next rest ∧
        next.Bounded ∧ incomingBytes incoming = taken ++ incomingBytes rest ∧ taken ≠ [] ∧
        client.inputLen < next.inputLen := by
  rw [readCalls]
  split
  · exact Or.inl rfl
  · rename_i running
    simp only [Bool.or_eq_true, Bool.not_eq_true', not_or, Bool.not_eq_false,
      Bool.not_eq_true] at running
    obtain ⟨taken, reads⟩ := @readClientInput_within client incoming (Nat.le_of_lt bounded.short)
    dsimp only
    split
    · rename_i status phase
      obtain ⟨counted, through⟩ := reads.full status
      split
      · exact Or.inr (Or.inl rfl)
      · rename_i next processed
        split
        · exact Or.inr (Or.inl rfl)
        · rename_i unready
          rw [Bool.not_eq_true] at unready
          obtain ⟨later, kept⟩ := processSubmitInput_waits _ next processed
          have length := kept unready
          have short := bounded.short
          have some : taken ≠ [] := by
            intro nothing
            rw [nothing, List.length_nil] at counted
            omega
          exact Or.inr (Or.inr ⟨next, _, taken, rfl, later, reads.split, some, by omega⟩)
    · exact Or.inr (Or.inl rfl)

/-- Every call finds a decoder that waits for bytes it has room for, and more bytes than the
call before it; so there are no more calls than the buffer has bytes. -/
theorem readCalls_bounded (bounded : client.Bounded) :
    (∀ call ∈ readCalls fuel client incoming, call.Bounded ∧ client.inputLen ≤ call.inputLen) ∧
      (readCalls fuel client incoming).Pairwise (fun before after =>
        before.inputLen < after.inputLen) ∧
      (readCalls fuel client incoming).length ≤ maxRequestBytes - client.inputLen ∧
      (readCalls fuel client incoming).length ≤ (incomingBytes incoming).length + 1 := by
  have room : client.inputLen < maxRequestBytes := Nat.lt_of_lt_of_le bounded.short bounded.within
  induction fuel generalizing client incoming with
  | zero =>
      rw [readCalls]
      exact ⟨List.forall_mem_nil _, .nil, Nat.zero_le _, Nat.zero_le _⟩
  | succ fuel ih =>
      rcases @readCalls_cases client incoming fuel bounded with
        none | one | ⟨next, rest, taken, calls, later, split, some, grown⟩
      · rw [none]
        exact ⟨List.forall_mem_nil _, .nil, Nat.zero_le _, Nat.zero_le _⟩
      · rw [one]
        refine ⟨?_, List.pairwise_singleton _ _, ?_, ?_⟩
        · intro call member
          rw [List.mem_singleton.mp member]
          exact ⟨bounded, Nat.le_refl _⟩
        · rw [List.length_singleton]
          omega
        · rw [List.length_singleton]
          omega
      · rw [calls]
        have inside : next.inputLen < maxRequestBytes :=
          Nat.lt_of_lt_of_le later.short later.within
        obtain ⟨each, pairs, turns, pieces⟩ := @ih next rest later inside
        have length := congrArg List.length split
        have positive := List.length_pos_iff.mpr some
        rw [List.length_append] at length
        refine ⟨?_, List.pairwise_cons.mpr ⟨?_, pairs⟩, ?_, ?_⟩
        · intro call member
          rcases List.mem_cons.mp member with same | behind
          · rw [same]
            exact ⟨bounded, Nat.le_refl _⟩
          · exact ⟨(each call behind).1, by have more := (each call behind).2; omega⟩
        · intro call behind
          exact Nat.lt_of_lt_of_le grown (each call behind).2
        · rw [List.length_cons]
          omega
        · rw [List.length_cons]
          omega

/-- The loop ends by itself: fuel beyond the number of its calls does not matter. -/
theorem serviceLoop_fuel {index : Nat} {rt : Runtime} {progress : Bool} (more : Nat)
    (enough : (readCalls fuel (rt.clients index) incoming).length < fuel) :
    serviceLoop index (fuel + more) rt progress incoming =
      serviceLoop index fuel rt progress incoming := by
  induction fuel generalizing rt progress incoming with
  | zero => exact absurd enough (Nat.not_lt_zero _)
  | succ fuel ih =>
      rw [Nat.add_right_comm]
      unfold serviceLoop
      unfold readCalls at enough
      split
      · rfl
      · rename_i running
        rw [if_neg running] at enough
        dsimp only at enough ⊢
        cases status : (readClientInput (rt.clients index) incoming).status with
        | closed => rfl
        | failed errno => rfl
        | again => rfl
        | full =>
            dsimp only
            cases phase : (readClientInput (rt.clients index) incoming).client.phase with
            | handshake => rfl
            | submit =>
                simp only [status, phase] at enough ⊢
                cases processed :
                    processSubmitInput (readClientInput (rt.clients index) incoming).client with
                | error errno => rfl
                | ok next =>
                    simp only [processed] at enough ⊢
                    split
                    · rfl
                    · rename_i unready
                      rw [if_neg unready, List.length_cons] at enough
                      apply ih
                      rw [Runtime.clients_setClient]
                      omega

/-- A handshake that is answered leaves the buffer empty. -/
theorem queueHandshakeResult_bounded {rt next : Runtime} {index : Nat} {request : HandshakeRequest}
    (queued : queueHandshakeResult rt index request = .ok next) : (next.clients index).Bounded := by
  unfold queueHandshakeResult at queued
  obtain ⟨answered, taken, done⟩ := bind_ok queued
  cases done
  rw [Runtime.clients_setClient]
  exact Client.bounded_resetInput _

/-- A call of the loop takes no more bytes than the buffer has room for, and leaves an open
connection with a decoder that waits for bytes it has room for. -/
theorem serviceLoop_within {index : Nat} {rt next : Runtime} {progress outcome : Bool}
    {rest : List RecvOutcome} (bounded : (rt.clients index).Bounded)
    (serviced : serviceLoop index fuel rt progress incoming = .ok (next, outcome, rest)) :
    ∃ taken, incomingBytes incoming = taken ++ incomingBytes rest ∧
      (rt.clients index).inputLen + taken.length ≤ maxRequestBytes ∧
      ((next.clients index).isActive = true → (next.clients index).Bounded) := by
  have within := bounded.within
  have short := bounded.short
  induction fuel generalizing rt progress incoming with
  | zero =>
      cases serviced
      exact ⟨[], rfl, by rw [List.length_nil]; omega, fun _ => bounded⟩
  | succ fuel ih =>
      unfold serviceLoop at serviced
      split at serviced
      · cases serviced
        exact ⟨[], rfl, by rw [List.length_nil]; omega, fun _ => bounded⟩
      · obtain ⟨taken, reads⟩ :=
          @readClientInput_within (rt.clients index) incoming (Nat.le_of_lt short)
        have fits := reads.within
        have closes : ∀ middle : Runtime, ((closeClient middle index).clients index).isActive =
            true → ((closeClient middle index).clients index).Bounded := by
          intro middle active
          rw [closeClient_client, closedClient_inactive] at active
          cases active
        dsimp only at serviced
        cases status : (readClientInput (rt.clients index) incoming).status with
        | closed =>
            simp only [status] at serviced
            cases serviced
            exact ⟨taken, reads.split, by omega, closes _⟩
        | failed errno =>
            simp only [status] at serviced
            cases serviced
            exact ⟨taken, reads.split, by omega, closes _⟩
        | again =>
            simp only [status] at serviced
            cases serviced
            refine ⟨taken, reads.split, by omega, fun _ => ?_⟩
            rw [closeAll_clients, Runtime.clients_setClient]
            refine ⟨?_, ?_⟩
            · rw [reads.expected]
              exact reads.again status
            · rw [reads.expected]
              exact within
        | full =>
            obtain ⟨counted, through⟩ := reads.full status
            simp only [status] at serviced
            cases phase : (readClientInput (rt.clients index) incoming).client.phase with
            | handshake =>
                simp only [phase] at serviced
                obtain ⟨answered, queued, done⟩ := bind_ok serviced
                cases done
                exact ⟨taken, reads.split, by omega, fun _ => queueHandshakeResult_bounded queued⟩
            | submit =>
                simp only [phase] at serviced
                cases processed :
                    processSubmitInput (readClientInput (rt.clients index) incoming).client with
                | error errno =>
                    simp only [processed] at serviced
                    cases serviced
                    exact ⟨taken, reads.split, by omega, closes _⟩
                | ok last =>
                    obtain ⟨later, kept⟩ := processSubmitInput_waits _ last processed
                    simp only [processed] at serviced
                    cases ready : last.requestReady with
                    | true =>
                        simp only [ready, ↓reduceIte] at serviced
                        cases serviced
                        refine ⟨taken, reads.split, by omega, fun _ => ?_⟩
                        rw [Runtime.clients_setClient]
                        exact later
                    | false =>
                        simp only [ready, Bool.false_eq_true, ↓reduceIte] at serviced
                        have entry : ∀ middle : Runtime,
                            (middle.setClient index last).clients index = last :=
                          fun middle => Runtime.clients_setClient ..
                        obtain ⟨more, split, room, after⟩ := ih (by rw [entry]; exact later)
                          serviced (by rw [entry]; exact later.within)
                          (by rw [entry]; exact later.short)
                        have length := kept ready
                        rw [entry] at room
                        refine ⟨taken ++ more, ?_, ?_, after⟩
                        · rw [reads.split, split, List.append_assoc]
                        · rw [List.length_append]
                          omega

end Loop

/-! ## What is copied out of the buffer -/

/-- A `memcpy` out of `client->input`: of a struct at its start, or of payload bytes into
`client->io_payload`. -/
inductive Copy where
  | fixed (size : Nat)
  | payload (start length : Nat)
  deriving DecidableEq, Repr

/-- Where the copied range ends. -/
def Copy.stop : Copy → Nat
  | .fixed size => size
  | .payload start length => start + length

/-- The bytes that go into `client->io_payload`. -/
def Copy.payloadLength : Copy → Nat
  | .fixed _ => 0
  | .payload _ length => length

/-- The payload of a branch of `iouringd_finish_submit_request`, which checks the length first. -/
def payloadCopies (client : Client) (start : Nat) (length : UInt32) : List Copy :=
  if client.ioBytesMax < length.toNat then [] else [.payload start length.toNat]

/-- The copies of `iouringd_finish_submit_request`. -/
def finishCopies (client : Client) : List Copy :=
  if !client.request.headerIsValid then []
  else if !client.request.priorityIsValid then []
  else if client.request.taskKind ≠ .registerFd && decide (0 ≤ client.receivedFd) then []
  else
    match client.request.taskKind with
    | .timeout => [.fixed TimeoutRequest.size]
    | .cancel => [.fixed CancelRequest.size]
    | .sockRead | .fileRead | .accept => [.fixed IoRequest.size]
    | .sockWrite | .fileWrite | .connect =>
        .fixed IoRequest.size :: payloadCopies client IoRequest.size
          (IoRequest.decode (client.fixedPart IoRequest.size)).length
    | .poll => [.fixed PollRequest.size]
    | .openat =>
        .fixed OpenatRequest.size :: payloadCopies client OpenatRequest.size
          (OpenatRequest.decode (client.fixedPart OpenatRequest.size)).pathLength
    | .close | .releaseResource => [.fixed ResourceRequest.size]
    | .sockReadFixed | .sockWriteFixed => [.fixed FixedRequest.size]
    | .registerBuffer =>
        let request := RegisterBufferRequest.decode (client.fixedPart RegisterBufferRequest.size)
        .fixed RegisterBufferRequest.size ::
          if request.length = 0 then []
          else payloadCopies client RegisterBufferRequest.size request.length
    | .getTrace => [.fixed GetTraceRequest.size]
    | .nop | .registerFd | .getStats | .unknown _ => []

/-- The copies behind `awaitFixed`. -/
def awaitFixedCopies (size : Nat) (copies : Client → List Copy) (client : Client) : List Copy :=
  if client.inputLen < size then [] else copies { client with expectedInput := size }

/-- The copies behind `awaitPayload`. -/
def awaitPayloadCopies (total : Nat) (client : Client) : List Copy :=
  if maxRequestBytes < total then []
  else if client.inputLen < total then []
  else finishCopies { client with expectedInput := total }

/-- The copies of `iouringd_process_submit_input`, with those of
`iouringd_finish_submit_request` where it calls it. -/
def processCopies (client : Client) : List Copy :=
  if client.inputLen < SubmitRequest.size then []
  else
    let request := SubmitRequest.decode (client.fixedPart SubmitRequest.size)
    let client := { client with request }
    .fixed SubmitRequest.size ::
      if !request.headerIsValid then []
      else
        match request.taskKind with
        | .timeout | .cancel => awaitFixedCopies CancelRequest.size finishCopies client
        | .sockRead | .fileRead => awaitFixedCopies IoRequest.size finishCopies client
        | .poll =>
            awaitFixedCopies PollRequest.size (fun client =>
              let request := PollRequest.decode (client.fixedPart PollRequest.size)
              .fixed PollRequest.size ::
                if request.reserved2 ≠ 0 then [] else finishCopies client) client
        | .connect =>
            awaitFixedCopies IoRequest.size (fun client =>
              let request := IoRequest.decode (client.fixedPart IoRequest.size)
              .fixed IoRequest.size ::
                if request.length = 0 || decide (client.ioBytesMax < request.length.toNat) ||
                    decide (65535 < request.length.toNat) then []
                else awaitPayloadCopies (IoRequest.size + request.length.toNat) client) client
        | .accept =>
            awaitFixedCopies IoRequest.size (fun client =>
              let request := IoRequest.decode (client.fixedPart IoRequest.size)
              .fixed IoRequest.size ::
                if decide (client.ioBytesMax < request.length.toNat) ||
                    decide (65535 < request.length.toNat) then []
                else finishCopies client) client
        | .openat =>
            awaitFixedCopies OpenatRequest.size (fun client =>
              let request := OpenatRequest.decode (client.fixedPart OpenatRequest.size)
              .fixed OpenatRequest.size ::
                if decide (request.pathLength < 2) ||
                    decide (client.ioBytesMax < request.pathLength.toNat) then []
                else awaitPayloadCopies (OpenatRequest.size + request.pathLength.toNat) client)
              client
        | .close =>
            awaitFixedCopies ResourceRequest.size (fun client =>
              let request := ResourceRequest.decode (client.fixedPart ResourceRequest.size)
              .fixed ResourceRequest.size ::
                if request.reserved2 ≠ 0 then [] else finishCopies client) client
        | .sockReadFixed | .sockWriteFixed =>
            awaitFixedCopies FixedRequest.size finishCopies client
        | .releaseResource => awaitFixedCopies ResourceRequest.size finishCopies client
        | .getStats => awaitFixedCopies SubmitRequest.size finishCopies client
        | .getTrace =>
            awaitFixedCopies GetTraceRequest.size (fun client =>
              let request := GetTraceRequest.decode (client.fixedPart GetTraceRequest.size)
              .fixed GetTraceRequest.size ::
                if decide (traceCapacity < request.maxEvents.toNat) || request.reserved2 ≠ 0 then []
                else finishCopies client) client
        | .registerBuffer =>
            awaitFixedCopies RegisterBufferRequest.size (fun client =>
              let request :=
                RegisterBufferRequest.decode (client.fixedPart RegisterBufferRequest.size)
              .fixed RegisterBufferRequest.size ::
                if decide (client.ioBytesMax < request.length.toNat) || request.reserved2 ≠ 0 then
                  []
                else awaitPayloadCopies (RegisterBufferRequest.size + request.length.toNat) client)
              client
        | .sockWrite | .fileWrite =>
            awaitFixedCopies IoRequest.size (fun client =>
              let request := IoRequest.decode (client.fixedPart IoRequest.size)
              .fixed IoRequest.size ::
                if request.length = 0 || decide (client.ioBytesMax < request.length.toNat) then []
                else awaitPayloadCopies (IoRequest.size + request.length.toNat) client) client
        | .nop | .registerFd | .unknown _ => finishCopies client

/-- The copies stay within what was received and within what the payload may hold. -/
def CopiesWithin (client : Client) (copies : List Copy) : Prop :=
  ∀ copy ∈ copies, copy.stop ≤ client.inputLen ∧ copy.payloadLength ≤ client.ioBytesMax

section Copies

variable {client : Client}

/-- No copies at all. -/
theorem CopiesWithin.nil : CopiesWithin client [] := List.forall_mem_nil _

/-- One more copy, of a fixed part. -/
theorem CopiesWithin.fixed {size : Nat} {copies : List Copy} (there : size ≤ client.inputLen)
    (others : CopiesWithin client copies) : CopiesWithin client (.fixed size :: copies) :=
  List.forall_mem_cons.mpr ⟨⟨there, Nat.zero_le _⟩, others⟩

/-- Only the copy of a fixed part. -/
theorem CopiesWithin.one {size : Nat} (there : size ≤ client.inputLen) :
    CopiesWithin client [.fixed size] := .fixed there .nil

/-- Only the copies of a payload. -/
theorem CopiesWithin.payload {start : Nat} {length : UInt32}
    (there : start + length.toNat ≤ client.inputLen) :
    CopiesWithin client (payloadCopies client start length) := by
  unfold payloadCopies
  split
  · exact .nil
  · rename_i fits
    intro copy member
    rw [List.mem_singleton.mp member]
    exact ⟨there, Nat.not_lt.mp fits⟩

/-- Once the whole message is there, so is everything that `iouringd_finish_submit_request`
copies. -/
theorem finishCopies_within (there : client.request.taskKind.fixedSize +
      payloadSize client.request.taskKind
        (client.fixedPart client.request.taskKind.fixedSize) ≤ client.inputLen) :
    CopiesWithin client (finishCopies client) := by
  unfold finishCopies
  split
  · exact .nil
  split
  · exact .nil
  split
  · exact .nil
  cases kind : client.request.taskKind with
  | nop | registerFd | getStats | unknown raw => exact .nil
  | sockWrite | fileWrite | connect | openat =>
      rw [kind] at there
      exact .fixed (Nat.le_trans (Nat.le_add_right _ _) there) (.payload there)
  | registerBuffer =>
      rw [kind] at there
      refine .fixed (Nat.le_trans (Nat.le_add_right _ _) there) ?_
      split
      · exact .nil
      · exact .payload there
  | _ =>
      rw [kind] at there
      exact .one (Nat.le_trans (Nat.le_add_right _ _) there)

/-- A request without a payload is there with its fixed part. -/
theorem finishCopies_plain {kind : RequestKind} (same : client.request.taskKind = kind)
    (plain : ∀ fixed, payloadSize kind fixed = 0) (there : kind.fixedSize ≤ client.inputLen) :
    CopiesWithin client (finishCopies client) := by
  apply finishCopies_within
  rw [same, plain, Nat.add_zero]
  exact there

/-- The copies of a decoder that waits for a fixed part. -/
theorem awaitFixedCopies_within {size : Nat} {copies : Client → List Copy}
    (proceeds : size ≤ client.inputLen →
      CopiesWithin client (copies { client with expectedInput := size })) :
    CopiesWithin client (awaitFixedCopies size copies client) := by
  unfold awaitFixedCopies
  split
  · exact .nil
  · rename_i there
    exact proceeds (Nat.not_lt.mp there)

/-- The copies of a decoder that waits for a payload. -/
theorem awaitPayloadCopies_within {total : Nat} {kind : RequestKind}
    (same : client.request.taskKind = kind)
    (whole : kind.fixedSize + payloadSize kind (client.fixedPart kind.fixedSize) = total) :
    CopiesWithin client (awaitPayloadCopies total client) := by
  subst same
  unfold awaitPayloadCopies
  split
  · exact .nil
  · split
    · exact .nil
    · rename_i there
      exact @finishCopies_within { client with expectedInput := total }
        (whole.trans_le (Nat.not_lt.mp there))

/-- For every content of the buffer, the decoder copies nothing that was not received. -/
theorem processCopies_within (client : Client) : CopiesWithin client (processCopies client) := by
  unfold processCopies
  split
  · exact .nil
  · rename_i there
    dsimp only
    refine .fixed (Nat.not_lt.mp there) ?_
    split
    · exact .nil
    · suffices within : CopiesWithin { client with
          request := SubmitRequest.decode (client.fixedPart SubmitRequest.size) } _ from within
      cases kind : (SubmitRequest.decode (client.fixedPart SubmitRequest.size)).taskKind with
      | nop | registerFd | unknown raw =>
          exact finishCopies_plain kind (fun _ => rfl) (Nat.not_lt.mp there)
      | timeout | cancel | sockRead | fileRead | sockReadFixed | sockWriteFixed | releaseResource
      | getStats =>
          refine awaitFixedCopies_within fun fixed => ?_
          exact finishCopies_plain kind (fun _ => rfl) fixed
      | poll | accept | close | getTrace =>
          refine awaitFixedCopies_within fun fixed => .fixed fixed ?_
          split
          · exact .nil
          · exact finishCopies_plain kind (fun _ => rfl) fixed
      | connect | openat | registerBuffer | sockWrite | fileWrite =>
          refine awaitFixedCopies_within fun fixed => .fixed fixed ?_
          split
          · exact .nil
          · exact awaitPayloadCopies_within kind rfl

end Copies

/-! ## The copies are all that is read -/

/-- The record with other bytes in its buffer. -/
def Client.withInput (client : Client) (input : Memory) : Client := { client with input }

/-- The range that is copied holds the same bytes. -/
def Copy.SameIn (first second : Memory) : Copy → Prop
  | .fixed size => first.read 0 size = second.read 0 size
  | .payload start length => first.read start length = second.read start length

section Reads

variable {client : Client} {input : Memory}

/-- A payload that is copied is the same in both inputs. -/
theorem payloadCopies_same {start : Nat} {length : UInt32}
    (fits : ¬ client.ioBytesMax < length.toNat)
    (same : ∀ copy ∈ payloadCopies client start length, copy.SameIn input client.input) :
    input.read start length.toNat = client.input.read start length.toNat := by
  apply same (.payload start length.toNat)
  rw [payloadCopies, if_neg fits]
  exact List.mem_singleton_self _

/-- Another input leaves the rest of the client alone. -/
theorem Client.withInput_request : (client.withInput input).request = client.request := rfl

@[inherit_doc Client.withInput_request]
theorem Client.withInput_receivedFd : (client.withInput input).receivedFd = client.receivedFd := rfl

@[inherit_doc Client.withInput_request]
theorem Client.withInput_ioBytesMax : (client.withInput input).ioBytesMax = client.ioBytesMax := rfl

/-- A fixed part that is copied is decoded alike. -/
theorem fixedPart_same {size : Nat} (same : (Copy.fixed size).SameIn input client.input) :
    (client.withInput input).fixedPart size = client.fixedPart size := same

/-- The payload is read from the input only where it is copied from. -/
theorem copyPayload_same {start : Nat} {length : UInt32}
    (bytes : input.read start length.toNat = client.input.read start length.toNat) :
    (client.withInput input).copyPayload start length =
      (client.copyPayload start length).withInput input := by
  unfold Client.copyPayload Client.withInput
  simp only [bytes]

/-- The end of an I/O request reads the fixed part only. -/
theorem finishIo_reads (same : (Copy.fixed IoRequest.size).SameIn input client.input) :
    finishIo (client.withInput input) = (finishIo client).withInput input := by
  simp only [finishIo, fixedPart_same same]
  rfl

/-- The SOCK_WRITE, FILE_WRITE and CONNECT branches. -/
theorem finishIoWithPayload_reads
    (same : ∀ copy ∈ Copy.fixed IoRequest.size :: payloadCopies client IoRequest.size
      (IoRequest.decode (client.fixedPart IoRequest.size)).length,
        copy.SameIn input client.input) :
    finishIoWithPayload (client.withInput input) =
      (finishIoWithPayload client).map (Client.withInput · input) := by
  obtain ⟨front, payload⟩ := List.forall_mem_cons.mp same
  unfold finishIoWithPayload
  simp only [fixedPart_same front]
  by_cases long : client.ioBytesMax <
      (IoRequest.decode (client.fixedPart IoRequest.size)).length.toNat
  · rw [if_pos long]
    exact if_pos long
  · rw [if_neg long]
    refine (if_neg long).trans ?_
    rw [copyPayload_same (payloadCopies_same long payload)]
    exact congrArg Except.ok (@finishIo_reads (client.copyPayload _ _) input front)

/-- The OPENAT branch. -/
theorem finishOpenat_reads
    (same : ∀ copy ∈ Copy.fixed OpenatRequest.size :: payloadCopies client OpenatRequest.size
      (OpenatRequest.decode (client.fixedPart OpenatRequest.size)).pathLength,
        copy.SameIn input client.input) :
    finishOpenat (client.withInput input) =
      (finishOpenat client).map (Client.withInput · input) := by
  obtain ⟨front, payload⟩ := List.forall_mem_cons.mp same
  unfold finishOpenat
  simp only [fixedPart_same front]
  by_cases long : client.ioBytesMax <
      (OpenatRequest.decode (client.fixedPart OpenatRequest.size)).pathLength.toNat
  · rw [if_pos long]
    exact if_pos long
  · rw [if_neg long]
    refine (if_neg long).trans ?_
    simp only [copyPayload_same (payloadCopies_same long payload)]
    generalize (OpenatRequest.decode (client.fixedPart OpenatRequest.size)).pathLength = length
    generalize client.copyPayload OpenatRequest.size length = copied
    by_cases refused : (decide (length < 2) ||
        copied.ioPayload (length.toNat - 1) != 0) = true
    · rw [if_pos refused]
      exact if_pos refused
    · rw [if_neg refused]
      exact if_neg refused

/-- The REGISTER_BUFFER branch. -/
theorem finishRegisterBuffer_reads
    (same : ∀ copy ∈ Copy.fixed RegisterBufferRequest.size ::
      (if (RegisterBufferRequest.decode
          (client.fixedPart RegisterBufferRequest.size)).length = 0 then []
        else payloadCopies client RegisterBufferRequest.size
          (RegisterBufferRequest.decode (client.fixedPart RegisterBufferRequest.size)).length),
        copy.SameIn input client.input) :
    finishRegisterBuffer (client.withInput input) =
      (finishRegisterBuffer client).map (Client.withInput · input) := by
  obtain ⟨front, payload⟩ := List.forall_mem_cons.mp same
  unfold finishRegisterBuffer
  simp only [fixedPart_same front]
  by_cases long : client.ioBytesMax < (RegisterBufferRequest.decode
      (client.fixedPart RegisterBufferRequest.size)).length.toNat
  · rw [if_pos long]
    exact if_pos long
  · rw [if_neg long]
    refine (if_neg long).trans ?_
    by_cases empty : (RegisterBufferRequest.decode
        (client.fixedPart RegisterBufferRequest.size)).length = 0
    · simp only [empty, ne_eq, not_true_eq_false, ↓reduceIte]
      rfl
    · rw [if_neg empty] at payload
      simp only [empty, ne_eq, not_false_eq_true, ↓reduceIte,
        copyPayload_same (payloadCopies_same long payload)]
      rfl

/-- `iouringd_finish_submit_request` does not depend on the bytes it does not copy. -/
theorem finishSubmitRequest_reads
    (same : ∀ copy ∈ finishCopies client, copy.SameIn input client.input) :
    finishSubmitRequest (client.withInput input) =
      (finishSubmitRequest client).map (Client.withInput · input) := by
  unfold finishCopies at same
  unfold finishSubmitRequest
  simp only [Client.withInput_request, Client.withInput_receivedFd]
  by_cases valid : (!client.request.headerIsValid) = true
  · simp only [valid, ↓reduceIte]
    rfl
  by_cases priority : (!client.request.priorityIsValid) = true
  · simp only [valid, priority, Bool.false_eq_true, ↓reduceIte]
    rfl
  by_cases descriptor : (client.request.taskKind ≠ .registerFd &&
      decide (0 ≤ client.receivedFd)) = true
  · simp only [valid, priority, Bool.false_eq_true, ↓reduceIte]
    refine (if_pos descriptor).trans ?_
    rw [if_pos descriptor]
    rfl
  rw [if_neg valid, if_neg priority, if_neg descriptor] at same
  simp only [valid, priority, Bool.false_eq_true, ↓reduceIte]
  refine (if_neg descriptor).trans ?_
  rw [if_neg descriptor]
  cases kind : client.request.taskKind with
  | nop | registerFd | getStats => rfl
  | unknown raw => rfl
  | timeout | cancel | poll | close | releaseResource | getTrace =>
      simp only [kind] at same
      simp only [fixedPart_same (same _ List.mem_cons_self)]
      rfl
  | sockReadFixed | sockWriteFixed =>
      simp only [kind] at same
      simp only [finishFixed, fixedPart_same (same _ List.mem_cons_self)]
      rfl
  | sockRead | fileRead | accept =>
      simp only [kind] at same
      simp only [finishIo, fixedPart_same (same _ List.mem_cons_self)]
      rfl
  | sockWrite | fileWrite =>
      simp only [kind] at same
      exact finishIoWithPayload_reads same
  | connect =>
      simp only [kind] at same
      simp only [finishIoWithPayload_reads same]
      cases finishIoWithPayload client <;> rfl
  | openat =>
      simp only [kind] at same
      exact finishOpenat_reads same
  | registerBuffer =>
      simp only [kind] at same
      exact finishRegisterBuffer_reads same

/-- The bytes a decoder depends on are those it copies. -/
def ReadsOnly (proceed : Client → Except Errno Client) (copies : Client → List Copy) : Prop :=
  ∀ (client : Client) (input : Memory),
    (∀ copy ∈ copies client, copy.SameIn input client.input) →
      proceed (client.withInput input) = (proceed client).map (Client.withInput · input)

/-- Waiting for a fixed part reads what the rest reads. -/
theorem awaitFixed_reads {size : Nat} {proceed : Client → Except Errno Client}
    {copies : Client → List Copy} (proceeds : ReadsOnly proceed copies) :
    ReadsOnly (awaitFixed size proceed) (awaitFixedCopies size copies) := by
  intro client input same
  unfold awaitFixedCopies at same
  unfold awaitFixed
  dsimp only
  by_cases short : client.inputLen < size
  · rw [if_pos short]
    exact if_pos short
  · rw [if_neg short] at same ⊢
    refine (if_neg short).trans ?_
    exact proceeds { client with expectedInput := size } input same

/-- Waiting for a payload reads the payload. -/
theorem awaitPayload_reads {total : Nat} :
    ReadsOnly (awaitPayload total) (awaitPayloadCopies total) := by
  intro client input same
  unfold awaitPayloadCopies at same
  unfold awaitPayload
  dsimp only
  by_cases large : maxRequestBytes < total
  · rw [if_pos large, if_pos large]
    rfl
  · rw [if_neg large] at same
    rw [if_neg large, if_neg large]
    by_cases short : client.inputLen < total
    · rw [if_pos short]
      exact if_pos short
    · rw [if_neg short] at same ⊢
      refine (if_neg short).trans ?_
      exact @finishSubmitRequest_reads { client with expectedInput := total } input same

/-- The decoder depends only on the bytes it copies. -/
theorem processSubmitInput_reads : ReadsOnly processSubmitInput processCopies := by
  intro client input same
  unfold processCopies at same
  unfold processSubmitInput
  by_cases short : client.inputLen < SubmitRequest.size
  · rw [if_pos short]
    exact if_pos short
  · rw [if_neg short] at same ⊢
    refine (if_neg short).trans ?_
    obtain ⟨front, others⟩ := List.forall_mem_cons.mp same
    rw [fixedPart_same front]
    dsimp only at others ⊢
    generalize SubmitRequest.decode (client.fixedPart SubmitRequest.size) = request at others ⊢
    by_cases valid : (!request.headerIsValid) = true
    · rw [if_pos valid, if_pos valid]
      rfl
    · rw [if_neg valid] at others
      rw [if_neg valid, if_neg valid]
      -- the record the branches go on with
      have keeps : ({ client.withInput input with request } : Client) =
          ({ client with request } : Client).withInput input := rfl
      rw [keeps]
      have others : ∀ copy : Copy, copy ∈ _ →
        copy.SameIn input ({ client with request } : Client).input := others
      generalize ({ client with request } : Client) = client at others ⊢
      cases kind : request.taskKind with
      | nop | registerFd | unknown raw =>
          simp only [kind] at others
          exact finishSubmitRequest_reads others
      | timeout | cancel | sockRead | fileRead | sockReadFixed | sockWriteFixed | releaseResource
      | getStats =>
          simp only [kind] at others
          exact awaitFixed_reads (fun _ _ => finishSubmitRequest_reads) client input others
      | poll | accept | close | getTrace =>
          simp only [kind] at others
          refine awaitFixed_reads ?_ client input others
          intro client input same
          obtain ⟨front, others⟩ := List.forall_mem_cons.mp same
          simp only [Client.withInput_ioBytesMax, fixedPart_same front]
          split
          · rfl
          · rename_i goes
            rw [if_neg goes] at others
            exact finishSubmitRequest_reads others
      | connect | openat | registerBuffer | sockWrite | fileWrite =>
          simp only [kind] at others
          refine awaitFixed_reads ?_ client input others
          intro client input same
          obtain ⟨front, others⟩ := List.forall_mem_cons.mp same
          simp only [Client.withInput_ioBytesMax, fixedPart_same front]
          split
          · rfl
          · rename_i goes
            rw [if_neg goes] at others
            exact awaitPayload_reads client input others

end Reads

/-! ## Every reachable state -/

section Runs

variable {config : Config} {rt : Runtime} {index : Nat}

/-- Every step keeps the decoders of the open connections within their buffers. -/
theorem bounded_step {action : Action} {next : Runtime} (grounded : Grounded rt)
    (before : ∀ index, (rt.clients index).isActive = true → (rt.clients index).Bounded)
    (taken : step rt action = .ok next) (index : Nat)
    (active : (next.clients index).isActive = true) : (next.clients index).Bounded := by
  by_cases elsewhere : ∀ incoming, action ≠ .input index incoming
  · exact ((step_effect grounded taken).between elsewhere).bounded (before index) active
  · obtain ⟨incoming, same⟩ := not_forall_not.mp elsewhere
    subst same
    simp only [step] at taken
    split at taken
    · rename_i connected
      simp only [Runtime.connected, Bool.and_eq_true] at connected
      obtain ⟨result, serviced, done⟩ := bind_ok taken
      cases done
      obtain ⟨-, -, -, after⟩ := serviceLoop_within (before index connected.2) serviced
      exact after active
    · cases taken
      exact before index active

/-- The decoder of an open connection always waits for bytes it has room for. -/
theorem Reachable.bounded (reachable : Reachable config rt)
    (active : (rt.clients index).isActive = true) : (rt.clients index).Bounded := by
  have holds : Invariant config rt ∧
      ∀ index, (rt.clients index).isActive = true → (rt.clients index).Bounded := by
    refine @Reachable.induct _ _ (fun rt => Invariant config rt ∧ ∀ index,
      (rt.clients index).isActive = true → (rt.clients index).Bounded) reachable
      ⟨.initial config, fun _ => nofun⟩ ?_
    intro rt action next ⟨invariant, bounded⟩ taken
    exact ⟨invariant.stepped taken, bounded_step invariant.grounded bounded taken⟩
  exact holds.2 index active

/-- One call of `iouringd_service_client_readable` on an open connection. -/
structure ServedWithin (rt : Runtime) (index : Nat) (incoming : List RecvOutcome) : Prop where
  bounds : ∀ fuel, ∀ call ∈ readCalls fuel (rt.clients index) incoming,
    call.inputLen ≤ call.expectedInput ∧ call.expectedInput ≤ maxRequestBytes
  progress : ∀ fuel, (readCalls fuel (rt.clients index) incoming).Pairwise
    fun before after => before.inputLen < after.inputLen
  turns : ∀ fuel, (readCalls fuel (rt.clients index) incoming).length ≤ maxRequestBytes
  ends : ∀ fuel, maxRequestBytes < fuel →
    serviceLoop index fuel rt false incoming = serviceClientReadable rt index incoming
  bytes : ∀ next progress rest,
    serviceClientReadable rt index incoming = .ok (next, progress, rest) →
      ∃ taken, incomingBytes incoming = taken ++ incomingBytes rest ∧
        (rt.clients index).inputLen + taken.length ≤ maxRequestBytes

/-- One call of `iouringd_process_submit_input`. -/
structure DecodedWithin (client : Client) : Prop where
  waits : ∀ next, processSubmitInput client = .ok next → next.requestReady = false →
    next.inputLen < next.expectedInput
  copies : ∀ copy ∈ processCopies client,
    copy.stop ≤ client.inputLen ∧ copy.payloadLength ≤ client.ioBytesMax
  reads : ∀ input, (∀ copy ∈ processCopies client, copy.SameIn input client.input) →
    processSubmitInput (client.withInput input) =
      (processSubmitInput client).map (Client.withInput · input)

/-- Whatever comes in, the client is read within its bounds. -/
theorem Client.Bounded.served (bounded : (rt.clients index).Bounded)
    (incoming : List RecvOutcome) : ServedWithin rt index incoming where
  bounds fuel call member := by
    have held := ((readCalls_bounded bounded).1 call member).1
    exact ⟨Nat.le_of_lt held.short, held.within⟩
  progress fuel := (readCalls_bounded bounded).2.1
  turns fuel := Nat.le_trans (readCalls_bounded bounded).2.2.1 (Nat.sub_le _ _)
  ends fuel enough := by
    have turns : (readCalls fuel (rt.clients index) incoming).length ≤ maxRequestBytes :=
      Nat.le_trans (readCalls_bounded bounded).2.2.1 (Nat.sub_le _ _)
    have pieces := (@readCalls_bounded _ incoming ((incomingBytes incoming).length + 2)
      bounded).2.2.2
    -- either amount of fuel is enough, so both give what their sum gives
    calc
      serviceLoop index fuel rt false incoming
        = serviceLoop index (fuel + ((incomingBytes incoming).length + 2)) rt false incoming :=
          (serviceLoop_fuel _ (Nat.lt_of_le_of_lt turns enough)).symm
      _ = serviceLoop index ((incomingBytes incoming).length + 2 + fuel) rt false incoming := by
          rw [Nat.add_comm]
      _ = serviceClientReadable rt index incoming :=
          serviceLoop_fuel _ (Nat.lt_succ_of_le pieces)
  bytes next progress rest serviced := by
    obtain ⟨taken, split, room, -⟩ := serviceLoop_within bounded serviced
    exact ⟨taken, split, room⟩

/-- Every decoder reads within its bounds. -/
theorem decodedWithin (client : Client) : DecodedWithin client where
  waits next processed _ := (processSubmitInput_waits client next processed).1.short
  copies := processCopies_within client
  reads := processSubmitInput_reads client

/-- On every open connection, whatever arrives and however it is cut, each read finds
`input_len ≤ expected_input ≤ sizeof(client->input)`, each turn of the loop has more bytes than
the one before it and there are at most `sizeof(client->input)` of them. The decoder returns 0
only to wait for more, copies only what was received, and a payload of at most `io_bytes_max`
bytes into a buffer that holds them. -/
theorem input_bounded (reachable : Reachable config rt)
    (active : (rt.clients index).isActive = true) :
    (∀ incoming, ServedWithin rt index incoming) ∧ (∀ client, DecodedWithin client) ∧
      (rt.clients index).ioBytesMax ≤ maxIoBytes := by
  refine ⟨(reachable.bounded active).served, decodedWithin, ?_⟩
  have sized := (reachable.invariant.entries index).sized (Or.inl active)
  rw [sized.2.2]
  exact config.ioBytesMax_le

/-- A connection after its handshake. -/
theorem input_bounded_joined :
    ∃ rt, run step (Runtime.initial (.small 1 (by decide) (by decide))) (joining 0 7) = .ok rt ∧
      (rt.clients 0).isActive = true ∧
      (∀ incoming, ServedWithin rt 0 incoming) ∧ (∀ client, DecodedWithin client) ∧
      (rt.clients 0).ioBytesMax ≤ maxIoBytes := by
  have seen : ((run step (Runtime.initial (.small 1 (by decide) (by decide)))
      (joining 0 7)).toOption.map fun rt => (rt.clients 0).isActive) = some true := by
    decide +kernel
  obtain ⟨rt, ran, active⟩ := exists_of_toOption_map seen
  exact ⟨rt, ran, active, input_bounded ⟨_, ran⟩ active⟩

end Runs

end Iouringd
