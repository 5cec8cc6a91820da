import Iouringd.Daemon.Holdings

/-! # Descriptors that arrive with the input

A segment of a socket may carry control messages, and these may carry descriptors. Of the
segments one call of `iouringd_service_client_readable` takes from the socket, the first with
control messages decides: its descriptor becomes the `received_fd`, or the connection is
closed.
-/

namespace Iouringd

open Foundation

/-- The control messages of one segment. -/
structure Arrival where
  control : List ControlMessage
  truncated : Bool
  deriving DecidableEq, Repr

/-- The descriptors that come with a segment. -/
def Arrival.descriptors (arrival : Arrival) : List Fd :=
  arrival.control.flatMap ControlMessage.descriptors

/-- The control messages `recvmsg` can return with this outcome. -/
def RecvOutcome.arrival : RecvOutcome → Option Arrival
  | .data bytes control truncated =>
      if bytes.isEmpty || (control.isEmpty && !truncated) then none else some ⟨control, truncated⟩
  | _ => none

/-- The segments with control messages, in order. -/
def arrivals (incoming : List RecvOutcome) : List Arrival :=
  incoming.filterMap RecvOutcome.arrival

/-- The descriptor that becomes the `received_fd` of a client that holds `held`: that of the
first message, when it has the form of a descriptor and there is none yet. -/
def received (held : Fd) : List Arrival → List Fd
  | ⟨⟨true, [fd]⟩ :: _, false⟩ :: _ => if 0 ≤ held then [] else [fd]
  | _ => []

/-- The descriptors an input step gains are among those that came in, and the received one is
among them. -/
structure Gains (held : Fd) (consumed : List Arrival) (gain : List Fd) : Prop where
  received : (received held consumed).Sublist gain
  handed : gain.Sublist (consumed.flatMap Arrival.descriptors)

/-- The received descriptor and the descriptors closed on the way grow by what is gained. -/
def Passes (held after : Fd) (closed gain : List Fd) : Prop :=
  ∀ fd, 0 ≤ fd → (if after = fd then 1 else 0) + closed.count fd =
    (if held = fd then 1 else 0) + gain.count fd

section Reading

variable {held after : Fd} {first second : List Arrival} {gain more : List Fd}

theorem Gains.nil (held : Fd) : Gains held [] [] := ⟨.refl _, .refl _⟩

/-- Only the first message can be received. -/
theorem received_append (nonempty : first ≠ []) :
    received held (first ++ second) = received held first := by
  cases first with
  | nil => exact absurd rfl nonempty
  | cons arrival rest =>
      rw [List.cons_append]
      unfold received
      split
      · rename_i same
        cases same
        rfl
      · rename_i other
        split
        · rename_i same
          cases same
          exact absurd rfl (other _ _ _)
        · rfl

theorem Gains.append (one : Gains held first gain) (same : first = [] → after = held)
    (two : Gains after second more) : Gains held (first ++ second) (gain ++ more) := by
  refine ⟨?_, ?_⟩
  · by_cases empty : first = []
    · subst empty
      rw [← same rfl, List.nil_append]
      exact two.received.trans (List.sublist_append_right gain more)
    · rw [received_append empty]
      exact one.received.trans (List.sublist_append_left gain more)
  · rw [List.flatMap_append]
    exact one.handed.append two.handed

theorem Passes.refl (held : Fd) : Passes held held [] [] := fun _ _ => rfl

theorem Passes.trans {middle : Fd} {closed : List Fd} (one : Passes held middle [] gain)
    (two : Passes middle after closed more) : Passes held after closed (gain ++ more) := by
  intro fd valid
  have before := one fd valid
  have rest := two fd valid
  rw [List.count_nil] at before
  rw [List.count_append]
  omega

/-- What the control messages of one segment do to the received descriptor. -/
theorem receiveControl_passes (client : Client) (control : List ControlMessage) :
    ∃ gain, Gains client.receivedFd [⟨control, false⟩] gain ∧
      Passes client.receivedFd (receiveControl client control).1.receivedFd
        (receiveControl client control).2.1 gain := by
  induction control generalizing client with
  | nil => exact ⟨[], ⟨.refl _, .refl _⟩, Passes.refl _⟩
  | cons message rest ih =>
      obtain ⟨rights, descriptors⟩ := message
      have nothing : ∀ outcome,
          received client.receivedFd [⟨⟨rights, descriptors⟩ :: rest, false⟩] = [] →
          outcome = (client, ([] : List Fd), false) → ∃ gain,
            Gains client.receivedFd [⟨⟨rights, descriptors⟩ :: rest, false⟩] gain ∧
            Passes client.receivedFd outcome.1.receivedFd outcome.2.1 gain := by
        rintro outcome none rfl
        refine ⟨[], ⟨?_, List.nil_sublist _⟩, Passes.refl _⟩
        rw [none]
      unfold receiveControl
      dsimp only
      split
      · rename_i fd
        cases rights with
        | false => exact nothing _ rfl rfl
        | true =>
            simp only [Bool.not_true, Bool.false_eq_true, ↓reduceIte]
            split
            · rename_i holds
              refine ⟨[fd], ⟨?_, ?_⟩, fun _ _ => rfl⟩
              · change (if 0 ≤ client.receivedFd then [] else [fd]).Sublist _
                rw [if_pos holds]
                exact List.nil_sublist _
              · exact List.sublist_append_left [fd] _
            · rename_i free
              obtain ⟨gain, gains, passes⟩ := ih { client with receivedFd := fd }
              refine ⟨fd :: gain, ⟨?_, ?_⟩, ?_⟩
              · change (if 0 ≤ client.receivedFd then [] else [fd]).Sublist _
                rw [if_neg free]
                exact List.singleton_sublist.mpr List.mem_cons_self
              · change (fd :: gain).Sublist (fd :: _)
                exact gains.handed.cons_cons fd
              · intro other valid
                have later := passes other valid
                have unset : ¬ client.receivedFd = other := by
                  rintro rfl
                  exact free valid
                rw [if_neg unset, List.count_cons]
                simp only [beq_iff_eq]
                dsimp only at later
                omega
      · rename_i other
        refine nothing _ ?_ rfl
        unfold received
        split
        · rename_i same
          cases same
          exact absurd rfl (other _)
        · rfl

/-- A descriptor is only closed when the segment is refused. -/
theorem receiveControl_closed {client next : Client} {control : List ControlMessage}
    {closed : List Fd} (accepted : receiveControl client control = (next, closed, true)) :
    closed = [] := by
  induction control generalizing client with
  | nil =>
      cases accepted
      rfl
  | cons message rest ih =>
      unfold receiveControl at accepted
      split at accepted
      · split at accepted
        · cases accepted
        · split at accepted
          · cases accepted
          · exact ih accepted
      · cases accepted

/-- What is taken from the socket, what it gains and where the received descriptor goes. -/
structure Takes (held : Fd) (incoming rest : List RecvOutcome) (after : Fd) (closed : List Fd)
    (consumed : List Arrival) (gain : List Fd) : Prop where
  split : arrivals incoming = consumed ++ arrivals rest
  gains : Gains held consumed gain
  passes : Passes held after closed gain
  untouched : consumed = [] → after = held

theorem Takes.refl (held : Fd) (incoming : List RecvOutcome) :
    Takes held incoming incoming held [] [] [] :=
  ⟨rfl, .nil held, Passes.refl held, fun _ => rfl⟩

/-- Outcomes without control messages may be put in front. -/
theorem Takes.skip {outcome : RecvOutcome} {incoming rest : List RecvOutcome} {closed : List Fd}
    (none : outcome.arrival = none) (takes : Takes held incoming rest after closed first gain) :
    Takes held (outcome :: incoming) rest after closed first gain := by
  refine ⟨?_, takes.gains, takes.passes, takes.untouched⟩
  rw [arrivals, List.filterMap_cons_none none]
  exact takes.split

theorem Takes.trans {middle : Fd} {incoming rest last : List RecvOutcome} {closed : List Fd}
    (one : Takes held incoming rest middle [] first gain)
    (two : Takes middle rest last after closed second more) :
    Takes held incoming last after closed (first ++ second) (gain ++ more) where
  split := by rw [one.split, two.split, List.append_assoc]
  gains := one.gains.append one.untouched two.gains
  passes := one.passes.trans two.passes
  untouched := by
    intro empty
    obtain ⟨before, behind⟩ := List.append_eq_nil_iff.mp empty
    rw [two.untouched behind, one.untouched before]

/-- What a segment leaves in the socket brings no control messages. -/
theorem arrivals_leftover (left : List UInt8) (rest : List RecvOutcome) :
    arrivals (if left.isEmpty then rest else .data left [] false :: rest) = arrivals rest := by
  split
  · rfl
  · apply List.filterMap_cons_none
    simp only [RecvOutcome.arrival, List.isEmpty_nil, Bool.not_false, Bool.and_self, Bool.or_true,
      ↓reduceIte]

/-- A segment whose control messages were cut off. -/
theorem takes_truncated {bytes left : List UInt8} {control : List ControlMessage}
    {rest : List RecvOutcome} (some : ¬ bytes.isEmpty = true) :
    Takes held (.data bytes control true :: rest)
      (if left.isEmpty then rest else .data left [] false :: rest) held []
      [⟨control, true⟩] [] := by
  have unread : received held [⟨control, true⟩] = [] := by
    unfold received
    split
    · rename_i same
      cases same
    · rfl
  refine ⟨?_, ⟨?_, List.nil_sublist _⟩, Passes.refl held, nofun⟩
  · rw [arrivals_leftover, arrivals, List.filterMap_cons_some (b := ⟨control, true⟩)]
    · rfl
    · simp only [RecvOutcome.arrival, some, Bool.not_true, Bool.and_false, Bool.or_false,
        Bool.false_eq_true, ↓reduceIte]
  · rw [unread]

/-- A segment whose control messages are looked at. -/
theorem takes_segment {client : Client} {bytes left : List UInt8} {control : List ControlMessage}
    {rest : List RecvOutcome} (some : ¬ bytes.isEmpty = true) :
    ∃ consumed gain, Takes client.receivedFd (.data bytes control false :: rest)
      (if left.isEmpty then rest else .data left [] false :: rest)
      (receiveControl client control).1.receivedFd (receiveControl client control).2.1
      consumed gain := by
  cases control with
  | nil =>
      refine ⟨[], [], ?_, .nil _, Passes.refl _, fun _ => rfl⟩
      rw [arrivals_leftover]
      apply List.filterMap_cons_none
      simp only [RecvOutcome.arrival, List.isEmpty_nil, Bool.not_false, Bool.and_self,
        Bool.or_true, ↓reduceIte]
  | cons message messages =>
      obtain ⟨gain, gains, passes⟩ := receiveControl_passes client (message :: messages)
      refine ⟨[⟨message :: messages, false⟩], gain, ?_, gains, passes, nofun⟩
      rw [arrivals_leftover, arrivals, List.filterMap_cons_some (b := ⟨message :: messages, false⟩)]
      · rfl
      · simp only [RecvOutcome.arrival, some, List.isEmpty_cons, Bool.false_and, Bool.or_false,
          Bool.false_eq_true, ↓reduceIte]

theorem readClientInput_takes (client : Client) (incoming : List RecvOutcome) :
    ∃ consumed gain, Takes client.receivedFd incoming (readClientInput client incoming).rest
      (readClientInput client incoming).client.receivedFd
      (readClientInput client incoming).closedFds consumed gain := by
  induction incoming generalizing client with
  | nil =>
      unfold readClientInput
      split <;> exact ⟨[], [], .refl _ _⟩
  | cons outcome rest ih =>
      unfold readClientInput
      split
      · cases outcome with
        | data bytes control truncated =>
            dsimp only
            split
            · rename_i empty
              obtain ⟨consumed, gain, takes⟩ := ih client
              refine ⟨consumed, gain, takes.skip ?_⟩
              simp only [RecvOutcome.arrival, empty, Bool.true_or, ↓reduceIte]
            · rename_i some
              generalize client.input.write client.inputLen
                (bytes.take (client.expectedInput - client.inputLen)) = input
              cases truncated with
              | true => exact ⟨_, _, takes_truncated some⟩
              | false =>
                  simp only [Bool.false_eq_true, ↓reduceIte]
                  obtain ⟨consumed, gain, takes⟩ := @takes_segment { client with input } bytes
                    (bytes.drop (client.expectedInput - client.inputLen)) control rest some
                  split
                  · rename_i stopped closed outcome
                    rw [outcome] at takes
                    exact ⟨consumed, gain, takes⟩
                  · rename_i kept closed outcome
                    rw [outcome] at takes
                    rw [receiveControl_closed outcome] at takes
                    dsimp only at takes
                    split
                    · rename_i whole
                      rw [if_pos whole] at takes
                      obtain ⟨later, more, further⟩ := ih { kept with
                        inputLen := kept.inputLen +
                          (bytes.take (client.expectedInput - client.inputLen)).length }
                      exact ⟨_, _, takes.trans further⟩
                    · rename_i part
                      rw [if_neg part] at takes
                      exact ⟨consumed, gain, takes⟩
        | eof =>
            dsimp only
            split <;> exact ⟨[], [], (Takes.refl _ _).skip rfl⟩
        | again => exact ⟨[], [], (Takes.refl _ _).skip rfl⟩
        | interrupted =>
            obtain ⟨consumed, gain, takes⟩ := ih client
            exact ⟨consumed, gain, takes.skip rfl⟩
        | failed errno => exact ⟨[], [], (Takes.refl _ _).skip rfl⟩
      · exact ⟨[], [], .refl _ _⟩

end Reading

/-! ## One call -/

section Servicing

variable {rt next : Runtime} {index : Nat}

/-- Decoding leaves the received descriptor alone. -/
theorem processSubmitInput_receivedFd {client after : Client}
    (within : client.ioBytesMax ≤ maxIoBytes) (processed : processSubmitInput client = .ok after) :
    after.receivedFd = client.receivedFd := by
  have agrees := processSubmitInput_agrees within
  unfold Agrees at agrees
  rw [processed] at agrees
  split at agrees
  · obtain ⟨request, same⟩ := agrees
    cases same
    rfl
  · obtain ⟨errno, failed⟩ := agrees
    cases failed
  · split at agrees
    · obtain ⟨errno, failed⟩ := agrees
      cases failed
    · obtain ⟨made, same, ready⟩ := agrees
      cases same
      exact ready.receivedFd

theorem closeAll_fields (fds : List Fd) (rt : Runtime) :
    (fds.foldl Runtime.close rt).limits = rt.limits ∧
      (fds.foldl Runtime.close rt).ring.kernel.closed = rt.ring.kernel.closed ++ fds := by
  induction fds generalizing rt with
  | nil => exact ⟨rfl, (List.append_nil _).symm⟩
  | cons fd fds ih =>
      obtain ⟨limits, closed⟩ := ih (rt.close fd)
      refine ⟨limits, closed.trans ?_⟩
      exact List.append_assoc ..

/-- Reading moves descriptors from the socket to the client. -/
theorem readClientInput_balanced {incoming : List RecvOutcome} {gain : List Fd}
    (client : index < rt.limits.maxClients)
    (passes : Passes (rt.clients index).receivedFd
      (readClientInput (rt.clients index) incoming).client.receivedFd
      (readClientInput (rt.clients index) incoming).closedFds gain) :
    Balanced rt ((readClientInput (rt.clients index) incoming).closedFds.foldl Runtime.close
      (rt.setClient index (readClientInput (rt.clients index) incoming).client)) gain := by
  obtain ⟨input, length, held, same⟩ := readClientInput_client (rt.clients index) incoming
  obtain ⟨limits, closed⟩ := closeAll_fields (readClientInput (rt.clients index) incoming).closedFds
    (rt.setClient index (readClientInput (rt.clients index) incoming).client)
  refine balanced_of_client client limits ?_ ?_
  · rw [closeAll_clients, Runtime.clients_setClient]
    rfl
  · intro fd valid
    have passed := passes fd valid
    rw [closeAll_clients, Runtime.clients_setClient, closed, List.count_append]
    have weight : (readClientInput (rt.clients index) incoming).client.weight fd =
        (if (rt.clients index).fd = fd then 1 else 0) +
          ((if (readClientInput (rt.clients index) incoming).client.receivedFd = fd then 1 else 0) +
          Nat.count (fun slot => ((rt.clients index).fileResources slot).daemonFd = fd)
            maxRegisteredFds) := by
      rw [same]
      rfl
    rw [weight]
    unfold Client.weight Client.holds
    change _ + (List.count fd rt.ring.kernel.closed + _) = _
    omega

/-- Answering a handshake moves nothing. -/
theorem queueHandshakeResult_balanced {request : HandshakeRequest}
    (client : index < rt.limits.maxClients)
    (queued : queueHandshakeResult rt index request = .ok next) : Balanced rt next [] := by
  unfold queueHandshakeResult at queued
  obtain ⟨answered, taken, done⟩ := bind_ok queued
  cases done
  have phase : Balanced rt (rt.setClient index (if handshakeRefused request then
      { rt.clients index with closeAfterFlush := true }
      else { rt.clients index with phase := .submit })) [] := by
    refine balanced_setClient client fun fd _ => ?_
    split <;> exact weight_congr fd rfl rfl fun _ _ => Iff.rfl
  have answer := phase.then (queue_balanced client taken)
  refine answer.then (balanced_setClient ?_ fun fd _ => ?_)
  · rw [answer.limits]
    exact client
  · exact weight_congr fd rfl rfl fun _ _ => Iff.rfl

theorem serviceLoop_balanced {fuel : Nat} {progress outcome : Bool}
    {incoming rest : List RecvOutcome} (client : index < rt.limits.maxClients)
    (within : (rt.clients index).ioBytesMax ≤ maxIoBytes)
    (serviced : serviceLoop index fuel rt progress incoming = .ok (next, outcome, rest)) :
    ∃ consumed gain, arrivals incoming = consumed ++ arrivals rest ∧
      Gains (rt.clients index).receivedFd consumed gain ∧ Balanced rt next gain := by
  induction fuel generalizing rt progress incoming with
  | zero =>
      cases serviced
      exact ⟨[], [], rfl, .nil _, .refl _⟩
  | succ fuel ih =>
      unfold serviceLoop at serviced
      split at serviced
      · cases serviced
        exact ⟨[], [], rfl, .nil _, .refl _⟩
      · dsimp only at serviced
        obtain ⟨consumed, gain, takes⟩ := readClientInput_takes (rt.clients index) incoming
        have balanced := readClientInput_balanced client takes.passes
        have erased := readClientInput_erase (rt.clients index) incoming
        have entry : ((readClientInput (rt.clients index) incoming).closedFds.foldl Runtime.close
            (rt.setClient index (readClientInput (rt.clients index) incoming).client)).clients
              index = (readClientInput (rt.clients index) incoming).client := by
          rw [closeAll_clients, Runtime.clients_setClient]
        generalize (readClientInput (rt.clients index) incoming).closedFds.foldl Runtime.close
          (rt.setClient index (readClientInput (rt.clients index) incoming).client) = middle
          at serviced balanced entry
        generalize readClientInput (rt.clients index) incoming = result
          at serviced takes erased entry
        have still : index < middle.limits.maxClients := by
          rw [balanced.limits]
          exact client
        split at serviced
        · cases serviced
          exact ⟨consumed, gain, takes.split, takes.gains,
            balanced.then (closeClient_balanced still)⟩
        · cases serviced
          exact ⟨consumed, gain, takes.split, takes.gains,
            balanced.then (closeClient_balanced still)⟩
        · cases serviced
          exact ⟨consumed, gain, takes.split, takes.gains, balanced⟩
        · split at serviced
          · obtain ⟨answered, taken, done⟩ := bind_ok serviced
            cases done
            exact ⟨consumed, gain, takes.split, takes.gains,
              balanced.then (queueHandshakeResult_balanced still taken)⟩
          · split at serviced
            · cases serviced
              exact ⟨consumed, gain, takes.split, takes.gains,
                balanced.then (closeClient_balanced still)⟩
            · rename_i decoded processed
              have fits : result.client.ioBytesMax ≤ maxIoBytes := by
                change result.client.eraseDecoder.ioBytesMax ≤ maxIoBytes
                rw [erased]
                exact within
              have held := processSubmitInput_receivedFd fits processed
              have kept := processSubmitInput_erase processed
              have set : Balanced middle (middle.setClient index decoded) [] := by
                refine balanced_setClient still fun fd _ => ?_
                rw [entry]
                refine weight_congr fd (congrArg Client.fd kept : _) held ?_
                intro slot _
                have files : decoded.fileResources = result.client.fileResources :=
                  (congrArg Client.fileResources kept : _)
                rw [files]
              split at serviced
              · cases serviced
                exact ⟨consumed, gain, takes.split, takes.gains, balanced.then set⟩
              · have wide : ((middle.setClient index decoded).clients index).ioBytesMax ≤
                    maxIoBytes := by
                  rw [Runtime.clients_setClient]
                  change decoded.eraseDecoder.ioBytesMax ≤ maxIoBytes
                  rw [kept]
                  exact fits
                obtain ⟨later, more, split, gains, rest⟩ :=
                  @ih (middle.setClient index decoded) _ _ still wide serviced
                rw [Runtime.clients_setClient, held] at gains
                refine ⟨consumed ++ later, gain ++ more, ?_, ?_, (balanced.then set).trans rest⟩
                · rw [takes.split, split, List.append_assoc]
                · exact takes.gains.append takes.untouched gains

end Servicing

end Iouringd
