import Iouringd.Foundation.Transition
import Iouringd.Daemon.Decoding

/-! # What reading a client can do

`iouringd_service_client_readable` fills the request fields of one client, answers a
handshake, or closes the client. `eraseDecoder` forgets the request fields, so that
"reading changes nothing else" is one equation.
-/

namespace Iouringd

open Foundation

/-- The client without the fields that reading and decoding fill. -/
def Client.eraseDecoder (client : Client) : Client :=
  { client with
    requestReady := false
    receivedFd := -1
    expectedInput := 0
    inputLen := 0
    input := .zero
    request := .zero
    controlOp := none
    timeoutNsec := 0
    cancelTargetId := taskIdInvalid
    resourceId := resourceIdInvalid
    bufferResourceId := resourceIdInvalid
    openFlags := 0
    closeFd := -1
    openMode := 0
    ioLength := 0
    traceAfterSequence := 0
    traceMaxEvents := 0
    pollMask := 0
    ioPayload := .zero }

/-- The control messages of a segment at most set the received descriptor. -/
theorem receiveControl_client (client : Client) (control : List ControlMessage) :
    ∃ fd, (receiveControl client control).1 = { client with receivedFd := fd } := by
  induction control generalizing client with
  | nil => exact ⟨client.receivedFd, rfl⟩
  | cons message rest ih =>
      unfold receiveControl
      split
      · rename_i fd _
        split
        · exact ⟨client.receivedFd, rfl⟩
        · split
          · exact ⟨client.receivedFd, rfl⟩
          · obtain ⟨last, same⟩ := ih { client with receivedFd := fd }
            exact ⟨last, same⟩
      · exact ⟨client.receivedFd, rfl⟩

/-- Reading fills the input buffer and the received descriptor. -/
theorem readClientInput_client (client : Client) (incoming : List RecvOutcome) :
    ∃ input length fd, (readClientInput client incoming).client =
      { client with input := input, inputLen := length, receivedFd := fd } := by
  induction incoming generalizing client with
  | nil =>
      unfold readClientInput
      split <;> exact ⟨client.input, client.inputLen, client.receivedFd, rfl⟩
  | cons outcome rest ih =>
      unfold readClientInput
      split
      · cases outcome with
        | data bytes control truncated =>
            dsimp only
            split
            · exact ih client
            · split
              · exact ⟨_, client.inputLen, client.receivedFd, rfl⟩
              · generalize client.input.write client.inputLen
                  (bytes.take (client.expectedInput - client.inputLen)) = input
                have received := receiveControl_client { client with input } control
                split
                · rename_i stopped closed outcome
                  rw [outcome] at received
                  obtain ⟨fd, same⟩ := received
                  dsimp only at same ⊢
                  subst same
                  exact ⟨_, client.inputLen, fd, rfl⟩
                · rename_i kept closed outcome
                  rw [outcome] at received
                  obtain ⟨fd, same⟩ := received
                  dsimp only at same ⊢
                  subst same
                  split
                  · obtain ⟨buffer, length, last, shape⟩ := ih _
                    exact ⟨buffer, length, last, shape⟩
                  · exact ⟨_, _, fd, rfl⟩
        | eof =>
            dsimp only
            split <;> exact ⟨client.input, client.inputLen, client.receivedFd, rfl⟩
        | again => exact ⟨client.input, client.inputLen, client.receivedFd, rfl⟩
        | interrupted => exact ih client
        | failed errno => exact ⟨client.input, client.inputLen, client.receivedFd, rfl⟩
      · exact ⟨client.input, client.inputLen, client.receivedFd, rfl⟩

/-- Reading leaves all but the request fields. -/
theorem readClientInput_erase (client : Client) (incoming : List RecvOutcome) :
    (readClientInput client incoming).client.eraseDecoder = client.eraseDecoder := by
  obtain ⟨input, length, fd, same⟩ := readClientInput_client client incoming
  rw [same]
  rfl

/-! ## Decoding -/

/-- Finishing a request without a payload changes the decoder only. -/
theorem finishIo_erase (client : Client) :
    (finishIo client).eraseDecoder = client.eraseDecoder := by
  simp only [finishIo, Client.makeReady, Client.resetInput, Client.eraseDecoder]

/-- Finishing one of fixed size changes the decoder only. -/
theorem finishFixed_erase (client : Client) :
    (finishFixed client).eraseDecoder = client.eraseDecoder := by
  simp only [finishFixed, Client.makeReady, Client.resetInput, Client.eraseDecoder]

/-- Copying a payload changes the decoder only. -/
theorem copyPayload_erase (client : Client) (fixed : Nat) (length : UInt32) :
    (client.copyPayload fixed length).eraseDecoder = client.eraseDecoder := by
  simp only [Client.copyPayload, Client.eraseDecoder]

/-- Finishing a request with a payload changes the decoder only. -/
theorem finishIoWithPayload_erase {client next : Client}
    (finished : finishIoWithPayload client = .ok next) :
    next.eraseDecoder = client.eraseDecoder := by
  unfold finishIoWithPayload at finished
  dsimp only at finished
  split at finished
  · cases finished
  · cases finished
    rw [finishIo_erase, copyPayload_erase]

/-- Finishing an OPENAT changes the decoder only. -/
theorem finishOpenat_erase {client next : Client} (finished : finishOpenat client = .ok next) :
    next.eraseDecoder = client.eraseDecoder := by
  unfold finishOpenat at finished
  dsimp only at finished
  split at finished
  · cases finished
  · split at finished
    · cases finished
    · cases finished
      simp only [Client.copyPayload, Client.makeReady, Client.resetInput, Client.eraseDecoder]

/-- Finishing a buffer registration changes the decoder only. -/
theorem finishRegisterBuffer_erase {client next : Client}
    (finished : finishRegisterBuffer client = .ok next) :
    next.eraseDecoder = client.eraseDecoder := by
  unfold finishRegisterBuffer at finished
  dsimp only at finished
  split at finished
  · cases finished
  · cases finished
    split <;>
      simp only [Client.copyPayload, Client.makeReady, Client.resetInput, Client.eraseDecoder]

/-- Finishing any request changes the decoder only. -/
theorem finishSubmitRequest_erase {client next : Client}
    (finished : finishSubmitRequest client = .ok next) :
    next.eraseDecoder = client.eraseDecoder := by
  unfold finishSubmitRequest at finished
  split at finished
  · cases finished
  · split at finished
    · cases finished
    · split at finished
      · cases finished
      · cases kind : client.request.taskKind with
        | sockWrite | fileWrite =>
            simp only [kind] at finished
            exact finishIoWithPayload_erase finished
        | connect =>
            simp only [kind] at finished
            obtain ⟨middle, first, done⟩ := bind_ok finished
            cases done
            rw [← finishIoWithPayload_erase first]
            simp only [Client.eraseDecoder]
        | openat =>
            simp only [kind] at finished
            exact finishOpenat_erase finished
        | registerBuffer =>
            simp only [kind] at finished
            exact finishRegisterBuffer_erase finished
        | sockRead | fileRead =>
            simp only [kind] at finished
            cases finished
            exact finishIo_erase client
        | accept =>
            simp only [kind] at finished
            cases finished
            rw [← finishIo_erase client]
            simp only [Client.eraseDecoder]
        | sockReadFixed | sockWriteFixed =>
            simp only [kind] at finished
            cases finished
            exact finishFixed_erase client
        | unknown raw =>
            simp only [kind] at finished
            cases finished
        | _ =>
            simp only [kind] at finished
            cases finished
            simp only [Client.makeReady, Client.resetInput, Client.eraseDecoder]

/-- Waiting for the fixed part changes the decoder only. -/
theorem awaitFixed_erase {size : Nat} {proceed : Client → Except Errno Client}
    {client next : Client}
    (proceeds : ∀ client next, proceed client = .ok next →
      next.eraseDecoder = client.eraseDecoder)
    (awaited : awaitFixed size proceed client = .ok next) :
    next.eraseDecoder = client.eraseDecoder := by
  unfold awaitFixed at awaited
  dsimp only at awaited
  split at awaited
  · cases awaited
    simp only [Client.eraseDecoder]
  · rw [proceeds _ next awaited]
    simp only [Client.eraseDecoder]

/-- Waiting for the payload changes the decoder only. -/
theorem awaitPayload_erase {total : Nat} {client next : Client}
    (awaited : awaitPayload total client = .ok next) :
    next.eraseDecoder = client.eraseDecoder := by
  unfold awaitPayload at awaited
  dsimp only at awaited
  split at awaited
  · cases awaited
  · split at awaited
    · cases awaited
      simp only [Client.eraseDecoder]
    · rw [finishSubmitRequest_erase awaited]
      simp only [Client.eraseDecoder]

/-- Decoding leaves all but the request fields. -/
theorem processSubmitInput_erase {client next : Client}
    (processed : processSubmitInput client = .ok next) :
    next.eraseDecoder = client.eraseDecoder := by
  have finishes : ∀ client next, finishSubmitRequest client = .ok next →
      next.eraseDecoder = client.eraseDecoder := fun _ _ => finishSubmitRequest_erase
  unfold processSubmitInput at processed
  split at processed
  · cases processed
    simp only [Client.eraseDecoder]
  · dsimp only at processed
    split at processed
    · cases processed
    · have keeps : ({ client with
          request := SubmitRequest.decode (client.fixedPart SubmitRequest.size) } :
            Client).eraseDecoder = client.eraseDecoder := by
        simp only [Client.eraseDecoder]
      rw [← keeps]
      cases kind : (SubmitRequest.decode (client.fixedPart SubmitRequest.size)).taskKind with
      | nop | registerFd | unknown _ =>
          simp only [kind] at processed
          exact finishSubmitRequest_erase processed
      | timeout | cancel | sockRead | fileRead | sockReadFixed | sockWriteFixed | releaseResource
      | getStats =>
          simp only [kind] at processed
          exact awaitFixed_erase finishes processed
      | poll | accept | close | getTrace =>
          simp only [kind] at processed
          refine awaitFixed_erase ?_ processed
          intro reached final proceeded
          split at proceeded
          · cases proceeded
          · exact finishSubmitRequest_erase proceeded
      | connect | openat | registerBuffer | sockWrite | fileWrite =>
          simp only [kind] at processed
          refine awaitFixed_erase ?_ processed
          intro reached final proceeded
          split at proceeded
          · cases proceeded
          · exact awaitPayload_erase proceeded

/-! ## Servicing -/

/-- Only one client and the list of closed descriptors may differ. -/
structure OnlyClient (rt : Runtime) (index : Nat) (next : Runtime) : Prop where
  frame : next = { rt with
    ring := next.ring
    clients := Function.update rt.clients index (next.clients index) }
  ring : next.ring = { rt.ring with kernel := { rt.ring.kernel with
    closed := next.ring.kernel.closed } }

namespace OnlyClient

variable {rt middle next : Runtime} {index : Nat}

/-- Nothing changed. -/
theorem refl (rt : Runtime) (index : Nat) : OnlyClient rt index rt :=
  ⟨by simp only [Function.update_eq_self], rfl⟩

/-- Two changes of one client are a change of that client. -/
theorem trans (first : OnlyClient rt index middle) (second : OnlyClient middle index next) :
    OnlyClient rt index next := by
  refine ⟨?_, ?_⟩
  · conv_lhs => rw [second.frame]
    conv_lhs => rw [first.frame]
    simp only [Function.update_idem]
  · conv_lhs => rw [second.ring]
    conv_lhs => rw [first.ring]

/-- A client is set. -/
theorem setClient (client : Client) : OnlyClient rt index (rt.setClient index client) :=
  ⟨by simp only [Runtime.setClient, Function.update_self], rfl⟩

/-- Closing a descriptor touches no client. -/
theorem close (fd : Fd) : OnlyClient rt index (rt.close fd) :=
  ⟨by simp only [Runtime.close, Function.update_eq_self], rfl⟩

/-- Closing many descriptors changes no other client. -/
theorem closeAll (fds : List Fd) (rt : Runtime) :
    OnlyClient rt index (fds.foldl Runtime.close rt) := by
  induction fds generalizing rt with
  | nil => exact refl rt index
  | cons fd fds ih => exact trans (close fd) (ih (rt.close fd))

/-- Closing a descriptor, if there is one, changes no other client. -/
theorem closeIf (fd : Fd) : OnlyClient rt index (if 0 ≤ fd then rt.close fd else rt) := by
  split
  · exact close fd
  · exact refl rt index

/-- A connection is closed. -/
theorem closeClient : OnlyClient rt index (closeClient rt index) :=
  trans (closeIf _) (trans (closeIf _) (setClient _))

/-- Bytes are queued on a client. -/
theorem queue {bytes : List UInt8} (queued : rt.queue index bytes = .ok next) :
    OnlyClient rt index next := by
  cases Runtime.queue_ok queued
  exact setClient _

end OnlyClient

/-- Closing descriptors leaves the clients. -/
theorem closeAll_clients (fds : List Fd) (rt : Runtime) :
    (fds.foldl Runtime.close rt).clients = rt.clients := by
  induction fds generalizing rt with
  | nil => rfl
  | cons fd fds ih => exact ih (rt.close fd)

/-- A closed client is not active. -/
theorem closedClient_inactive (last : Client) : (closedClient last).isActive = false := by
  change decide (0 ≤ if 0 ≤ last.fd then -1 else last.fd) = false
  rw [decide_eq_false_iff_not]
  split
  · decide
  · assumption

/-- What closing leaves of the client. -/
theorem closeClient_client (rt : Runtime) (index : Nat) :
    (closeClient rt index).clients index = closedClient (rt.clients index) :=
  Runtime.clients_setClient ..

/-- A request the decoder makes ready is grammatical. -/
theorem processSubmitInput_grammatical {client next : Client}
    (within : client.ioBytesMax ≤ maxIoBytes) (notReady : client.requestReady = false)
    (ready : next.requestReady = true) (processed : processSubmitInput client = .ok next) :
    Grammatical next := by
  have agrees := processSubmitInput_agrees within
  have ioBytesMax : next.ioBytesMax = client.ioBytesMax := by
    change next.eraseDecoder.ioBytesMax = client.eraseDecoder.ioBytesMax
    rw [processSubmitInput_erase processed]
  unfold Agrees at agrees
  rw [processed] at agrees
  split at agrees
  · obtain ⟨request, same⟩ := agrees
    cases same
    rw [notReady] at ready
    cases ready
  · obtain ⟨errno, failed⟩ := agrees
    cases failed
  · rename_i request rest parsed
    split at agrees
    · obtain ⟨errno, failed⟩ := agrees
      cases failed
    · rename_i notStray
      obtain ⟨made, same, finished⟩ := agrees
      cases same
      have kind : next.request.taskKind = request.kind := congrArg Request.kind finished.decoded
      refine ⟨?_, ⟨client.received, rest, ?_⟩, ?_⟩
      · rw [kind]
        exact finished.controlOp
      · rw [ioBytesMax, finished.decoded]
        exact parsed
      · intro other
        rw [finished.receivedFd]
        simp only [Client.strayDescriptor, Bool.and_eq_true, decide_eq_true_eq, not_and,
          Int32.not_le] at notStray
        exact notStray (kind ▸ other)

/-- What one call of `iouringd_service_client_readable` makes of a client. -/
inductive Served (client : Client) : Client → Prop where
  | reading (next : Client) (same : next.eraseDecoder = client.eraseDecoder)
      (busy : client.requestReady = true → next = client)
      (ready : next.requestReady = true → (client.requestReady = true ∧ next = client) ∨
        (client.phase = .submit ∧ (client.ioBytesMax ≤ maxIoBytes → Grammatical next))) :
      Served client next
  | greeted (result : HandshakeResult) (next : Client) (phase : client.phase = .handshake)
      (ready : next.requestReady = false)
      (answer : (result.status = handshakeAccept ∧ next.eraseDecoder =
          { (client.appendOutput result.encode).eraseDecoder with phase := .submit }) ∨
        (result.status = handshakeReject ∧ next.eraseDecoder =
          { (client.appendOutput result.encode).eraseDecoder with closeAfterFlush := true })) :
      Served client next
  | closed (last : Client) (same : last.eraseDecoder = client.eraseDecoder) :
      Served client (closedClient last)

/-- A handshake is answered, and the answer decides what follows. -/
theorem queueHandshakeResult_served {rt next : Runtime} {index : Nat}
    {request : HandshakeRequest} {client : Client}
    (same : (rt.clients index).eraseDecoder = client.eraseDecoder)
    (phase : client.phase = .handshake) (ready : (rt.clients index).requestReady = false)
    (queued : queueHandshakeResult rt index request = .ok next) :
    OnlyClient rt index next ∧ Served client (next.clients index) := by
  unfold queueHandshakeResult at queued
  obtain ⟨answered, taken, done⟩ := bind_ok queued
  cases done
  refine ⟨(OnlyClient.setClient _).trans ((OnlyClient.queue taken).trans
    (OnlyClient.setClient _)), ?_⟩
  rw [Runtime.clients_setClient, Runtime.queue_ok taken, Runtime.clients_setClient,
    Runtime.clients_setClient]
  have unsent : (rt.clients index).pendingOutput = client.pendingOutput := by
    change (rt.clients index).eraseDecoder.pendingOutput = client.eraseDecoder.pendingOutput
    rw [same]
  refine .greeted (handshakeResult rt (handshakeRefused request)) _ phase ?_ ?_
  · split <;> exact ready
  · have erased : ∀ bytes, ((rt.clients index).appendOutput bytes).eraseDecoder =
        (client.appendOutput bytes).eraseDecoder := by
      intro bytes
      have split : ∀ base : Client, (base.appendOutput bytes).eraseDecoder =
          { base.eraseDecoder with
            output := base.pendingOutput ++ bytes
            outputSent := 0 } := fun _ => rfl
      rw [split, split, same, unsent]
    by_cases refused : handshakeRefused request = true
    · refine Or.inr ⟨?_, ?_⟩
      · simp only [handshakeResult, refused, ↓reduceIte]
      · rw [← erased]
        simp only [refused, ↓reduceIte]
        rfl
    · refine Or.inl ⟨?_, ?_⟩
      · simp only [handshakeResult, refused, Bool.false_eq_true, ↓reduceIte]
      · rw [← erased]
        simp only [refused, Bool.false_eq_true, ↓reduceIte]
        rfl

/-- Turns before the last only read. -/
theorem Served.of_same {client middle next : Client}
    (same : middle.eraseDecoder = client.eraseDecoder) (idle : client.requestReady = false)
    (notReady : middle.requestReady = false) (served : Served middle next) :
    Served client next := by
  have phase : middle.phase = client.phase := by
    change middle.eraseDecoder.phase = client.eraseDecoder.phase
    rw [same]
  cases served with
  | reading next kept busy ready =>
      refine .reading next (kept.trans same) ?_ ?_
      · rw [idle]
        exact nofun
      · intro set
        rcases ready set with ⟨before, -⟩ | ⟨submit, decoded⟩
        · rw [notReady] at before
          cases before
        · have ioBytesMax : middle.ioBytesMax = client.ioBytesMax := by
            change middle.eraseDecoder.ioBytesMax = client.eraseDecoder.ioBytesMax
            rw [same]
          exact Or.inr ⟨phase ▸ submit, ioBytesMax ▸ decoded⟩
  | greeted result next handshake ready answer =>
      have erased : (middle.appendOutput result.encode).eraseDecoder =
          (client.appendOutput result.encode).eraseDecoder := by
        have split : ∀ base : Client, (base.appendOutput result.encode).eraseDecoder =
            { base.eraseDecoder with
              output := base.eraseDecoder.pendingOutput ++ result.encode
              outputSent := 0 } := fun _ => rfl
        rw [split, split, same]
      rw [erased] at answer
      exact .greeted result next (phase ▸ handshake) ready answer
  | closed last kept => exact .closed last (kept.trans same)

/-- Every pass of the loop over what a socket holds changes the client as reading does. -/
theorem serviceLoop_served {rt next : Runtime} {index fuel : Nat} {progress outcome : Bool}
    {incoming rest : List RecvOutcome}
    (serviced : serviceLoop index fuel rt progress incoming = .ok (next, outcome, rest)) :
    OnlyClient rt index next ∧ Served (rt.clients index) (next.clients index) := by
  induction fuel generalizing rt progress incoming with
  | zero =>
      cases serviced
      exact ⟨OnlyClient.refl _ _, .reading _ rfl (fun _ => rfl) fun set => Or.inl ⟨set, rfl⟩⟩
  | succ fuel ih =>
      unfold serviceLoop at serviced
      split at serviced
      · cases serviced
        exact ⟨OnlyClient.refl _ _, .reading _ rfl (fun _ => rfl) fun set => Or.inl ⟨set, rfl⟩⟩
      · rename_i open'
        rw [Bool.or_eq_true, not_or, Bool.not_eq_true (Client.requestReady _)] at open'
        dsimp only at serviced
        have idle : (rt.clients index).requestReady = true → ∀ next, next = rt.clients index := by
          rw [open'.2]
          exact nofun
        have erased := readClientInput_erase (rt.clients index) incoming
        have notReady : (readClientInput (rt.clients index) incoming).client.requestReady =
            false := by
          obtain ⟨input, length, fd, same⟩ := readClientInput_client (rt.clients index) incoming
          rw [same]
          exact open'.2
        have read : OnlyClient rt index
            ((readClientInput (rt.clients index) incoming).closedFds.foldl Runtime.close
              (rt.setClient index (readClientInput (rt.clients index) incoming).client)) :=
          (OnlyClient.setClient _).trans (OnlyClient.closeAll _ _)
        have client : ((readClientInput (rt.clients index) incoming).closedFds.foldl Runtime.close
            (rt.setClient index (readClientInput (rt.clients index) incoming).client)).clients
              index = (readClientInput (rt.clients index) incoming).client := by
          rw [closeAll_clients, Runtime.clients_setClient]
        generalize (readClientInput (rt.clients index) incoming).closedFds.foldl Runtime.close
          (rt.setClient index (readClientInput (rt.clients index) incoming).client) = middle
          at serviced read client
        generalize readClientInput (rt.clients index) incoming = result
          at serviced erased notReady client
        split at serviced
        · cases serviced
          refine ⟨read.trans OnlyClient.closeClient, ?_⟩
          rw [closeClient_client, client]
          exact .closed _ erased
        · cases serviced
          refine ⟨read.trans OnlyClient.closeClient, ?_⟩
          rw [closeClient_client, client]
          exact .closed _ erased
        · cases serviced
          refine ⟨read, ?_⟩
          rw [client]
          refine .reading _ erased (fun set => idle set _) ?_
          rw [notReady]
          exact fun set => absurd set Bool.false_ne_true
        · split at serviced
          · rename_i phase
            obtain ⟨answered, taken, done⟩ := bind_ok serviced
            cases done
            have handshake : (rt.clients index).phase = .handshake := by
              rw [← phase]
              change (rt.clients index).eraseDecoder.phase = result.client.eraseDecoder.phase
              rw [erased]
            obtain ⟨only, served⟩ := queueHandshakeResult_served (client ▸ erased) handshake
              (client ▸ notReady) taken
            exact ⟨read.trans only, served⟩
          · rename_i phase
            have submit : (rt.clients index).phase = .submit := by
              rw [← phase]
              change (rt.clients index).eraseDecoder.phase = result.client.eraseDecoder.phase
              rw [erased]
            split at serviced
            · cases serviced
              refine ⟨read.trans OnlyClient.closeClient, ?_⟩
              rw [closeClient_client, client]
              exact .closed _ erased
            · rename_i decoded processed
              have kept := (processSubmitInput_erase processed).trans erased
              split at serviced
              · rename_i ready
                cases serviced
                refine ⟨read.trans (OnlyClient.setClient _), ?_⟩
                rw [Runtime.clients_setClient]
                have ioBytesMax : result.client.ioBytesMax = (rt.clients index).ioBytesMax := by
                  change result.client.eraseDecoder.ioBytesMax =
                    (rt.clients index).eraseDecoder.ioBytesMax
                  rw [erased]
                exact .reading _ kept (fun set => idle set _) fun _ => Or.inr ⟨submit, fun within =>
                  processSubmitInput_grammatical (ioBytesMax ▸ within) notReady ready processed⟩
              · rename_i waiting
                obtain ⟨only, served⟩ := ih serviced
                refine ⟨(read.trans (OnlyClient.setClient _)).trans only, ?_⟩
                rw [Runtime.clients_setClient] at served
                exact served.of_same kept open'.2 ((Bool.not_eq_true _).mp waiting)

/-- One call reads, greets or closes the client, and touches nothing else. -/
theorem serviceClientReadable_served {rt next : Runtime} {index : Nat} {outcome : Bool}
    {incoming rest : List RecvOutcome}
    (serviced : serviceClientReadable rt index incoming = .ok (next, outcome, rest)) :
    OnlyClient rt index next ∧ Served (rt.clients index) (next.clients index) :=
  serviceLoop_served serviced

end Iouringd
