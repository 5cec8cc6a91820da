import Iouringd.Daemon.InputEffects

/-! # Reading a stream of requests

`iouringd_service_client_readable` reads a socket piece by piece and looks at the message in
its buffer again after every piece. Here the pieces are put together: what one call takes
from the socket is read as the grammar reads it behind everything that was taken before,
whatever the pieces are.
-/

namespace Iouringd

open Foundation

/-- The message that starts here is a REGISTER_FD request, as far as can be seen. -/
def startsRegister (stream : List UInt8) : Prop :=
  SubmitRequest.size ≤ stream.length → (frontHeader stream).taskKind = .registerFd

/-- What the socket of a peer holds behind `heard`: bytes, cut anywhere, with gaps between
them. A descriptor comes with the first byte of a REGISTER_FD request and nowhere else. -/
structure Proper (limit : Nat) (heard : List UInt8) (socket : List RecvOutcome) : Prop where
  alive : ∀ outcome ∈ socket, outcome ≠ .eof ∧ ∀ errno, outcome ≠ .failed errno
  segments : ∀ before bytes control truncated after,
    socket = before ++ .data bytes control truncated :: after → truncated = false ∧
      (control = [] ∨ ∃ fd, 0 ≤ fd ∧ control = [⟨true, [fd]⟩] ∧ bytes ≠ [] ∧
        ((requestFraming limit).read (heard ++ incomingBytes before)).rest = [] ∧
        startsRegister (bytes ++ incomingBytes after))

section Sockets

variable {limit : Nat} {heard : List UInt8} {outcome : RecvOutcome} {socket : List RecvOutcome}

theorem incomingBytes_cons :
    incomingBytes (outcome :: socket) = outcome.bytes ++ incomingBytes socket :=
  List.flatMap_cons

/-- Behind the first piece. -/
theorem Proper.tail (proper : Proper limit heard (outcome :: socket)) :
    Proper limit (heard ++ outcome.bytes) socket := by
  refine ⟨fun other member => proper.alive other (List.mem_cons_of_mem outcome member), ?_⟩
  intro before bytes control truncated after same
  have whole := proper.segments (outcome :: before) bytes control truncated after (by
    rw [same, List.cons_append])
  rw [incomingBytes_cons, ← List.append_assoc] at whole
  exact whole

/-- A piece that is taken in part leaves its bytes without the control messages. -/
theorem Proper.leftover {bytes : List UInt8} {control : List ControlMessage} {truncated : Bool}
    (proper : Proper limit heard (.data bytes control truncated :: socket)) (count : Nat) :
    Proper limit (heard ++ bytes.take count) (.data (bytes.drop count) [] false :: socket) := by
  constructor
  · intro other member
    rcases List.mem_cons.mp member with same | later
    · subst same
      exact ⟨nofun, nofun⟩
    · exact proper.alive other (List.mem_cons_of_mem _ later)
  · intro before piece messages cut after same
    cases before with
    | nil =>
        cases same
        exact ⟨rfl, Or.inl rfl⟩
    | cons first others =>
        cases same
        have whole := proper.segments (.data bytes control truncated :: others) piece messages cut
          after rfl
        have taken : heard ++ bytes.take count ++
            incomingBytes (.data (bytes.drop count) [] false :: others) =
              heard ++ incomingBytes (.data bytes control truncated :: others) := by
          rw [incomingBytes_cons, incomingBytes_cons]
          change heard ++ bytes.take count ++ (bytes.drop count ++ incomingBytes others) =
            heard ++ (bytes ++ incomingBytes others)
          rw [List.append_assoc, ← List.append_assoc (bytes.take count), List.take_append_drop]
        rw [taken]
        exact whole

/-- The bytes in the buffer after a piece. -/
theorem received_write (client : Client) (chunk : List UInt8) (fd : Fd) :
    ({ client with
      input := client.input.write client.inputLen chunk
      inputLen := client.inputLen + chunk.length
      receivedFd := fd } : Client).received = client.received ++ chunk :=
  Memory.read_write_append client.input client.inputLen chunk

end Sockets

/-- The connection waits for the rest of a message. `heard` is what was read from it since
the handshake and `requests` what that amounts to. -/
structure Listens (limit : Nat) (heard : List UInt8) (requests : List Request)
    (client : Client) : Prop where
  ioBytesMax : client.ioBytesMax = limit
  reading : (requestFraming limit).read heard = ⟨requests, client.received, false⟩
  expected : parseRequest limit client.received = .incomplete client.expectedInput

/-- A descriptor is held for the REGISTER_FD request whose bytes are coming in. -/
def Bound (client : Client) (socket : List RecvOutcome) : Prop :=
  0 ≤ client.receivedFd →
    client.received ≠ [] ∧ startsRegister (client.received ++ incomingBytes socket)

section Reading

variable {limit : Nat} {heard : List UInt8} {requests : List Request} {client : Client}
  {socket : List RecvOutcome}

theorem Listens.short (listens : Listens limit heard requests client) :
    client.inputLen < client.expectedInput := by
  rw [← client.length_received]
  exact (requestFraming limit).needed_gt listens.expected

/-- A piece that does not complete what is waited for. -/
theorem Listens.grow {chunk : List UInt8} {next : Client}
    (listens : Listens limit heard requests client)
    (ioBytesMax : next.ioBytesMax = client.ioBytesMax)
    (received : next.received = client.received ++ chunk)
    (expected : next.expectedInput = client.expectedInput)
    (short : next.inputLen < next.expectedInput) :
    Listens limit (heard ++ chunk) requests next := by
  have length : (client.received ++ chunk).length < client.expectedInput := by
    rw [← received, next.length_received, ← expected]
    exact short
  have still : parseRequest limit (client.received ++ chunk) = .incomplete client.expectedInput :=
    (requestFraming limit).incomplete_append chunk listens.expected length
  refine ⟨ioBytesMax.trans listens.ioBytesMax, ?_, ?_⟩
  · rw [Framing.read_append, listens.reading, received]
    have rest : (requestFraming limit).read (client.received ++ chunk) =
        ⟨[], client.received ++ chunk, false⟩ := Framing.read_incomplete still
    simp only [Bool.false_eq_true, ↓reduceIte, rest, List.append_nil]
  · rw [received, expected]
    exact still

/-- What a read takes from the socket. -/
structure ReadsOn (limit : Nat) (heard : List UInt8) (client : Client)
    (socket : List RecvOutcome) (result : ReadResult) (taken : List UInt8) : Prop where
  split : incomingBytes socket = taken ++ incomingBytes result.rest
  received : result.client.received = client.received ++ taken
  same : ∃ input length fd, result.client = { client with
    input, inputLen := length, receivedFd := fd }
  bound : Bound result.client result.rest
  proper : Proper limit (heard ++ taken) result.rest
  closedFds : result.closedFds = []
  gaps : ∀ tail, .again :: tail <:+ result.rest → .again :: tail <:+ socket
  status : (result.status = .full ∧ result.client.inputLen = client.expectedInput) ∨
    (result.status = .again ∧ result.client.inputLen < client.expectedInput ∧
      (result.rest = [] ∨ .again :: result.rest <:+ socket))

/-- Reading on behind the first piece of the socket. -/
theorem ReadsOn.behind {outcome : RecvOutcome} {next : Client} {result : ReadResult}
    {chunk taken : List UInt8} (bytes : outcome.bytes = chunk)
    (received : next.received = client.received ++ chunk)
    (same : ∃ input length fd, next = { client with input, inputLen := length, receivedFd := fd })
    (reads : ReadsOn limit (heard ++ chunk) next socket result taken) :
    ReadsOn limit heard client (outcome :: socket) result (chunk ++ taken) := by
  obtain ⟨input, length, fd, entry⟩ := same
  have expected : next.expectedInput = client.expectedInput := by rw [entry]
  refine ⟨?_, ?_, ?_, reads.bound, ?_, reads.closedFds, ?_, ?_⟩
  · rw [incomingBytes_cons, bytes, reads.split, List.append_assoc]
  · rw [reads.received, received, List.append_assoc]
  · obtain ⟨input', length', fd', last⟩ := reads.same
    refine ⟨input', length', fd', ?_⟩
    rw [last, entry]
  · rw [← List.append_assoc]
    exact reads.proper
  · intro tail suffix
    exact (reads.gaps tail suffix).trans (List.suffix_cons outcome socket)
  · rw [← expected]
    rcases reads.status with full | ⟨again, short, gap⟩
    · exact Or.inl full
    · exact Or.inr ⟨again, short,
        gap.imp_right fun suffix => suffix.trans (List.suffix_cons outcome socket)⟩

/-- The descriptor of a proper piece is taken. -/
theorem receiveControl_proper {bytes : List UInt8} {control : List ControlMessage}
    {truncated : Bool} {base : Client} (listens : Listens limit heard requests client)
    (bound : Bound client (.data bytes control truncated :: socket))
    (proper : Proper limit heard (.data bytes control truncated :: socket))
    (held : base.receivedFd = client.receivedFd) :
    ∃ fd, receiveControl base control = ({ base with receivedFd := fd }, [], true) ∧
      (0 ≤ fd → startsRegister (client.received ++ (bytes ++ incomingBytes socket))) := by
  obtain ⟨-, nothing | ⟨fd, valid, message, -, boundary, register⟩⟩ :=
    proper.segments [] bytes control truncated socket rfl
  · subst nothing
    refine ⟨base.receivedFd, rfl, ?_⟩
    intro valid
    rw [held] at valid
    exact (bound valid).2
  · subst message
    have start : client.received = [] := by
      have rest : ((requestFraming limit).read heard).rest = client.received :=
        congrArg Reading.rest listens.reading
      rw [← rest]
      have whole : heard ++ incomingBytes [] = heard := List.append_nil heard
      rw [whole] at boundary
      exact boundary
    have free : ¬ 0 ≤ base.receivedFd := by
      rw [held]
      intro holds
      exact (bound holds).1 start
    refine ⟨fd, ?_, ?_⟩
    · unfold receiveControl
      simp only [Bool.not_true, Bool.false_eq_true, ↓reduceIte, free]
      rfl
    · intro _
      rw [start, List.nil_append]
      exact register

/-- A read takes the bytes that are waited for, or all there are before a gap. -/
theorem readClientInput_reads (within : client.inputLen ≤ client.expectedInput)
    (listens : client.inputLen < client.expectedInput → Listens limit heard requests client)
    (bound : Bound client socket) (proper : Proper limit heard socket) :
    ∃ taken, ReadsOn limit heard client socket (readClientInput client socket) taken := by
  have nothing : client.received = client.received ++ [] := (List.append_nil _).symm
  have unheard : heard ++ [] = heard := List.append_nil heard
  induction socket generalizing client heard with
  | nil =>
      refine ⟨[], ?_⟩
      unfold readClientInput
      split
      · rename_i short
        exact ⟨rfl, nothing, ⟨_, _, _, rfl⟩, bound, unheard.symm ▸ proper, rfl, fun _ => id,
          Or.inr ⟨rfl, short, Or.inl rfl⟩⟩
      · rename_i long
        exact ⟨rfl, nothing, ⟨_, _, _, rfl⟩, bound, unheard.symm ▸ proper, rfl, fun _ => id,
          Or.inl ⟨rfl, Nat.le_antisymm within (Nat.not_lt.mp long)⟩⟩
  | cons outcome rest ih =>
      unfold readClientInput
      split
      · rename_i short
        have listening := listens short
        -- a piece without bytes is passed over
        have pass : outcome.bytes = [] →
            ∃ taken, ReadsOn limit heard client (outcome :: rest) (readClientInput client rest)
              taken := by
          intro empty
          have behind := proper.tail
          rw [empty, unheard] at behind
          have sameBytes : incomingBytes (outcome :: rest) = incomingBytes rest := by
            rw [incomingBytes_cons, empty, List.nil_append]
          have bound' : Bound client rest := by
            unfold Bound at bound ⊢
            rw [← sameBytes]
            exact bound
          obtain ⟨taken, reads⟩ := ih within listens bound' behind nothing unheard
          refine ⟨[] ++ taken, ReadsOn.behind empty nothing ⟨_, _, _, rfl⟩ ?_⟩
          rw [unheard]
          exact reads
        cases outcome with
        | data bytes control truncated =>
            obtain ⟨whole, -⟩ := proper.segments [] bytes control truncated rest rfl
            subst whole
            dsimp only
            split
            · rename_i empty
              exact pass (List.isEmpty_iff.mp empty)
            · rename_i some
              generalize counted : client.expectedInput - client.inputLen = wanted
              generalize written : client.input.write client.inputLen (bytes.take wanted) = input
              obtain ⟨fd, received, register⟩ := @receiveControl_proper _ _ _ _ _ _ _ _
                { client with input } listening bound proper rfl
              simp only [Bool.false_eq_true, ↓reduceIte, received]
              have shown : ({ client with
                  input
                  inputLen := client.inputLen + (bytes.take wanted).length
                  receivedFd := fd } : Client).received = client.received ++ bytes.take wanted := by
                rw [← written]
                exact received_write client (bytes.take wanted) fd
              have length : (bytes.take wanted).length = min wanted bytes.length :=
                List.length_take
              have positive : bytes.length ≠ 0 := by
                intro zero
                exact some (List.isEmpty_iff.mpr (List.eq_nil_of_length_eq_zero zero))
              have bound' : ∀ rest', bytes.take wanted ++ incomingBytes rest' =
                  bytes ++ incomingBytes rest → Bound { client with
                    input
                    inputLen := client.inputLen + (bytes.take wanted).length
                    receivedFd := fd } rest' := by
                intro rest' whole valid
                rw [shown, List.append_assoc, whole]
                refine ⟨?_, register valid⟩
                intro empty
                have none := congrArg List.length (List.append_eq_nil_iff.mp empty).2
                rw [length, List.length_nil] at none
                omega
              split
              · rename_i all
                have chunk : bytes.take wanted = bytes := by
                  have joined := List.take_append_drop wanted bytes
                  rw [List.isEmpty_iff.mp all, List.append_nil] at joined
                  exact joined
                rw [chunk] at shown length bound' ⊢
                obtain ⟨taken, reads⟩ := @ih (heard ++ bytes) { client with
                    input
                    inputLen := client.inputLen + bytes.length
                    receivedFd := fd } (by dsimp only; omega)
                  (fun still => listening.grow rfl shown rfl still) (bound' rest rfl) proper.tail
                  (List.append_nil _).symm (List.append_nil _)
                exact ⟨bytes ++ taken, ReadsOn.behind rfl shown ⟨_, _, _, rfl⟩ reads⟩
              · rename_i more
                have longer : wanted < bytes.length := by
                  by_contra short'
                  exact more (List.isEmpty_iff.mpr
                    (List.drop_eq_nil_of_le (Nat.not_lt.mp short')))
                have whole : bytes.take wanted ++
                    incomingBytes (.data (bytes.drop wanted) [] false :: rest) =
                      bytes ++ incomingBytes rest := by
                  rw [incomingBytes_cons]
                  change bytes.take wanted ++ (bytes.drop wanted ++ incomingBytes rest) = _
                  rw [← List.append_assoc, List.take_append_drop]
                refine ⟨bytes.take wanted, ?_, shown, ⟨_, _, _, rfl⟩, bound' _ whole,
                  proper.leftover wanted, rfl, ?_, Or.inl ⟨rfl, ?_⟩⟩
                · rw [whole]
                  exact incomingBytes_cons
                · intro tail suffix
                  rcases List.suffix_cons_iff.mp suffix with same | later
                  · cases same
                  · exact later.trans (List.suffix_cons _ rest)
                · dsimp only
                  omega
        | eof => exact absurd rfl (proper.alive _ List.mem_cons_self).1
        | again =>
            have behind := proper.tail
            have sameBytes : incomingBytes (.again :: rest) = incomingBytes rest := rfl
            exact ⟨[], rfl, nothing, ⟨_, _, _, rfl⟩, bound, behind, rfl,
              fun tail suffix => suffix.trans (List.suffix_cons _ rest),
              Or.inr ⟨rfl, short, Or.inr List.suffix_rfl⟩⟩
        | interrupted => exact pass rfl
        | failed errno => exact absurd rfl ((proper.alive _ List.mem_cons_self).2 errno)
      · rename_i long
        exact ⟨[], rfl, nothing, ⟨_, _, _, rfl⟩, bound, unheard.symm ▸ proper, rfl, fun _ => id,
          Or.inl ⟨rfl, Nat.le_antisymm within (Nat.not_lt.mp long)⟩⟩

end Reading

/-! ## One call of the service loop -/

section Messages

variable {limit needed : Nat} {front more rest : List UInt8} {request : Request}

/-- A message ends where the reader stops for it. -/
theorem message_ends (waited : parseRequest limit front = .incomplete needed)
    (parsed : parseRequest limit (front ++ more) = .message request rest)
    (length : (front ++ more).length = needed) : rest = [] := by
  have reached : needed ≤ frontSize (front ++ more) := by
    have fixed := size_le_fixedSize (frontHeader (front ++ more)).taskKind
    have header : SubmitRequest.size ≤ front.length →
        frontHeader (front ++ more) = frontHeader front := frontHeader_append more
    have whole : (frontHeader front).taskKind.fixedSize ≤ front.length →
        frontSize (front ++ more) = frontSize front := frontSize_append more
    unfold parseRequest at waited
    dsimp only at waited
    split_ifs at waited with short valid fixedShort accepted wholeShort wanted
    · cases waited
      unfold frontSize
      omega
    · cases waited
      rw [frontSize, header (Nat.not_lt.mp short)]
      omega
    · cases waited
      rw [whole (Nat.not_lt.mp fixedShort)]
  obtain ⟨-, -, left⟩ := parseRequest_eq_message.mp parsed
  rw [left]
  exact List.drop_eq_nil_of_le (length ▸ reached)

end Messages

/-- What a call makes of the bytes it takes. It waits for more bytes only when the socket has
none before the next gap. -/
inductive Hears (limit : Nat) (heard taken : List UInt8) (requests : List Request)
    (socket rest : List RecvOutcome) (next : Client) : Prop where
  | waits (active : next.isActive = true) (submit : next.phase = .submit)
      (unready : next.requestReady = false) (bound : Bound next rest)
      (listens : Listens limit (heard ++ taken) requests next)
      (gap : rest = [] ∨ .again :: rest <:+ socket)
  | readied (request : Request) (active : next.isActive = true) (submit : next.phase = .submit)
      (ready : next.requestReady = true) (decoded : next.decodedRequest = request)
      (controlOp : next.controlOp = request.kind.controlOp) (some : taken ≠ [])
      (stray : 0 ≤ next.receivedFd → request.kind = .registerFd)
      (start : next.received = [] ∧ next.expectedInput = SubmitRequest.size ∧
        next.ioBytesMax = limit)
      (reading : (requestFraming limit).read (heard ++ taken) =
        ⟨requests ++ [request], [], false⟩)
  | refused (gone : next.isActive = false)
      (reading : ((requestFraming limit).read (heard ++ taken)).messages = requests ∧
        ((requestFraming limit).read (heard ++ taken)).broken = true)

/-- What is heard behind bytes that only grew the message. -/
theorem Hears.later {limit : Nat} {heard taken more : List UInt8} {requests : List Request}
    {socket middle rest : List RecvOutcome} {next : Client}
    (hears : Hears limit (heard ++ taken) more requests middle rest next) (some : taken ≠ [])
    (gaps : ∀ tail, .again :: tail <:+ middle → .again :: tail <:+ socket) :
    Hears limit heard (taken ++ more) requests socket rest next := by
  have nonempty : taken ++ more ≠ [] := fun empty => some (List.append_eq_nil_iff.mp empty).1
  cases hears with
  | waits active submit unready bound listens gap =>
      exact .waits active submit unready bound (List.append_assoc .. ▸ listens)
        (gap.imp_right (gaps rest))
  | readied request active submit ready decoded controlOp _ stray start reading =>
      exact .readied request active submit ready decoded controlOp nonempty stray start
        (List.append_assoc .. ▸ reading)
  | refused gone reading => exact .refused gone (List.append_assoc .. ▸ reading)

section Loop

variable {limit index fuel : Nat} {heard : List UInt8} {requests : List Request}
  {rt next : Runtime} {progress outcome : Bool} {socket rest : List RecvOutcome}

/-- A call of the loop hears what the grammar reads. -/
theorem serviceLoop_hears (within : limit ≤ maxIoBytes)
    (active : (rt.clients index).isActive = true)
    (submit : (rt.clients index).phase = .submit)
    (unready : (rt.clients index).requestReady = false)
    (listens : Listens limit heard requests (rt.clients index))
    (bound : Bound (rt.clients index) socket) (proper : Proper limit heard socket)
    (enough : (incomingBytes socket).length < fuel)
    (serviced : serviceLoop index fuel rt progress socket = .ok (next, outcome, rest)) :
    ∃ taken, incomingBytes socket = taken ++ incomingBytes rest ∧
      Proper limit (heard ++ taken) rest ∧
      Hears limit heard taken requests socket rest (next.clients index) := by
  induction fuel generalizing rt progress socket heard with
  | zero => exact absurd enough (Nat.not_lt_zero _)
  | succ fuel ih =>
      unfold serviceLoop at serviced
      simp only [active, unready, Bool.not_true, Bool.or_self, Bool.false_eq_true,
        ↓reduceIte] at serviced
      obtain ⟨taken, reads⟩ := readClientInput_reads (Nat.le_of_lt listens.short)
        (fun _ => listens) bound proper
      obtain ⟨input, length, fd, same⟩ := reads.same
      have unread := reads.closedFds
      generalize readClientInput (rt.clients index) socket = result at *
      rw [unread, List.foldl_nil] at serviced
      have active' : result.client.isActive = true := by
        rw [same]
        exact active
      have submit' : result.client.phase = .submit := by
        rw [same]
        exact submit
      have unready' : result.client.requestReady = false := by
        rw [same]
        exact unready
      have bytes : result.client.ioBytesMax = limit := by
        rw [same]
        exact listens.ioBytesMax
      have expected : result.client.expectedInput = (rt.clients index).expectedInput := by rw [same]
      -- behind what was read before, the bytes of the message decide
      have reading : (requestFraming limit).read (heard ++ taken) =
          { (requestFraming limit).read result.client.received with
            messages := requests ++
              ((requestFraming limit).read result.client.received).messages } := by
        rw [Framing.read_append, listens.reading, reads.received]
        simp only [Bool.false_eq_true, ↓reduceIte]
      rcases reads.status with ⟨full, filled⟩ | ⟨again, short, gap⟩
      · have some : taken ≠ [] := by
          intro empty
          have longer := congrArg List.length reads.received
          rw [empty, List.append_nil, Client.length_received, Client.length_received, filled]
            at longer
          exact Nat.ne_of_gt listens.short longer
        rw [full] at serviced
        simp only [submit'] at serviced
        have agrees := @processSubmitInput_agrees result.client (bytes ▸ within)
        have grammar : parseRequest result.client.ioBytesMax = parseRequest limit := by rw [bytes]
        unfold Agrees at agrees
        rw [grammar] at agrees
        cases parsed : parseRequest limit result.client.received with
        | incomplete needed =>
            simp only [parsed] at agrees
            have grows : ∃ grown, processSubmitInput result.client = .ok grown ∧
                grown.isActive = true ∧ grown.phase = .submit ∧ grown.requestReady = false ∧
                Bound grown result.rest ∧ Listens limit (heard ++ taken) requests grown := by
              obtain ⟨request, processed⟩ := agrees
              have rest : (requestFraming limit).read result.client.received =
                  ⟨[], result.client.received, false⟩ := Framing.read_incomplete parsed
              refine ⟨_, processed, active', submit', unready', reads.bound, bytes, ?_, parsed⟩
              rw [reading, rest, List.append_nil]
              rfl
            obtain ⟨grown, processed, activeNow, submitNow, unreadyNow, boundNow, listensNow⟩ :=
              grows
            rw [processed] at serviced
            simp only [unreadyNow, Bool.false_eq_true, ↓reduceIte] at serviced
            have entry : ((rt.setClient index result.client).setClient index grown).clients index =
                grown := Runtime.clients_setClient ..
            rw [← entry] at activeNow submitNow unreadyNow boundNow listensNow
            obtain ⟨more, split, proper', hears⟩ := ih activeNow submitNow unreadyNow listensNow
              boundNow reads.proper (by
                have shorter := congrArg List.length reads.split
                have positive := List.length_pos_iff.mpr some
                rw [List.length_append] at shorter
                omega) serviced
            refine ⟨taken ++ more, ?_, ?_, ?_⟩
            · rw [reads.split, split, List.append_assoc]
            · rw [← List.append_assoc]
              exact proper'
            · exact hears.later some reads.gaps
        | malformed =>
            simp only [parsed] at agrees
            obtain ⟨errno, processed⟩ := agrees
            rw [processed] at serviced
            cases serviced
            refine ⟨taken, reads.split, reads.proper, .refused ?_ ?_⟩
            · rw [closeClient_client, Runtime.clients_setClient]
              exact closedClient_inactive _
            · have broken : (requestFraming limit).read result.client.received =
                  ⟨[], result.client.received, true⟩ := Framing.read_malformed parsed
              rw [reading, broken]
              exact ⟨List.append_nil _, rfl⟩
        | message request behind =>
            have ends : behind = [] := by
              apply message_ends listens.expected (reads.received ▸ parsed)
              rw [← reads.received, Client.length_received, filled]
            subst ends
            have register : 0 ≤ result.client.receivedFd → request.kind = .registerFd := by
              intro held
              obtain ⟨whole, front, -⟩ := parseRequest_eq_message.mp parsed
              have long : SubmitRequest.size ≤ result.client.received.length :=
                Nat.le_trans (size_le_fixedSize _) (Nat.le_trans (Nat.le_add_right _ _) whole.whole)
              have starts := (reads.bound held).2
              unfold startsRegister at starts
              rw [frontHeader_append _ long] at starts
              rw [front]
              exact starts (Nat.le_trans long (by rw [List.length_append]; omega))
            have stray : result.client.strayDescriptor request.kind = false := by
              rw [Client.strayDescriptor, Bool.and_eq_false_iff, decide_eq_false_iff_not,
                decide_eq_false_iff_not, not_not]
              by_cases held : 0 ≤ result.client.receivedFd
              · exact Or.inl (register held)
              · exact Or.inr held
            simp only [parsed, stray, Bool.false_eq_true, ↓reduceIte] at agrees
            obtain ⟨after, processed, made⟩ := agrees
            rw [processed] at serviced
            simp only [made.ready, ↓reduceIte] at serviced
            cases serviced
            refine ⟨taken, reads.split, reads.proper, ?_⟩
            rw [Runtime.clients_setClient]
            have erased := processSubmitInput_erase processed
            have field : ∀ {α : Type} (get : Client → α),
                get after.eraseDecoder = get result.client.eraseDecoder :=
              fun get => congrArg get erased
            have complete : (requestFraming limit).read result.client.received =
                ⟨[request], [], false⟩ := by
              have first := @Framing.read_message _ _ (requestFraming limit) _ _ _ parsed
              rw [first]
              rfl
            have start : after.received = [] := by
              rw [Client.received, made.inputLen]
              rfl
            refine .readied request ((field Client.isActive).trans active')
              ((field Client.phase).trans submit') made.ready made.decoded made.controlOp some ?_
              ⟨start, made.expectedInput, (field Client.ioBytesMax).trans bytes⟩ ?_
            · rw [made.receivedFd]
              exact register
            · rw [reading, complete]
      · rw [again] at serviced
        cases serviced
        refine ⟨taken, reads.split, reads.proper, ?_⟩
        rw [Runtime.clients_setClient]
        exact .waits active' submit' unready' reads.bound
          (listens.grow (by rw [same]) reads.received expected (expected.symm ▸ short))
          gap

/-- After the handshake a call never fails. -/
theorem serviceLoop_total (submit : (rt.clients index).phase = .submit) :
    ∃ result, serviceLoop index fuel rt progress socket = .ok result := by
  induction fuel generalizing rt progress socket with
  | zero => exact ⟨_, rfl⟩
  | succ fuel ih =>
      unfold serviceLoop
      split
      · exact ⟨_, rfl⟩
      · dsimp only
        have phase : (readClientInput (rt.clients index) socket).client.phase = .submit := by
          have erased := congrArg Client.phase (readClientInput_erase (rt.clients index) socket)
          exact erased.trans submit
        split
        · exact ⟨_, rfl⟩
        · exact ⟨_, rfl⟩
        · exact ⟨_, rfl⟩
        · rw [phase]
          dsimp only
          split
          · exact ⟨_, rfl⟩
          · rename_i client processed
            split
            · exact ⟨_, rfl⟩
            · apply ih
              rw [Runtime.clients_setClient]
              have erased := congrArg Client.phase (processSubmitInput_erase processed)
              exact erased.trans phase

end Loop

/-! ## One message -/

/-- The connection waits for the first byte of a request: `expected_input` is the size of a
header, `input_len` is 0 and no descriptor is held. -/
structure AtBoundary (limit : Nat) (client : Client) : Prop where
  active : client.isActive = true
  submit : client.phase = .submit
  unready : client.requestReady = false
  inputLen : client.inputLen = 0
  expectedInput : client.expectedInput = SubmitRequest.size
  receivedFd : client.receivedFd < 0
  ioBytesMax : client.ioBytesMax = limit

section Whole

variable {limit index : Nat} {rt : Runtime} {socket : List RecvOutcome} {request : Request}
  {behind : List UInt8}

theorem AtBoundary.received {client : Client} (boundary : AtBoundary limit client) :
    client.received = [] := by
  rw [Client.received, boundary.inputLen]
  rfl

theorem AtBoundary.listens {client : Client} (boundary : AtBoundary limit client) :
    Listens limit [] [] client := by
  refine ⟨boundary.ioBytesMax, ?_, ?_⟩
  · rw [boundary.received]
    rfl
  · rw [boundary.received, boundary.expectedInput]
    rfl

theorem AtBoundary.bound {client : Client} (boundary : AtBoundary limit client) :
    Bound client socket := fun held => absurd boundary.receivedFd (Int32.not_lt.mpr held)

/-- Everything a call can do with a socket at the start of a message. -/
theorem AtBoundary.hears (boundary : AtBoundary limit (rt.clients index))
    (within : limit ≤ maxIoBytes) (proper : Proper limit [] socket) :
    ∃ next progress rest taken, serviceClientReadable rt index socket = .ok (next, progress, rest) ∧
      incomingBytes socket = taken ++ incomingBytes rest ∧
      Hears limit [] taken [] socket rest (next.clients index) := by
  obtain ⟨⟨next, progress, rest⟩, serviced⟩ :=
    @serviceLoop_total index ((incomingBytes socket).length + 2) rt false socket boundary.submit
  obtain ⟨taken, split, -, hears⟩ := serviceLoop_hears within boundary.active boundary.submit
    boundary.unready boundary.listens boundary.bound proper (by omega) serviced
  exact ⟨next, progress, rest, taken, serviced, split, hears⟩

/-- A message that arrives without a gap is made ready, and its bytes and no others are taken. -/
theorem AtBoundary.decodes (boundary : AtBoundary limit (rt.clients index))
    (within : limit ≤ maxIoBytes) (proper : Proper limit [] socket) (gapless : .again ∉ socket)
    (parsed : parseRequest limit (incomingBytes socket) = .message request behind) :
    ∃ next progress rest, serviceClientReadable rt index socket = .ok (next, progress, rest) ∧
      incomingBytes rest = behind ∧ (next.clients index).isActive = true ∧
      (next.clients index).requestReady = true ∧
      (next.clients index).decodedRequest = request ∧
      (next.clients index).controlOp = request.kind.controlOp := by
  obtain ⟨next, progress, rest, taken, serviced, split, hears⟩ := boundary.hears within proper
  refine ⟨next, progress, rest, serviced, ?_⟩
  cases hears with
  | waits active submit unready bound listens gap =>
      rcases gap with empty | suffix
      · have whole := @Framing.read_message _ _ (requestFraming limit) _ _ _ parsed
        rw [split, empty, incomingBytes, List.flatMap_nil, List.append_nil] at whole
        have reading := listens.reading
        rw [List.nil_append, whole] at reading
        cases reading
      · exact absurd (suffix.subset List.mem_cons_self) gapless
  | readied other active submit ready decoded controlOp some stray start reading =>
      rw [List.nil_append, List.nil_append] at reading
      have first : parseRequest limit (incomingBytes socket) =
          .message other ([] ++ incomingBytes rest) := by
        rw [split]
        exact (requestFraming limit).message_append _ (Framing.parse_of_read reading)
      rw [parsed] at first
      cases first
      exact ⟨rfl, active, ready, decoded, controlOp⟩
  | refused gone reading =>
      have malformed : parseRequest limit (taken ++ incomingBytes rest) = .malformed :=
        (requestFraming limit).malformed_append _ (Framing.parse_of_broken reading.1 reading.2)
      rw [← split, parsed] at malformed
      cases malformed

/-- A message that the grammar refuses closes the connection. -/
theorem AtBoundary.refuses (boundary : AtBoundary limit (rt.clients index))
    (within : limit ≤ maxIoBytes) (proper : Proper limit [] socket) (gapless : .again ∉ socket)
    (parsed : parseRequest limit (incomingBytes socket) = .malformed) :
    ∃ next progress rest, serviceClientReadable rt index socket = .ok (next, progress, rest) ∧
      (next.clients index).isActive = false := by
  obtain ⟨next, progress, rest, taken, serviced, split, hears⟩ := boundary.hears within proper
  have whole : (requestFraming limit).read (incomingBytes socket) =
      ⟨[], incomingBytes socket, true⟩ := Framing.read_malformed parsed
  refine ⟨next, progress, rest, serviced, ?_⟩
  cases hears with
  | waits active submit unready bound listens gap =>
      rcases gap with empty | suffix
      · rw [split, empty, incomingBytes, List.flatMap_nil, List.append_nil] at whole
        have reading := listens.reading
        rw [List.nil_append, whole] at reading
        cases reading
      · exact absurd (suffix.subset List.mem_cons_self) gapless
  | readied other active submit ready decoded controlOp some stray start reading =>
      rw [List.nil_append, List.nil_append] at reading
      rw [split, Framing.read_append, reading] at whole
      cases congrArg Reading.messages whole
  | refused gone reading => exact gone

end Whole

end Iouringd
