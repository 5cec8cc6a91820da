import Iouringd.Lib.Headers

/-! # Reading the stream of a connection

The stream the daemon queues for a connection needs no framing of its own: whoever knows which
replies are due reads it back message by message. A record says by its header whether it is a
completion, a reply is known by its turn, and the lengths stand in the records.
-/

namespace Iouringd

open Foundation

deriving instance DecidableEq for Message

/-- The first `count` events. -/
def readEvents : Nat → List UInt8 → List TraceEvent
  | 0, _ => []
  | count + 1, bytes =>
      TraceEvent.decode (bytes.take TraceEvent.size) ::
      readEvents count (bytes.drop TraceEvent.size)

/-- The reply of the type that is due. -/
def readDue (bytes : List UInt8) : ReplyType → Message
  | .submit => .submit (.decode (bytes.take SubmitResult.size))
  | .resource => .resource (.decode (bytes.take ResourceResult.size))
  | .stats => .stats (.decode (bytes.take StatsResult.size))
  | .trace =>
      let result := TraceResult.decode (bytes.take TraceResult.size)
      .trace result (readEvents result.count.toNat (bytes.drop TraceResult.size))

/-- The completion at the front. -/
def readCompletion (bytes : List UInt8) : Message :=
  let record := CompletionRecord.decode (bytes.take CompletionRecord.size)
  .completion record ((bytes.drop CompletionRecord.size).take record.payloadLength.toNat)

/-- The messages behind the handshake, when replies of these types are due. -/
def readMessages : Nat → List ReplyType → List UInt8 → List Message
  | 0, _, _ => []
  | fuel + 1, due, bytes =>
      if Process.isCompletionHeader (bytes.take 8) then
        let message := readCompletion bytes
        message :: readMessages fuel due (bytes.drop message.encode.length)
      else
        match due with
        | [] => []
        | type :: due =>
            let message := readDue bytes type
            message :: readMessages fuel due (bytes.drop message.encode.length)

/-- The messages of a whole stream: answers to handshakes up to the accepted one, then the rest. -/
def readStream : Nat → List ReplyType → List UInt8 → List Message
  | 0, _, _ => []
  | fuel + 1, due, bytes =>
      if bytes.length < HandshakeResult.size then []
      else
        let result := HandshakeResult.decode (bytes.take HandshakeResult.size)
        let rest := bytes.drop HandshakeResult.size
        .greeting result ::
          if result.status = handshakeAccept then readMessages fuel due rest
          else readStream fuel due rest

/-- What was queued for a connection, read back. -/
def World.transcript (world : World) (conn : Nat) : List Message :=
  readStream ((world.stream conn).length + 1) ((world.answered conn).map (·.kind.replyType))
    (world.stream conn)

section Reading

variable {message : Message} {rest : List UInt8} {due : List ReplyType} {fuel : Nat}

theorem readEvents_encode (events : List TraceEvent) (rest : List UInt8) :
    readEvents events.length (events.flatMap TraceEvent.encode ++ rest) = events := by
  induction events with
  | nil => rfl
  | cons event later ih =>
      rw [List.flatMap_cons, List.append_assoc, List.length_cons, readEvents,
        List.take_left' event.length_encode, List.drop_left' event.length_encode,
        TraceEvent.decode_encode, ih]

/-- A reply is read back by whoever waits for it. -/
theorem readDue_encode {type : ReplyType} (whole : message.Whole)
    (same : message.replyType = some type) (rest : List UInt8) :
    readDue (message.encode ++ rest) type = message := by
  cases message with
  | submit result =>
      cases same
      rw [Message.encode, readDue, List.take_left' result.length_encode, SubmitResult.decode_encode]
  | resource result =>
      cases same
      rw [Message.encode, readDue, List.take_left' result.length_encode,
        ResourceResult.decode_encode]
  | stats result =>
      cases same
      rw [Message.encode, readDue, List.take_left' result.length_encode, StatsResult.decode_encode]
  | trace result events =>
      cases same
      have count : result.count.toNat = events.length := whole
      rw [Message.encode, readDue, List.append_assoc, List.take_left' result.length_encode,
        List.drop_left' result.length_encode, TraceResult.decode_encode, count, readEvents_encode]
  | greeting result => cases same
  | completion record payload => cases same

theorem readCompletion_encode {delivery : Delivery}
    (length : delivery.payload.length = delivery.record.payloadLength.toNat) (rest : List UInt8) :
    readCompletion (delivery.encode ++ rest) = .completion delivery.record delivery.payload := by
  rw [Delivery.encode, readCompletion, List.append_assoc,
    List.take_left' delivery.record.length_encode, List.drop_left' delivery.record.length_encode,
    CompletionRecord.decode_encode, List.take_left' length]

/-- What a log behind the handshake has to be so that it can be read back. -/
structure Readable (log : List Message) : Prop where
  plain : ∀ message ∈ log, message.isGreeting = false
  whole : ∀ message ∈ log, message.Whole
  passes : ∀ message ∈ log, message.Passes
  unlike : ∀ message ∈ log, message.replyType.isSome = true → Unlike message.encode

theorem Readable.tail {log : List Message} (readable : Readable (message :: log)) :
    Readable log where
  plain := fun message member => readable.plain message (List.mem_cons_of_mem _ member)
  whole := fun message member => readable.whole message (List.mem_cons_of_mem _ member)
  passes := fun message member => readable.passes message (List.mem_cons_of_mem _ member)
  unlike := fun message member => readable.unlike message (List.mem_cons_of_mem _ member)

/-- The messages behind the handshake are read back. -/
theorem Readable.read {log : List Message} (readable : Readable log) (enough : log.length < fuel) :
    readMessages fuel (replyTypes log) (log.flatMap Message.encode) = log := by
  induction log generalizing fuel with
  | nil =>
      obtain ⟨fuel, rfl⟩ := Nat.exists_eq_succ_of_ne_zero (Nat.ne_of_gt enough)
      rfl
  | cons message later ih =>
      obtain ⟨fuel, rfl⟩ := Nat.exists_eq_succ_of_ne_zero
        (Nat.ne_of_gt (Nat.lt_of_le_of_lt (Nat.zero_le _) enough))
      have behind := ih readable.tail (Nat.lt_of_succ_lt_succ enough)
      have here : message ∈ message :: later := List.mem_cons_self
      rw [List.flatMap_cons]
      unfold readMessages
      cases type : message.replyType with
      | some due =>
          have unlike := (readable.unlike message here (by rw [type]; rfl)).append
            (later.flatMap Message.encode)
          have next : replyTypes (message :: later) = due :: replyTypes later :=
            List.filterMap_cons_some type
          rw [if_neg (by rw [unlike.2]; exact Bool.false_ne_true), next]
          dsimp only
          rw [readDue_encode (readable.whole message here) type, List.drop_left, behind]
      | none =>
          have next : replyTypes (message :: later) = replyTypes later :=
            List.filterMap_cons_none type
          cases message with
          | completion record payload =>
              have valid : Delivery.Valid ⟨record, payload⟩ := readable.passes _ here
              have encoded : (Message.completion record payload).encode =
                  Delivery.encode ⟨record, payload⟩ := rfl
              rw [encoded, if_pos (Process.isCompletionHeader_take valid _), next]
              dsimp only
              rw [readCompletion_encode valid.2, encoded, List.drop_left, behind]
          | greeting result => cases readable.plain _ here
          | submit | resource | stats | trace => cases type

end Reading

section Logs

variable {world : World} {log : Nat → List Message} {due : List ReplyType} {fuel : Nat}

/-- Answers that refuse the handshake are read one by one. -/
theorem Opening.read {refusals rest : List Message} (opening : Opening refusals)
    (enough : refusals.length < fuel) :
    readStream fuel due (refusals.flatMap Message.encode ++ rest.flatMap Message.encode) =
      refusals ++ readStream (fuel - refusals.length) due (rest.flatMap Message.encode) := by
  induction refusals generalizing fuel with
  | nil => rfl
  | cons message later ih =>
      obtain ⟨fuel, rfl⟩ := Nat.exists_eq_succ_of_ne_zero
        (Nat.ne_of_gt (Nat.lt_of_le_of_lt (Nat.zero_le _) enough))
      obtain ⟨result, rfl, refused⟩ := opening message List.mem_cons_self
      have encoded : (Message.greeting result).encode = result.encode := rfl
      have refuses : ¬ result.status = handshakeAccept := by
        rw [refused]
        decide
      have long : ¬ (result.encode ++ (later.flatMap Message.encode ++
          rest.flatMap Message.encode)).length < HandshakeResult.size := by
        rw [List.length_append, result.length_encode]
        exact Nat.not_lt.mpr (Nat.le_add_right _ _)
      rw [List.flatMap_cons, encoded, List.append_assoc, readStream, if_neg long]
      dsimp only
      rw [List.take_left' result.length_encode, List.drop_left' result.length_encode,
        HandshakeResult.decode_encode, if_neg refuses,
        ih (fun other member => opening other (List.mem_cons_of_mem _ member))
          (Nat.lt_of_succ_lt_succ enough), List.length_cons, Nat.succ_sub_succ]
      rfl

/-- A message takes at least a byte. -/
theorem length_le_encode (log : List Message) :
    log.length ≤ (log.flatMap Message.encode).length := by
  induction log with
  | nil => exact Nat.le_refl 0
  | cons message rest ih =>
      have some : 1 ≤ message.encode.length := by
        cases message with
        | greeting result => rw [Message.encode, result.length_encode]; decide
        | submit result => rw [Message.encode, result.length_encode]; decide
        | resource result => rw [Message.encode, result.length_encode]; decide
        | stats result => rw [Message.encode, result.length_encode]; decide
        | trace result events =>
            rw [Message.encode, List.length_append, result.length_encode]
            exact Nat.le_add_right_of_le (by decide)
        | completion record payload =>
            rw [Message.encode, List.length_append, record.length_encode]
            exact Nat.le_add_right_of_le (by decide)
      rw [List.flatMap_cons, List.length_append, List.length_cons]
      omega

/-- The stream of a connection says what was queued, message by message. -/
theorem Logged.transcript (logged : Logged world log) (passing : Passing world log)
    (legible : Legible log) (conn : Nat) : world.transcript conn = log conn := by
  unfold World.transcript
  have enough := length_le_encode (log conn)
  rw [logged.bytes, ← logged.replies conn]
  generalize all : ((log conn).flatMap Message.encode).length + 1 = fuel
  rcases logged.shape conn with opening | ⟨refusals, result, body, same, opening, accepted, plain⟩
  · have read := @Opening.read (replyTypes (log conn)) fuel _ [] opening (by omega)
    rw [List.flatMap_nil, List.append_nil] at read
    rw [read]
    cases fuel - (log conn).length with
    | zero => exact List.append_nil _
    | succ more => exact List.append_nil _
  · have none : replyTypes refusals = [] := by
      refine List.filterMap_eq_nil_iff.mpr fun message member => ?_
      obtain ⟨result, rfl, -⟩ := opening message member
      rfl
    have due : replyTypes (log conn) = replyTypes body := by
      rw [same, replyTypes, List.filterMap_append]
      change replyTypes refusals ++ replyTypes body = _
      rw [none, List.nil_append]
    have inside : ∀ message ∈ body, message ∈ log conn := fun message member => by
      rw [same]
      exact List.mem_append_right _ (List.mem_cons_of_mem _ member)
    have readable : Readable body := {
      plain
      whole := fun message member => logged.whole conn message (inside message member)
      passes := fun message member => passing.passes conn message (inside message member)
      unlike := fun message member => legible conn message (inside message member) }
    have room : refusals.length + (body.length + 1) < fuel := by
      rw [same, List.length_append, List.length_cons] at enough
      rw [← all, same]
      exact Nat.lt_succ_of_le enough
    obtain ⟨more, left⟩ : ∃ more, fuel - refusals.length = more + 1 ∧ body.length < more :=
      ⟨fuel - refusals.length - 1, by omega, by omega⟩
    have long : ¬ (result.encode ++ body.flatMap Message.encode).length < HandshakeResult.size := by
      rw [List.length_append, result.length_encode]
      exact Nat.not_lt.mpr (Nat.le_add_right _ _)
    have encoded : (Message.greeting result :: body).flatMap Message.encode =
        result.encode ++ body.flatMap Message.encode := rfl
    rw [due, same, List.flatMap_append, opening.read (by omega), left.1, encoded, readStream,
      if_neg long]
    dsimp only
    rw [List.take_left' result.length_encode, List.drop_left' result.length_encode,
      HandshakeResult.decode_encode, if_pos accepted, readable.read left.2]

end Logs

end Iouringd
