import Iouringd.Lib.Completions

/-! # No completion is lost

The daemon's messages on a connection as the library gets them, when every system call goes
well. A call finds its reply behind what has not been read; draining moves exactly the
completions in front of it.
-/

namespace Iouringd

open Foundation

/-- A completion with its payload. -/
structure Delivery where
  record : CompletionRecord
  payload : List UInt8
  deriving DecidableEq, Repr

namespace Delivery

/-- The bytes of a completion: its record, then its payload. -/
def encode (delivery : Delivery) : List UInt8 := delivery.record.encode ++ delivery.payload

/-- A whole completion that the library takes. -/
def Valid (delivery : Delivery) : Prop :=
  completionRecordIsValid delivery.record = true ∧
    delivery.payload.length = delivery.record.payloadLength.toNat

instance (delivery : Delivery) : Decidable delivery.Valid := inferInstanceAs (Decidable (_ ∧ _))

/-- The entry of a completion that was drained. -/
def entry (fd : Fd) (delivery : Delivery) : BufferedCompletion :=
  ⟨fd, delivery.record, delivery.payload⟩

/-- The entry of a payload that was not taken. -/
def held (fd : Fd) (delivery : Delivery) : BufferedPayload :=
  ⟨fd, delivery.record.taskId, delivery.payload⟩

end Delivery

namespace Process

variable {process : Process} {fd : Fd}

@[simp] theorem inbox_setInbox (process : Process) (fd : Fd) (bytes : List UInt8) :
    (process.setInbox fd bytes).inbox fd = bytes := Function.update_self _ _ _

/-- The other streams stay. -/
theorem inbox_setInbox_of_ne {other : Fd} (apart : other ≠ fd) (bytes : List UInt8) :
    (process.setInbox fd bytes).inbox other = process.inbox other :=
  Function.update_of_ne apart _ _

@[simp] theorem setInbox_setInbox (process : Process) (fd : Fd) (first second : List UInt8) :
    (process.setInbox fd first).setInbox fd second = process.setInbox fd second := by
  simp only [setInbox, Function.update_idem]

@[simp] theorem completions_setInbox (process : Process) (fd : Fd) (bytes : List UInt8) :
    (process.setInbox fd bytes).completions = process.completions := rfl

@[simp] theorem payloads_setInbox (process : Process) (fd : Fd) (bytes : List UInt8) :
    (process.setInbox fd bytes).payloads = process.payloads := rfl

/-- The list of the payloads with that of a completion, if it has one. -/
def keeping (process : Process) (fd : Fd) (delivery : Delivery) : Process :=
  { process with payloads :=
      process.payloads ++ if delivery.payload ≠ [] then [delivery.held fd] else [] }

/-! ## System calls that go well -/

/-- Setting the script that is set already changes nothing. -/
theorem under_self {script : Script} (set : process.script = script) :
    process.under script = process := by
  rw [under, ← set]

/-- A read gets all it wants, or the stream ends early. -/
theorem readFull_smooth (still : process.script = .smooth) (length : Nat) :
    process.readFull fd length =
      if (process.inbox fd).length < length then (.error EPIPE, process.setInbox fd [])
      else (.ok ((process.inbox fd).take length),
        process.setInbox fd ((process.inbox fd).drop length)) := by
  unfold readFull
  simp only [still, Script.smooth, readLoop]
  split
  · exact congrArg _ (under_self still)
  · exact congrArg _ (under_self still)

/-- A peek finds all there is. -/
theorem peekProtocolHeader_smooth (still : process.script = .smooth) :
    process.peekProtocolHeader fd = (peeked (process.inbox fd) 8, process) := by
  unfold peekProtocolHeader
  simp only [still, Script.smooth, peekLoop]
  exact congrArg _ (under_self still)

/-- There is memory. -/
theorem malloc_smooth (still : process.script = .smooth) : process.malloc = (true, process) := by
  unfold malloc
  rw [still]
  rfl

/-- A completion is queued. -/
theorem queueBufferedCompletion_smooth (still : process.script = .smooth) (delivery : Delivery) :
    process.queueBufferedCompletion fd delivery.record delivery.payload =
      (none, { process with completions := process.completions ++ [delivery.entry fd] }) := by
  unfold queueBufferedCompletion
  rw [malloc_smooth still]
  rfl

/-- A payload is kept. -/
theorem keepPayload_smooth (still : process.script = .smooth) (delivery : Delivery) :
    process.keepPayload fd delivery.record delivery.payload =
      (none, process.keeping fd delivery) := by
  unfold keepPayload
  by_cases kept : delivery.payload = []
  · rw [if_neg (by rw [kept]; exact fun long => long rfl), keeping,
      if_neg (fun some => some kept), List.append_nil]
  · rw [if_pos (fun none => kept (List.eq_nil_of_length_eq_zero none)), keeping, if_pos kept]
    unfold storeBufferedPayloadOwned
    rw [malloc_smooth still]
    rfl

/-- The first completion of the number is taken, and its payload is kept. -/
theorem popBufferedCompletion_smooth (still : process.script = .smooth) {delivery : Delivery}
    {rest : List BufferedCompletion}
    (found : takeFirst (fun entry => entry.fd == fd) process.completions =
      some (delivery.entry fd, rest)) :
    process.popBufferedCompletion fd =
      (.ok (some delivery.record), { process with completions := rest }.keeping fd delivery) := by
  have kept := @keepPayload_smooth { process with completions := rest } fd still delivery
  unfold popBufferedCompletion
  rw [found]
  simp only [Delivery.entry, kept]

/-- There is none. -/
theorem popBufferedCompletion_none
    (found : takeFirst (fun entry => entry.fd == fd) process.completions = none) :
    process.popBufferedCompletion fd = (.ok none, process) := by
  unfold popBufferedCompletion
  rw [found]

/-! ## Whole messages -/

/-- What is in front of the stream is read. -/
theorem readFull_eq {bytes rest : List UInt8} (sent : process.inbox fd = bytes ++ rest)
    (still : process.script = .smooth) {length : Nat} (long : bytes.length = length) :
    process.readFull fd length = (.ok bytes, process.setInbox fd rest) := by
  rw [readFull_smooth still, sent]
  subst long
  rw [if_neg (by rw [List.length_append]; omega), List.take_left, List.drop_left]

/-- With nothing unread there is no completion. -/
theorem readCompletionWithPayload_empty (still : process.script = .smooth)
    (empty : process.inbox fd = []) :
    process.readCompletionWithPayload fd = (.error EPIPE, process) := by
  have same : process.setInbox fd [] = process := by
    rw [← empty, setInbox, Function.update_eq_self]
  have short : process.readFull fd CompletionRecord.size = (.error EPIPE, process) := by
    rw [readFull_smooth still, empty, same]
    rfl
  unfold readCompletionWithPayload
  rw [short]

/-- A whole completion at the head of the stream is read as it was sent. -/
theorem readCompletionWithPayload_eq (still : process.script = .smooth) {delivery : Delivery}
    {rest : List UInt8} (sent : process.inbox fd = delivery.encode ++ rest)
    (valid : delivery.Valid) :
    process.readCompletionWithPayload fd =
      (.ok (delivery.record, delivery.payload), process.setInbox fd rest) := by
  have front : process.inbox fd = delivery.record.encode ++ (delivery.payload ++ rest) := by
    rw [sent, Delivery.encode, List.append_assoc]
  unfold readCompletionWithPayload
  rw [readFull_eq front still delivery.record.length_encode]
  simp only [CompletionRecord.decode_encode, valid.1, Bool.not_true, Bool.false_eq_true,
    ↓reduceIte]
  by_cases none : delivery.record.payloadLength = 0
  · have empty : delivery.payload = [] := by
      have length := valid.2
      rw [none] at length
      exact List.eq_nil_of_length_eq_zero length
    rw [if_pos none, empty, List.nil_append]
  · have behind : (process.setInbox fd (delivery.payload ++ rest)).inbox fd =
        delivery.payload ++ rest := inbox_setInbox _ _ _
    have calm : (process.setInbox fd (delivery.payload ++ rest)).script = .smooth := still
    rw [if_neg none, malloc_smooth calm]
    simp only [readFull_eq behind calm valid.2, setInbox_setInbox]

/-- Valid records start with the header of this version. -/
theorem isCompletionHeader_take {delivery : Delivery} (valid : delivery.Valid)
    (rest : List UInt8) : isCompletionHeader ((delivery.encode ++ rest).take 8) = true := by
  have header : (delivery.encode ++ rest).take 8 =
      u32 delivery.record.magic ++ u16 delivery.record.versionMajor ++
        u16 delivery.record.versionMinor := by
    simp only [Delivery.encode, CompletionRecord.encode, List.append_assoc]
    rw [← List.append_assoc (u32 _), ← List.append_assoc (u32 _ ++ u16 _)]
    exact List.take_left' (by simp only [List.length_append, length_u32, length_u16])
  have record := valid.1
  unfold completionRecordIsValid at record
  split at record
  · cases record
  · rename_i known
    simp only [ne_eq, decide_not, Bool.or_eq_true, not_or, Bool.not_eq_true', Bool.not_eq_false,
      decide_eq_true_eq] at known
    obtain ⟨⟨⟨⟨⟨magic, major⟩, minor⟩, -⟩, -⟩, -⟩ := known
    rw [header, magic, major, minor]
    decide

/-- The header of a message is found. -/
theorem peekProtocolHeader_eq (still : process.script = .smooth) {bytes : List UInt8}
    (sent : process.inbox fd = bytes) (long : 8 ≤ bytes.length) :
    process.peekProtocolHeader fd = (.ok (bytes.take 8), process) := by
  have some : bytes ≠ [] := by
    rintro rfl
    cases long
  rw [peekProtocolHeader_smooth still, peeked, sent,
    if_neg (by simpa only [List.isEmpty_iff] using some), if_neg (by omega)]

end Process

/-- A completion is at least a record long. -/
theorem Delivery.length_encode (delivery : Delivery) : 24 ≤ delivery.encode.length := by
  rw [Delivery.encode, List.length_append, delivery.record.length_encode]
  exact Nat.le_add_right 24 _

/-- The bytes of a reply are not taken for a completion. -/
def Unlike (bytes : List UInt8) : Prop :=
  8 ≤ bytes.length ∧ Process.isCompletionHeader (bytes.take 8) = false

instance (bytes : List UInt8) : Decidable (Unlike bytes) := inferInstanceAs (Decidable (_ ∧ _))

/-- Only the front counts. -/
theorem Unlike.append {bytes : List UInt8} (unlike : Unlike bytes) (rest : List UInt8) :
    Unlike (bytes ++ rest) := by
  refine ⟨?_, ?_⟩
  · rw [List.length_append]
    exact Nat.le_add_right_of_le unlike.1
  · rw [List.take_append_of_le_length unlike.1]
    exact unlike.2

namespace Process

variable {process : Process} {fd : Fd}

/-- The completions in front of a reply move to the list, in order. -/
theorem drainLoop_eq (still : process.script = .smooth) {unread : List Delivery}
    {reply : List UInt8} {fuel : Nat}
    (sent : process.inbox fd = unread.flatMap Delivery.encode ++ reply)
    (valid : ∀ delivery ∈ unread, delivery.Valid) (unlike : Unlike reply)
    (enough : unread.length < fuel) :
    drainLoop fd fuel process = (none, { process.setInbox fd reply with
      completions := process.completions ++ unread.map (Delivery.entry fd) }) := by
  induction unread generalizing process fuel with
  | nil =>
      obtain ⟨fuel, rfl⟩ := Nat.exists_eq_succ_of_ne_zero (Nat.ne_of_gt enough)
      rw [List.flatMap_nil, List.nil_append] at sent
      have same : process.setInbox fd reply = process := by
        rw [← sent, setInbox, Function.update_eq_self]
      unfold drainLoop
      rw [peekProtocolHeader_eq still sent unlike.1, same]
      simp only [unlike.2, Bool.not_false, ↓reduceIte, List.map_nil, List.append_nil]
  | cons delivery rest ih =>
      obtain ⟨fuel, rfl⟩ := Nat.exists_eq_succ_of_ne_zero
        (Nat.ne_of_gt (Nat.lt_of_le_of_lt (Nat.zero_le _) enough))
      rw [List.flatMap_cons, List.append_assoc] at sent
      have first := valid delivery List.mem_cons_self
      have long : 8 ≤ (delivery.encode ++ (rest.flatMap Delivery.encode ++ reply)).length := by
        have size := delivery.length_encode
        rw [List.length_append]
        omega
      have calm : (process.setInbox fd (rest.flatMap Delivery.encode ++ reply)).script =
          .smooth := still
      unfold drainLoop
      rw [peekProtocolHeader_eq still sent long]
      simp only [isCompletionHeader_take first, Bool.not_true, Bool.false_eq_true, ↓reduceIte,
        readCompletionWithPayload_eq still sent first, queueBufferedCompletion_smooth calm]
      let next : Process := { process.setInbox fd (rest.flatMap Delivery.encode ++ reply) with
        completions := process.completions ++ [delivery.entry fd] }
      have behind : next.inbox fd = rest.flatMap Delivery.encode ++ reply := inbox_setInbox _ _ _
      have smooth : next.script = .smooth := still
      refine (ih smooth behind (fun other member => valid other (List.mem_cons_of_mem _ member))
        (Nat.lt_of_succ_lt_succ enough)).trans ?_
      simp only [next, setInbox, Function.update_idem, List.map_cons, List.append_assoc,
        List.singleton_append]

/-- So the bytes bound the turns of the loop. -/
theorem length_le_flatMap_encode (unread : List Delivery) :
    unread.length ≤ (unread.flatMap Delivery.encode).length := by
  induction unread with
  | nil => exact Nat.le_refl 0
  | cons delivery rest ih =>
      have size := delivery.length_encode
      rw [List.flatMap_cons, List.length_append, List.length_cons]
      omega

/-- Draining ends at the reply. -/
theorem drainCompletionPrefix_eq (still : process.script = .smooth) {unread : List Delivery}
    {reply : List UInt8} (sent : process.inbox fd = unread.flatMap Delivery.encode ++ reply)
    (valid : ∀ delivery ∈ unread, delivery.Valid) (unlike : Unlike reply) :
    process.drainCompletionPrefix fd = (none, { process.setInbox fd reply with
      completions := process.completions ++ unread.map (Delivery.entry fd) }) := by
  apply drainLoop_eq still sent valid unlike
  have bound := length_le_flatMap_encode unread
  rw [sent, List.length_append]
  omega

end Process

end Iouringd
