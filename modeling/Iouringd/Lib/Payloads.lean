import Iouringd.Lib.Attribution

/-! # The buffer of a payload read

`iouringd_read_completion_payload` compares the capacity of the caller's buffer with the length
in the caller's record, and copies as many bytes as the list entry holds that it finds under
the descriptor number and the task id. The two are the same length as long as the number was
not reused over an unread payload and the record is one that a wait returned.
-/

namespace Iouringd

open Foundation

/-- The arguments of `iouringd_read_completion_payload`; `completion` is `none`, and `buf` and
`payloadLength` are false, for NULL. -/
structure PayloadCall where
  fd : Fd
  completion : Option CompletionRecord
  buf : Bool
  capacity : Nat
  payloadLength : Bool
  deriving DecidableEq, Repr

/-- The record is of a kind whose completions carry a payload. -/
def CompletionRecord.carriesPayload (record : CompletionRecord) : Bool :=
  isReadKind record.taskKind || record.taskKind == RequestKind.accept.toWire

/-- The bytes the call may write: none without a buffer. -/
def PayloadCall.room (call : PayloadCall) : Nat := if call.buf then call.capacity else 0

/-- `iouringd_read_completion_payload` with the pointers it checks: without a buffer there is
room for no payload but an empty one. -/
def Process.readPayload (process : Process) (call : PayloadCall) :
    Except Errno (List UInt8) × Process :=
  match call.completion with
  | none => (.error EINVAL, process)
  | some record =>
      if decide (call.fd < 0) || !call.payloadLength then (.error EINVAL, process)
      else process.readCompletionPayload call.fd record call.room

/-- The entry the walk over the list stops at: the oldest payload kept under the number and the
task id. -/
def Process.keptPayload (process : Process) (fd : Fd) (taskId : TaskId) :
    Option BufferedPayload :=
  (takeFirst (fun entry => entry.fd == fd && entry.taskId == taskId) process.payloads).map
    Prod.fst

/-- The call passes its checks, for its record announces a payload that fits, and the payload
kept under the number and the task id of the record is longer than the buffer. -/
def PayloadCall.Overruns (call : PayloadCall) (process : Process) : Prop :=
  0 ≤ call.fd ∧ call.payloadLength = true ∧ call.buf = true ∧
    ∃ record, call.completion = some record ∧ record.carriesPayload = true ∧
      record.payloadLength ≠ 0 ∧ record.payloadLength.toNat ≤ call.capacity ∧
        ∃ entry, process.keptPayload call.fd record.taskId = some entry ∧
          call.capacity < entry.payload.length

section Reads

variable {process : Process} {fd : Fd} {record : CompletionRecord} {capacity : Nat}

/-- A read that gets as far as the list copies what the entry holds. -/
theorem Process.readCompletionPayload_found (carries : record.carriesPayload = true)
    (announced : record.payloadLength ≠ 0) (fits : record.payloadLength.toNat ≤ capacity) :
    (process.readCompletionPayload fd record capacity).1 =
      match process.keptPayload fd record.taskId with
      | none => .error EPROTO
      | some entry => .ok entry.payload := by
  unfold readCompletionPayload keptPayload
  rw [CompletionRecord.carriesPayload] at carries
  simp only [carries, announced, Nat.not_lt.mpr fits, Bool.not_true, Bool.false_eq_true,
    ↓reduceIte]
  cases takeFirst (fun entry : BufferedPayload => entry.fd == fd && entry.taskId == record.taskId)
      process.payloads with
  | none => rfl
  | some found => rfl

/-- A read that returns 0 found its record empty or an entry in the list. -/
theorem Process.readCompletionPayload_ok {bytes : List UInt8}
    (read : (process.readCompletionPayload fd record capacity).1 = .ok bytes) :
    bytes = [] ∨ record.carriesPayload = true ∧ record.payloadLength ≠ 0 ∧
      record.payloadLength.toNat ≤ capacity ∧
      ∃ entry, process.keptPayload fd record.taskId = some entry ∧ entry.payload = bytes := by
  cases carries : record.carriesPayload with
  | false =>
      unfold readCompletionPayload at read
      rw [CompletionRecord.carriesPayload] at carries
      simp only [carries, Bool.not_false, ↓reduceIte, reduceCtorEq] at read
  | true =>
      by_cases announced : record.payloadLength = 0
      · unfold readCompletionPayload at read
        rw [CompletionRecord.carriesPayload] at carries
        simp only [carries, announced, Bool.not_true, Bool.false_eq_true, ↓reduceIte,
          Except.ok.injEq] at read
        exact Or.inl read.symm
      · by_cases fits : record.payloadLength.toNat ≤ capacity
        · rw [readCompletionPayload_found carries announced fits] at read
          cases kept : process.keptPayload fd record.taskId with
          | none =>
              rw [kept] at read
              cases read
          | some entry =>
              rw [kept] at read
              cases read
              exact Or.inr ⟨rfl, announced, fits, entry, rfl, rfl⟩
        · unfold readCompletionPayload at read
          rw [CompletionRecord.carriesPayload] at carries
          simp only [carries, announced, Nat.not_le.mp fits, Bool.not_true, Bool.false_eq_true,
            ↓reduceIte, reduceCtorEq] at read

/-- A call that returns 0 has copied at most `buf_capacity` bytes exactly when it does not
overrun. -/
theorem within_iff_not_overruns (process : Process) (call : PayloadCall) :
    (∀ bytes, (process.readPayload call).1 = .ok bytes → bytes.length ≤ call.capacity) ↔
      ¬ call.Overruns process := by
  constructor
  · rintro within ⟨valid, length, buf, record, given, carries, announced, fits, entry, kept, long⟩
    have read : (process.readPayload call).1 = .ok entry.payload := by
      unfold Process.readPayload
      simp only [given, length, Int32.not_lt.mpr valid, decide_false, Bool.not_true,
        Bool.or_self, Bool.false_eq_true, ↓reduceIte, PayloadCall.room, buf]
      rw [Process.readCompletionPayload_found carries announced fits, kept]
    exact Nat.not_le.mpr long (within entry.payload read)
  · intro within bytes read
    unfold Process.readPayload at read
    cases given : call.completion with
    | none =>
        simp only [given, reduceCtorEq] at read
    | some record =>
        simp only [given] at read
        split at read
        · cases read
        · rename_i valid
          simp only [Bool.or_eq_true, decide_eq_true_eq, Bool.not_eq_true', not_or, Int32.not_lt,
            Bool.not_eq_false] at valid
          rcases Process.readCompletionPayload_ok read with
            rfl | ⟨carries, announced, fits, entry, kept, rfl⟩
          · exact Nat.zero_le _
          · by_contra long
            have buf : call.buf = true := by
              by_contra none
              rw [PayloadCall.room, if_neg none] at fits
              exact announced (UInt16.toNat_inj.mp (Nat.le_zero.mp fits))
            rw [PayloadCall.room, if_pos buf] at fits
            exact within ⟨valid.1, valid.2, buf, record, given, carries, announced, fits, entry,
              kept, Nat.not_le.mp long⟩

end Reads

namespace Caller

variable {caller : Caller} {fd : Fd} {events : List Event} {record : CompletionRecord}

/-- As long as a number gets a new connection only when nothing of the earlier one is left in
the lists and the system calls go well, a read with a record that a wait on the current
connection returned copies as many bytes as the record announces, and they fit. -/
theorem returned_record_in_step (ran : run step fresh events = .ok caller)
    (clean : Along step Clean fresh events)
    (undisturbed : ∀ event ∈ events, event.Undisturbed) (returned : record ∈ caller.returned fd)
    (capacity : Nat) (bytes : List UInt8)
    (read : (caller.process.readCompletionPayload fd record capacity).1 = .ok bytes) :
    bytes = [] ∨ bytes.length = record.payloadLength.toNat ∧ bytes.length ≤ capacity := by
  have tracks : caller.Tracks := (clean.with_mem undisturbed).preserves
    (fun _ _ _ kept holds happened => holds.stepped kept.1 kept.2 happened) tracks_fresh ran
  obtain ⟨back, buffered, unread, tracked⟩ := tracks fd
  rcases readCompletionPayload_cases tracked record capacity with found | ⟨result, empty, same⟩
  · obtain ⟨delivery, member, process, -, task, taken, -⟩ := found
    have noted : record ∈ back.map Delivery.record := tracked.returned ▸ returned
    obtain ⟨other, behind, rfl⟩ := List.mem_map.mp noted
    -- one completion of a connection has the task id, so the entry is that of the record
    obtain rfl : delivery = other := delivery_unique tracked (sent_of_returned tracked member)
      (sent_of_returned tracked behind) task
    rw [taken] at read
    cases read
    have length := (tracked.valid delivery (sent_of_returned tracked member)).2
    rcases Process.readCompletionPayload_ok (congrArg Prod.fst taken) with
      nothing | ⟨-, -, fits, -⟩
    · exact Or.inl nothing
    · exact Or.inr ⟨length, length ▸ fits⟩
  · rw [same] at read
    exact Or.inl (empty bytes read)

/-- So does a call with such a record, whatever its other arguments are. -/
theorem returned_call_in_step {call : PayloadCall} (ran : run step fresh events = .ok caller)
    (clean : Along step Clean fresh events)
    (undisturbed : ∀ event ∈ events, event.Undisturbed) (given : call.completion = some record)
    (returned : record ∈ caller.returned call.fd) (bytes : List UInt8)
    (read : (caller.process.readPayload call).1 = .ok bytes) :
    (bytes = [] ∨ bytes.length = record.payloadLength.toNat) ∧ bytes.length ≤ call.capacity := by
  unfold Process.readPayload at read
  simp only [given] at read
  split at read
  · cases read
  · have room : call.room ≤ call.capacity := by
      unfold PayloadCall.room
      split
      · exact Nat.le_refl _
      · exact Nat.zero_le _
    rcases returned_record_in_step ran clean undisturbed returned call.room bytes read with
      rfl | ⟨length, fits⟩
    · exact ⟨Or.inl rfl, Nat.zero_le _⟩
    · exact ⟨Or.inr length, Nat.le_trans fits room⟩

end Caller

/-- A call that returns 0 has copied at most `buf_capacity` bytes, for every content of the list
and all arguments, exactly when it does not overrun: when the oldest payload kept under the
number and the task id is no longer than the buffer, unless the record is refused anyway. Along
the runs in which nothing of an earlier connection is left when its number is reused and the
system calls go well, a call with a record that a wait on the current connection returned does
not, and what it copies is what the record announces. -/
theorem readPayload_within_iff (process : Process) (call : PayloadCall) :
    ((∀ bytes, (process.readPayload call).1 = .ok bytes → bytes.length ≤ call.capacity) ↔
      ¬ call.Overruns process) ∧
    ∀ events caller record, run Caller.step .fresh events = .ok caller →
      Along Caller.step Caller.Clean .fresh events → (∀ event ∈ events, event.Undisturbed) →
      caller.process = process → call.completion = some record →
      record ∈ caller.returned call.fd → ¬ call.Overruns process ∧
        ∀ bytes, (process.readPayload call).1 = .ok bytes →
          bytes = [] ∨ bytes.length = record.payloadLength.toNat := by
  refine ⟨within_iff_not_overruns process call, ?_⟩
  rintro events caller record ran clean undisturbed rfl given returned
  have kept := Caller.returned_call_in_step ran clean undisturbed given returned
  refine ⟨(within_iff_not_overruns caller.process call).mp ?_, ?_⟩
  · intro bytes read
    exact (kept bytes read).2
  · intro bytes read
    exact (kept bytes read).1

namespace Caller

/-- A read of four bytes, task 1. -/
def longRead : Delivery :=
  ⟨⟨wireMagic, protocolMajor, protocolMinor, 1, 4, RequestKind.sockRead.toWire, 4⟩,
    [104, 101, 121, 33]⟩

/-- A read of one byte, task 1. -/
def shortRead : Delivery :=
  ⟨⟨wireMagic, protocolMajor, protocolMinor, 1, 1, RequestKind.sockRead.toWire, 1⟩, [104]⟩

/-- A completion comes on a connection and is waited for. -/
def waitedFor : List Event := [.sends 3 [longRead], .wait 3 .smooth]

/-- A read with its record, into a larger buffer. -/
def readLong : PayloadCall := ⟨3, some longRead.record, true, 9, true⟩

theorem readPayload_within_waited_for :
    ∃ caller, run step fresh waitedFor = .ok caller ∧
      (caller.process.readPayload readLong).1 = .ok longRead.payload ∧
      ¬ readLong.Overruns caller.process ∧
      longRead.payload.length = longRead.record.payloadLength.toNat := by
  have seen : ((run step fresh waitedFor).toOption.map fun caller =>
      (caller.returned 3, (caller.process.readPayload readLong).1.toOption)) =
      some ([longRead.record], some longRead.payload) := by decide +kernel
  have checked : checkAlong step (fun caller event => decide (caller.Clean event)) fresh
      waitedFor = true := by decide +kernel
  obtain ⟨caller, ran, both⟩ := exists_of_toOption_map seen
  obtain ⟨returned, copied⟩ := Prod.mk.inj both
  have clean := along_of_checkAlong checked
  simp only [decide_eq_true_eq] at clean
  have read := ok_of_toOption copied
  have undisturbed : ∀ event ∈ waitedFor, event.Undisturbed := by decide
  obtain ⟨within, announced⟩ := (readPayload_within_iff caller.process readLong).2 waitedFor
    caller longRead.record ran clean undisturbed rfl rfl (returned ▸ List.mem_cons_self)
  refine ⟨caller, ran, read, within, ?_⟩
  rcases announced longRead.payload read with nothing | length
  · cases nothing
  · exact length

/-- The first completion of a connection is waited for and its payload left; the number goes to
a new connection, whose first task has the same id. -/
def reusedOverPayload : List Event :=
  [.sends 3 [longRead], .wait 3 .smooth, .connect 3, .sends 3 [shortRead], .wait 3 .smooth]

/-- A read with the record the wait has just returned, into a buffer of its length. -/
def readShort : PayloadCall := ⟨3, some shortRead.record, true, 1, true⟩

/-- The read returns 0 and has copied four bytes into one. -/
theorem payload_read_overruns :
    ∃ caller, run step fresh reusedOverPayload = .ok caller ∧
      caller.returned 3 = [shortRead.record] ∧ readShort.capacity = 1 ∧
      (caller.process.readPayload readShort).1 = .ok longRead.payload ∧
      ¬ ∀ bytes, (caller.process.readPayload readShort).1 = .ok bytes →
        bytes.length ≤ readShort.capacity := by
  have seen : ((run step fresh reusedOverPayload).toOption.map fun caller =>
      decide (caller.returned 3 = [shortRead.record] ∧
        (caller.process.readPayload readShort).1.toOption = some longRead.payload)) =
      some true := by decide +kernel
  obtain ⟨caller, ran, both⟩ := exists_of_toOption_map seen
  obtain ⟨returned, copied⟩ := of_decide_eq_true both
  have read := ok_of_toOption copied
  refine ⟨caller, ran, returned, rfl, read, fun within => ?_⟩
  exact absurd (within longRead.payload read) (by decide)

end Caller

end Iouringd
