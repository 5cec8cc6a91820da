import Iouringd.Daemon.Output
import Iouringd.Lib.Requests

/-! # Writing a request to its socket

A call of the library sends its request with `write_full`, or with `write_iov_full` when a
payload of the caller follows the struct. The second keeps one offset into each of the two
parts and offers the socket what is left of both; it does to the stream what the first would
do with the two parts copied into one buffer.
-/

namespace Iouringd

open Foundation

/-- How far a sending loop got: it waits for its next `sendmsg`, returned 0, or returned -1. -/
inductive SendStatus where
  | pending
  | done
  | failed (errno : Errno)
  deriving DecidableEq, Repr

/-- What a sending loop did: the bytes the socket took and how far it got. -/
structure Sending where
  accepted : List UInt8
  status : SendStatus
  deriving DecidableEq, Repr

/-- The sending goes on behind bytes the socket took. -/
def Sending.behind (sending : Sending) (bytes : List UInt8) : Sending :=
  { sending with accepted := bytes ++ sending.accepted }

/-- `write_full`, with what its `send` calls return. -/
def writeFull (bytes : List UInt8) (offset : Nat) : List WriteOutcome → Sending
  | [] => if offset < bytes.length then ⟨[], .pending⟩ else ⟨[], .done⟩
  | outcome :: rest =>
      if offset < bytes.length then
        match outcome with
        | .interrupted => writeFull bytes offset rest
        | .again => ⟨[], .failed EAGAIN⟩
        | .failed errno => ⟨[], .failed errno⟩
        | .wrote count =>
            let accepted := min count (bytes.length - offset)
            if accepted = 0 then ⟨[], .failed EPIPE⟩
            else
              (writeFull bytes (offset + accepted) rest).behind
                ((bytes.drop offset).take accepted)
      else ⟨[], .done⟩

/-- The vector `write_iov_full` offers: what is left of either part, if anything is. -/
def scatter (first second : List UInt8) (firstOffset secondOffset : Nat) : List (List UInt8) :=
  (if firstOffset < first.length then [first.drop firstOffset] else []) ++
    if secondOffset < second.length then [second.drop secondOffset] else []

/-- `write_iov_full`. A `sendmsg` takes its bytes from the front of the vector. -/
def writeIovFull (first second : List UInt8) (firstOffset secondOffset : Nat) :
    List WriteOutcome → Sending
  | [] =>
      if firstOffset < first.length ∨ secondOffset < second.length then ⟨[], .pending⟩
      else ⟨[], .done⟩
  | outcome :: rest =>
      if firstOffset < first.length ∨ secondOffset < second.length then
        match outcome with
        | .interrupted => writeIovFull first second firstOffset secondOffset rest
        | .again => ⟨[], .failed EAGAIN⟩
        | .failed errno => ⟨[], .failed errno⟩
        | .wrote count =>
            let offered := (scatter first second firstOffset secondOffset).flatten
            let accepted := min count offered.length
            if accepted = 0 then ⟨[], .failed EPIPE⟩
            else if accepted ≤ first.length - firstOffset then
              (writeIovFull first second (firstOffset + accepted) secondOffset rest).behind
                (offered.take accepted)
            else
              (writeIovFull first second first.length
                (secondOffset + (accepted - (first.length - firstOffset))) rest).behind
                (offered.take accepted)
      else ⟨[], .done⟩

section Scatter

variable {first second : List UInt8} {firstOffset secondOffset : Nat}

/-- The two offsets stand for one position in the concatenation: nothing of the second part is
sent before the first is through. -/
def InOrder (first second : List UInt8) (firstOffset secondOffset : Nat) : Prop :=
  firstOffset ≤ first.length ∧ secondOffset ≤ second.length ∧
    (firstOffset < first.length → secondOffset = 0)

namespace InOrder

/-- The loop runs as long as the concatenation is not through. -/
theorem runs_iff (order : InOrder first second firstOffset secondOffset) :
    (firstOffset < first.length ∨ secondOffset < second.length) ↔
      firstOffset + secondOffset < (first ++ second).length := by
  obtain ⟨inFirst, inSecond, waits⟩ := order
  rw [List.length_append]
  constructor
  · rintro (inside | inside)
    · rw [waits inside]
      omega
    · by_cases before : firstOffset < first.length
      · rw [waits before]
        omega
      · omega
  · omega

/-- What is offered is the rest of the concatenation. -/
theorem flatten_scatter (order : InOrder first second firstOffset secondOffset) :
    (scatter first second firstOffset secondOffset).flatten =
      (first ++ second).drop (firstOffset + secondOffset) := by
  obtain ⟨inFirst, -, waits⟩ := order
  have left : ∀ (bytes : List UInt8) (offset : Nat),
      (if offset < bytes.length then [bytes.drop offset] else []).flatten = bytes.drop offset := by
    intro bytes offset
    split
    · rw [List.flatten_singleton]
    · rename_i through
      rw [List.flatten_nil, List.drop_eq_nil_of_le (Nat.not_lt.mp through)]
  rw [scatter, List.flatten_append, left, left, List.drop_append]
  by_cases inside : firstOffset < first.length
  · rw [waits inside, Nat.add_zero, Nat.sub_eq_zero_of_le (Nat.le_of_lt inside)]
  · have through : firstOffset = first.length := Nat.le_antisymm inFirst (Nat.not_lt.mp inside)
    rw [through, Nat.add_sub_cancel_left, List.drop_length, List.nil_append,
      List.drop_eq_nil_of_le (Nat.le_add_right _ _), List.nil_append]

/-- A count that ends in the first part. -/
theorem advance_first {count : Nat} (order : InOrder first second firstOffset secondOffset)
    (fits : count ≤ first.length - firstOffset) :
    InOrder first second (firstOffset + count) secondOffset := by
  obtain ⟨inFirst, inSecond, waits⟩ := order
  exact ⟨by omega, inSecond, fun still => waits (by omega)⟩

/-- A count that ends in the second part. -/
theorem advance_second {count : Nat} (order : InOrder first second firstOffset secondOffset)
    (fits : count ≤ (first ++ second).length - (firstOffset + secondOffset))
    (beyond : first.length - firstOffset < count) :
    InOrder first second first.length
      (secondOffset + (count - (first.length - firstOffset))) := by
  obtain ⟨inFirst, inSecond, -⟩ := order
  rw [List.length_append] at fits
  exact ⟨Nat.le_refl _, by omega, fun still => absurd still (Nat.lt_irrefl _)⟩

end InOrder

/-- Scattered over two parts or copied into one buffer: the socket sees the same. -/
theorem writeIovFull_eq_writeFull (order : InOrder first second firstOffset secondOffset)
    (outcomes : List WriteOutcome) :
    writeIovFull first second firstOffset secondOffset outcomes =
      writeFull (first ++ second) (firstOffset + secondOffset) outcomes := by
  induction outcomes generalizing firstOffset secondOffset with
  | nil =>
      unfold writeIovFull writeFull
      simp only [order.runs_iff]
  | cons outcome rest ih =>
      unfold writeIovFull writeFull
      simp only [order.runs_iff, order.flatten_scatter, List.length_drop]
      split
      · cases outcome with
        | interrupted => exact ih order
        | again => rfl
        | failed errno => rfl
        | wrote count =>
            dsimp only
            generalize counted :
              min count ((first ++ second).length - (firstOffset + secondOffset)) = accepted
            have within : accepted ≤ (first ++ second).length - (firstOffset + secondOffset) := by
              rw [← counted]
              exact Nat.min_le_right _ _
            split
            · rfl
            · split
              · rename_i fits
                rw [ih (order.advance_first fits), Nat.add_right_comm]
              · rename_i beyond
                have behind : first.length - firstOffset < accepted := Nat.not_le.mp beyond
                have position : first.length +
                    (secondOffset + (accepted - (first.length - firstOffset))) =
                      firstOffset + secondOffset + accepted := by
                  have inFirst := order.1
                  omega
                rw [ih (order.advance_second within behind), position]
      · rfl

end Scatter

/-- The bytes the socket took are the first of those that were `left` to send, and all of them
exactly when the call returned 0. -/
structure Sending.Sends (sending : Sending) (left : List UInt8) : Prop where
  accepted : sending.accepted <+: left
  done_iff : sending.status = .done ↔ sending.accepted = left

namespace Sending.Sends

/-- A loop that stops early has not sent the bytes that are left. -/
theorem stopped {left : List UInt8} {status : SendStatus} (more : left ≠ [])
    (other : status ≠ .done) : Sends ⟨[], status⟩ left :=
  ⟨List.nil_prefix, fun done => absurd done other, fun through => absurd through.symm more⟩

theorem finished : Sends ⟨[], .done⟩ [] := ⟨List.prefix_refl _, iff_of_true rfl rfl⟩

theorem behind {sending : Sending} {left : List UInt8} (sends : sending.Sends left)
    (bytes : List UInt8) : (sending.behind bytes).Sends (bytes ++ left) := by
  refine ⟨List.prefix_append_right_inj bytes |>.mpr sends.accepted, ?_⟩
  exact sends.done_iff.trans (List.append_right_inj bytes).symm

end Sending.Sends

/-- An answer of `sendmsg` that is no failure: it took at least one byte, or was interrupted. -/
def WriteOutcome.graceful : WriteOutcome → Bool
  | .wrote count => decide (1 ≤ count)
  | .interrupted => true
  | _ => false

section Loop

variable {bytes : List UInt8} {offset : Nat} {outcomes : List WriteOutcome}

/-- A loop over one buffer sends it from the offset on. -/
theorem writeFull_sends (bytes : List UInt8) (offset : Nat) (outcomes : List WriteOutcome) :
    (writeFull bytes offset outcomes).Sends (bytes.drop offset) := by
  have more : ∀ {offset}, offset < bytes.length → bytes.drop offset ≠ [] :=
    fun inside nothing => Nat.not_le.mpr inside (List.drop_eq_nil_iff.mp nothing)
  have through : ∀ {offset}, ¬ offset < bytes.length →
      Sending.Sends ⟨[], .done⟩ (bytes.drop offset) := by
    intro offset outside
    rw [List.drop_eq_nil_of_le (Nat.not_lt.mp outside)]
    exact .finished
  induction outcomes generalizing offset with
  | nil =>
      unfold writeFull
      split
      · rename_i inside
        exact .stopped (more inside) nofun
      · rename_i outside
        exact through outside
  | cons outcome rest ih =>
      unfold writeFull
      split
      · rename_i inside
        cases outcome with
        | interrupted => exact ih offset
        | again => exact .stopped (more inside) nofun
        | failed errno => exact .stopped (more inside) nofun
        | wrote count =>
            dsimp only
            split
            · exact .stopped (more inside) nofun
            · generalize min count (bytes.length - offset) = accepted
              have later := (ih (offset + accepted)).behind ((bytes.drop offset).take accepted)
              rw [← List.drop_drop, List.take_append_drop] at later
              exact later
      · rename_i outside
        exact through outside

/-- Answers that are no failures never end the loop with -1, and while it waits for more, every
one of them that was not an interruption took a byte. -/
theorem writeFull_graceful (graceful : ∀ outcome ∈ outcomes, outcome.graceful = true) :
    (∀ errno, (writeFull bytes offset outcomes).status ≠ .failed errno) ∧
      ((writeFull bytes offset outcomes).status = .pending →
        outcomes.countP (· != .interrupted) ≤
          (writeFull bytes offset outcomes).accepted.length) := by
  induction outcomes generalizing offset with
  | nil =>
      refine ⟨fun errno => ?_, fun _ => Nat.zero_le _⟩
      unfold writeFull
      split
      · nofun
      · nofun
  | cons outcome rest ih =>
      have later := fun other member => graceful other (List.mem_cons_of_mem outcome member)
      unfold writeFull
      split
      · rename_i inside
        cases outcome with
        | interrupted =>
            obtain ⟨sound, counted⟩ := @ih offset later
            refine ⟨sound, fun pending => ?_⟩
            rw [List.countP_cons_of_neg (by decide)]
            exact counted pending
        | again => cases graceful _ List.mem_cons_self
        | failed errno => cases graceful _ List.mem_cons_self
        | wrote count =>
            have some : 1 ≤ count := of_decide_eq_true (graceful _ List.mem_cons_self)
            dsimp only
            split
            · rename_i none
              omega
            · rename_i took
              generalize counts : min count (bytes.length - offset) = accepted at took ⊢
              obtain ⟨sound, counted⟩ := @ih (offset + accepted) later
              refine ⟨sound, fun pending => ?_⟩
              have fewer := counted pending
              have length : ((bytes.drop offset).take accepted).length = accepted := by
                rw [List.length_take, List.length_drop]
                omega
              rw [List.countP_cons_of_pos (by rfl), Sending.behind, List.length_append, length]
              omega
      · exact ⟨fun errno => nofun, fun pending => nomatch pending⟩

end Loop

section Whole

variable (first second : List UInt8) (outcomes : List WriteOutcome)

/-- From its start `write_iov_full` is `write_full` of the two parts in one buffer. -/
theorem writeIovFull_start :
    writeIovFull first second 0 0 outcomes = writeFull (first ++ second) 0 outcomes :=
  writeIovFull_eq_writeFull ⟨Nat.zero_le _, Nat.zero_le _, fun _ => rfl⟩ outcomes

/-- Whatever `sendmsg` answers, the socket takes a prefix of the two parts in their order, and
`write_iov_full` returns 0 exactly when that is all of them. When every answer takes at least
one byte or is an interruption, it does not return -1, and it returns 0 at the latest after as
many answers that are no interruptions as there are bytes. -/
theorem writeIovFull_complete :
    (writeIovFull first second 0 0 outcomes).accepted <+: first ++ second ∧
      ((writeIovFull first second 0 0 outcomes).status = .done ↔
        (writeIovFull first second 0 0 outcomes).accepted = first ++ second) ∧
      ((∀ outcome ∈ outcomes, outcome.graceful = true) →
        (∀ errno, (writeIovFull first second 0 0 outcomes).status ≠ .failed errno) ∧
          (first.length + second.length ≤ outcomes.countP (· != .interrupted) →
            (writeIovFull first second 0 0 outcomes).status = .done)) := by
  rw [writeIovFull_start]
  have sends := writeFull_sends (first ++ second) 0 outcomes
  rw [List.drop_zero] at sends
  refine ⟨sends.accepted, sends.done_iff, fun graceful => ?_⟩
  obtain ⟨sound, counted⟩ := @writeFull_graceful (first ++ second) 0 outcomes graceful
  refine ⟨sound, fun enough => ?_⟩
  cases status : (writeFull (first ++ second) 0 outcomes).status with
  | done => rfl
  | failed errno => exact absurd status (sound errno)
  | pending =>
      -- a loop that still waits has sent at least as many bytes as there are
      have taken := counted status
      have length : (first ++ second).length ≤
          (writeFull (first ++ second) 0 outcomes).accepted.length := by
        rw [List.length_append]
        exact Nat.le_trans enough taken
      have all := sends.done_iff.mpr (sends.accepted.eq_of_length_le length)
      rw [status] at all
      cases all

/-- One answer across the seam of the two parts. -/
theorem writeIovFull_complete_across :
    (writeIovFull [1] [2] 0 0 [.interrupted, .wrote 2, .wrote 7]).status = .done ∧
      (writeIovFull [1] [2] 0 0 [.interrupted, .wrote 2, .wrote 7]).accepted = [1, 2] := by
  obtain ⟨-, finished, returns⟩ :=
    writeIovFull_complete [1] [2] [.interrupted, .wrote 2, .wrote 7]
  have done := (returns (by decide)).2 (by decide)
  exact ⟨done, finished.mp done⟩

end Whole

/-- What SOCK_WRITE and FILE_WRITE are taken to have put on the connection is what they have
sent when `write_iov_full` returns 0, and what they sent before that is a prefix of it. -/
theorem submitWriteResult_sends {kind : RequestKind} {fd : Fd} {resource : ResourceId}
    {buf : Memory} {length : UInt32} {written : Written}
    (wrote : submitWriteResult kind fd resource (some buf) length = .ok written)
    (outcomes : List WriteOutcome) :
    (writeIovFull (IoRequest.encode ⟨initSubmitHeader kind, resource, length⟩)
      (buf.read 0 length.toNat) 0 0 outcomes).Sends written.bytes := by
  obtain ⟨-, rfl⟩ := checked_ok wrote
  rw [writeIovFull_start]
  exact writeFull_sends _ 0 outcomes

end Iouringd
