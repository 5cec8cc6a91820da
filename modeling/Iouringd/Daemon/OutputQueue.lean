import Iouringd.Daemon.Output

/-! # The output queue as a byte stream

Over a whole connection the output buffer is a queue of bytes with a bounded capacity:
whatever the order of queue and flush calls and however little the socket takes at a time,
the bytes the socket took followed by the unsent ones are the queued messages in order.
-/

namespace Iouringd

open Foundation

/-- A call on the output queue of a connection. -/
inductive OutputCall where
  | queue (bytes : List UInt8)
  | flush (writes : List WriteOutcome)
  deriving DecidableEq, Repr

/-- What the calls so far did: the bytes the socket took and the messages that were
queued. -/
structure OutputLog where
  written : List UInt8
  queued : List (List UInt8)
  deriving DecidableEq, Repr

def OutputLog.empty : OutputLog := ⟨[], []⟩

/-- One call on the queue, with its notes. -/
def outputStep (state : Client × OutputLog) : OutputCall → Client × OutputLog
  | .queue bytes =>
      match queueClientOutput state.1 bytes with
      | (client, none) => (client, { state.2 with queued := state.2.queued ++ [bytes] })
      | (client, some _) => (client, state.2)
  | .flush writes =>
      let (client, written, _) := flushClientOutput state.1 writes
      (client, { state.2 with written := state.2.written ++ written })

/-- The output buffer of a connection that was just opened. -/
def Client.emptyOutput (client : Client) : Client := { client with output := [], outputSent := 0 }

/-- The bounds of the buffer. -/
structure Bounded (client : Client) : Prop where
  sent : client.outputSent ≤ client.output.length
  room : client.output.length ≤ client.outputCapacity

section Calls

variable {client : Client}

theorem length_pendingOutput (client : Client) :
    client.pendingOutput.length = client.output.length - client.outputSent :=
  List.length_drop

/-- A message is refused exactly when it does not fit behind the unsent bytes. -/
theorem Bounded.queue_refuses_iff (bounded : Bounded client) (bytes : List UInt8) :
    (queueClientOutput client bytes).2 ≠ none ↔
      client.outputCapacity < client.pendingOutput.length + bytes.length := by
  have length := length_pendingOutput client
  have room := bounded.room
  have fits : client.pendingOutput.length ≤ client.outputCapacity := by omega
  rw [queueClientOutput_eq, sizeSub_eq fits]
  split
  · simp only [ne_eq, reduceCtorEq, not_false_eq_true, true_iff]
    omega
  · simp only [ne_eq, not_true_eq_false, false_iff, Nat.not_lt]
    omega

/-- A refusal leaves the unsent bytes alone. -/
theorem queue_refused_pending {bytes : List UInt8}
    (refused : (queueClientOutput client bytes).2 ≠ none) :
    (queueClientOutput client bytes).1.pendingOutput = client.pendingOutput := by
  rw [queueClientOutput_eq] at refused ⊢
  split at refused
  · rename_i large
    rw [if_pos large, Client.compactOutput_eq]
    rfl
  · exact absurd rfl refused

/-- A message that is taken comes behind the unsent bytes. -/
theorem queue_taken_eq {bytes : List UInt8} (taken : (queueClientOutput client bytes).2 = none) :
    (queueClientOutput client bytes).1 = client.appendOutput bytes := by
  rw [queueClientOutput_eq] at taken ⊢
  split at taken
  · cases taken
  · rename_i small
    rw [if_neg small]

theorem Bounded.queued (bounded : Bounded client) (bytes : List UInt8) :
    Bounded (queueClientOutput client bytes).1 ∧
      (queueClientOutput client bytes).1.outputCapacity = client.outputCapacity := by
  have refuses := bounded.queue_refuses_iff bytes
  have length := length_pendingOutput client
  have room := bounded.room
  by_cases taken : (queueClientOutput client bytes).2 = none
  · rw [queue_taken_eq taken]
    refine ⟨⟨Nat.zero_le _, ?_⟩, rfl⟩
    have fits := mt refuses.mpr (not_not.mpr taken)
    change (client.pendingOutput ++ bytes).length ≤ client.outputCapacity
    rw [List.length_append]
    omega
  · have compacted : (queueClientOutput client bytes).1 = client.compactOutput := by
      rw [queueClientOutput_eq] at taken ⊢
      split at taken
      · rename_i large
        rw [if_pos large]
      · exact absurd rfl taken
    rw [compacted, Client.compactOutput_eq]
    refine ⟨⟨Nat.zero_le _, ?_⟩, rfl⟩
    change client.pendingOutput.length ≤ client.outputCapacity
    omega

/-- A flush moves bytes from the front of the unsent ones to the socket. -/
theorem Bounded.flushed (bounded : Bounded client) (writes : List WriteOutcome) :
    Bounded (flushClientOutput client writes).1 ∧
      (flushClientOutput client writes).1.outputCapacity = client.outputCapacity ∧
      (flushClientOutput client writes).2.1 ++ (flushClientOutput client writes).1.pendingOutput =
        client.pendingOutput := by
  induction writes generalizing client with
  | nil =>
      unfold flushClientOutput
      split
      · exact ⟨bounded, rfl, rfl⟩
      · rename_i drained
        refine ⟨⟨Nat.le_refl _, Nat.zero_le _⟩, rfl, ?_⟩
        exact (List.drop_eq_nil_of_le (Nat.not_lt.mp drained)).symm
  | cons outcome rest ih =>
      unfold flushClientOutput
      split
      · rename_i unsent
        cases outcome with
        | again => exact ⟨bounded, rfl, rfl⟩
        | failed errno => exact ⟨bounded, rfl, rfl⟩
        | interrupted => exact ih bounded
        | wrote count =>
            dsimp only
            split
            · exact ⟨bounded, rfl, rfl⟩
            · have within : min count (client.output.length - client.outputSent) ≤
                  client.output.length - client.outputSent := Nat.min_le_right _ _
              generalize min count (client.output.length - client.outputSent) = accepted at within ⊢
              have moved : Bounded { client with
                  outputSent := client.outputSent + accepted } := by
                refine ⟨?_, bounded.room⟩
                change client.outputSent + accepted ≤ client.output.length
                omega
              obtain ⟨after, capacity, stream⟩ := ih moved
              refine ⟨after, capacity, ?_⟩
              rw [List.append_assoc, stream]
              change (client.output.drop client.outputSent).take accepted ++
                client.output.drop (client.outputSent + accepted) = _
              rw [← List.drop_drop, List.take_append_drop]
              rfl
      · rename_i drained
        refine ⟨⟨Nat.le_refl _, Nat.zero_le _⟩, rfl, ?_⟩
        exact (List.drop_eq_nil_of_le (Nat.not_lt.mp drained)).symm

end Calls

/-- The bounds hold, and what was written and what is unsent are what was queued. -/
structure Streams (capacity : Nat) (state : Client × OutputLog) : Prop where
  bounded : Bounded state.1
  capacity : state.1.outputCapacity = capacity
  stream : state.2.written ++ state.1.pendingOutput = state.2.queued.flatten

theorem Streams.step {capacity : Nat} {state : Client × OutputLog}
    (streams : Streams capacity state) (call : OutputCall) :
    Streams capacity (outputStep state call) := by
  cases call with
  | queue bytes =>
      obtain ⟨bounded, same⟩ := streams.bounded.queued bytes
      cases result : queueClientOutput state.1 bytes with
      | mk client error =>
          rw [result] at bounded same
          cases error with
          | none =>
              have taken := @queue_taken_eq state.1 bytes (by rw [result])
              rw [result] at taken
              change client = _ at taken
              simp only [outputStep, result]
              refine ⟨bounded, same.trans streams.capacity, ?_⟩
              change state.2.written ++ client.pendingOutput = (state.2.queued ++ [bytes]).flatten
              rw [taken, Client.pendingOutput_appendOutput, ← List.append_assoc, streams.stream,
                List.flatten_append, List.flatten_singleton]
          | some errno =>
              have pending := @queue_refused_pending state.1 bytes (by rw [result]; nofun)
              rw [result] at pending
              change client.pendingOutput = _ at pending
              simp only [outputStep, result]
              refine ⟨bounded, same.trans streams.capacity, ?_⟩
              change state.2.written ++ client.pendingOutput = _
              rw [pending, streams.stream]
  | flush writes =>
      obtain ⟨bounded, same, stream⟩ := streams.bounded.flushed writes
      refine ⟨bounded, same.trans streams.capacity, ?_⟩
      change (state.2.written ++ (flushClientOutput state.1 writes).2.1) ++
        (flushClientOutput state.1 writes).1.pendingOutput = _
      rw [List.append_assoc, stream, streams.stream]
      rfl

theorem Streams.calls {capacity : Nat} {state : Client × OutputLog}
    (streams : Streams capacity state) (calls : List OutputCall) :
    Streams capacity (calls.foldl outputStep state) := by
  induction calls generalizing state with
  | nil => exact streams
  | cons call rest ih => exact ih (streams.step call)

/-- After every sequence of queue and flush calls on a connection the buffer is within its
bounds, the bytes written so far followed by the unsent ones are the messages that were
queued, a further message is refused exactly when it and the unsent bytes exceed the
capacity, and a refusal leaves the unsent bytes as they are. -/
theorem output_queue_fifo (client : Client) (calls : List OutputCall) :
    let state := calls.foldl outputStep (client.emptyOutput, .empty)
    state.1.outputSent ≤ state.1.output.length ∧
    state.1.output.length ≤ state.1.outputCapacity ∧
    state.1.outputCapacity = client.outputCapacity ∧
    state.2.written ++ state.1.pendingOutput = state.2.queued.flatten ∧
    ∀ bytes, ((queueClientOutput state.1 bytes).2 ≠ none ↔
        client.outputCapacity < state.1.pendingOutput.length + bytes.length) ∧
      ((queueClientOutput state.1 bytes).2 ≠ none →
        (queueClientOutput state.1 bytes).1.pendingOutput = state.1.pendingOutput) := by
  have start : Streams client.outputCapacity (client.emptyOutput, .empty) :=
    ⟨⟨Nat.le_refl _, Nat.zero_le _⟩, rfl, rfl⟩
  have streams := start.calls calls
  refine ⟨streams.bounded.sent, streams.bounded.room, streams.capacity, streams.stream, ?_⟩
  intro bytes
  refine ⟨?_, queue_refused_pending⟩
  rw [streams.bounded.queue_refuses_iff, streams.capacity]

end Iouringd
