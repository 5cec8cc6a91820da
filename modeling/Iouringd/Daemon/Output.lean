import Iouringd.Daemon.State

/-! # Output queues

`iouringd_queue_client_output` and `iouringd_flush_client_output`. A queue call
first moves the unsent bytes to the front of the buffer, so a message is refused
exactly when the unsent bytes and the message together exceed the capacity.
-/

namespace Iouringd

open Foundation

/-- The result of one `write` on a client socket. A `write` never takes more than
it is offered. -/
inductive WriteOutcome where
  | wrote (count : Nat)
  | again
  | interrupted
  | failed (errno : Errno)
  deriving DecidableEq, Repr

namespace Client

/-- Move the unsent bytes to the front of the output buffer. -/
def compactOutput (client : Client) : Client :=
  if client.outputSent = client.output.length then { client with outputSent := 0, output := [] }
  else if client.outputSent ≠ 0 then
    { client with output := client.output.drop client.outputSent, outputSent := 0 }
  else client

/-- The effect of a queue call that succeeds. -/
def appendOutput (client : Client) (bytes : List UInt8) : Client :=
  { client with output := client.pendingOutput ++ bytes, outputSent := 0 }

end Client

/-- `iouringd_queue_client_output`. -/
def queueClientOutput (client : Client) (bytes : List UInt8) : Client × Option Errno :=
  let client := client.compactOutput
  if bytes.length > sizeSub client.outputCapacity client.output.length then
    (client, some EOVERFLOW)
  else ({ client with output := client.output ++ bytes }, none)

/-- `iouringd_flush_client_output`: the client afterwards, the bytes the socket took
and the error, if any. When the outcomes run out the socket takes no more. That a write to a peer
that is gone returns `EPIPE` presumes that SIGPIPE is ignored: the daemon leaves its action as it
is, and by default the signal ends the process. -/
def flushClientOutput (client : Client) : List WriteOutcome → Client × List UInt8 × Option Errno
  | [] =>
      if client.outputSent < client.output.length then (client, [], none)
      else ({ client with output := [], outputSent := 0 }, [], none)
  | outcome :: rest =>
      if client.outputSent < client.output.length then
        match outcome with
        | .wrote count =>
            let accepted := min count (client.output.length - client.outputSent)
            if accepted = 0 then (client, [], some EPIPE)
            else
              let (flushed, written, error) := flushClientOutput
                { client with outputSent := client.outputSent + accepted } rest
              (flushed, (client.output.drop client.outputSent).take accepted ++ written, error)
        | .again => (client, [], none)
        | .interrupted => flushClientOutput client rest
        | .failed errno => (client, [], some errno)
      else ({ client with output := [], outputSent := 0 }, [], none)

/-- Queue bytes on the client at `index`; a refusal ends the caller with -1. -/
def Runtime.queue (rt : Runtime) (index : Nat) (bytes : List UInt8) : Except Errno Runtime :=
  match queueClientOutput (rt.clients index) bytes with
  | (client, none) => .ok (rt.setClient index client)
  | (_, some errno) => .error errno

/-! ## What a queue call does -/

theorem Client.compactOutput_eq (client : Client) :
    client.compactOutput =
      { client with output := client.pendingOutput, outputSent := 0 } := by
  unfold compactOutput pendingOutput
  split
  · rename_i drained
    rw [drained, List.drop_length]
  · split
    · rfl
    · rename_i unsent
      have front : client.outputSent = 0 := Decidable.not_not.mp unsent
      rw [front, List.drop_zero, ← front]

@[simp] theorem Client.pendingOutput_appendOutput (client : Client) (bytes : List UInt8) :
    (client.appendOutput bytes).pendingOutput = client.pendingOutput ++ bytes := rfl

/-- Two messages queued after each other are queued as one. -/
theorem Client.appendOutput_append (client : Client) (first second : List UInt8) :
    (client.appendOutput first).appendOutput second = client.appendOutput (first ++ second) := by
  have joined : (client.appendOutput first).pendingOutput ++ second =
      client.pendingOutput ++ (first ++ second) := by
    rw [pendingOutput_appendOutput, List.append_assoc]
  unfold appendOutput at joined ⊢
  rw [joined]

/-- A queue call appends to the unsent bytes or refuses and leaves them alone. -/
theorem queueClientOutput_eq (client : Client) (bytes : List UInt8) :
    queueClientOutput client bytes =
      if bytes.length > sizeSub client.outputCapacity client.pendingOutput.length then
        (client.compactOutput, some EOVERFLOW)
      else (client.appendOutput bytes, none) := by
  simp only [queueClientOutput, Client.compactOutput_eq, Client.appendOutput]

/-- A queue call succeeds exactly when the message fits behind the unsent bytes. -/
theorem Runtime.queue_eq (rt : Runtime) (index : Nat) (bytes : List UInt8) :
    rt.queue index bytes =
      if bytes.length > sizeSub (rt.clients index).outputCapacity
          (rt.clients index).pendingOutput.length then .error EOVERFLOW
      else .ok (rt.setClient index ((rt.clients index).appendOutput bytes)) := by
  unfold queue
  rw [queueClientOutput_eq]
  by_cases large : bytes.length > sizeSub (rt.clients index).outputCapacity
      (rt.clients index).pendingOutput.length
  · simp only [large, ↓reduceIte]
  · simp only [large, ↓reduceIte]

/-- A queue call that succeeds appends its bytes. -/
theorem Runtime.queue_ok {rt next : Runtime} {index : Nat} {bytes : List UInt8}
    (queued : rt.queue index bytes = .ok next) :
    next = rt.setClient index ((rt.clients index).appendOutput bytes) := by
  rw [queue_eq] at queued
  split at queued
  · cases queued
  · cases queued
    rfl

end Iouringd
