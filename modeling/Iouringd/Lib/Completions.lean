import Iouringd.Foundation.KeyedQueue
import Iouringd.Lib.Validators

/-! # Reading replies and completions in the client library

Replies and completions arrive on one stream. A call that waits for its reply first
drains the completions in front of it into a list, from which
`iouringd_wait_completion` takes them later; their payloads then move to a second list.
Both lists are shared by all connections of the process, and an entry is known by the
number of its descriptor. What each `recv` and each `malloc` of a call returns is in a script.
-/

namespace Iouringd

open Foundation

/-- `struct buffered_completion`. -/
structure BufferedCompletion where
  fd : Fd
  completion : CompletionRecord
  payload : List UInt8
  deriving DecidableEq, Repr

/-- `struct buffered_payload`. -/
structure BufferedPayload where
  fd : Fd
  taskId : TaskId
  payload : List UInt8
  deriving DecidableEq, Repr

/-- What one `recv` returns: some bytes, EINTR, or another error. -/
inductive RecvResult where
  | bytes (count : Nat)
  | interrupted
  | failed (errno : Errno)
  deriving DecidableEq, Repr

/-- What the system calls of one call of the library return, each kind in order: the peeks, the
reads, the allocations. Those behind the end of a list go well: a `recv` finds all it asks for
that will ever come, and there is memory. -/
structure Script where
  peeks : List RecvResult
  recvs : List RecvResult
  mallocs : List Bool
  deriving DecidableEq, Repr

/-- Everything goes well. -/
def Script.smooth : Script := ⟨[], [], []⟩

/-- A process that uses the library: the two lists, what the daemon sent on each descriptor and
has not been read, and the script of the call that is under way. How much of what was sent has
arrived is in the script. -/
structure Process where
  completions : List BufferedCompletion
  payloads : List BufferedPayload
  inbox : Fd → List UInt8
  script : Script

/-- The lists are empty and nothing was sent. -/
def Process.fresh : Process := ⟨[], [], fun _ => [], .smooth⟩

namespace Process

def setInbox (process : Process) (fd : Fd) (bytes : List UInt8) : Process :=
  { process with inbox := Function.update process.inbox fd bytes }

/-- The process at the start of a call, or behind it. -/
def under (process : Process) (script : Script) : Process := { process with script }

/-- The loop of `read_full`: what it reads, what it leaves, and the results still to come. A
stream that ends early is an error, and so is a failing `recv`; what was read until then is
lost. -/
def readLoop : List RecvResult → Nat → List UInt8 →
    Except Errno (List UInt8) × List UInt8 × List RecvResult
  | [], wanted, stream =>
      if stream.length < wanted then (.error EPIPE, [], [])
      else (.ok (stream.take wanted), stream.drop wanted, [])
  | outcome :: outcomes, wanted, stream =>
      if wanted = 0 then (.ok [], stream, outcome :: outcomes)
      else
        match outcome with
        | .interrupted => readLoop outcomes wanted stream
        | .failed errno => (.error errno, stream, outcomes)
        | .bytes count =>
            if stream.isEmpty then (.error EPIPE, [], outcomes)
            else
              let taken := min (max 1 count) (min wanted stream.length)
              let read := readLoop outcomes (wanted - taken) (stream.drop taken)
              (read.1.map (stream.take taken ++ ·), read.2)

/-- `read_full`. -/
def readFull (process : Process) (fd : Fd) (length : Nat) :
    Except Errno (List UInt8) × Process :=
  let read := readLoop process.script.recvs length (process.inbox fd)
  (read.1, (process.setInbox fd read.2.1).under { process.script with recvs := read.2.2 })

/-- A peek that finds at most `count` bytes, and at least one if there are any. -/
def peeked (stream : List UInt8) (count : Nat) : Except Errno (List UInt8) :=
  if stream.isEmpty then .error EPIPE
  else if min count stream.length < 8 then .error EPROTO
  else .ok (stream.take 8)

/-- The loop of `peek_protocol_header`. In spite of `MSG_WAITALL` a peek may find less than it
asks for, and a header of which only a part is found is an error. -/
def peekLoop (stream : List UInt8) :
    List RecvResult → Except Errno (List UInt8) × List RecvResult
  | [] => (peeked stream 8, [])
  | .interrupted :: outcomes => peekLoop stream outcomes
  | .failed errno :: outcomes => (.error errno, outcomes)
  | .bytes count :: outcomes => (peeked stream count, outcomes)

/-- `peek_protocol_header`. -/
def peekProtocolHeader (process : Process) (fd : Fd) : Except Errno (List UInt8) × Process :=
  let peek := peekLoop (process.inbox fd) process.script.peeks
  (peek.1, process.under { process.script with peeks := peek.2 })

/-- Whether there is memory for the next allocation. -/
def malloc (process : Process) : Bool × Process :=
  match process.script.mallocs with
  | [] => (true, process)
  | granted :: rest => (granted, process.under { process.script with mallocs := rest })

/-- `store_buffered_payload_owned`: a payload for whose entry there is no memory is freed. -/
def storeBufferedPayloadOwned (process : Process) (fd : Fd) (taskId : TaskId)
    (payload : List UInt8) : Option Errno × Process :=
  match process.malloc with
  | (false, process) => (some ENOMEM, process)
  | (true, process) =>
      (none, { process with payloads := process.payloads ++ [⟨fd, taskId, payload⟩] })

/-- `queue_buffered_completion`: so is a completion. -/
def queueBufferedCompletion (process : Process) (fd : Fd) (completion : CompletionRecord)
    (payload : List UInt8) : Option Errno × Process :=
  match process.malloc with
  | (false, process) => (some ENOMEM, process)
  | (true, process) =>
      (none, { process with completions := process.completions ++ [⟨fd, completion, payload⟩] })

/-- A payload that is not empty is kept for `iouringd_read_completion_payload`. -/
def keepPayload (process : Process) (fd : Fd) (completion : CompletionRecord)
    (payload : List UInt8) : Option Errno × Process :=
  if payload.length ≠ 0 then process.storeBufferedPayloadOwned fd completion.taskId payload
  else (none, process)

/-- `pop_buffered_completion`: nothing, the completion, or the error of an entry that is gone
although its payload could not be kept. -/
def popBufferedCompletion (process : Process) (fd : Fd) :
    Except Errno (Option CompletionRecord) × Process :=
  match takeFirst (fun entry => entry.fd == fd) process.completions with
  | none => (.ok none, process)
  | some (entry, rest) =>
      match { process with completions := rest }.keepPayload fd entry.completion entry.payload with
      | (some errno, process) => (.error errno, process)
      | (none, process) => (.ok (some entry.completion), process)

/-- `read_completion_with_payload`. -/
def readCompletionWithPayload (process : Process) (fd : Fd) :
    Except Errno (CompletionRecord × List UInt8) × Process :=
  match process.readFull fd CompletionRecord.size with
  | (.error errno, process) => (.error errno, process)
  | (.ok bytes, process) =>
      let completion := CompletionRecord.decode bytes
      if !completionRecordIsValid completion then (.error EPROTO, process)
      else if completion.payloadLength = 0 then (.ok (completion, []), process)
      else
        match process.malloc with
        | (false, process) => (.error ENOMEM, process)
        | (true, process) =>
            match process.readFull fd completion.payloadLength.toNat with
            | (.error errno, process) => (.error errno, process)
            | (.ok payload, process) => (.ok (completion, payload), process)

/-- The header of a completion of this version. -/
def isCompletionHeader (header : List UInt8) : Bool :=
  !(u32At header 0 ≠ wireMagic || u16At header 4 ≠ protocolMajor ||
    u16At header 6 ≠ protocolMinor)

/-- The loop of `drain_completion_prefix`. -/
def drainLoop (fd : Fd) : Nat → Process → Option Errno × Process
  | 0, process => (none, process)
  | fuel + 1, process =>
      match process.peekProtocolHeader fd with
      | (.error errno, process) => (some errno, process)
      | (.ok header, process) =>
          if !isCompletionHeader header then (none, process)
          else
            match process.readCompletionWithPayload fd with
            | (.error errno, process) => (some errno, process)
            | (.ok (completion, payload), process) =>
                match process.queueBufferedCompletion fd completion payload with
                | (some errno, process) => (some errno, process)
                | (none, process) => drainLoop fd fuel process

/-- `drain_completion_prefix`. Every turn of the loop reads a record, so the bytes that
were sent bound the turns. -/
def drainCompletionPrefix (process : Process) (fd : Fd) : Option Errno × Process :=
  drainLoop fd ((process.inbox fd).length + 1) process

end Process

/-- What a call leaves: the record it filled in, if it got that far, and the error it
returns. -/
structure Answer (α : Type) where
  result : Option α
  error : Option Errno
  deriving DecidableEq, Repr

namespace Process

/-- Drain, read a reply of fixed size and check it. -/
def readReply {α : Type} (process : Process) (fd : Fd) (size : Nat) (decode : List UInt8 → α)
    (check : α → Option Errno) : Answer α × Process :=
  match process.drainCompletionPrefix fd with
  | (some errno, process) => (⟨none, some errno⟩, process)
  | (none, process) =>
      match process.readFull fd size with
      | (.error errno, process) => (⟨none, some errno⟩, process)
      | (.ok bytes, process) => (⟨some (decode bytes), check (decode bytes)⟩, process)

end Process

/-- The error `read_submit_result` returns. -/
def submitResultError (result : SubmitResult) : Option Errno :=
  if !submitResultIsValid result then some EPROTO
  else if submitResultIsRejection result then some (-result.res)
  else none

/-- The error `read_resource_result` returns. -/
def resourceResultError (result : ResourceResult) : Option Errno :=
  if !resourceResultIsValid result then some EPROTO
  else if resourceResultIsRejection result then some (-result.res)
  else none

namespace Process

/-- `read_submit_result`. -/
def readSubmitResult (process : Process) (fd : Fd) : Answer SubmitResult × Process :=
  process.readReply fd SubmitResult.size SubmitResult.decode submitResultError

/-- `read_resource_result`. -/
def readResourceResult (process : Process) (fd : Fd) : Answer ResourceResult × Process :=
  process.readReply fd ResourceResult.size ResourceResult.decode resourceResultError

/-- `read_stats_result`. -/
def readStatsResult (process : Process) (fd : Fd) : Answer StatsResult × Process :=
  process.readReply fd StatsResult.size StatsResult.decode fun _ => none

/-- The loop of `read_trace_result` over the events. -/
def readTraceEvents (fd : Fd) : Nat → Process → List TraceEvent →
    (List TraceEvent × Option Errno) × Process
  | 0, process, events => ((events, none), process)
  | count + 1, process, events =>
      match process.readFull fd TraceEvent.size with
      | (.error errno, process) => ((events, some errno), process)
      | (.ok bytes, process) =>
          let event := TraceEvent.decode bytes
          if !traceEventIsValid event then ((events ++ [event], some EPROTO), process)
          else readTraceEvents fd count process (events ++ [event])

/-- `read_trace_result` with room for `capacity` events. -/
def readTraceResult (process : Process) (fd : Fd) (capacity : Nat) :
    Answer (TraceResult × List TraceEvent) × Process :=
  match process.drainCompletionPrefix fd with
  | (some errno, process) => (⟨none, some errno⟩, process)
  | (none, process) =>
      match process.readFull fd TraceResult.size with
      | (.error errno, process) => (⟨none, some errno⟩, process)
      | (.ok bytes, process) =>
          let result := TraceResult.decode bytes
          if result.reserved ≠ 0 then (⟨some (result, []), some EPROTO⟩, process)
          else if capacity < result.count.toNat then
            (⟨some (result, []), some EOVERFLOW⟩, process)
          else
            let read := readTraceEvents fd result.count.toNat process []
            (⟨some (result, read.1.1), read.1.2⟩, read.2)

/-- `iouringd_wait_completion`. A wait that fails may have filled in the record on the way; what
it leaves there is not part of the answer. -/
def waitCompletion (process : Process) (fd : Fd) : Answer CompletionRecord × Process :=
  match process.popBufferedCompletion fd with
  | (.error errno, process) => (⟨none, some errno⟩, process)
  | (.ok (some completion), process) => (⟨some completion, none⟩, process)
  | (.ok none, process) =>
      match process.readCompletionWithPayload fd with
      | (.error errno, process) => (⟨none, some errno⟩, process)
      | (.ok (completion, payload), process) =>
          match process.keepPayload fd completion payload with
          | (some errno, process) => (⟨none, some errno⟩, process)
          | (none, process) => (⟨some completion, none⟩, process)

/-- `iouringd_read_completion_payload` with a buffer of `capacity` bytes. -/
def readCompletionPayload (process : Process) (fd : Fd) (completion : CompletionRecord)
    (capacity : Nat) : Except Errno (List UInt8) × Process :=
  if !(isReadKind completion.taskKind || completion.taskKind == RequestKind.accept.toWire) then
    (.error EINVAL, process)
  else if completion.payloadLength = 0 then (.ok [], process)
  else if capacity < completion.payloadLength.toNat then (.error EMSGSIZE, process)
  else
    match takeFirst (fun entry => entry.fd == fd && entry.taskId == completion.taskId)
        process.payloads with
    | none => (.error EPROTO, process)
    | some (entry, rest) => (.ok entry.payload, { process with payloads := rest })

end Process

end Iouringd
