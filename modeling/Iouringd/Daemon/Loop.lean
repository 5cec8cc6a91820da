import Iouringd.Daemon.Decoder
import Iouringd.Daemon.Completion

/-! # The event loop

The phases of `iouringd_run`, each with what the system calls it makes return. The machine that
goes from one to the next is built on their turns, and the signals that end the loop come with
that machine's shutdown.
-/

namespace Iouringd

open Foundation

/-! ## The dispatch pass -/

/-- The band of a ready request: control requests, then the priorities. -/
def clientBand (client : Client) : Nat :=
  if client.controlOp.isSome then 3
  else
    match client.request.priority with
    | .high => 2
    | .normal => 1
    | _ => 0

/-- One turn of the inner loop of `iouringd_dispatch_ready_requests`. The index is
computed from the cursor as the turns before have left it. -/
def dispatchTurn (band : Nat) (envs : Nat → DispatchEnv) (state : Runtime × List Nat)
    (offset : Nat) : Except Errno (Runtime × List Nat) :=
  let rt := state.1
  let index := (rt.dispatchCursor + offset) % rt.limits.maxClients
  let client := rt.clients index
  if !client.isActive || !client.requestReady then .ok state
  else if clientBand client ≠ band then .ok state
  else do
    let result ← dispatchClientRequest rt index (envs index)
    if result.2 then
      .ok ({ result.1 with dispatchCursor := (index + 1) % rt.limits.maxClients },
        state.2 ++ [index])
    else .ok (result.1, state.2)

/-- The inner loop for one band. -/
def dispatchBand (envs : Nat → DispatchEnv) (state : Runtime × List Nat) (band : Nat) :
    Except Errno (Runtime × List Nat) :=
  (List.range state.1.limits.maxClients).foldlM (dispatchTurn band envs) state

/-- `iouringd_dispatch_ready_requests`: the runtime and the clients it dispatched, in
order. The source returns whether there are any. -/
def dispatchReadyRequests (rt : Runtime) (envs : Nat → DispatchEnv) :
    Except Errno (Runtime × List Nat) :=
  [3, 2, 1, 0].foldlM (dispatchBand envs) (rt, [])

/-! ## Input and output of all clients -/

/-- One turn of `iouringd_service_ready_inputs`; `incoming` is what each client's socket holds. The
pass takes the entries of the table in order. -/
def serviceTurn (incoming : Nat → List RecvOutcome) (state : Runtime × Bool) (index : Nat) :
    Except Errno (Runtime × Bool) :=
  if (state.1.clients index).isActive then do
    let result ← serviceClientReadable state.1 index (incoming index)
    .ok (result.1, state.2 || result.2.1)
  else .ok state

/-- Flush a client; it is closed when that fails or when it was only kept for its
last bytes. -/
def flushOrClose (rt : Runtime) (index : Nat) (writes : List WriteOutcome) : Runtime × Bool :=
  let flushed := flushClientOutput (rt.clients index) writes
  let rt := rt.setClient index flushed.1
  if flushed.2.2.isSome || flushed.1.closeAfterFlush then (closeClient rt index, true)
  else (rt, false)

/-- One turn of `iouringd_flush_client_outputs`, which takes them in the same order. -/
def flushTurn (writes : Nat → List WriteOutcome) (state : Runtime × Bool) (index : Nat) :
    Runtime × Bool :=
  let client := state.1.clients index
  if !client.isActive || !client.hasOutput then state
  else
    let result := flushOrClose state.1 index (writes index)
    (result.1, state.2 || result.2)

/-! ## Poll events -/

/-- What one `accept` of `iouringd_accept_clients` returns. `cloexec` says whether
`iouringd_set_cloexec` succeeded. -/
inductive AcceptOutcome where
  | connection (fd : Fd) (cloexec : Bool) (env : OpenEnv)
  | again
  | failed (errno : Errno)
  deriving DecidableEq, Repr

/-- `iouringd_accept_clients`. -/
def acceptClients (rt : Runtime) : List AcceptOutcome → Except Errno Runtime
  | [] => .ok rt
  | .again :: _ => .ok rt
  | .failed errno :: _ => .error errno
  | .connection fd cloexec env :: rest =>
      if cloexec then acceptClients (openClient rt fd env) rest else .error EBADF

/-- A descriptor `poll` reported, with what the calls it leads to return. -/
inductive PollEvent where
  | server (accepts : List AcceptOutcome)
  | ring (envs : List CompleteEnv)
  | client (index : Nat) (writable : Option (List WriteOutcome))
      (readable : Option (List RecvOutcome)) (hangup : Bool)

/-- The POLLIN and hang-up part for one client. -/
def handleReadable (rt : Runtime) (index : Nat) (readable : Option (List RecvOutcome))
    (hangup : Bool) : Except Errno Runtime :=
  if (rt.clients index).isActive then
    match readable with
    | some incoming => do
        let result ← serviceClientReadable rt index incoming
        .ok result.1
    | none => if hangup then .ok (closeClient rt index) else .ok rt
  else .ok rt

/-- The body of the loop over the poll results. -/
def handlePollEvent (rt : Runtime) : PollEvent → Except Errno Runtime
  | .server accepts => acceptClients rt accepts
  | .ring envs => do
      let result ← reapCompletions rt envs
      .ok result.1
  | .client index writable readable hangup =>
      match writable with
      | some writes =>
          if (rt.clients index).isActive then
            let result := flushOrClose rt index writes
            if result.2 then .ok result.1 else handleReadable result.1 index readable hangup
          else handleReadable rt index readable hangup
      | none => handleReadable rt index readable hangup

end Iouringd
