import Iouringd.Daemon.Sweeping
import Iouringd.Daemon.Identifiers
import Iouringd.Daemon.Priorities

/-! # The loop, turn by turn

`iouringd_run` as a machine that stops after every turn of every phase, so that the kernel can
act anywhere between two of them. Its states are states of the transition system, and at
`poll` nothing is left that the loop could do without waiting.
-/

namespace Iouringd

open Foundation

/-! ## The poll set -/

/-- What an entry of the poll set is for, `client_slots` in the source. -/
inductive PollSlot where
  | server
  | ring
  | client (index : Nat)
  deriving DecidableEq, Repr

/-- `struct pollfd`, with the two events the loop asks for. -/
structure PollFd where
  fd : Fd
  pollin : Bool
  pollout : Bool
  slot : PollSlot
  deriving DecidableEq, Repr

/-- `iouringd_client_wants_read`: both tests at its end answer the same. -/
def clientWantsRead (client : Client) : Bool :=
  !(decide (client.fd < 0) || client.closeAfterFlush || client.requestReady)

/-- The entry for a client. -/
def clientPollFd (rt : Runtime) (index : Nat) : Option PollFd :=
  let client := rt.clients index
  if !client.isActive then none
  else if !clientWantsRead client && !client.hasOutput then none
  else some ⟨client.fd, clientWantsRead client, client.hasOutput, .client index⟩

/-- `iouringd_build_pollfds`. -/
def buildPollfds (serverFd : Fd) (rt : Runtime) : List PollFd :=
  (if 0 ≤ serverFd then [⟨serverFd, true, false, .server⟩] else []) ++
    (if rt.outstandingTasks ≠ 0 then [⟨rt.ring.ringFd, true, false, .ring⟩] else []) ++
    (List.range rt.limits.maxClients).filterMap (clientPollFd rt)

/-! ## The machine -/

/-- Where the loop is: the turns are numbered as the loops of the source number them, and the
bands of the dispatch pass go down from 3. -/
inductive LoopPoint where
  | service (index : Nat)
  | dispatch (band offset : Nat)
  | reap
  | sweep
  | flush (index : Nat)
  | poll
  | handle (events : List PollEvent)

/-- The state of the loop. -/
structure LoopState where
  rt : Runtime
  point : LoopPoint
  progress : Bool

/-- What `poll` returns. -/
inductive PollOutcome where
  | interrupted
  | failed (errno : Errno)
  | reported (events : List PollEvent)

/-- What the system calls of one turn return. -/
structure TurnEnv where
  incoming : List RecvOutcome
  dispatch : DispatchEnv
  complete : CompleteEnv
  updates : Nat → Nat → UpdateOutcome
  writes : List WriteOutcome
  polled : PollOutcome

/-- What happens next: the loop takes a turn, or the kernel posts a completion or writes to a
buffer. -/
inductive LoopEvent where
  | turn (env : TurnEnv)
  | post (position : Nat) (res : Int32)
  | store (store : KernelStore)

/-- `accept` returns descriptors. -/
def AcceptOutcome.isPossible : AcceptOutcome → Bool
  | .connection fd _ _ => decide (0 ≤ fd)
  | _ => true

/-- An event that `poll` can report: it is about an entry of the table. -/
def PollEvent.isPossible (maxClients : Nat) : PollEvent → Bool
  | .server accepts => accepts.all AcceptOutcome.isPossible
  | .ring _ => true
  | .client index _ _ _ => decide (index < maxClients)

/-- The start of an iteration. -/
def LoopState.iterate (rt : Runtime) : LoopState := ⟨rt, .service 0, false⟩

/-- One turn of `iouringd_run`. -/
def loopTurn (serverFd : Fd) (state : LoopState) (env : TurnEnv) : Except Errno LoopState :=
  let rt := state.rt
  match state.point with
  | .service index =>
      if index < rt.limits.maxClients then do
        let result ← serviceTurn (fun _ => env.incoming) (rt, state.progress) index
        .ok ⟨result.1, .service (index + 1), result.2⟩
      else .ok { state with point := .dispatch 3 0 }
  | .dispatch band offset =>
      if offset < rt.limits.maxClients then do
        let result ← dispatchTurn band (fun _ => env.dispatch) (rt, []) offset
        .ok ⟨result.1, .dispatch band (offset + 1), state.progress || !result.2.isEmpty⟩
      else
        match band with
        | 0 => .ok { state with point := .reap }
        | band + 1 => .ok { state with point := .dispatch band 0 }
  | .reap => do
      match ← reapCompletion rt env.complete with
      | none => .ok { state with point := .sweep }
      | some rt => .ok ⟨rt, .reap, true⟩
  | .sweep => do
      let result ← sweepClosingResources rt env.updates
      .ok ⟨result.1, .flush 0, state.progress || result.2⟩
  | .flush index =>
      if index < rt.limits.maxClients then
        let result := flushTurn (fun _ => env.writes) (rt, state.progress) index
        .ok ⟨result.1, .flush (index + 1), result.2⟩
      else if state.progress || (buildPollfds serverFd rt).isEmpty then .ok (.iterate rt)
      else .ok { state with point := .poll }
  | .poll =>
      match env.polled with
      | .interrupted => .ok (.iterate rt)
      | .failed errno => .error errno
      | .reported events => .ok { state with point := .handle events }
  | .handle [] => .ok (.iterate rt)
  | .handle (event :: events) =>
      if event.isPossible rt.limits.maxClients then do
        let rt ← handlePollEvent rt event
        .ok { state with rt, point := .handle events }
      else .ok { state with point := .handle events }

/-- One step of the machine. -/
def loopStep (serverFd : Fd) (state : LoopState) : LoopEvent → Except Errno LoopState
  | .turn env => loopTurn serverFd state env
  | .post position res =>
      .ok { state with rt := { state.rt with ring := kernelPost state.rt.ring position res } }
  | .store store => .ok { state with rt := state.rt.stored store }

/-- A state that the loop of a daemon gets to. -/
def LoopState.Reached (config : Config) (serverFd : Fd) (state : LoopState) : Prop :=
  ∃ events, run (loopStep serverFd) (.iterate (Runtime.initial config)) events = .ok state

/-! ## The states of the loop are states of the system -/

section Reached

variable {config : Config} {rt next : Runtime} {index : Nat}

/-- A client in the table with a connection. -/
theorem Runtime.connected_of (below : index < rt.limits.maxClients)
    (active : (rt.clients index).isActive = true) : rt.connected index = true := by
  rw [connected, decide_eq_true below, active]
  rfl

/-- Reading a client is a step. -/
theorem Reachable.serviced {incoming : List RecvOutcome}
    {result : Runtime × Bool × List RecvOutcome} (reachable : Reachable config rt)
    (below : index < rt.limits.maxClients) (active : (rt.clients index).isActive = true)
    (serviced : serviceClientReadable rt index incoming = .ok result) :
    Reachable config result.1 := by
  apply @Reachable.stepped _ _ (.input index incoming) _ reachable
  simp only [step, Runtime.connected_of below active, ↓reduceIte, serviced]
  rfl

/-- Closing a client is a step. -/
theorem Reachable.closed (reachable : Reachable config rt)
    (below : index < rt.limits.maxClients) (active : (rt.clients index).isActive = true) :
    Reachable config (closeClient rt index) := by
  apply @Reachable.stepped _ _ (.disconnect index) _ reachable
  simp only [step, Runtime.connected_of below active, ↓reduceIte]

/-- Writing to a client is a step. -/
theorem Reachable.flushed {writes : List WriteOutcome} (reachable : Reachable config rt)
    (below : index < rt.limits.maxClients) (active : (rt.clients index).isActive = true) :
    Reachable config (flushOrClose rt index writes).1 := by
  apply @Reachable.stepped _ _ (.flush index writes) _ reachable
  simp only [step, Runtime.connected_of below active, ↓reduceIte]

/-- A turn of the input pass. -/
theorem Reachable.servicedTurn {incoming : Nat → List RecvOutcome} {progress : Bool}
    {result : Runtime × Bool} (reachable : Reachable config rt)
    (below : index < rt.limits.maxClients)
    (turn : serviceTurn incoming (rt, progress) index = .ok result) :
    Reachable config result.1 := by
  unfold serviceTurn at turn
  dsimp only at turn
  split at turn
  · rename_i active
    obtain ⟨answer, read, done⟩ := bind_ok turn
    cases done
    exact reachable.serviced below active read
  · cases turn
    exact reachable

/-- A turn of the output pass. -/
theorem Reachable.flushedTurn {writes : Nat → List WriteOutcome} {progress : Bool}
    (reachable : Reachable config rt) (below : index < rt.limits.maxClients) :
    Reachable config (flushTurn writes (rt, progress) index).1 := by
  unfold flushTurn
  dsimp only
  split
  · exact reachable
  · rename_i active
    rw [Bool.or_eq_true, not_or, Bool.not_eq_true', Bool.not_eq_false] at active
    exact reachable.flushed below active.1

/-- Sweeping is a step. -/
theorem Reachable.swept {updates : Nat → Nat → UpdateOutcome} {result : Runtime × Bool}
    (reachable : Reachable config rt) (swept : sweepClosingResources rt updates = .ok result) :
    Reachable config result.1 := by
  apply @Reachable.stepped _ _ (.sweep updates) _ reachable
  simp only [step, swept]
  rfl

/-- Reaping one completion is a step. -/
theorem Reachable.reaped {env : CompleteEnv} (reachable : Reachable config rt)
    (reaped : reapCompletion rt env = .ok (some next)) : Reachable config next := by
  apply @Reachable.stepped _ _ (.reap env) _ reachable
  simp only [step, reaped]
  rfl

/-- Reaping all completions is a run. -/
theorem Reachable.reapedAll {envs : List CompleteEnv} {result : Runtime × Bool}
    (reachable : Reachable config rt) (reaped : reapCompletions rt envs = .ok result) :
    Reachable config result.1 := by
  induction envs generalizing rt result with
  | nil =>
      cases reaped
      exact reachable
  | cons env envs ih =>
      unfold reapCompletions at reaped
      obtain ⟨found, first, rest⟩ := bind_ok reaped
      cases found with
      | none =>
          cases rest
          exact reachable
      | some middle =>
          obtain ⟨last, more, done⟩ := bind_ok rest
          cases done
          have final := ih (reachable.reaped first) more
          exact final

/-- A turn of the dispatcher is at most a step. -/
theorem Reachable.dispatched {band offset : Nat} {envs : Nat → DispatchEnv}
    {seen : List Nat} {result : Runtime × List Nat} (reachable : Reachable config rt)
    (below : offset < rt.limits.maxClients)
    (turn : dispatchTurn band envs (rt, seen) offset = .ok result) : Reachable config result.1 := by
  have inside : (rt.dispatchCursor + offset) % rt.limits.maxClients < rt.limits.maxClients :=
    Nat.mod_lt _ (Nat.zero_lt_of_lt below)
  rcases dispatchTurn_cases turn with ⟨-, same⟩ | ⟨waits, answered, dispatched, -, same⟩
  · rw [same]
    exact reachable
  · rw [same]
    generalize (rt.dispatchCursor + offset) % rt.limits.maxClients = index at *
    have active := (bandReady_iff.mp waits).1.1
    have after : Reachable config answered.1 := by
      refine @Reachable.stepped _ _ (.dispatch index (envs index)) _ reachable ?_
      simp only [step, Runtime.connected_of inside active, ↓reduceIte, dispatched]
      rfl
    exact @Reachable.stepped _ _ (.moveCursor _) _ after rfl

/-- Accepting connections is a run. -/
theorem Reachable.accepted {accepts : List AcceptOutcome}
    (reachable : Reachable config rt)
    (possible : accepts.all AcceptOutcome.isPossible = true)
    (accepted : acceptClients rt accepts = .ok next) : Reachable config next := by
  induction accepts generalizing rt with
  | nil =>
      cases accepted
      exact reachable
  | cons outcome rest ih =>
      rw [List.all_cons, Bool.and_eq_true] at possible
      cases outcome with
      | again =>
          cases accepted
          exact reachable
      | failed errno => cases accepted
      | connection fd cloexec env =>
          unfold acceptClients at accepted
          split at accepted
          · refine ih ?_ possible.2 accepted
            apply @Reachable.stepped _ _ (.connect fd env) _ reachable
            have valid : 0 ≤ fd := of_decide_eq_true possible.1
            simp only [step, valid, ↓reduceIte]
          · cases accepted

/-- Handling what poll said of a client is a run. -/
theorem Reachable.handledReadable {readable : Option (List RecvOutcome)} {hangup : Bool}
    (reachable : Reachable config rt) (below : index < rt.limits.maxClients)
    (handled : handleReadable rt index readable hangup = .ok next) : Reachable config next := by
  unfold handleReadable at handled
  split at handled
  · rename_i active
    split at handled
    · obtain ⟨result, serviced, done⟩ := bind_ok handled
      cases done
      exact reachable.serviced below active serviced
    · split at handled
      · cases handled
        exact reachable.closed below active
      · cases handled
        exact reachable
  · cases handled
    exact reachable

/-- Handling what poll said of any descriptor is a run. -/
theorem Reachable.handled {event : PollEvent} (reachable : Reachable config rt)
    (possible : event.isPossible rt.limits.maxClients = true)
    (handled : handlePollEvent rt event = .ok next) : Reachable config next := by
  cases event with
  | server accepts => exact reachable.accepted possible handled
  | ring envs =>
      obtain ⟨result, reaped, done⟩ := bind_ok handled
      cases done
      exact reachable.reapedAll reaped
  | client index writable readable hangup =>
      have below : index < rt.limits.maxClients := of_decide_eq_true possible
      cases writable with
      | none => exact reachable.handledReadable below handled
      | some writes =>
          unfold handlePollEvent at handled
          dsimp only at handled
          split at handled
          · rename_i active
            have after : Reachable config (flushOrClose rt index writes).1 :=
              reachable.flushed below active
            split at handled
            · cases handled
              exact after
            · refine after.handledReadable ?_ handled
              rw [after.invariant.limits, ← reachable.invariant.limits]
              exact below
          · exact reachable.handledReadable below handled

end Reached

section Steps

variable {config : Config} {serverFd : Fd} {state next : LoopState}

/-- Every turn of the loop ends in a reachable state. -/
theorem loopTurn_reachable {env : TurnEnv} (reachable : Reachable config state.rt)
    (turned : loopTurn serverFd state env = .ok next) : Reachable config next.rt := by
  obtain ⟨rt, point, progress⟩ := state
  cases point with
  | service index =>
      simp only [loopTurn] at turned
      split at turned
      · rename_i below
        obtain ⟨result, serviced, done⟩ := bind_ok turned
        cases done
        exact reachable.servicedTurn below serviced
      · cases turned
        exact reachable
  | dispatch band offset =>
      simp only [loopTurn] at turned
      split at turned
      · rename_i below
        obtain ⟨result, dispatched, done⟩ := bind_ok turned
        cases done
        exact reachable.dispatched below dispatched
      · cases band with
        | zero =>
            cases turned
            exact reachable
        | succ band =>
            cases turned
            exact reachable
  | reap =>
      obtain ⟨found, reaped, done⟩ := bind_ok turned
      cases found with
      | none =>
          cases done
          exact reachable
      | some after =>
          cases done
          exact reachable.reaped reaped
  | sweep =>
      obtain ⟨result, swept, done⟩ := bind_ok turned
      cases done
      exact reachable.swept swept
  | flush index =>
      simp only [loopTurn] at turned
      split at turned
      · rename_i below
        cases turned
        exact reachable.flushedTurn below
      · split at turned
        · cases turned
          exact reachable
        · cases turned
          exact reachable
  | poll =>
      simp only [loopTurn] at turned
      cases polled : env.polled with
      | interrupted =>
          rw [polled] at turned
          cases turned
          exact reachable
      | failed errno =>
          rw [polled] at turned
          cases turned
      | reported events =>
          rw [polled] at turned
          cases turned
          exact reachable
  | handle events =>
      cases events with
      | nil =>
          cases turned
          exact reachable
      | cons event events =>
          simp only [loopTurn] at turned
          split at turned
          · rename_i possible
            obtain ⟨after, handled, done⟩ := bind_ok turned
            cases done
            exact reachable.handled possible handled
          · cases turned
            exact reachable

/-- So does every event. -/
theorem loopStep_reachable {event : LoopEvent} (reachable : Reachable config state.rt)
    (taken : loopStep serverFd state event = .ok next) : Reachable config next.rt := by
  cases event with
  | turn env => exact loopTurn_reachable reachable taken
  | post position res =>
      cases taken
      exact @Reachable.stepped _ _ (.post position res) _ reachable rfl
  | store store =>
      cases taken
      exact @Reachable.stepped _ _ (.store store) _ reachable rfl

/-- Every state of the loop is a state of the system. -/
theorem LoopState.Reached.reachable (reached : LoopState.Reached config serverFd state) :
    Reachable config state.rt := by
  obtain ⟨events, ran⟩ := reached
  refine @run_preserves _ _ _ _ _ _ _ (fun state => Reachable config state.rt) ?_ ⟨[], rfl⟩ ran
  intro before event after _ reachable taken
  exact loopStep_reachable reachable taken

end Steps

end Iouringd
