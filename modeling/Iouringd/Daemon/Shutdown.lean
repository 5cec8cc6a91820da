import Iouringd.Daemon.Messages
import Iouringd.Daemon.Turns
import Iouringd.Daemon.Workload

/-! # Shutting down

The handler of SIGINT and SIGTERM raises a flag and closes the listening socket, at any moment.
The loop looks at the flag after its output pass, when `poll` was interrupted and behind every
`accept`; what makes it get there is the closed socket, which `poll` does not wait for.
-/

namespace Iouringd

open Foundation

def EINTR : Errno := 4

/-! ## The handler -/

/-- The signals that stop the daemon. -/
inductive StopSignal where
  | interrupt
  | terminate
  deriving DecidableEq, Repr

def StopSignal.number : StopSignal → UInt8
  | .interrupt => 2
  | .terminate => 15

/-- The variables of the handler, and the descriptors it has closed. -/
structure StopState where
  requested : Bool
  signal : Option StopSignal
  serverFd : Fd
  closes : List Fd
  flagged : requested = signal.isSome

/-- The variables before any signal, with the listening socket open. -/
def StopState.initial (serverFd : Fd) : StopState := ⟨false, none, serverFd, [], rfl⟩

/-- `iouringd_handle_stop_signal`. -/
def handleStopSignal (stop : StopState) (signo : StopSignal) : StopState where
  requested := true
  signal := some signo
  serverFd := stop.serverFd
  closes := stop.closes ++ if 0 ≤ stop.serverFd then [stop.serverFd] else []
  flagged := rfl

/-- The signals of a list of moments. -/
def handleStopSignals (stop : StopState) (signals : List StopSignal) : StopState :=
  signals.foldl handleStopSignal stop

/-- How a process ends. -/
inductive ProcessEnd where
  | exited (status : UInt8)
  | killed (signo : StopSignal)
  deriving DecidableEq, Repr

/-- `iouringd_finish_stop_signal`. When the default action is `restored`, raising the signal
once more is the end. -/
def finishStopSignal (stop : StopState) (restored : Bool) : ProcessEnd :=
  match stop.signal with
  | none => .exited 0
  | some signo => if restored then .killed signo else .exited (128 + signo.number)

/-! ## The loop under signals -/

/-- What `accept_clients` leaves behind: `dropped` are connections closed as soon as they were
there. -/
structure Accepting where
  rt : Runtime
  stop : StopState
  dropped : List Fd

/-- `iouringd_accept_clients`. For each call of `accept`, the signals that arrive before the flag
is looked at. -/
def acceptUntilStopped (stop : StopState) (rt : Runtime) :
    List (AcceptOutcome × List StopSignal) → Except Errno Accepting
  | [] => .ok ⟨rt, stop, []⟩
  | (.again, signals) :: _ => .ok ⟨rt, handleStopSignals stop signals, []⟩
  | (.failed errno, signals) :: _ =>
      let stop := handleStopSignals stop signals
      if stop.requested && (errno == EINTR || errno == EBADF) then .ok ⟨rt, stop, []⟩
      else .error errno
  | (.connection fd cloexec env, signals) :: rest =>
      let stop := handleStopSignals stop signals
      if !cloexec then .error EBADF
      else if stop.requested then .ok ⟨rt, stop, [fd]⟩
      else acceptUntilStopped stop (openClient rt fd env) rest

/-- `iouringd_run` with the handler: once `left`, it has returned 0. -/
structure Serving where
  loop : LoopState
  stop : StopState
  left : Bool
  dropped : List Fd

/-- What happens next: a signal, or a step of the loop, with the signals that arrive in it
between the calls of `accept`. -/
inductive ServingEvent where
  | signal (signo : StopSignal)
  | loop (event : LoopEvent) (signals : List (List StopSignal))

/-- The start of the loop. -/
def Serving.start (config : Config) (stop : StopState) : Serving :=
  ⟨.iterate (Runtime.initial config), stop, false, []⟩

/-- A turn that does not look at the flag. -/
def Serving.proceed (serverFd : Fd) (state : Serving) (env : TurnEnv) : Except Errno Serving := do
  let loop ← loopTurn serverFd state.loop env
  .ok { state with loop }

/-- One turn of `iouringd_run`. -/
def servingTurn (serverFd : Fd) (state : Serving) (env : TurnEnv)
    (signals : List (List StopSignal)) : Except Errno Serving :=
  let rt := state.loop.rt
  match state.loop.point with
  | .flush index =>
      if index < rt.limits.maxClients then state.proceed serverFd env
      else if state.stop.requested then .ok { state with left := true }
      else state.proceed serverFd env
  | .poll =>
      match env.polled with
      | .interrupted =>
          if state.stop.requested then .ok { state with left := true }
          else state.proceed serverFd env
      | _ => state.proceed serverFd env
  | .handle (.server accepts :: events) =>
      if (PollEvent.server accepts).isPossible rt.limits.maxClients then do
        let result ← acceptUntilStopped state.stop rt
          (accepts.zipIdx.map fun entry => (entry.1, signals.getD entry.2 []))
        .ok ⟨⟨result.rt, .handle events, state.loop.progress⟩, result.stop, state.left,
          state.dropped ++ result.dropped⟩
      else state.proceed serverFd env
  | _ => state.proceed serverFd env

/-- One step. -/
def servingStep (serverFd : Fd) (state : Serving) : ServingEvent → Except Errno Serving
  | .signal signo => .ok { state with stop := handleStopSignal state.stop signo }
  | .loop event signals =>
      if state.left then .ok state
      else
        match event with
        | .turn env => servingTurn serverFd state env signals
        | event => do
            let loop ← loopStep serverFd state.loop event
            .ok { state with loop }

/-- The end of `main`, when it gets there. -/
def mainEnd (served : Except Errno Serving) (restored : Bool) : Option ProcessEnd :=
  match served with
  | .error _ => some (.exited 1)
  | .ok state =>
      if !state.left then none
      else if state.stop.requested then some (finishStopSignal state.stop restored)
      else some (.exited 0)

/-- The clients' part of `iouringd_cleanup_runtime`. -/
def cleanupClients (rt : Runtime) : Runtime :=
  (List.range rt.limits.maxClients).foldl closeClient rt

/-- What `poll` returns is about the descriptors it was given, at most once about each. -/
def LoopState.reports (serverFd : Fd) (state : LoopState) (env : TurnEnv) : Bool :=
  match state.point, env.polled with
  | .poll, .reported events => decide (events.length ≤ (buildPollfds serverFd state.rt).length)
  | _, _ => true

def ServingEvent.reports (serverFd : Fd) (state : Serving) : ServingEvent → Bool
  | .loop (.turn env) _ => state.loop.reports serverFd env
  | _ => true

/-- A state that the daemon gets to, whatever signals came before the loop. -/
def Serving.Reached (config : Config) (serverFd : Fd) (state : Serving) : Prop :=
  ∃ stop events, stop.serverFd = serverFd ∧
    run (servingStep serverFd) (.start config stop) events = .ok state ∧
    Along (servingStep serverFd) (fun state event => event.reports serverFd state = true)
      (.start config stop) events

/-! ## Cleaning up -/

/-- The descriptors that were received and not registered yet. -/
def Runtime.unregistered (rt : Runtime) (fd : Fd) : Nat :=
  tally (fun client => if client.receivedFd = fd then 1 else 0) rt.clients rt.limits.maxClients

/-- The first clients are closed, one by one. -/
theorem closeClients_closes (rt : Runtime) {fd : Fd} (valid : 0 ≤ fd) (count : Nat) :
    (∀ index, ((List.range count).foldl closeClient rt).clients index =
      if index < count then closedClient (rt.clients index) else rt.clients index) ∧
    ((List.range count).foldl closeClient rt).ring.kernel.closed.count fd =
      rt.ring.kernel.closed.count fd +
        tally (fun client => if client.fd = fd then 1 else 0) rt.clients count +
        tally (fun client => if client.receivedFd = fd then 1 else 0) rt.clients count := by
  induction count with
  | zero => exact ⟨fun index => (if_neg (Nat.not_lt_zero index)).symm, rfl⟩
  | succ count ih =>
      obtain ⟨clients, closed⟩ := ih
      rw [List.range_succ, List.foldl_append]
      have here : ((List.range count).foldl closeClient rt).clients count = rt.clients count := by
        rw [clients, if_neg (Nat.lt_irrefl count)]
      constructor
      · intro index
        by_cases last : index = count
        · subst last
          rw [if_pos (Nat.lt_succ_self index), ← here]
          exact closeClient_client _ index
        · have other : index < count + 1 ↔ index < count := by omega
          simp only [other]
          rw [← clients index]
          exact (@OnlyClient.closeClient _ count).client_other last
      · have more := closeClient_closed_count ((List.range count).foldl closeClient rt) count fd
          valid
        rw [here, closed] at more
        rw [tally_succ, tally_succ]
        refine more.trans ?_
        omega

/-- The clean-up closes every connection, and every descriptor of one exactly once. -/
theorem cleanupClients_closes (rt : Runtime) :
    (∀ index < rt.limits.maxClients, ((cleanupClients rt).clients index).isActive = false) ∧
    ∀ fd, 0 ≤ fd → (cleanupClients rt).ring.kernel.closed.count fd =
      rt.ring.kernel.closed.count fd + rt.sockets fd + rt.unregistered fd := by
  constructor
  · intro index below
    have entry := (closeClients_closes rt (Int32.le_refl 0) rt.limits.maxClients).1 index
    rw [if_pos below] at entry
    rw [cleanupClients, entry]
    exact closedClient_inactive _
  · intro fd valid
    exact (closeClients_closes rt valid rt.limits.maxClients).2

/-! ## What signals do -/

/-- The variables later on. -/
structure StopState.Later (stop after : StopState) : Prop where
  serverFd : after.serverFd = stop.serverFd
  closes : ∀ fd ∈ stop.closes, fd ∈ after.closes
  requested : stop.requested = true → after.requested = true
  raised : 0 ≤ stop.serverFd → after.requested = true → stop.requested = true ∨
    stop.serverFd ∈ after.closes

section Handler

variable {stop middle after : StopState}

theorem StopState.Later.refl (stop : StopState) : stop.Later stop :=
  ⟨rfl, fun _ member => member, fun requested => requested, fun _ requested => Or.inl requested⟩

theorem StopState.Later.trans (first : stop.Later middle) (second : middle.Later after) :
    stop.Later after := by
  refine ⟨second.serverFd.trans first.serverFd, ?_, ?_, ?_⟩
  · intro fd member
    exact second.closes fd (first.closes fd member)
  · intro requested
    exact second.requested (first.requested requested)
  · intro valid requested
    rcases second.raised (by rwa [first.serverFd]) requested with before | closed
    · rcases first.raised valid before with start | closed
      · exact Or.inl start
      · exact Or.inr (second.closes _ closed)
    · rw [first.serverFd] at closed
      exact Or.inr closed

theorem handleStopSignal_later (stop : StopState) (signo : StopSignal) :
    stop.Later (handleStopSignal stop signo) := by
  refine ⟨rfl, ?_, fun _ => rfl, ?_⟩
  · intro fd member
    exact List.mem_append_left _ member
  · intro valid _
    refine Or.inr (List.mem_append_right _ ?_)
    rw [if_pos valid]
    exact List.mem_singleton.mpr rfl

theorem handleStopSignals_later (stop : StopState) (signals : List StopSignal) :
    stop.Later (handleStopSignals stop signals) := by
  induction signals generalizing stop with
  | nil => exact .refl stop
  | cons signo rest ih => exact (handleStopSignal_later stop signo).trans (ih _)

/-- The accept loop takes connections while no stop is requested, and none after. -/
theorem acceptUntilStopped_acts {rounds : List (AcceptOutcome × List StopSignal)} {rt : Runtime}
    {result : Accepting} (possible : ∀ round ∈ rounds, round.1.isPossible = true)
    (accepted : acceptUntilStopped stop rt rounds = .ok result) :
    stop.Later result.stop ∧ Acts (!stop.requested) rt result.rt := by
  induction rounds generalizing stop rt with
  | nil =>
      cases accepted
      exact ⟨.refl _, .refl _⟩
  | cons round rest ih =>
      obtain ⟨outcome, signals⟩ := round
      have later := handleStopSignals_later stop signals
      cases outcome with
      | again =>
          cases accepted
          exact ⟨later, .refl _⟩
      | failed errno =>
          unfold acceptUntilStopped at accepted
          dsimp only at accepted
          split at accepted
          · cases accepted
            exact ⟨later, .refl _⟩
          · cases accepted
      | connection fd cloexec env =>
          unfold acceptUntilStopped at accepted
          dsimp only at accepted
          split at accepted
          · cases accepted
          · split at accepted
            · cases accepted
              exact ⟨later, .refl _⟩
            · rename_i serving
              obtain ⟨more, acts⟩ :=
                ih (fun other member => possible other (List.mem_cons_of_mem _ member)) accepted
              have valid : 0 ≤ fd := of_decide_eq_true (possible _ List.mem_cons_self)
              have before : stop.requested = false :=
                Bool.eq_false_iff.mpr fun requested => serving (later.requested requested)
              refine ⟨later.trans more, ?_⟩
              rw [before]
              rw [Bool.not_eq_true] at serving
              rw [serving] at acts
              exact (openClient_acts valid env).trans acts

end Handler

/-! ## The turns -/

/-- The flag is looked at. -/
def LoopState.looks (state : LoopState) (env : TurnEnv) : Bool :=
  match state.point, env.polled with
  | .flush index, _ => !decide (index < state.rt.limits.maxClients)
  | .poll, .interrupted => true
  | _, _ => false

section Turns

variable {config : Config} {serverFd : Fd} {state next : Serving} {env : TurnEnv}
  {signals : List (List StopSignal)}

/-- The ways a turn can go. -/
inductive ServingTurn (serverFd : Fd) (state : Serving) (env : TurnEnv) : Serving → Prop where
  | leaves (requested : state.stop.requested = true) :
      ServingTurn serverFd state env { state with left := true }
  | proceeds (loop : LoopState) (turned : loopTurn serverFd state.loop env = .ok loop)
      (unlooked : state.loop.looks env = true → state.stop.requested = false)
      (unchanged : state.loop.point.accepts = true → loop.rt = state.loop.rt) :
      ServingTurn serverFd state env { state with loop }
  | takes (accepts : List AcceptOutcome) (events : List PollEvent) (result : Accepting)
      (point : state.loop.point = .handle (.server accepts :: events))
      (later : state.stop.Later result.stop)
      (acts : Acts (!state.stop.requested) state.loop.rt result.rt) :
      ServingTurn serverFd state env ⟨⟨result.rt, .handle events, state.loop.progress⟩,
        result.stop, state.left, state.dropped ++ result.dropped⟩

theorem proceed_turn (proceeded : state.proceed serverFd env = .ok next)
    (unlooked : state.loop.looks env = true → state.stop.requested = false)
    (unaccepting : state.loop.point.accepts = false) : ServingTurn serverFd state env next := by
  obtain ⟨loop, turned, done⟩ := bind_ok proceeded
  cases done
  refine .proceeds loop turned unlooked ?_
  intro accepting
  rw [unaccepting] at accepting
  cases accepting

theorem servingTurn_goes (turned : servingTurn serverFd state env signals = .ok next) :
    ServingTurn serverFd state env next := by
  obtain ⟨⟨rt, point, progress⟩, stop, left, dropped⟩ := state
  cases point with
  | service index => exact proceed_turn turned (by rintro ⟨⟩) rfl
  | dispatch band offset => exact proceed_turn turned (by rintro ⟨⟩) rfl
  | reap => exact proceed_turn turned (by rintro ⟨⟩) rfl
  | sweep => exact proceed_turn turned (by rintro ⟨⟩) rfl
  | flush index =>
      simp only [servingTurn] at turned
      split at turned
      · rename_i below
        refine proceed_turn turned ?_ rfl
        intro looks
        simp only [LoopState.looks, below, decide_true, Bool.not_true] at looks
        cases looks
      · split at turned
        · rename_i requested
          cases turned
          exact .leaves requested
        · rename_i serving
          exact proceed_turn turned (fun _ => Bool.eq_false_iff.mpr serving) rfl
  | poll =>
      simp only [servingTurn] at turned
      split at turned
      · split at turned
        · rename_i requested
          cases turned
          exact .leaves requested
        · rename_i serving
          exact proceed_turn turned (fun _ => Bool.eq_false_iff.mpr serving) rfl
      · rename_i waited
        refine proceed_turn turned ?_ rfl
        intro looks
        unfold LoopState.looks at looks
        split at looks
        · contradiction
        · rename_i interrupted
          exact absurd interrupted waited
        · cases looks
  | handle events =>
      cases events with
      | nil => exact proceed_turn turned (by rintro ⟨⟩) rfl
      | cons event events =>
          cases event with
          | ring envs => exact proceed_turn turned (by rintro ⟨⟩) rfl
          | client index writable readable hangup =>
              exact proceed_turn turned (by rintro ⟨⟩) rfl
          | server accepts =>
              simp only [servingTurn] at turned
              split at turned
              · rename_i possible
                obtain ⟨result, accepted, done⟩ := bind_ok turned
                cases done
                have rounds : ∀ round ∈ accepts.zipIdx.map
                    (fun entry => (entry.1, signals.getD entry.2 [])),
                    round.1.isPossible = true := by
                  intro round member
                  obtain ⟨entry, inside, same⟩ := List.mem_map.mp member
                  rw [← same]
                  exact List.all_eq_true.mp possible _ (List.fst_mem_of_mem_zipIdx inside)
                obtain ⟨later, acts⟩ := acceptUntilStopped_acts rounds accepted
                exact .takes accepts events result rfl later acts
              · rename_i impossible
                obtain ⟨loop, taken, done⟩ := bind_ok turned
                cases done
                refine .proceeds loop taken (by rintro ⟨⟩) ?_
                intro _
                simp only [loopTurn, impossible, Bool.false_eq_true, ↓reduceIte] at taken
                cases taken
                rfl

/-- A turn under signals is a list of actions, without connections once a stop is requested. -/
theorem ServingTurn.acts (turn : ServingTurn serverFd state env next)
    (reachable : Reachable config state.loop.rt) :
    Acts (!state.stop.requested) state.loop.rt next.loop.rt := by
  cases turn with
  | leaves requested => exact .refl _
  | proceeds loop turned unlooked unchanged =>
      cases accepting : state.loop.point.accepts with
      | false =>
          have acts := loopTurn_acts reachable turned
          rw [accepting] at acts
          exact acts.mono
      | true =>
          have same : loop.rt = state.loop.rt := unchanged accepting
          change Acts _ _ loop.rt
          rw [same]
          exact .refl _
  | takes accepts events result point later acts => exact acts

theorem ServingTurn.later (turn : ServingTurn serverFd state env next) :
    state.stop.Later next.stop := by
  cases turn with
  | leaves requested => exact .refl _
  | proceeds loop turned unlooked unchanged => exact .refl _
  | takes accepts events result point later acts => exact later

end Turns

/-! ## How far it is to the end -/

/-- The turns from a `poll` to the next look at the flag behind the output pass. -/
def turnsToStop (maxClients : Nat) : Nat := maxClients + 4 + turnsPerIteration maxClients

/-- The turns to the next look at the flag, without those that read completions. -/
def LoopPoint.turnsToLook (maxClients : Nat) : LoopPoint → Nat
  | .poll => turnsToStop maxClients
  | point => point.turnsLeft maxClients

namespace LoopState

/-- The turns to the next look at the flag, if no completion arrives. -/
def turnsToLook (state : LoopState) : Nat :=
  state.point.turnsToLook state.rt.limits.maxClients + state.rt.ring.posted.length

end LoopState

section Distance

variable {config : Config} {serverFd : Fd} {rt after : Runtime} {state next : LoopState}
  {env : TurnEnv} {accepts : Bool}

/-- The turns of the loop post no completions. -/
theorem Acts.posted_le (acts : Acts accepts rt after) (reachable : Reachable config rt) :
    after.ring.posted.length ≤ rt.ring.posted.length := by
  refine @Acts.related accepts rt after config
    (fun rt after => after.ring.posted.length ≤ rt.ring.posted.length) acts reachable
    (fun _ => Nat.le_refl _) (fun _ _ _ first second => Nat.le_trans second first) ?_
  intro rt action after reachable own taken
  cases step_effect reachable.invariant.grounded taken with
  | idle | turnedAway | opened | cursorMoved => exact Nat.le_refl _
  | served index incoming _ connected only served => exact Nat.le_of_eq (by rw [only.posted])
  | dispatched index env middle bytes _ connected ready change answered recorded =>
      rw [answered]
      exact Nat.le_of_eq (congrArg List.length change.posted)
  | completed _ taskIndex res ring _ occupied source completed calls =>
      have same : after.ring.posted = ring.posted := by
        rw [completed.ring]
        rfl
      cases action with
      | reap env =>
          obtain ⟨cqe, peeked, -⟩ := source
          obtain ⟨-, -, posted⟩ := ringPeekCompletion_some peeked
          rw [same, posted]
          exact Nat.le_succ _
      | complete taskIndex res env => cases own
      | _ => exact source.elim
  | swept updates _ swept slots =>
      rw [swept.ring]
      exact Nat.le_refl _
  | flushed index writes _ connected only flushed => exact Nat.le_of_eq (by rw [only.posted])
  | disconnected index connected =>
      exact Nat.le_of_eq (congrArg List.length (@OnlyClient.closeClient rt index).posted)
  | posted position res => cases own
  | stored store => cases own

/-- `poll` is given the listening socket, the ring and the clients. -/
theorem length_buildPollfds (serverFd : Fd) (rt : Runtime) :
    (buildPollfds serverFd rt).length ≤ rt.limits.maxClients + 2 := by
  have clients : ((List.range rt.limits.maxClients).filterMap (clientPollFd rt)).length ≤
      rt.limits.maxClients := by
    have filtered := List.length_filterMap_le (clientPollFd rt) (List.range rt.limits.maxClients)
    rwa [List.length_range] at filtered
  have one : ∀ (condition : Prop) [Decidable condition] (entry : PollFd),
      (if condition then [entry] else []).length ≤ 1 := by
    intro condition _ entry
    split
    · exact Nat.le_refl 1
    · exact Nat.zero_le 1
  have server := one (0 ≤ serverFd) ⟨serverFd, true, false, .server⟩
  have ring := one (rt.outstandingTasks ≠ 0) ⟨rt.ring.ringFd, true, false, .ring⟩
  unfold buildPollfds
  rw [List.length_append, List.length_append]
  omega

theorem turnsToLook_handle (maxClients : Nat) (event : PollEvent) (events : List PollEvent) :
    (LoopPoint.handle (event :: events)).turnsToLook maxClients =
      (LoopPoint.handle events).turnsToLook maxClients + 1 := by
  simp only [LoopPoint.turnsToLook, LoopPoint.turnsLeft, List.length_cons]
  omega

/-- A turn without a look at the flag gets nearer to the next one. -/
theorem loopTurn_nearer (reachable : Reachable config state.rt)
    (turned : loopTurn serverFd state env = .ok next) (unlooked : state.looks env = false)
    (reports : state.reports serverFd env = true) :
    next.point.turnsToLook state.rt.limits.maxClients ≤
        state.point.turnsToLook state.rt.limits.maxClients ∧
      next.turnsToLook + 1 ≤ state.turnsToLook := by
  have acts := loopTurn_acts reachable turned
  have fewer := acts.posted_le reachable
  have limits : next.rt.limits = state.rt.limits := by
    rw [(acts.reachable reachable).invariant.limits, ← reachable.invariant.limits]
  -- all turns but those that read completions
  have nearer : next.point.turnsToLook state.rt.limits.maxClients + 1 ≤
      state.point.turnsToLook state.rt.limits.maxClients →
      next.point.turnsToLook state.rt.limits.maxClients ≤
          state.point.turnsToLook state.rt.limits.maxClients ∧
        next.turnsToLook + 1 ≤ state.turnsToLook := by
    intro less
    refine ⟨Nat.le_of_succ_le less, ?_⟩
    unfold LoopState.turnsToLook
    rw [limits]
    omega
  obtain ⟨rt, point, progress⟩ := state
  dsimp only at reachable nearer fewer limits ⊢
  cases point with
  | service index =>
      apply nearer
      simp only [loopTurn] at turned
      split at turned
      · obtain ⟨result, -, done⟩ := bind_ok turned
        cases done
        simp only [LoopPoint.turnsToLook, LoopPoint.turnsLeft]
        omega
      · cases turned
        simp only [LoopPoint.turnsToLook, LoopPoint.turnsLeft]
        omega
  | dispatch band offset =>
      apply nearer
      simp only [loopTurn] at turned
      split at turned
      · obtain ⟨result, -, done⟩ := bind_ok turned
        cases done
        simp only [LoopPoint.turnsToLook, LoopPoint.turnsLeft]
        omega
      · cases band with
        | zero =>
            cases turned
            simp only [LoopPoint.turnsToLook, LoopPoint.turnsLeft]
            omega
        | succ band =>
            cases turned
            simp only [LoopPoint.turnsToLook, LoopPoint.turnsLeft, Nat.succ_mul]
            omega
  | reap =>
      obtain ⟨found, reaped, done⟩ := bind_ok turned
      cases found with
      | none =>
          cases done
          exact nearer (Nat.le_refl _)
      | some rest =>
          cases done
          obtain ⟨posted, -⟩ := reapCompletion_posted reachable reaped
          refine ⟨Nat.le_refl _, ?_⟩
          unfold LoopState.turnsToLook
          dsimp only
          rw [limits, posted]
          exact Nat.le_refl _
  | sweep =>
      obtain ⟨result, -, done⟩ := bind_ok turned
      cases done
      exact nearer (Nat.le_refl _)
  | flush index =>
      simp only [LoopState.looks, Bool.not_eq_false', decide_eq_true_eq] at unlooked
      simp only [loopTurn, unlooked, ↓reduceIte] at turned
      cases turned
      apply nearer
      simp only [LoopPoint.turnsToLook, LoopPoint.turnsLeft]
      omega
  | poll =>
      simp only [loopTurn] at turned
      cases polled : env.polled with
      | interrupted =>
          simp only [LoopState.looks, polled] at unlooked
          cases unlooked
      | failed errno =>
          rw [polled] at turned
          cases turned
      | reported events =>
          rw [polled] at turned
          cases turned
          simp only [LoopState.reports, polled, decide_eq_true_eq] at reports
          have entries := length_buildPollfds serverFd rt
          apply nearer
          simp only [LoopPoint.turnsToLook, LoopPoint.turnsLeft, turnsToStop]
          omega
  | handle events =>
      apply nearer
      cases events with
      | nil =>
          cases turned
          rw [LoopState.iterate, LoopPoint.turnsToLook, LoopPoint.turnsToLook,
            turnsLeft_iterate, LoopPoint.turnsLeft, List.length_nil]
          · omega
          · rintro ⟨⟩
          · rintro ⟨⟩
      | cons event events =>
          simp only [loopTurn] at turned
          split at turned
          · obtain ⟨middle, -, done⟩ := bind_ok turned
            cases done
            exact Nat.le_of_eq (turnsToLook_handle _ event events).symm
          · cases turned
            exact Nat.le_of_eq (turnsToLook_handle _ event events).symm

theorem turnsPerIteration_le (maxClients : Nat) :
    turnsPerIteration maxClients ≤ turnsToStop maxClients := Nat.le_add_left _ _

/-- Behind a look at the flag the next one is an iteration away, or behind a `poll`. -/
theorem loopTurn_looked (turned : loopTurn serverFd state env = .ok next)
    (looked : state.looks env = true) :
    next.point.turnsToLook state.rt.limits.maxClients ≤ turnsToStop state.rt.limits.maxClients := by
  have iterates : (LoopPoint.service 0).turnsToLook state.rt.limits.maxClients ≤
      turnsToStop state.rt.limits.maxClients :=
    Nat.le_trans (Nat.le_of_eq (turnsLeft_iterate _)) (turnsPerIteration_le _)
  obtain ⟨rt, point, progress⟩ := state
  cases point with
  | flush index =>
      simp only [LoopState.looks, Bool.not_eq_true', decide_eq_false_iff_not] at looked
      simp only [loopTurn, looked, ↓reduceIte] at turned
      split at turned
      · cases turned
        exact iterates
      · cases turned
        exact Nat.le_refl _
  | poll =>
      cases polled : env.polled with
      | interrupted =>
          simp only [loopTurn, polled] at turned
          cases turned
          exact iterates
      | _ =>
          simp only [LoopState.looks, polled] at looked
          cases looked
  | _ => cases looked

end Distance

/-! ## What holds while the daemon serves -/

/-- Behind the last look at the flag. -/
def LoopPoint.waits : LoopPoint → Bool
  | .poll | .handle _ => true
  | _ => false

/-- What every step keeps. A stop that was requested behind the last look at the flag has
closed the listening socket. -/
structure Serving.Kept (config : Config) (serverFd : Fd) (state : Serving) : Prop where
  reachable : Reachable config state.loop.rt
  socket : state.stop.serverFd = serverFd
  heeded : state.stop.requested = true → state.left = false → state.loop.point.waits = true →
    serverFd ∈ state.stop.closes
  left : state.left = true → state.stop.requested = true
  near : state.loop.point.turnsToLook state.loop.rt.limits.maxClients ≤
    turnsToStop state.loop.rt.limits.maxClients

section Serving

variable {config : Config} {serverFd : Fd} {state next final : Serving} {env : TurnEnv}
  {events : List ServingEvent}

/-- The loop gets behind the last look at the flag by looking at it. -/
theorem loopTurn_waits {state next : LoopState} (turned : loopTurn serverFd state env = .ok next)
    (waits : next.point.waits = true) : state.point.waits = true ∨ state.looks env = true := by
  obtain ⟨rt, point, progress⟩ := state
  cases point with
  | service index =>
      simp only [loopTurn] at turned
      split at turned
      · obtain ⟨result, -, done⟩ := bind_ok turned
        cases done
        cases waits
      · cases turned
        cases waits
  | dispatch band offset =>
      simp only [loopTurn] at turned
      split at turned
      · obtain ⟨result, -, done⟩ := bind_ok turned
        cases done
        cases waits
      · cases band with
        | zero =>
            cases turned
            cases waits
        | succ band =>
            cases turned
            cases waits
  | reap =>
      obtain ⟨found, -, done⟩ := bind_ok turned
      cases found with
      | none =>
          cases done
          cases waits
      | some rest =>
          cases done
          cases waits
  | sweep =>
      obtain ⟨result, -, done⟩ := bind_ok turned
      cases done
      cases waits
  | flush index =>
      simp only [loopTurn] at turned
      split at turned
      · cases turned
        cases waits
      · rename_i past
        refine Or.inr ?_
        simp only [LoopState.looks, past, decide_false, Bool.not_false]
  | poll => exact Or.inl rfl
  | handle events => exact Or.inl rfl

theorem Serving.Kept.turned (kept : state.Kept config serverFd) (valid : 0 ≤ serverFd)
    (running : state.left = false) (reports : state.loop.reports serverFd env = true)
    (turn : ServingTurn serverFd state env next) : next.Kept config serverFd := by
  have reachable := (turn.acts kept.reachable).reachable kept.reachable
  have limits : next.loop.rt.limits = state.loop.rt.limits := by
    rw [reachable.invariant.limits, ← kept.reachable.invariant.limits]
  have later := turn.later
  refine ⟨reachable, later.serverFd.trans kept.socket, ?_, ?_, ?_⟩
  · intro requested still waits
    cases turn with
    | leaves requested => cases still
    | proceeds loop turned unlooked unchanged =>
        rcases loopTurn_waits turned waits with before | looked
        · exact kept.heeded requested running before
        · rw [unlooked looked] at requested
          cases requested
    | takes accepts events result point later acts =>
        rcases later.raised (by rwa [kept.socket]) requested with before | closed
        · refine later.closes serverFd (kept.heeded before running ?_)
          rw [point]
          rfl
        · rwa [kept.socket] at closed
  · intro gone
    cases turn with
    | leaves requested => exact requested
    | proceeds loop turned unlooked unchanged => exact kept.left gone
    | takes accepts events result point later acts => exact later.requested (kept.left gone)
  · rw [limits]
    cases turn with
    | leaves requested => exact kept.near
    | proceeds loop turned unlooked unchanged =>
        cases looked : state.loop.looks env with
        | true => exact loopTurn_looked turned looked
        | false =>
            exact Nat.le_trans (loopTurn_nearer kept.reachable turned looked reports).1 kept.near
    | takes accepts events result point later acts =>
        have near := kept.near
        rw [point, turnsToLook_handle] at near
        exact Nat.le_of_succ_le near

theorem Serving.Kept.stepped {event : ServingEvent} (kept : state.Kept config serverFd)
    (valid : 0 ≤ serverFd) (reports : event.reports serverFd state = true)
    (taken : servingStep serverFd state event = .ok next) : next.Kept config serverFd := by
  cases event with
  | signal signo =>
      cases taken
      have later := handleStopSignal_later state.stop signo
      refine ⟨kept.reachable, later.serverFd.trans kept.socket, ?_, fun _ => rfl, kept.near⟩
      intro requested running waits
      rcases later.raised (by rwa [kept.socket]) requested with before | closed
      · exact later.closes serverFd (kept.heeded before running waits)
      · rwa [kept.socket] at closed
  | loop event signals =>
      unfold servingStep at taken
      dsimp only at taken
      split at taken
      · cases taken
        exact kept
      · rename_i running
        cases event with
        | turn env =>
            exact kept.turned valid (Bool.eq_false_iff.mpr running) reports (servingTurn_goes taken)
        | post position res =>
            cases taken
            exact ⟨@Reachable.stepped _ _ (.post position res) _ kept.reachable rfl, kept.socket,
              kept.heeded, kept.left, kept.near⟩
        | store store =>
            cases taken
            refine ⟨@Reachable.stepped _ _ (.store store) _ kept.reachable rfl, kept.socket,
              kept.heeded, kept.left, ?_⟩
            cases store with
            | _ => exact kept.near

theorem Serving.Reached.kept (valid : 0 ≤ serverFd) (reached : state.Reached config serverFd) :
    state.Kept config serverFd := by
  obtain ⟨stop, events, socket, ran, reports⟩ := reached
  refine @Along.preserves _ _ _ _ _ _ _ _ (Serving.Kept config serverFd) reports ?_ ?_ ran
  · intro before event after reports kept taken
    exact kept.stepped valid reports taken
  · refine ⟨⟨[], rfl⟩, socket, by rintro - - ⟨⟩, by rintro ⟨⟩, ?_⟩
    exact Nat.le_trans (Nat.le_of_eq (turnsLeft_iterate _)) (turnsPerIteration_le _)

/-! ## Behind a request to stop -/

def ServingEvent.isTurn : ServingEvent → Bool
  | .loop (.turn _) _ => true
  | _ => false

def ServingEvent.isPost : ServingEvent → Bool
  | .loop (.post _ _) _ => true
  | _ => false

theorem servingStep_left {event : ServingEvent} (left : state.left = true)
    (taken : servingStep serverFd state event = .ok next) : next.left = true := by
  cases event with
  | signal signo =>
      cases taken
      exact left
  | loop event signals =>
      simp only [servingStep, left, ↓reduceIte] at taken
      cases taken
      exact left

/-- A daemon that serves in the end served all along. -/
theorem along_serving (ran : run (servingStep serverFd) state events = .ok final)
    (serving : final.left = false) :
    Along (servingStep serverFd) (fun state event => ∀ next,
      servingStep serverFd state event = .ok next → next.left = false) state events := by
  induction events generalizing state with
  | nil => trivial
  | cons event rest ih =>
      rw [run_cons] at ran
      obtain ⟨middle, first, last⟩ := bind_ok ran
      refine ⟨?_, ?_⟩
      · intro next taken
        rw [first] at taken
        cases taken
        by_contra gone
        rw [Bool.not_eq_false] at gone
        have stays : final.left = true := by
          refine @run_preserves _ _ _ _ _ _ _ (fun state => state.left = true) ?_ gone last
          intro before event after _ left taken
          exact servingStep_left left taken
        rw [serving] at stays
        cases stays
      · intro next taken
        rw [first] at taken
        cases taken
        exact ih last

/-- While a stop is requested and the loop is not left, a turn gets nearer to the look at the
flag, and other steps take it away by the completions they post. -/
theorem servingStep_nearer {event : ServingEvent} (kept : state.Kept config serverFd)
    (requested : state.stop.requested = true) (reports : event.reports serverFd state = true)
    (serving : next.left = false) (taken : servingStep serverFd state event = .ok next) :
    next.loop.turnsToLook + event.isTurn.toNat ≤ state.loop.turnsToLook + event.isPost.toNat := by
  have running : state.left = false := by
    by_contra gone
    rw [Bool.not_eq_false] at gone
    have left := servingStep_left gone taken
    rw [serving] at left
    cases left
  cases event with
  | signal signo =>
      cases taken
      exact Nat.le_refl _
  | loop event signals =>
      simp only [servingStep, running, Bool.false_eq_true, ↓reduceIte] at taken
      cases event with
      | turn env =>
          cases servingTurn_goes taken with
          | leaves requested => cases serving
          | proceeds loop turned unlooked unchanged =>
              have blind : state.loop.looks env = false := by
                by_contra looks
                rw [Bool.not_eq_false] at looks
                rw [unlooked looks] at requested
                cases requested
              exact (loopTurn_nearer kept.reachable turned blind reports).2
          | takes accepts events result point later acts =>
              have fewer := acts.posted_le kept.reachable
              have limits : result.rt.limits = state.loop.rt.limits := by
                rw [(acts.reachable kept.reachable).invariant.limits,
                  ← kept.reachable.invariant.limits]
              unfold LoopState.turnsToLook
              rw [point, turnsToLook_handle]
              change (LoopPoint.handle events).turnsToLook result.rt.limits.maxClients +
                result.rt.ring.posted.length + 1 ≤ _ + 0
              rw [limits]
              omega
      | post position res =>
          cases taken
          have grown : (kernelPost state.loop.rt.ring position res).posted.length ≤
              state.loop.rt.ring.posted.length + 1 := kernelPost_posted position res
          unfold LoopState.turnsToLook
          change _ + (kernelPost state.loop.rt.ring position res).posted.length + 0 ≤ _ + 1
          dsimp only
          omega
      | store store =>
          cases taken
          cases store with
          | _ => exact Nat.le_refl _

theorem servingStep_later {event : ServingEvent}
    (taken : servingStep serverFd state event = .ok next) : state.stop.Later next.stop := by
  cases event with
  | signal signo =>
      cases taken
      exact handleStopSignal_later state.stop signo
  | loop event signals =>
      unfold servingStep at taken
      dsimp only at taken
      split at taken
      · cases taken
        exact .refl _
      · cases event with
        | turn env => exact (servingTurn_goes taken).later
        | post position res =>
            cases taken
            exact .refl _
        | store store =>
            cases taken
            exact .refl _

/-- Once a stop is requested every socket is kept or closed. -/
theorem servingStep_socket {event : ServingEvent} (kept : state.Kept config serverFd)
    (requested : state.stop.requested = true)
    (taken : servingStep serverFd state event = .ok next) (index : Nat) :
    (next.loop.rt.clients index).fd = (state.loop.rt.clients index).fd ∨
      (next.loop.rt.clients index).fd < 0 := by
  cases event with
  | signal signo =>
      cases taken
      exact Or.inl rfl
  | loop event signals =>
      unfold servingStep at taken
      dsimp only at taken
      split at taken
      · cases taken
        exact Or.inl rfl
      · cases event with
        | turn env =>
            have acts := (servingTurn_goes taken).acts kept.reachable
            rw [requested] at acts
            exact Acts.socket acts kept.reachable index
        | post position res =>
            cases taken
            exact Or.inl rfl
        | store store =>
            cases taken
            cases store with
            | _ => exact Or.inl rfl

/-- A request to stop is heeded, whenever it comes. The loop is left after at most
`turnsToStop` turns and one for each completion that was unread or is posted, and does not
sleep before: its listening socket is closed, which `poll` reports at once. No connection is
taken any more. The process ends by the signal, when every connection is closed. -/
theorem stop_heeded (valid : 0 ≤ serverFd) (reached : state.Reached config serverFd)
    (requested : state.stop.requested = true)
    (ran : run (servingStep serverFd) state events = .ok final)
    (reports : Along (servingStep serverFd)
      (fun state event => event.reports serverFd state = true) state events) :
    (final.left = true ∨
      events.countP ServingEvent.isTurn ≤ turnsToStop config.limits.maxClients +
        state.loop.rt.ring.posted.length + events.countP ServingEvent.isPost) ∧
    (final.left = false → final.loop.point = .poll → serverFd ∈ final.stop.closes ∧
      ⟨serverFd, true, false, .server⟩ ∈ buildPollfds serverFd final.loop.rt) ∧
    (∀ index, (final.loop.rt.clients index).isActive = true →
      (final.loop.rt.clients index).fd = (state.loop.rt.clients index).fd) ∧
    (final.left = true →
      (∀ restored, ∃ signo, final.stop.signal = some signo ∧ mainEnd (.ok final) restored =
        some (if restored then .killed signo else .exited (128 + signo.number))) ∧
      ∀ index < final.loop.rt.limits.maxClients,
        ((cleanupClients final.loop.rt).clients index).isActive = false) ∧
    Reachable config final.loop.rt := by
  have before := reached.kept valid
  have after : final.Kept config serverFd ∧ final.stop.requested = true ∧
      ∀ index, (final.loop.rt.clients index).fd = (state.loop.rt.clients index).fd ∨
        (final.loop.rt.clients index).fd < 0 := by
    refine @Along.preserves _ _ _ _ _ _ _ _ (fun later : Serving => later.Kept config serverFd ∧
      later.stop.requested = true ∧ ∀ index,
        (later.loop.rt.clients index).fd = (state.loop.rt.clients index).fd ∨
          (later.loop.rt.clients index).fd < 0) reports ?_
      ⟨before, requested, fun _ => Or.inl rfl⟩ ran
    rintro middle event next reports ⟨kept, requested, sockets⟩ taken
    refine ⟨kept.stepped valid reports taken, (servingStep_later taken).requested requested, ?_⟩
    intro index
    rcases servingStep_socket kept requested taken index with same | closed
    · rw [same]
      exact sockets index
    · exact Or.inr closed
  obtain ⟨kept, still, sockets⟩ := after
  refine ⟨?_, ?_, ?_, ?_, kept.reachable⟩
  · rw [or_iff_not_imp_left, Bool.not_eq_true]
    intro serving
    have paid := @Along.amortized _ _ _ _
      (fun _ (event : ServingEvent) => event.isTurn.toNat) (fun _ event => event.isPost.toNat)
      state final events _ (fun later : Serving => later.Kept config serverFd ∧
        later.stop.requested = true) (fun state : Serving => state.loop.turnsToLook)
      (reports.and (along_serving ran serving)) ?_ ?_ ⟨before, requested⟩ ran
    · rw [runTotal_countP _ ran, runTotal_countP _ ran] at paid
      have near := before.near
      rw [before.reachable.invariant.limits] at near
      have start : state.loop.turnsToLook ≤ turnsToStop config.limits.maxClients +
          state.loop.rt.ring.posted.length := by
        unfold LoopState.turnsToLook
        rw [before.reachable.invariant.limits]
        exact Nat.add_le_add_right near _
      omega
    · rintro middle event next ⟨reports, -⟩ ⟨kept, requested⟩ taken
      exact ⟨kept.stepped valid reports taken, (servingStep_later taken).requested requested⟩
    · rintro middle event next ⟨reports, running⟩ ⟨kept, requested⟩ taken
      exact servingStep_nearer kept requested reports (running next taken) taken
  · intro serving polling
    refine ⟨kept.heeded still serving (by rw [polling]; rfl), ?_⟩
    unfold buildPollfds
    rw [if_pos valid]
    exact List.mem_append_left _ (List.mem_append_left _ (List.mem_singleton.mpr rfl))
  · intro index active
    rcases sockets index with same | closed
    · exact same
    · exact absurd closed (Int32.not_lt.mpr (of_decide_eq_true active))
  · intro left
    refine ⟨?_, (cleanupClients_closes final.loop.rt).1⟩
    intro restored
    have flagged := final.stop.flagged
    rw [still] at flagged
    obtain ⟨signo, raised⟩ := Option.isSome_iff_exists.mp flagged.symm
    refine ⟨signo, raised, ?_⟩
    unfold mainEnd finishStopSignal
    simp only [left, still, raised, Bool.not_true, Bool.false_eq_true, ↓reduceIte]

/-- An idle daemon accepts two connections. The signal arrives with the second. -/
def stoppingTurns : List ServingEvent :=
  List.replicate 20 (.loop (.turn .idle) []) ++
    [.loop (.turn { TurnEnv.idle with
        polled := .reported
          [.server [.connection 7 true ⟨true, true⟩, .connection 8 true ⟨true, true⟩]] }) [],
      .loop (.turn .idle) [[], [.terminate]]]

/-- The iteration after that. -/
def lastTurns : List ServingEvent := List.replicate 21 (.loop (.turn .idle) [])

/-- The daemon goes on for an iteration and is then killed by the signal. -/
theorem stop_heeded_accepting :
    ∃ state final, run (servingStep 5) (.start .smallest (.initial 5)) stoppingTurns = .ok state ∧
      run (servingStep 5) state lastTurns = .ok final ∧ final.left = true ∧
      (state.loop.rt.clients 0).fd = 7 ∧ state.dropped = [8] ∧
      ∃ signo, mainEnd (.ok final) true = some (.killed signo) := by
  have seen : ((run (servingStep 5) (.start .smallest (.initial 5))
      stoppingTurns).toOption.map fun state =>
        decide (state.stop.requested = true ∧ (state.loop.rt.clients 0).fd = 7 ∧
          state.dropped = [8]) &&
        checkAlong (servingStep 5) (fun state event => event.reports 5 state) state lastTurns &&
        decide ((run (servingStep 5) state lastTurns).toOption.map Serving.left = some true)) =
      some true := by decide +kernel
  have checked : checkAlong (servingStep 5) (fun state event => event.reports 5 state)
      (.start .smallest (.initial 5)) stoppingTurns = true := by decide +kernel
  obtain ⟨state, ran, view⟩ := exists_of_toOption_map seen
  rw [Bool.and_eq_true, Bool.and_eq_true, decide_eq_true_eq, decide_eq_true_eq] at view
  obtain ⟨⟨⟨requested, socket, dropped⟩, reports⟩, ends⟩ := view
  obtain ⟨final, ended, left⟩ := exists_of_toOption_map ends
  have heeded := @stop_heeded .smallest 5 state final lastTurns (by decide)
    ⟨.initial 5, stoppingTurns, rfl, ran, along_of_checkAlong checked⟩ requested ended
    (along_of_checkAlong reports)
  obtain ⟨signo, -, killed⟩ := (heeded.2.2.2.1 left).1 true
  exact ⟨state, final, ran, ended, left, socket, dropped, signo, killed⟩

end Serving

end Iouringd
