import Iouringd.Daemon.Custody
import Iouringd.Daemon.Machine

/-! # The turns of the loop are steps of the system

A turn of `iouringd_run` is a list of actions of the transition system, and where the loop is
says which ones: connections are taken in the one turn that calls `accept`, and what the
kernel does on its own is no part of a turn.
-/

namespace Iouringd

open Foundation

/-- The actions a turn consists of. -/
def Action.ofTurn (accepts : Bool) : Action → Bool
  | .connect _ _ => accepts
  | .complete _ _ _ | .post _ _ | .store _ => false
  | _ => true

/-- The runtime goes on by actions of a turn. -/
def Acts (accepts : Bool) (rt next : Runtime) : Prop :=
  ∃ actions, run step rt actions = .ok next ∧
    ∀ action ∈ actions, action.ofTurn accepts = true

/-- The turn that calls `accept`. -/
def LoopPoint.accepts : LoopPoint → Bool
  | .handle (.server _ :: _) => true
  | _ => false

namespace Acts

variable {accepts : Bool} {rt middle next : Runtime}

/-- No action. -/
theorem refl (rt : Runtime) : Acts accepts rt rt := ⟨[], rfl, fun _ => nofun⟩

/-- One action. -/
theorem one {action : Action} (taken : step rt action = .ok next)
    (own : action.ofTurn accepts = true) : Acts accepts rt next := by
  refine ⟨[action], ?_, ?_⟩
  · rw [run_cons, taken]
    rfl
  · intro other member
    rw [List.mem_singleton.mp member]
    exact own

/-- The actions of two parts of a turn. -/
theorem trans (first : Acts accepts rt middle) (second : Acts accepts middle next) :
    Acts accepts rt next := by
  obtain ⟨front, ran, own⟩ := first
  obtain ⟨back, more, others⟩ := second
  refine ⟨front ++ back, ?_, ?_⟩
  · rw [run_append, ran]
    exact more
  · intro action member
    rcases List.mem_append.mp member with before | after
    · exact own action before
    · exact others action after

/-- A turn may take connections without doing so. -/
theorem mono (acts : Acts false rt next) : Acts accepts rt next := by
  obtain ⟨actions, ran, own⟩ := acts
  refine ⟨actions, ran, ?_⟩
  intro action member
  cases action with
  | connect fd env => cases own _ member
  | _ => exact own _ member

/-- A turn stays in states of the system. -/
theorem reachable {config : Config} (acts : Acts accepts rt next)
    (reachable : Reachable config rt) : Reachable config next := by
  obtain ⟨actions, ran, -⟩ := acts
  exact reachable.ran ran

/-- What every action of a turn relates, the turn relates. -/
theorem related {config : Config} {relation : Runtime → Runtime → Prop}
    (acts : Acts accepts rt next) (start : Reachable config rt) (refl : ∀ rt, relation rt rt)
    (trans : ∀ first second third, relation first second → relation second third →
      relation first third)
    (each : ∀ rt action next, Reachable config rt → action.ofTurn accepts = true →
      step rt action = .ok next → relation rt next) : relation rt next := by
  obtain ⟨actions, ran, own⟩ := acts
  have both : Reachable config next ∧ relation rt next := by
    refine @run_preserves _ _ _ step rt next actions
      (fun state => Reachable config state ∧ relation rt state) ?_ ⟨start, refl rt⟩ ran
    intro before action after member kept taken
    exact ⟨kept.1.stepped taken, trans rt before after kept.2
      (each before action after kept.1 (own action member) taken)⟩
  exact both.2

end Acts

/-! ## The phases -/

section Phases

variable {accepts : Bool} {config : Config} {rt next : Runtime} {index : Nat}

/-- Reading a client is an action. -/
theorem serviceClientReadable_acts {incoming : List RecvOutcome}
    {result : Runtime × Bool × List RecvOutcome} (below : index < rt.limits.maxClients)
    (active : (rt.clients index).isActive = true)
    (serviced : serviceClientReadable rt index incoming = .ok result) :
    Acts accepts rt result.1 := by
  refine @Acts.one accepts rt _ (.input index incoming) ?_ rfl
  simp only [step, Runtime.connected_of below active, ↓reduceIte, serviced]
  rfl

/-- A turn of the input pass is an action. -/
theorem serviceTurn_acts {incoming : Nat → List RecvOutcome} {progress : Bool}
    {result : Runtime × Bool} (below : index < rt.limits.maxClients)
    (turn : serviceTurn incoming (rt, progress) index = .ok result) :
    Acts accepts rt result.1 := by
  unfold serviceTurn at turn
  dsimp only at turn
  split at turn
  · rename_i active
    obtain ⟨answer, read, done⟩ := bind_ok turn
    cases done
    exact serviceClientReadable_acts below active read
  · cases turn
    exact .refl rt

/-- A turn of the dispatch pass. -/
theorem dispatchTurn_acts {band offset : Nat} {envs : Nat → DispatchEnv} {seen : List Nat}
    {result : Runtime × List Nat} (below : offset < rt.limits.maxClients)
    (turn : dispatchTurn band envs (rt, seen) offset = .ok result) : Acts accepts rt result.1 := by
  have inside : (rt.dispatchCursor + offset) % rt.limits.maxClients < rt.limits.maxClients :=
    Nat.mod_lt _ (Nat.zero_lt_of_lt below)
  rcases dispatchTurn_cases turn with ⟨-, same⟩ | ⟨waits, answered, dispatched, -, same⟩
  · rw [same]
    exact .refl rt
  · rw [same]
    generalize (rt.dispatchCursor + offset) % rt.limits.maxClients = index at *
    have active := (bandReady_iff.mp waits).1.1
    have after : Acts accepts rt answered.1 := by
      refine @Acts.one accepts rt _ (.dispatch index (envs index)) ?_ rfl
      simp only [step, Runtime.connected_of inside active, ↓reduceIte, dispatched]
      rfl
    exact after.trans (@Acts.one accepts _ _ (.moveCursor _) rfl rfl)

/-- Reaping a completion is an action. -/
theorem reapCompletion_acts {env : CompleteEnv} (reaped : reapCompletion rt env = .ok (some next)) :
    Acts accepts rt next := by
  refine @Acts.one accepts rt _ (.reap env) ?_ rfl
  simp only [step, reaped]
  rfl

/-- Reaping all completions is a run of actions. -/
theorem reapCompletions_acts {envs : List CompleteEnv} {result : Runtime × Bool}
    (reaped : reapCompletions rt envs = .ok result) : Acts accepts rt result.1 := by
  induction envs generalizing rt result with
  | nil =>
      cases reaped
      exact .refl rt
  | cons env envs ih =>
      unfold reapCompletions at reaped
      obtain ⟨found, first, rest⟩ := bind_ok reaped
      cases found with
      | none =>
          cases rest
          exact .refl rt
      | some middle =>
          obtain ⟨last, more, done⟩ := bind_ok rest
          cases done
          have later := ih more
          exact (reapCompletion_acts first).trans later

/-- The sweep. -/
theorem sweepClosingResources_acts {updates : Nat → Nat → UpdateOutcome} {result : Runtime × Bool}
    (swept : sweepClosingResources rt updates = .ok result) : Acts accepts rt result.1 := by
  refine @Acts.one accepts rt _ (.sweep updates) ?_ rfl
  simp only [step, swept]
  rfl

/-- Closing a connection is an action. -/
theorem closeClient_acts (below : index < rt.limits.maxClients)
    (active : (rt.clients index).isActive = true) : Acts accepts rt (closeClient rt index) := by
  refine @Acts.one accepts rt _ (.disconnect index) ?_ rfl
  simp only [step, Runtime.connected_of below active, ↓reduceIte]

/-- Flushing a connection is an action. -/
theorem flushOrClose_acts (below : index < rt.limits.maxClients)
    (active : (rt.clients index).isActive = true) (writes : List WriteOutcome) :
    Acts accepts rt (flushOrClose rt index writes).1 := by
  refine @Acts.one accepts rt _ (.flush index writes) ?_ rfl
  simp only [step, Runtime.connected_of below active, ↓reduceIte]

/-- A turn of the output pass. -/
theorem flushTurn_acts (below : index < rt.limits.maxClients) (writes : Nat → List WriteOutcome)
    (progress : Bool) : Acts accepts rt (flushTurn writes (rt, progress) index).1 := by
  unfold flushTurn
  dsimp only
  split
  · exact .refl rt
  · rename_i busy
    rw [Bool.or_eq_true, not_or, Bool.not_eq_true', Bool.not_eq_false] at busy
    exact flushOrClose_acts below busy.1 (writes index)

/-- Accepting a connection is an action. -/
theorem openClient_acts {fd : Fd} (valid : 0 ≤ fd) (env : OpenEnv) :
    Acts true rt (openClient rt fd env) := by
  refine @Acts.one true rt _ (.connect fd env) ?_ rfl
  simp only [step, valid, ↓reduceIte]

/-- Accepting all that are waiting is a run of actions. -/
theorem acceptClients_acts {outcomes : List AcceptOutcome}
    (possible : outcomes.all AcceptOutcome.isPossible = true)
    (accepted : acceptClients rt outcomes = .ok next) : Acts true rt next := by
  induction outcomes generalizing rt with
  | nil =>
      cases accepted
      exact .refl next
  | cons outcome rest ih =>
      rw [List.all_cons, Bool.and_eq_true] at possible
      cases outcome with
      | again =>
          cases accepted
          exact .refl next
      | failed errno => cases accepted
      | connection fd cloexec env =>
          unfold acceptClients at accepted
          split at accepted
          · exact (openClient_acts (of_decide_eq_true possible.1) env).trans
              (ih possible.2 accepted)
          · cases accepted

/-- The input of a client that `poll` reported. -/
theorem handleReadable_acts {readable : Option (List RecvOutcome)} {hangup : Bool}
    (below : index < rt.limits.maxClients)
    (handled : handleReadable rt index readable hangup = .ok next) : Acts accepts rt next := by
  unfold handleReadable at handled
  split at handled
  · rename_i active
    split at handled
    · obtain ⟨result, serviced, done⟩ := bind_ok handled
      cases done
      exact serviceClientReadable_acts below active serviced
    · split at handled
      · cases handled
        exact closeClient_acts below active
      · cases handled
        exact .refl rt
  · cases handled
    exact .refl rt

/-- One event that `poll` reported. -/
theorem handlePollEvent_acts {event : PollEvent} {events : List PollEvent}
    (reachable : Reachable config rt) (possible : event.isPossible rt.limits.maxClients = true)
    (handled : handlePollEvent rt event = .ok next) :
    Acts (LoopPoint.handle (event :: events)).accepts rt next := by
  cases event with
  | server outcomes => exact acceptClients_acts possible handled
  | ring envs =>
      obtain ⟨result, reaped, done⟩ := bind_ok handled
      cases done
      exact reapCompletions_acts reaped
  | client index writable readable hangup =>
      have below : index < rt.limits.maxClients := of_decide_eq_true possible
      cases writable with
      | none => exact handleReadable_acts below handled
      | some writes =>
          unfold handlePollEvent at handled
          dsimp only at handled
          split at handled
          · rename_i active
            have flushed : Acts false rt (flushOrClose rt index writes).1 :=
              flushOrClose_acts below active writes
            split at handled
            · cases handled
              exact flushed
            · refine flushed.trans (handleReadable_acts ?_ handled)
              rw [(flushed.reachable reachable).invariant.limits, ← reachable.invariant.limits]
              exact below
          · exact handleReadable_acts below handled

end Phases

/-! ## The turns -/

section Turns

variable {config : Config} {serverFd : Fd} {state next : LoopState} {env : TurnEnv}

/-- Every turn is a list of actions, and only the turn that calls `accept` takes connections. -/
theorem loopTurn_acts (reachable : Reachable config state.rt)
    (turned : loopTurn serverFd state env = .ok next) :
    Acts state.point.accepts state.rt next.rt := by
  obtain ⟨rt, point, progress⟩ := state
  cases point with
  | service index =>
      simp only [loopTurn] at turned
      split at turned
      · rename_i below
        obtain ⟨result, serviced, done⟩ := bind_ok turned
        cases done
        exact serviceTurn_acts below serviced
      · cases turned
        exact .refl rt
  | dispatch band offset =>
      simp only [loopTurn] at turned
      split at turned
      · rename_i below
        obtain ⟨result, dispatched, done⟩ := bind_ok turned
        cases done
        exact dispatchTurn_acts below dispatched
      · cases band with
        | zero =>
            cases turned
            exact .refl rt
        | succ band =>
            cases turned
            exact .refl rt
  | reap =>
      obtain ⟨found, reaped, done⟩ := bind_ok turned
      cases found with
      | none =>
          cases done
          exact .refl rt
      | some after =>
          cases done
          exact reapCompletion_acts reaped
  | sweep =>
      obtain ⟨result, swept, done⟩ := bind_ok turned
      cases done
      exact sweepClosingResources_acts swept
  | flush index =>
      simp only [loopTurn] at turned
      split at turned
      · rename_i below
        cases turned
        exact flushTurn_acts below _ progress
      · split at turned
        · cases turned
          exact .refl rt
        · cases turned
          exact .refl rt
  | poll =>
      simp only [loopTurn] at turned
      cases polled : env.polled with
      | interrupted =>
          rw [polled] at turned
          cases turned
          exact .refl rt
      | failed errno =>
          rw [polled] at turned
          cases turned
      | reported events =>
          rw [polled] at turned
          cases turned
          exact .refl rt
  | handle events =>
      cases events with
      | nil =>
          cases turned
          exact .refl rt
      | cons event events =>
          simp only [loopTurn] at turned
          split at turned
          · rename_i possible
            obtain ⟨after, handled, done⟩ := bind_ok turned
            cases done
            exact handlePollEvent_acts reachable possible handled
          · cases turned
            exact .refl rt

end Turns

/-! ## What turns never do -/

section Never

variable {config : Config} {rt next : Runtime}

/-- Without `accept` every socket is kept or closed. -/
theorem Acts.socket (acts : Acts false rt next) (reachable : Reachable config rt) (index : Nat) :
    (next.clients index).fd = (rt.clients index).fd ∨ (next.clients index).fd < 0 := by
  refine @Acts.related false rt next config (fun rt next =>
    (next.clients index).fd = (rt.clients index).fd ∨ (next.clients index).fd < 0) acts reachable
    (fun _ => Or.inl rfl) ?_ ?_
  · intro first second third before after
    rcases after with same | closed
    · rw [same]
      exact before
    · exact Or.inr closed
  · intro rt action next reachable own taken
    rcases (step_effect reachable.invariant.grounded taken).socket index with
      same | closed | ⟨fd, env, opens, -⟩
    · exact Or.inl same
    · exact Or.inr closed
    · rw [opens] at own
      cases own

end Never

end Iouringd
