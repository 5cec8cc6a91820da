import Iouringd.Daemon.Machine

/-! # No lost wake-ups

The loop sleeps in `poll` only in an iteration without progress. Every phase that reports no
progress has looked at all there is: the dispatch pass met no ready request, since its cursor
moves only when it dispatches, and the sweep met no slot to free. What is left are clients and
tasks that `poll` waits for.
-/

namespace Iouringd

open Foundation

/-- No connected client has a request that waits to be dispatched. -/
def NoneReady (rt : Runtime) : Prop :=
  ∀ index < rt.limits.maxClients, (rt.clients index).isActive = true →
    (rt.clients index).requestReady = false

/-- No slot waits to be freed. -/
def NoneDue (rt : Runtime) : Prop :=
  ∀ index < rt.limits.maxClients,
    (∀ slot < (rt.clients index).fileSlotLimit,
      ((rt.clients index).fileResources slot).due = false) ∧
    ∀ slot < (rt.clients index).bufferSlotLimit,
      ((rt.clients index).bufferResources slot).due = false

/-- What the phases before have made sure of, if none of them made progress. In the middle of
the dispatch pass the ready clients are those of lower bands and those whose turn in this band
is to come. -/
def LoopPoint.quiet (rt : Runtime) : LoopPoint → Prop
  | .service _ | .handle _ => True
  | .dispatch band offset =>
      ∀ index < rt.limits.maxClients, (rt.clients index).isActive = true →
        (rt.clients index).requestReady = true → clientBand (rt.clients index) < band ∨
          (clientBand (rt.clients index) = band ∧ ∃ later, offset ≤ later ∧
            later < rt.limits.maxClients ∧
            (rt.dispatchCursor + later) % rt.limits.maxClients = index)
  | .reap | .sweep => NoneReady rt
  | .flush _ | .poll => NoneReady rt ∧ NoneDue rt

/-- The invariant of the loop. -/
structure Settled (state : LoopState) : Prop where
  quiet : state.progress = false → state.point.quiet state.rt
  polls : state.point = .poll → state.progress = false

/-! ## The phases -/

section Phases

variable {rt next : Runtime} {band offset index : Nat}

/-- Before the first turn of a band only the clients of higher bands are excluded. -/
theorem quiet_dispatch_start (lower : ∀ index < rt.limits.maxClients,
    (rt.clients index).isActive = true → (rt.clients index).requestReady = true →
      clientBand (rt.clients index) ≤ band) :
    (LoopPoint.dispatch band 0).quiet rt := by
  intro index below active ready
  rcases Nat.lt_or_eq_of_le (lower index below active ready) with less | same
  · exact Or.inl less
  · obtain ⟨later, inside, turn⟩ := @exists_turn _ rt.dispatchCursor _ below
    exact Or.inr ⟨same, later, Nat.zero_le later, inside, turn⟩

/-- After the last turn of a band it has no ready client. -/
theorem quiet_dispatch_end (quiet : (LoopPoint.dispatch band offset).quiet rt)
    (past : ¬ offset < rt.limits.maxClients) (below : index < rt.limits.maxClients)
    (active : (rt.clients index).isActive = true)
    (ready : (rt.clients index).requestReady = true) : clientBand (rt.clients index) < band := by
  rcases quiet index below active ready with less | ⟨-, later, from', inside, -⟩
  · exact less
  · omega

/-- A turn of the dispatch pass that dispatches nothing. -/
theorem quiet_dispatchTurn {envs : Nat → DispatchEnv} {result : Runtime × List Nat}
    (quiet : (LoopPoint.dispatch band offset).quiet rt)
    (turn : dispatchTurn band envs (rt, []) offset = .ok result) (none : result.2 = []) :
    (LoopPoint.dispatch band (offset + 1)).quiet result.1 := by
  -- the client whose turn it was is not a ready one of this band
  have passes :
      ((rt.clients ((rt.dispatchCursor + offset) % rt.limits.maxClients)).isActive = true →
      (rt.clients ((rt.dispatchCursor + offset) % rt.limits.maxClients)).requestReady = true →
        clientBand (rt.clients ((rt.dispatchCursor + offset) % rt.limits.maxClients)) ≠ band) ∧
      result.1 = rt := by
    rcases dispatchTurn_cases turn with ⟨idle, same⟩ | ⟨-, answered, -, -, same⟩
    · refine ⟨?_, congrArg Prod.fst same⟩
      intro active ready band
      rw [bandReady_iff.mpr ⟨⟨active, ready⟩, band⟩] at idle
      cases idle
    · rw [same] at none
      cases none
  obtain ⟨passed, same⟩ := passes
  rw [same]
  intro index below active ready
  rcases quiet index below active ready with less | ⟨equal, later, from', inside, turnOf⟩
  · exact Or.inl less
  · refine Or.inr ⟨equal, later, ?_, inside, turnOf⟩
    rcases Nat.lt_or_eq_of_le from' with after | now
    · exact after
    · subst now
      rw [turnOf] at passed
      exact absurd equal (passed active ready)

/-- A sweep leaves nothing to free, and no client is ready after it that was not before. -/
theorem quiet_sweep {updates : Nat → Nat → UpdateOutcome} {result : Runtime × Bool}
    (idle : NoneReady rt) (swept : sweepClosingResources rt updates = .ok result)
    (limits : result.1.limits = rt.limits) : NoneReady result.1 ∧ NoneDue result.1 := by
  have entry : ∀ index < rt.limits.maxClients,
      result.1.clients index = (rt.clients index).swept := by
    intro index below
    have cells := (sweepClosingResources_ok swept).1 index
    rwa [if_pos (List.mem_range.mpr below)] at cells
  unfold NoneReady NoneDue
  rw [limits]
  constructor
  · intro index below active
    rw [entry index below] at active ⊢
    exact idle index below active
  · intro index below
    rw [entry index below]
    constructor
    · intro slot within
      have cell : (rt.clients index).swept.fileResources slot =
          if ((rt.clients index).fileResources slot).due then .cleared
            else (rt.clients index).fileResources slot := if_pos (List.mem_range.mpr within)
      rw [cell]
      split
      · rfl
      · rename_i kept
        exact Bool.eq_false_iff.mpr kept
    · intro slot within
      have cell : (rt.clients index).swept.bufferResources slot =
          if ((rt.clients index).bufferResources slot).due then .cleared
            else (rt.clients index).bufferResources slot := if_pos (List.mem_range.mpr within)
      rw [cell]
      split
      · rfl
      · rename_i kept
        exact Bool.eq_false_iff.mpr kept

/-- A flush that closes no connection changes nothing but what is sent. -/
theorem quiet_flushTurn {writes : Nat → List WriteOutcome}
    (quiet : NoneReady rt ∧ NoneDue rt)
    (none : (flushTurn writes (rt, false) index).2 = false) :
    NoneReady (flushTurn writes (rt, false) index).1 ∧
      NoneDue (flushTurn writes (rt, false) index).1 := by
  have same : ∃ output sent, (flushTurn writes (rt, false) index).1 =
      rt.setClient index { rt.clients index with output := output, outputSent := sent } := by
    unfold flushTurn at none ⊢
    dsimp only at none ⊢
    split at none
    · rename_i idle
      refine ⟨(rt.clients index).output, (rt.clients index).outputSent, ?_⟩
      rw [if_pos idle]
      exact (Runtime.setClient_self rt index).symm
    · rename_i busy
      rw [if_neg busy]
      unfold flushOrClose at none ⊢
      dsimp only at none ⊢
      split at none
      · cases none
      · rename_i kept
        rw [if_neg kept]
        obtain ⟨output, sent, flushed⟩ := flushClientOutput_client (rt.clients index) (writes index)
        exact ⟨output, sent, by rw [flushed]⟩
  obtain ⟨output, sent, entry⟩ := same
  rw [entry]
  have each : ∀ other, ∃ text count, (rt.setClient index { rt.clients index with
      output := output, outputSent := sent }).clients other =
        { rt.clients other with output := text, outputSent := count } := by
    intro other
    by_cases same : other = index
    · subst same
      exact ⟨output, sent, Function.update_self ..⟩
    · exact ⟨_, _, Function.update_of_ne same _ _⟩
  constructor
  · intro other below active
    obtain ⟨output', sent', client⟩ := each other
    rw [client] at active ⊢
    exact quiet.1 other below active
  · intro other below
    obtain ⟨output', sent', client⟩ := each other
    rw [client]
    exact quiet.2 other below

end Phases

/-! ## Runs -/

section Runs

variable {config : Config} {serverFd : Fd} {state next : LoopState}

theorem quiet_congr {rt after : Runtime} {point : LoopPoint} (quiet : point.quiet rt)
    (clients : after.clients = rt.clients) (limits : after.limits = rt.limits)
    (cursor : after.dispatchCursor = rt.dispatchCursor) : point.quiet after := by
  cases point with
  | service index => trivial
  | handle events => trivial
  | _ =>
      simp only [LoopPoint.quiet, NoneReady, NoneDue, clients, limits, cursor]
      exact quiet

/-- One turn keeps the invariant. -/
theorem loopTurn_settled {env : TurnEnv} (settled : Settled state)
    (turned : loopTurn serverFd state env = .ok next)
    (limits : next.rt.limits = state.rt.limits) : Settled next := by
  obtain ⟨rt, point, progress⟩ := state
  obtain ⟨quiet, polls⟩ := settled
  dsimp only at quiet polls limits
  have started : ∀ rt, Settled (.iterate rt) := fun rt => ⟨fun _ => trivial, by rintro ⟨⟩⟩
  cases point with
  | service index =>
      simp only [loopTurn] at turned
      split at turned
      · obtain ⟨result, -, done⟩ := bind_ok turned
        cases done
        exact ⟨fun _ => trivial, by rintro ⟨⟩⟩
      · cases turned
        refine ⟨fun _ => quiet_dispatch_start ?_, by rintro ⟨⟩⟩
        intro index _ _ _
        exact clientBand_le (rt.clients index)
  | dispatch band offset =>
      simp only [loopTurn] at turned
      split at turned
      · obtain ⟨result, dispatched, done⟩ := bind_ok turned
        cases done
        refine ⟨?_, by rintro ⟨⟩⟩
        intro still
        obtain ⟨before, none⟩ := Bool.or_eq_false_iff.mp still
        rw [Bool.not_eq_false', List.isEmpty_iff] at none
        exact quiet_dispatchTurn (quiet before) dispatched none
      · rename_i past
        cases band with
        | zero =>
            cases turned
            refine ⟨?_, by rintro ⟨⟩⟩
            intro still index below active
            rw [Bool.eq_false_iff]
            intro ready
            exact Nat.not_lt_zero _ (quiet_dispatch_end (quiet still) past below active ready)
        | succ band =>
            cases turned
            refine ⟨fun still => quiet_dispatch_start ?_, by rintro ⟨⟩⟩
            intro index below active ready
            exact Nat.le_of_lt_succ (quiet_dispatch_end (quiet still) past below active ready)
  | reap =>
      obtain ⟨found, -, done⟩ := bind_ok turned
      cases found with
      | none =>
          cases done
          exact ⟨quiet, by rintro ⟨⟩⟩
      | some after =>
          cases done
          exact ⟨by rintro ⟨⟩, by rintro ⟨⟩⟩
  | sweep =>
      obtain ⟨result, swept, done⟩ := bind_ok turned
      cases done
      refine ⟨?_, by rintro ⟨⟩⟩
      intro still
      exact quiet_sweep (quiet (Bool.or_eq_false_iff.mp still).1) swept limits
  | flush index =>
      simp only [loopTurn] at turned
      split at turned
      · cases turned
        refine ⟨?_, by rintro ⟨⟩⟩
        intro still
        cases progress with
        | false => exact quiet_flushTurn (quiet rfl) still
        | true =>
            unfold flushTurn at still
            dsimp only at still
            split at still
            · cases still
            · cases still
      · split at turned
        · cases turned
          exact started rt
        · rename_i idle
          cases turned
          refine ⟨quiet, ?_⟩
          intro _
          rw [Bool.or_eq_true, not_or, Bool.not_eq_true] at idle
          exact idle.1
  | poll =>
      simp only [loopTurn] at turned
      cases polled : env.polled with
      | interrupted =>
          rw [polled] at turned
          cases turned
          exact started rt
      | failed errno =>
          rw [polled] at turned
          cases turned
      | reported events =>
          rw [polled] at turned
          cases turned
          exact ⟨fun _ => trivial, by rintro ⟨⟩⟩
  | handle events =>
      cases events with
      | nil =>
          cases turned
          exact started rt
      | cons event events =>
          simp only [loopTurn] at turned
          split at turned
          · obtain ⟨after, -, done⟩ := bind_ok turned
            cases done
            exact ⟨fun _ => trivial, by rintro ⟨⟩⟩
          · cases turned
            exact ⟨fun _ => trivial, by rintro ⟨⟩⟩

/-- So does one step, whatever the kernel does. -/
theorem loopStep_settled {event : LoopEvent} (settled : Settled state)
    (reachable : Reachable config state.rt) (taken : loopStep serverFd state event = .ok next) :
    Settled next := by
  have after := loopStep_reachable reachable taken
  have limits : next.rt.limits = state.rt.limits := by
    rw [after.invariant.limits, reachable.invariant.limits]
  cases event with
  | turn env => exact loopTurn_settled settled taken limits
  | post position res =>
      cases taken
      exact ⟨settled.quiet, settled.polls⟩
  | store store =>
      cases taken
      cases store with
      | _ => exact ⟨fun still => quiet_congr (settled.quiet still) rfl rfl rfl, settled.polls⟩

theorem LoopState.Reached.settled (reached : LoopState.Reached config serverFd state) :
    Settled state := by
  obtain ⟨events, ran⟩ := reached
  have both : Reachable config state.rt ∧ Settled state := by
    refine @run_preserves _ _ _ _ _ _ _
      (fun state => Reachable config state.rt ∧ Settled state) ?_ ?_ ran
    · intro before event after _ ⟨reachable, settled⟩ taken
      exact ⟨loopStep_reachable reachable taken, loopStep_settled settled reachable taken⟩
    · exact ⟨⟨[], rfl⟩, fun _ => trivial, nofun⟩
  exact both.2

end Runs

/-! ## At poll -/

section Poll

variable {config : Config} {serverFd : Fd} {state : LoopState} {rt : Runtime} {index : Nat}

/-- A slot the client does not own is clear. -/
theorem Labelled.none_due {client : Client} (labelled : Labelled client)
    (files : ∀ slot < client.fileSlotLimit, (client.fileResources slot).due = false)
    (buffers : ∀ slot < client.bufferSlotLimit, (client.bufferResources slot).due = false)
    (slot : Nat) :
    (client.fileResources slot).due = false ∧ (client.bufferResources slot).due = false := by
  constructor
  · cases label : client.label (.inl slot) with
    | none =>
        have clear : client.fileResources slot = .cleared := labelled.tidy (.inl slot) label
        rw [clear]
        rfl
    | some id => exact files slot (labelled.owned (.inl slot) id label)
  · cases label : client.label (.inr slot) with
    | none =>
        have clear : client.bufferResources slot = .cleared := labelled.tidy (.inr slot) label
        rw [clear]
        rfl
    | some id => exact buffers slot (labelled.owned (.inr slot) id label)

/-- A connected client that wants to read or has output is in the poll set. -/
theorem clientPollFd_mem (below : index < rt.limits.maxClients)
    (active : (rt.clients index).isActive = true)
    (wanted : clientWantsRead (rt.clients index) = true ∨ (rt.clients index).hasOutput = true) :
    (⟨(rt.clients index).fd, clientWantsRead (rt.clients index), (rt.clients index).hasOutput,
      .client index⟩ : PollFd) ∈ buildPollfds serverFd rt := by
  refine List.mem_append_right _ (List.mem_filterMap.mpr ⟨index, List.mem_range.mpr below, ?_⟩)
  have some :
      ¬ ((!clientWantsRead (rt.clients index) && !(rt.clients index).hasOutput) = true) := by
    rw [Bool.and_eq_true, Bool.not_eq_true', Bool.not_eq_true']
    rintro ⟨unread, flushed⟩
    rcases wanted with reads | writes
    · rw [reads] at unread
      cases unread
    · rw [writes] at flushed
      cases flushed
  simp only [clientPollFd, active, some, Bool.not_true, Bool.false_eq_true, ↓reduceIte]

/-- The ring is in the poll set while a task is outstanding. -/
theorem ringPollFd_mem (busy : rt.outstandingTasks ≠ 0) :
    (⟨rt.ring.ringFd, true, false, .ring⟩ : PollFd) ∈ buildPollfds serverFd rt := by
  refine List.mem_append_left _ (List.mem_append_right _ ?_)
  rw [if_pos busy]
  exact List.mem_singleton.mpr rfl

/-- Whenever the loop is at `poll`, nothing is left to do but to wait, and everything that can
end the wait is in the poll set. -/
theorem poll_misses_nothing (reached : LoopState.Reached config serverFd state)
    (polling : state.point = .poll) :
    (∀ index < state.rt.limits.maxClients, (state.rt.clients index).isActive = true →
      (state.rt.clients index).requestReady = false) ∧
    (∀ index < state.rt.limits.maxClients, ∀ slot,
      ((state.rt.clients index).fileResources slot).due = false ∧
        ((state.rt.clients index).bufferResources slot).due = false) ∧
    (∀ index < state.rt.limits.maxClients, (state.rt.clients index).isActive = true →
      (state.rt.clients index).closeAfterFlush = false →
      ∃ entry ∈ buildPollfds serverFd state.rt, entry.slot = .client index ∧
        entry.fd = (state.rt.clients index).fd ∧ entry.pollin = true) ∧
    (∀ index < state.rt.limits.maxClients, (state.rt.clients index).isActive = true →
      (state.rt.clients index).hasOutput = true →
      ∃ entry ∈ buildPollfds serverFd state.rt, entry.slot = .client index ∧
        entry.fd = (state.rt.clients index).fd ∧ entry.pollout = true) ∧
    (∀ taskIndex, state.rt.occupied taskIndex = true →
      ∃ entry ∈ buildPollfds serverFd state.rt, entry.slot = .ring ∧
        entry.fd = state.rt.ring.ringFd ∧ entry.pollin = true) := by
  have reachable := reached.reachable
  have settled := reached.settled
  have quiet := settled.quiet (settled.polls polling)
  rw [polling] at quiet
  obtain ⟨noneReady, noneDue⟩ := quiet
  refine ⟨noneReady, ?_, ?_, ?_, ?_⟩
  · intro index below
    obtain ⟨files, buffers⟩ := noneDue index below
    exact (reachable.labelled index).none_due files buffers
  · intro index below active staying
    have reads : clientWantsRead (state.rt.clients index) = true := by
      have open' : ¬ (state.rt.clients index).fd < 0 := Int32.not_lt.mpr (of_decide_eq_true active)
      rw [clientWantsRead, decide_eq_false open', staying, noneReady index below active]
      rfl
    exact ⟨_, clientPollFd_mem below active (Or.inl reads), rfl, rfl, reads⟩
  · intro index below active output
    exact ⟨_, clientPollFd_mem below active (Or.inr output), rfl, rfl, output⟩
  · intro taskIndex occupied
    have busy : state.rt.outstandingTasks ≠ 0 := by
      rw [reachable.invariant.ledger.tasks]
      exact Nat.ne_of_gt (countTasks_pos occupied rfl)
    exact ⟨_, ringPollFd_mem busy, rfl, rfl, rfl⟩

end Poll

/-- A turn in which nothing arrives and nothing can be written. -/
def TurnEnv.idle : TurnEnv := ⟨[], .smooth, .smooth, fun _ _ => .updated 1, [], .interrupted⟩

/-- A client connects and sends its handshake; the loop then waits for it to read the answer. -/
def greetingTurns : List LoopEvent :=
  List.replicate 20 (.turn .idle) ++
    [.turn { TurnEnv.idle with polled := .reported [.server [.connection 7 true ⟨true, true⟩]] },
      .turn .idle, .turn .idle,
      .turn { TurnEnv.idle with
        incoming := [.data (HandshakeRequest.encode
          ⟨wireMagic, protocolMajor, protocolMinor, abiMajor, abiMinor, 0⟩) [] false] }] ++
    List.replicate 39 (.turn .idle)

/-- The loop sleeps with the answer of the handshake unsent, and waits for room and for
requests. -/
theorem poll_misses_nothing_greeting :
    ∃ state, run (loopStep 5) (.iterate (Runtime.initial (.small 1 (by decide) (by decide))))
        greetingTurns = .ok state ∧ state.point = .poll ∧
      (state.rt.clients 0).hasOutput = true ∧
      (∃ entry ∈ buildPollfds 5 state.rt, entry.slot = .client 0 ∧
        entry.fd = (state.rt.clients 0).fd ∧ entry.pollin = true) ∧
      ∃ entry ∈ buildPollfds 5 state.rt, entry.slot = .client 0 ∧
        entry.fd = (state.rt.clients 0).fd ∧ entry.pollout = true := by
  have seen : ((run (loopStep 5) (.iterate (Runtime.initial (.small 1 (by decide) (by decide))))
      greetingTurns).toOption.map fun state =>
        (match state.point with
          | .poll => true
          | _ => false) &&
        decide (0 < state.rt.limits.maxClients ∧ (state.rt.clients 0).isActive = true ∧
          (state.rt.clients 0).closeAfterFlush = false ∧
          (state.rt.clients 0).hasOutput = true)) = some true := by decide +kernel
  obtain ⟨state, ran, view⟩ := exists_of_toOption_map seen
  rw [Bool.and_eq_true] at view
  obtain ⟨at', below, active, staying, output⟩ := And.imp_right of_decide_eq_true view
  have polling : state.point = .poll := by
    split at at'
    · assumption
    · cases at'
  obtain ⟨-, -, reads, writes, -⟩ := poll_misses_nothing ⟨_, ran⟩ polling
  exact ⟨state, ran, polling, output, reads 0 below active staying, writes 0 below active output⟩

end Iouringd
