import Iouringd.Foundation.Amortized
import Iouringd.Foundation.Tally
import Iouringd.Daemon.Wakeups
import Iouringd.Daemon.InputBounds
import Iouringd.Daemon.StepEffects

/-! # The loop does not spin

`iouringd_run` goes round without sleeping as long as one of its phases reports progress. What
it can still report progress about is a workload: connections and their pending requests,
unread completions, slots to free. Every turn pays for itself out of the workload, so the loop
is back at `poll` after a bounded number of turns unless something arrives, and each thing that
arrives costs a bounded number of turns more.
-/

namespace Iouringd

open Foundation

/-! ## The workload -/

/-- What a connection can still make the loop do: a request to dispatch, and its end. -/
def Client.load (client : Client) : Nat :=
  if client.isActive then (if client.requestReady then 4 else 2) else 0

/-- There is a slot to free. -/
def Runtime.due (rt : Runtime) : Bool :=
  (List.range rt.limits.maxClients).any fun index => (rt.clients index).due

def Runtime.load (rt : Runtime) : Nat := tally Client.load rt.clients rt.limits.maxClients

/-- What is left to do without anything new. Reading a completion can leave a slot to free, so
it weighs more than the two flags it can raise. -/
def Runtime.workload (rt : Runtime) : Nat :=
  rt.load + 3 * rt.ring.posted.length + rt.due.toNat

/-- A receive that does not find anything. -/
def RecvOutcome.silent : RecvOutcome → Bool
  | .data bytes _ _ => bytes.isEmpty
  | .again | .interrupted => true
  | .eof | .failed _ => false

/-- 1 when a socket that is read has something. -/
def heard (incoming : List RecvOutcome) : Nat := if incoming.all RecvOutcome.silent then 0 else 1

/-! ## What the phases do to the workload -/

section Phases

variable {rt next : Runtime} {index : Nat}

theorem Client.load_le (client : Client) : client.load ≤ 4 := by
  unfold load
  split
  · split
    · exact Nat.le_refl 4
    · decide
  · decide

theorem Client.load_pos {client : Client} (active : client.isActive = true) : 2 ≤ client.load := by
  unfold load
  rw [if_pos active]
  split
  · decide
  · exact Nat.le_refl 2

theorem Client.load_inactive {client : Client} (inactive : client.isActive = false) :
    client.load = 0 := by
  rw [load, inactive]
  rfl

theorem Client.load_core {client other : Client} (core : other.core = client.core) :
    other.load = client.load := by
  have field : ∀ {α : Type} (get : Client → α), get other.core = get client.core :=
    fun get => congrArg get core
  have same := field load
  exact same

/-- The load and the unread completions of a state all of whose other entries stay. -/
theorem Runtime.load_update (limits : next.limits = rt.limits)
    (clients : next.clients = Function.update rt.clients index (next.clients index))
    (below : index < rt.limits.maxClients) :
    next.load + (rt.clients index).load = rt.load + (next.clients index).load := by
  unfold load
  rw [limits, clients, Function.update_self]
  exact tally_update below (next.clients index)

theorem Runtime.workload_le {gain loss : Nat} (load : next.load + loss ≤ rt.load + gain)
    (posted : next.ring.posted.length ≤ rt.ring.posted.length) :
    next.workload + loss ≤ rt.workload + gain + 1 := by
  have flag := Bool.toNat_le next.due
  unfold workload
  omega

namespace OnlyClient

variable (only : OnlyClient rt index next)

include only

theorem load (below : index < rt.limits.maxClients) :
    next.load + (rt.clients index).load = rt.load + (next.clients index).load := by
  apply Runtime.load_update _ _ below
  · rw [only.frame]
  · rw [only.frame]
    dsimp only
    rw [Function.update_self]

theorem posted : next.ring.posted = rt.ring.posted := by
  rw [only.ring]
  rfl

end OnlyClient

/-- Closing takes the load of the connection and leaves at most slots to free. -/
theorem closeClient_workload (below : index < rt.limits.maxClients)
    (active : (rt.clients index).isActive = true) :
    (closeClient rt index).workload + 1 ≤ rt.workload := by
  have moved := (@OnlyClient.closeClient rt index).load below
  have closed : ((closeClient rt index).clients index).load = 0 := by
    rw [closeClient_client]
    exact Client.load_inactive (closedClient_inactive (rt.clients index))
  have before := Client.load_pos active
  have gone : (closeClient rt index).load + 2 ≤ rt.load + 0 := by omega
  have bound := Runtime.workload_le gone (Nat.le_of_eq (congrArg List.length
    (@OnlyClient.closeClient rt index).posted))
  omega

/-- Flushing either closes the connection or only moves its output. -/
theorem flushOrClose_workload (below : index < rt.limits.maxClients)
    (active : (rt.clients index).isActive = true) (writes : List WriteOutcome) :
    (flushOrClose rt index writes).1.workload + (flushOrClose rt index writes).2.toNat ≤
      rt.workload := by
  obtain ⟨output, sent, same⟩ := flushClientOutput_client (rt.clients index) writes
  have moved : (rt.setClient index (flushClientOutput (rt.clients index) writes).1).workload =
      rt.workload := by
    rw [same]
    have client : ∀ other, ∃ text count, (rt.setClient index { rt.clients index with
        output := output, outputSent := sent }).clients other =
          { rt.clients other with output := text, outputSent := count } := by
      intro other
      by_cases own : other = index
      · subst own
        exact ⟨output, sent, Function.update_self ..⟩
      · exact ⟨_, _, Function.update_of_ne own _ _⟩
    have due : (rt.setClient index { rt.clients index with
        output := output, outputSent := sent }).due = rt.due := by
      unfold Runtime.due
      congr 1
      funext other
      obtain ⟨text, count, entry⟩ := client other
      rw [entry]
      rfl
    have load : (rt.setClient index { rt.clients index with
        output := output, outputSent := sent }).load = rt.load := by
      refine tally_congr fun other _ => ?_
      obtain ⟨text, count, entry⟩ := client other
      rw [entry]
      rfl
    rw [Runtime.workload, due, load]
    rfl
  unfold flushOrClose
  dsimp only
  split
  · have still : ((rt.setClient index (flushClientOutput (rt.clients index) writes).1).clients
        index).isActive = true := by
      rw [Runtime.clients_setClient, same]
      exact active
    have closed := @closeClient_workload
      (rt.setClient index (flushClientOutput (rt.clients index) writes).1) index below still
    rw [moved] at closed
    exact closed
  · exact Nat.le_of_eq moved

/-! ### Reading -/

/-- A read of a socket that has nothing leaves the decoder as it is. -/
theorem readClientInput_silent {client : Client} {incoming : List RecvOutcome}
    (short : client.inputLen < client.expectedInput)
    (silent : incoming.all RecvOutcome.silent = true) :
    (readClientInput client incoming).status = .again ∧
      (readClientInput client incoming).client = client ∧
      (readClientInput client incoming).closedFds = [] := by
  induction incoming with
  | nil =>
      unfold readClientInput
      rw [if_pos short]
      exact ⟨rfl, rfl, rfl⟩
  | cons outcome rest ih =>
      rw [List.all_cons, Bool.and_eq_true] at silent
      unfold readClientInput
      rw [if_pos short]
      cases outcome with
      | data bytes control truncated =>
          have empty : bytes.isEmpty = true := silent.1
          dsimp only
          rw [if_pos empty]
          exact ih silent.2
      | interrupted => exact ih silent.2
      | again => exact ⟨rfl, rfl, rfl⟩
      | eof => cases silent.1
      | failed errno => cases silent.1

/-- Servicing a client whose socket has nothing changes nothing. -/
theorem serviceClientReadable_silent {incoming : List RecvOutcome}
    {result : Runtime × Bool × List RecvOutcome} (bounded : (rt.clients index).Bounded)
    (silent : incoming.all RecvOutcome.silent = true)
    (serviced : serviceClientReadable rt index incoming = .ok result) :
    result.1 = rt ∧ result.2.1 = false := by
  obtain ⟨status, client, closed⟩ := readClientInput_silent bounded.short silent
  unfold serviceClientReadable serviceLoop at serviced
  dsimp only at serviced
  split at serviced
  · cases serviced
    exact ⟨rfl, rfl⟩
  · rw [status, client, closed, Runtime.setClient_self] at serviced
    cases serviced
    exact ⟨rfl, rfl⟩

/-- Reading a connection makes it at most ready for one more dispatch. -/
theorem serviceClientReadable_workload {incoming : List RecvOutcome}
    {result : Runtime × Bool × List RecvOutcome} (below : index < rt.limits.maxClients)
    (active : (rt.clients index).isActive = true) (bounded : (rt.clients index).Bounded)
    (serviced : serviceClientReadable rt index incoming = .ok result) :
    result.1.workload + result.2.1.toNat ≤ rt.workload + 4 * heard incoming := by
  unfold heard
  split
  · rename_i silent
    obtain ⟨same, idle⟩ := serviceClientReadable_silent bounded silent serviced
    rw [same, idle]
    exact Nat.le_refl _
  · obtain ⟨only, -⟩ := serviceClientReadable_served serviced
    have moved := only.load below
    have before := Client.load_pos active
    have after := Client.load_le (result.1.clients index)
    have grown : result.1.load + 0 ≤ rt.load + 2 := by omega
    have bound := Runtime.workload_le grown (Nat.le_of_eq (congrArg List.length only.posted))
    have flag := Bool.toNat_le result.2.1
    omega

/-! ### Dispatching -/

/-- A dispatch leaves the completions alone. -/
theorem Dispatched.posted {env : DispatchEnv} {middle : Runtime} {bytes : List UInt8}
    (change : Dispatched rt index env middle bytes) : middle.ring.posted = rt.ring.posted := by
  have updated : ∀ {entry : Nat} {fd : Fd} {outcome : UpdateOutcome} {ring : Ring},
      ringUpdateRegisteredFile rt.ring entry fd outcome = (ring, none) →
      ring.posted = rt.ring.posted := by
    intro entry fd outcome ring update
    rw [ringUpdateRegisteredFile_ok update]
    rfl
  cases change with
  | fileRegistered slot resourceId nextId ring result operation held found allocated valid update =>
      exact updated update
  | fileReleased slot ring result operation found idle update =>
      refine Eq.trans ?_ (updated update)
      unfold clearFileSlot
      dsimp only
      split
      · rfl
      · rfl
  | refused _ errno credits type rolledBack =>
      obtain ⟨table, -, same | ⟨sqe, errno, -, same⟩⟩ := rolledBack.ring
      · rw [same]
        rfl
      · rw [same]
        rfl
  | accepted taskIndex started credits type admitted start =>
      obtain ⟨table, -, -, count, -, same⟩ := start.submitted
      change started.ring.posted = rt.ring.posted
      rw [same]
      rfl
  | _ => rfl

/-- A dispatch takes the request of a client and keeps its connection. -/
theorem dispatchClientRequest_workload {env : DispatchEnv} {answered : Runtime × Bool}
    (below : index < rt.limits.maxClients) (active : (rt.clients index).isActive = true)
    (ready : (rt.clients index).requestReady = true)
    (limits : answered.1.limits = rt.limits)
    (dispatched : dispatchClientRequest rt index env = .ok answered) :
    answered.1.workload + 1 ≤ rt.workload := by
  rcases dispatchClientRequest_explained dispatched with
    ⟨idle, -⟩ | ⟨-, -, middle, bytes, change, answer, -⟩
  · rw [ready] at idle
    cases idle
  · have others : ∀ other, other ≠ index → answered.1.clients other = rt.clients other := by
      intro other apart
      rw [answer]
      dsimp only
      rw [Function.update_of_ne apart, change.client_other apart]
    have own : (answered.1.clients index).load = 2 := by
      have core := change.core.1
      have still : (middle.clients index).isActive = true := by
        have field := congrArg Client.isActive core
        exact Eq.trans field active
      have entry : answered.1.clients index =
          ((middle.clients index).appendOutput bytes).finishRequest := by
        rw [answer]
        dsimp only
        rw [Function.update_self]
      have open' : ((middle.clients index).appendOutput bytes).finishRequest.isActive = true :=
        still
      rw [entry, Client.load, if_pos open']
      rfl
    have before : (rt.clients index).load = 4 := by
      rw [Client.load, if_pos active, if_pos ready]
    have clients : answered.1.clients =
        Function.update rt.clients index (answered.1.clients index) := by
      funext other
      by_cases same : other = index
      · subst same
        rw [Function.update_self]
      · rw [Function.update_of_ne same, others other same]
    have posted : answered.1.ring.posted = rt.ring.posted := by
      rw [answer]
      exact change.posted
    have moved := Runtime.load_update limits clients below
    have less : answered.1.load + 2 ≤ rt.load + 0 := by omega
    have bound := Runtime.workload_le less (Nat.le_of_eq (congrArg List.length posted))
    omega

/-- A turn of the dispatch pass. -/
theorem dispatchTurn_workload {config : Config} {band offset : Nat} {envs : Nat → DispatchEnv}
    {result : Runtime × List Nat} (reachable : Reachable config rt)
    (below : offset < rt.limits.maxClients)
    (turn : dispatchTurn band envs (rt, []) offset = .ok result) :
    result.1.workload + (!result.2.isEmpty).toNat ≤ rt.workload := by
  have inside : (rt.dispatchCursor + offset) % rt.limits.maxClients < rt.limits.maxClients :=
    Nat.mod_lt _ (Nat.zero_lt_of_lt below)
  have after := reachable.dispatched below turn
  rcases dispatchTurn_cases turn with ⟨-, same⟩ | ⟨waits, answered, dispatched, -, same⟩
  · rw [same]
    exact Nat.le_refl _
  · rw [same] at after ⊢
    obtain ⟨⟨active, ready⟩, -⟩ := bandReady_iff.mp waits
    have limits : answered.1.limits = rt.limits := by
      rw [reachable.invariant.limits, ← after.invariant.limits]
    have paid := dispatchClientRequest_workload inside active ready limits dispatched
    exact paid

/-! ### Reaping and sweeping -/

/-- Reading a completion takes it off the ring, and every connection keeps its core. -/
theorem reapCompletion_posted {config : Config} {env : CompleteEnv}
    (reachable : Reachable config rt) (reaped : reapCompletion rt env = .ok (some next)) :
    rt.ring.posted.length = next.ring.posted.length + 1 ∧
      ∀ other, (next.clients other).core = (rt.clients other).core := by
  rcases reapCompletion_cases reaped with
    ⟨none, -⟩ | ⟨ring, cqe, taskIndex, peeked, -, occupied, middle, completed, same⟩
  · cases none
  · cases same
    have held := reachable.invariant.grounded.placed taskIndex occupied
    have placed : Placed { rt with ring } (rt.tasks taskIndex) :=
      ⟨held.client, held.file, held.result, held.buffer, held.fixed⟩
    have completed := completeTask_completed placed completed
    constructor
    · obtain ⟨-, -, taken⟩ := ringPeekCompletion_some peeked
      rw [taken, completed.ring]
      rfl
    · intro other
      rw [completed.frame]
      dsimp only
      by_cases own : other = (rt.tasks taskIndex).clientIndex
      · subst own
        rw [Function.update_self]
        rfl
      · rw [Function.update_of_ne own]

theorem reapCompletion_workload {config : Config} {env : CompleteEnv}
    (reachable : Reachable config rt) (reaped : reapCompletion rt env = .ok (some next)) :
    next.workload + 2 ≤ rt.workload := by
  have after := reachable.reaped reaped
  obtain ⟨posted, core⟩ := reapCompletion_posted reachable reaped
  have load : next.load = rt.load := by
    unfold Runtime.load
    rw [after.invariant.limits, ← reachable.invariant.limits]
    exact tally_congr fun other _ => Client.load_core (core other)
  have flag := Bool.toNat_le next.due
  unfold Runtime.workload
  rw [load, posted]
  omega

theorem reapCompletions_workload {config : Config} {envs : List CompleteEnv}
    {result : Runtime × Bool} (reachable : Reachable config rt)
    (reaped : reapCompletions rt envs = .ok result) : result.1.workload ≤ rt.workload := by
  induction envs generalizing rt result with
  | nil =>
      cases reaped
      exact Nat.le_refl _
  | cons env envs ih =>
      unfold reapCompletions at reaped
      obtain ⟨found, first, rest⟩ := bind_ok reaped
      cases found with
      | none =>
          cases rest
          exact Nat.le_refl _
      | some middle =>
          obtain ⟨last, more, done⟩ := bind_ok rest
          cases done
          have taken := reapCompletion_workload reachable first
          have later := ih (reachable.reaped first) more
          exact Nat.le_trans later (Nat.le_trans (Nat.le_add_right _ 2) taken)

/-- Nothing is left to free of a client that was swept. -/
theorem Client.swept_due (client : Client) : client.swept.due = false := by
  rw [due, Bool.or_eq_false_iff, List.any_eq_false, List.any_eq_false]
  constructor
  · intro slot within
    have cell : client.swept.fileResources slot =
        if (client.fileResources slot).due then .cleared else client.fileResources slot :=
      if_pos within
    rw [cell]
    split
    · decide
    · assumption
  · intro slot within
    have cell : client.swept.bufferResources slot =
        if (client.bufferResources slot).due then .cleared else client.bufferResources slot :=
      if_pos within
    rw [cell]
    split
    · decide
    · assumption

/-- A sweep reports progress when there was something to free, and leaves nothing to free. -/
theorem sweepClosingResources_workload {updates : Nat → Nat → UpdateOutcome}
    {result : Runtime × Bool} (limits : result.1.limits = rt.limits)
    (swept : sweepClosingResources rt updates = .ok result) :
    result.1.workload + result.2.toNat ≤ rt.workload := by
  obtain ⟨cells, flag⟩ := sweepClosingResources_ok swept
  have only := sweepClosingResources_onlySlots swept
  have load : result.1.load = rt.load := by
    unfold Runtime.load
    rw [limits]
    exact tally_congr fun other _ => Client.load_core (only.core other)
  have posted : result.1.ring.posted = rt.ring.posted := by
    rw [(sweepClosingResources_swept swept).ring]
    rfl
  have clean : result.1.due = false := by
    rw [Runtime.due, limits, List.any_eq_false]
    intro index within
    rw [cells index, if_pos within, Client.swept_due]
    decide
  unfold Runtime.workload
  rw [load, posted, clean, flag]
  exact Nat.le_refl _

/-! ### Poll events -/

/-- An accepted connection takes an entry without one. -/
theorem openClient_workload (fd : Fd) (env : OpenEnv) :
    (openClient rt fd env).workload ≤ rt.workload + 4 := by
  have closed : (rt.close fd).workload ≤ rt.workload + 4 := Nat.le_add_right _ 4
  unfold openClient
  split
  · exact closed
  · split
    · exact closed
    · rename_i index found
      split
      · exact closed
      · obtain ⟨below, -⟩ := firstBelow_some found
        let opened : Runtime := { rt.setClient index (openedClient rt index fd) with
          nextClientGeneration := rt.nextClientGeneration + 1 }
        have clients : opened.clients =
            Function.update rt.clients index (opened.clients index) := by
          change Function.update rt.clients index (openedClient rt index fd) =
            Function.update rt.clients index
              (Function.update rt.clients index (openedClient rt index fd) index)
          rw [Function.update_self]
        have moved := @Runtime.load_update rt opened index rfl clients below
        have fresh : (opened.clients index).load ≤ 2 := by
          change (Function.update rt.clients index (openedClient rt index fd) index).load ≤ 2
          rw [Function.update_self, Client.load]
          split
          · exact Nat.le_refl 2
          · decide
        have grown : opened.load + 0 ≤ rt.load + 2 := by omega
        have bound := @Runtime.workload_le rt opened 2 0 grown (Nat.le_refl _)
        change opened.workload ≤ _
        omega

/-- The calls of `accept` that return a connection. -/
def AcceptOutcome.isConnection : AcceptOutcome → Bool
  | .connection _ _ _ => true
  | _ => false

theorem acceptClients_workload {accepts : List AcceptOutcome}
    (accepted : acceptClients rt accepts = .ok next) :
    next.workload ≤ rt.workload + 4 * accepts.countP AcceptOutcome.isConnection := by
  induction accepts generalizing rt with
  | nil =>
      cases accepted
      exact Nat.le_add_right _ _
  | cons outcome rest ih =>
      cases outcome with
      | again =>
          cases accepted
          exact Nat.le_add_right _ _
      | failed errno => cases accepted
      | connection fd cloexec env =>
          unfold acceptClients at accepted
          split at accepted
          · have first := @openClient_workload rt fd env
            have later := ih accepted
            rw [List.countP_cons_of_pos rfl]
            omega
          · cases accepted

/-- What a poll event brings in. -/
def PollEvent.arrivals : PollEvent → Nat
  | .server accepts => accepts.countP AcceptOutcome.isConnection
  | .ring _ => 0
  | .client _ _ readable _ => heard (readable.getD [])

theorem handleReadable_workload {config : Config} {readable : Option (List RecvOutcome)}
    {hangup : Bool} (reachable : Reachable config rt) (below : index < rt.limits.maxClients)
    (handled : handleReadable rt index readable hangup = .ok next) :
    next.workload ≤ rt.workload + 4 * heard (readable.getD []) := by
  unfold handleReadable at handled
  split at handled
  · rename_i active
    split at handled
    · obtain ⟨result, serviced, done⟩ := bind_ok handled
      cases done
      have paid := serviceClientReadable_workload below active (reachable.bounded active) serviced
      exact Nat.le_trans (Nat.le_add_right _ _) paid
    · split at handled
      · cases handled
        have closed := closeClient_workload below active
        omega
      · cases handled
        exact Nat.le_add_right _ _
  · cases handled
    exact Nat.le_add_right _ _

theorem handlePollEvent_workload {config : Config} {event : PollEvent}
    (reachable : Reachable config rt) (possible : event.isPossible rt.limits.maxClients = true)
    (handled : handlePollEvent rt event = .ok next) :
    next.workload ≤ rt.workload + 4 * event.arrivals := by
  cases event with
  | server accepts => exact acceptClients_workload handled
  | ring envs =>
      obtain ⟨result, reaped, done⟩ := bind_ok handled
      cases done
      exact reapCompletions_workload reachable reaped
  | client index writable readable hangup =>
      have below : index < rt.limits.maxClients := of_decide_eq_true possible
      cases writable with
      | none => exact handleReadable_workload reachable below handled
      | some writes =>
          unfold handlePollEvent at handled
          dsimp only at handled
          split at handled
          · rename_i active
            have flushed := flushOrClose_workload below active writes
            have after : Reachable config (flushOrClose rt index writes).1 :=
              reachable.flushed below active
            split at handled
            · cases handled
              exact Nat.le_trans (Nat.le_trans (Nat.le_add_right _ _) flushed)
                (Nat.le_add_right _ _)
            · have inside : index < (flushOrClose rt index writes).1.limits.maxClients := by
                rw [after.invariant.limits, ← reachable.invariant.limits]
                exact below
              have read := handleReadable_workload after inside handled
              exact Nat.le_trans read (Nat.add_le_add_right
                (Nat.le_trans (Nat.le_add_right _ _) flushed) _)
          · exact handleReadable_workload reachable below handled

/-! ### The kernel -/

/-- The kernel posts at most one completion. -/
theorem kernelPost_posted {ring : Ring} (position : Nat) (res : Int32) :
    (kernelPost ring position res).posted.length ≤ ring.posted.length + 1 := by
  unfold kernelPost
  split
  · exact Nat.le_add_right _ 1
  · split
    · rw [Ring.posted, Ring.posted, length_window, length_window]
      exact occupied_succ_le ring.cqHead ring.cqTail
    · exact Nat.le_add_right _ 1

theorem kernelPost_workload (position : Nat) (res : Int32) :
    ({ rt with ring := kernelPost rt.ring position res } : Runtime).workload ≤
      rt.workload + 4 := by
  have grown := @kernelPost_posted rt.ring position res
  change rt.load + 3 * (kernelPost rt.ring position res).posted.length + rt.due.toNat ≤
    rt.load + 3 * rt.ring.posted.length + rt.due.toNat + 4
  omega

end Phases

/-! ## Turns -/

/-- The turns of one iteration up to `poll`, when it reads no completions. -/
def turnsPerIteration (maxClients : Nat) : Nat := 6 * (maxClients + 1) + 2

/-- The turns from a point of the loop to the next `poll` or the next iteration. -/
def LoopPoint.turnsLeft (maxClients : Nat) : LoopPoint → Nat
  | .service index => (maxClients - index) + 1 + 5 * (maxClients + 1) + 2
  | .dispatch band offset =>
      (maxClients - offset) + 1 + band * (maxClients + 1) + (maxClients + 1) + 2
  | .reap => (maxClients + 1) + 2
  | .sweep => (maxClients + 1) + 1
  | .flush index => (maxClients - index) + 1
  | .poll => 0
  | .handle events => events.length + 1 + turnsPerIteration maxClients

namespace LoopState

/-- The workload of the daemon, and the iteration that reported progress already owes. -/
def workload (state : LoopState) : Nat := state.rt.workload + state.progress.toNat

/-- The turns the loop can take before it is at `poll`, when nothing arrives. -/
def turnsOwed (state : LoopState) : Nat :=
  turnsPerIteration state.rt.limits.maxClients * state.workload +
    state.point.turnsLeft state.rt.limits.maxClients

/-- A turn of the loop that is not a call of `poll`. -/
def offPoll (state : LoopState) : LoopEvent → Nat
  | .turn _ =>
      match state.point with
      | .poll => 0
      | _ => 1
  | _ => 0

/-- The connections, the input and the completions that a step brings. -/
def arrivals (state : LoopState) : LoopEvent → Nat
  | .turn env =>
      match state.point with
      | .service _ => heard env.incoming
      | .handle (event :: _) => event.arrivals
      | _ => 0
  | .post _ _ => 1
  | .store _ => 0

/-- The turns a return of `poll` is followed by: one for each event, and an iteration. -/
def wakeTurns (state : LoopState) : LoopEvent → Nat
  | .turn env =>
      match state.point, env.polled with
      | .poll, .interrupted => turnsPerIteration state.rt.limits.maxClients
      | .poll, .reported events =>
          events.length + 1 + turnsPerIteration state.rt.limits.maxClients
      | _, _ => 0
  | _ => 0

/-- The turns a step allows the loop to take. -/
def turnsAllowed (state : LoopState) (event : LoopEvent) : Nat :=
  turnsPerIteration state.rt.limits.maxClients * (4 * state.arrivals event) +
    state.wakeTurns event

end LoopState

section Turns

variable {config : Config} {serverFd : Fd} {state next final : LoopState}

theorem Bool.toNat_or_le (left right : Bool) :
    (left || right).toNat ≤ left.toNat + right.toNat := by
  cases left with
  | false =>
      rw [Bool.false_or]
      exact Nat.le_add_left _ _
  | true => exact Nat.le_add_right _ _

/-- A turn that gets nearer to `poll`, with what arrives in it. -/
theorem turnsOwed_nearer {arrived : Nat}
    (limits : next.rt.limits.maxClients = state.rt.limits.maxClients)
    (paid : next.workload ≤ state.workload + 4 * arrived)
    (nearer : next.point.turnsLeft state.rt.limits.maxClients + 1 ≤
      state.point.turnsLeft state.rt.limits.maxClients) :
    next.turnsOwed + 1 ≤
      state.turnsOwed + turnsPerIteration state.rt.limits.maxClients * (4 * arrived) := by
  have scaled := Nat.mul_le_mul_left (turnsPerIteration state.rt.limits.maxClients) paid
  rw [Nat.mul_add] at scaled
  unfold LoopState.turnsOwed
  rw [limits]
  omega

/-- A step that brings something and is no turn. -/
theorem turnsOwed_grown {arrived : Nat}
    (limits : next.rt.limits.maxClients = state.rt.limits.maxClients)
    (paid : next.workload ≤ state.workload + 4 * arrived) (stays : next.point = state.point) :
    next.turnsOwed ≤
      state.turnsOwed + turnsPerIteration state.rt.limits.maxClients * (4 * arrived) := by
  have scaled := Nat.mul_le_mul_left (turnsPerIteration state.rt.limits.maxClients) paid
  rw [Nat.mul_add] at scaled
  unfold LoopState.turnsOwed
  rw [limits, stays]
  omega

/-- A turn that does some of the work may go back by an iteration. -/
theorem turnsOwed_back (limits : next.rt.limits.maxClients = state.rt.limits.maxClients)
    (paid : next.workload + 1 ≤ state.workload)
    (back : next.point.turnsLeft state.rt.limits.maxClients + 1 ≤
      turnsPerIteration state.rt.limits.maxClients +
        state.point.turnsLeft state.rt.limits.maxClients) :
    next.turnsOwed + 1 ≤ state.turnsOwed := by
  have scaled := Nat.mul_le_mul_left (turnsPerIteration state.rt.limits.maxClients) paid
  rw [Nat.mul_add, Nat.mul_one] at scaled
  unfold LoopState.turnsOwed
  rw [limits]
  omega

theorem turnsLeft_iterate (maxClients : Nat) :
    (LoopPoint.service 0).turnsLeft maxClients = turnsPerIteration maxClients := by
  rw [LoopPoint.turnsLeft, turnsPerIteration]
  omega

/-- The listening socket is always in the poll set. -/
theorem buildPollfds_nonempty (valid : 0 ≤ serverFd) (rt : Runtime) :
    (buildPollfds serverFd rt).isEmpty = false := by
  unfold buildPollfds
  rw [if_pos valid]
  rfl

/-- A turn of the input pass. -/
theorem serviceTurn_workload {rt : Runtime} {index : Nat} {progress : Bool}
    {incoming : List RecvOutcome} {result : Runtime × Bool} (reachable : Reachable config rt)
    (below : index < rt.limits.maxClients)
    (turn : serviceTurn (fun _ => incoming) (rt, progress) index = .ok result) :
    result.1.workload + result.2.toNat ≤ rt.workload + progress.toNat + 4 * heard incoming := by
  unfold serviceTurn at turn
  dsimp only at turn
  split at turn
  · rename_i active
    obtain ⟨answer, read, done⟩ := bind_ok turn
    cases done
    have paid := serviceClientReadable_workload below active (reachable.bounded active) read
    have flags := Bool.toNat_or_le progress answer.2.1
    dsimp only
    omega
  · cases turn
    exact Nat.le_add_right _ _

/-- A turn of the output pass. -/
theorem flushTurn_workload {rt : Runtime} {index : Nat} (below : index < rt.limits.maxClients)
    (progress : Bool) (writes : List WriteOutcome) :
    (flushTurn (fun _ => writes) (rt, progress) index).1.workload +
        (flushTurn (fun _ => writes) (rt, progress) index).2.toNat ≤
      rt.workload + progress.toNat := by
  unfold flushTurn
  dsimp only
  split
  · exact Nat.le_refl _
  · rename_i busy
    rw [Bool.or_eq_true, not_or, Bool.not_eq_true', Bool.not_eq_false] at busy
    have paid := flushOrClose_workload below busy.1 writes
    have flags := Bool.toNat_or_le progress (flushOrClose rt index writes).2
    dsimp only
    omega

/-- Every turn off `poll` is paid for. -/
theorem loopTurn_paid {env : TurnEnv} (valid : 0 ≤ serverFd)
    (reachable : Reachable config state.rt)
    (turned : loopTurn serverFd state env = .ok next) :
    next.turnsOwed + state.offPoll (.turn env) ≤
      state.turnsOwed + state.turnsAllowed (.turn env) := by
  have after := loopTurn_reachable reachable turned
  have limits : next.rt.limits = state.rt.limits := by
    rw [after.invariant.limits, ← reachable.invariant.limits]
  have same := congrArg Limits.maxClients limits
  obtain ⟨rt, point, progress⟩ := state
  dsimp only at limits same reachable
  cases point with
  | service index =>
      refine turnsOwed_nearer same ?_ ?_
      · simp only [loopTurn] at turned
        split at turned
        · rename_i below
          obtain ⟨result, serviced, done⟩ := bind_ok turned
          cases done
          exact serviceTurn_workload reachable below serviced
        · cases turned
          exact Nat.le_add_right _ _
      · simp only [loopTurn] at turned
        split at turned
        · obtain ⟨result, -, done⟩ := bind_ok turned
          cases done
          simp only [LoopPoint.turnsLeft]
          omega
        · cases turned
          simp only [LoopPoint.turnsLeft]
          omega
  | dispatch band offset =>
      refine @turnsOwed_nearer _ _ 0 same ?_ ?_
      · simp only [loopTurn] at turned
        split at turned
        · rename_i below
          obtain ⟨result, dispatched, done⟩ := bind_ok turned
          cases done
          have paid := dispatchTurn_workload reachable below dispatched
          have flags := Bool.toNat_or_le progress (!result.2.isEmpty)
          change result.1.workload + (progress || !result.2.isEmpty).toNat ≤
            rt.workload + progress.toNat + 0
          omega
        · cases band with
          | zero =>
              cases turned
              exact Nat.le_refl _
          | succ band =>
              cases turned
              exact Nat.le_refl _
      · simp only [loopTurn] at turned
        split at turned
        · obtain ⟨result, -, done⟩ := bind_ok turned
          cases done
          simp only [LoopPoint.turnsLeft]
          omega
        · cases band with
          | zero =>
              cases turned
              simp only [LoopPoint.turnsLeft]
              omega
          | succ band =>
              cases turned
              simp only [LoopPoint.turnsLeft, Nat.succ_mul]
              omega
  | reap =>
      obtain ⟨found, reaped, done⟩ := bind_ok turned
      cases found with
      | none =>
          cases done
          exact @turnsOwed_nearer _ _ 0 same (Nat.le_refl _) (Nat.le_refl _)
      | some rest =>
          cases done
          have paid := reapCompletion_workload reachable reaped
          have flag := Bool.toNat_le progress
          refine turnsOwed_back same ?_ ?_
          · change rest.workload + 1 + 1 ≤ rt.workload + progress.toNat
            omega
          · simp only [LoopPoint.turnsLeft, turnsPerIteration]
            omega
  | sweep =>
      obtain ⟨result, swept, done⟩ := bind_ok turned
      cases done
      have paid := sweepClosingResources_workload limits swept
      have flags := Bool.toNat_or_le progress result.2
      refine @turnsOwed_nearer _ _ 0 same ?_ ?_
      · change result.1.workload + (progress || result.2).toNat ≤
          rt.workload + progress.toNat + 0
        omega
      · simp only [LoopPoint.turnsLeft]
        omega
  | flush index =>
      simp only [loopTurn] at turned
      split at turned
      · rename_i below
        cases turned
        have paid := flushTurn_workload below progress env.writes
        refine @turnsOwed_nearer _ _ 0 same paid ?_
        simp only [LoopPoint.turnsLeft]
        omega
      · rename_i past
        split at turned
        · rename_i again
          rw [buildPollfds_nonempty valid, Bool.or_false] at again
          cases turned
          refine turnsOwed_back same ?_ ?_
          · rw [again]
            exact Nat.le_refl _
          · rw [LoopState.iterate, turnsLeft_iterate]
            exact Nat.add_le_add_left (Nat.le_add_left 1 _) _
        · cases turned
          refine @turnsOwed_nearer _ _ 0 same (Nat.le_refl _) ?_
          simp only [LoopPoint.turnsLeft]
          omega
  | poll =>
      simp only [loopTurn] at turned
      cases polled : env.polled with
      | interrupted =>
          rw [polled] at turned
          cases turned
          have allowed : LoopState.turnsAllowed ⟨rt, .poll, progress⟩ (.turn env) =
              turnsPerIteration rt.limits.maxClients := by
            simp only [LoopState.turnsAllowed, LoopState.arrivals, LoopState.wakeTurns, polled,
              Nat.mul_zero, Nat.zero_add]
          have idle : turnsPerIteration rt.limits.maxClients * rt.workload ≤
              turnsPerIteration rt.limits.maxClients * (rt.workload + progress.toNat) :=
            Nat.mul_le_mul_left _ (Nat.le_add_right _ _)
          rw [allowed]
          change turnsPerIteration rt.limits.maxClients * rt.workload +
              (LoopPoint.service 0).turnsLeft rt.limits.maxClients + 0 ≤
            turnsPerIteration rt.limits.maxClients * (rt.workload + progress.toNat) + 0 + _
          rw [turnsLeft_iterate]
          omega
      | failed errno =>
          rw [polled] at turned
          cases turned
      | reported events =>
          rw [polled] at turned
          cases turned
          have allowed : LoopState.turnsAllowed ⟨rt, .poll, progress⟩ (.turn env) =
              events.length + 1 + turnsPerIteration rt.limits.maxClients := by
            simp only [LoopState.turnsAllowed, LoopState.arrivals, LoopState.wakeTurns, polled,
              Nat.mul_zero, Nat.zero_add]
          rw [allowed]
          exact Nat.le_refl _
  | handle events =>
      cases events with
      | nil =>
          cases turned
          refine @turnsOwed_nearer _ _ 0 same (Nat.le_add_right _ _) ?_
          rw [LoopState.iterate, turnsLeft_iterate, LoopPoint.turnsLeft, List.length_nil]
          omega
      | cons event events =>
          simp only [loopTurn] at turned
          split at turned
          · rename_i possible
            obtain ⟨middle, handled, done⟩ := bind_ok turned
            cases done
            have paid := handlePollEvent_workload reachable possible handled
            refine turnsOwed_nearer same ?_ ?_
            · change middle.workload + progress.toNat ≤
                rt.workload + progress.toNat + 4 * event.arrivals
              omega
            · rw [LoopPoint.turnsLeft, LoopPoint.turnsLeft, List.length_cons]
              omega
          · cases turned
            refine turnsOwed_nearer same (Nat.le_add_right _ _) ?_
            rw [LoopPoint.turnsLeft, LoopPoint.turnsLeft, List.length_cons]
            omega

/-- So is every step, whatever the kernel does. -/
theorem loopStep_paid {event : LoopEvent} (valid : 0 ≤ serverFd)
    (reachable : Reachable config state.rt) (taken : loopStep serverFd state event = .ok next) :
    next.turnsOwed + state.offPoll event ≤ state.turnsOwed + state.turnsAllowed event := by
  cases event with
  | turn env => exact loopTurn_paid valid reachable taken
  | post position res =>
      cases taken
      refine turnsOwed_grown rfl ?_ rfl
      have grown := @kernelPost_workload state.rt position res
      exact Nat.le_trans (Nat.add_le_add_right grown _) (Nat.le_of_eq (Nat.add_right_comm _ _ _))
  | store store =>
      cases taken
      cases store with
      | _ => exact Nat.le_refl _

/-- In every run of the loop the turns it takes off `poll` are paid for: by what it had to do
at the start, by the return of `poll` before them, and by each connection, input and completion
that arrives, with at most four iterations. So while nothing arrives the loop comes to rest
after at most `turnsOwed` turns. -/
theorem loop_never_spins {events : List LoopEvent} (valid : 0 ≤ serverFd)
    (reached : LoopState.Reached config serverFd state)
    (ran : run (loopStep serverFd) state events = .ok final) :
    final.turnsOwed + runTotal (loopStep serverFd) LoopState.offPoll state events ≤
      state.turnsOwed + runTotal (loopStep serverFd) LoopState.turnsAllowed state events :=
  @run_amortized _ _ _ _ _ _ _ _ _ (fun state => Reachable config state.rt)
    LoopState.turnsOwed (fun _ _ _ holds taken => loopStep_reachable holds taken)
    (fun _ _ _ holds taken => loopStep_paid valid holds taken) reached.reachable ran

/-- The loop takes the turns of two iterations to serve a handshake, and pays for them. -/
theorem loop_never_spins_greeting :
    ∃ final, run (loopStep 5) (.iterate (Runtime.initial (.small 1 (by decide) (by decide))))
        greetingTurns = .ok final ∧
      final.turnsOwed + runTotal (loopStep 5) LoopState.offPoll
          (.iterate (Runtime.initial (.small 1 (by decide) (by decide)))) greetingTurns ≤
        (LoopState.iterate (Runtime.initial (.small 1 (by decide) (by decide)))).turnsOwed +
          runTotal (loopStep 5) LoopState.turnsAllowed
            (.iterate (Runtime.initial (.small 1 (by decide) (by decide)))) greetingTurns := by
  have seen : ((run (loopStep 5) (.iterate (Runtime.initial (.small 1 (by decide) (by decide))))
      greetingTurns).toOption.map fun _ => true) = some true := by decide +kernel
  obtain ⟨final, ran, -⟩ := exists_of_toOption_map seen
  exact ⟨final, ran, @loop_never_spins (.small 1 (by decide) (by decide)) 5 _ final greetingTurns
    (by decide) ⟨[], rfl⟩ ran⟩

end Turns

end Iouringd
