import Iouringd.Daemon.Connection
import Iouringd.Daemon.Holds

/-! # The invariant of reachable states

The ledger and the holds of tasks, the limits the daemon was started with, and what a
client entry is while it is connected or still has tasks. It holds in every reachable
state, whatever the steps were.
-/

namespace Iouringd

open Foundation

/-- A client entry of a daemon started with `config`. -/
structure Entry (config : Config) (client : Client) : Prop where
  sized : client.isActive = true ∨ client.outstandingTasks ≠ 0 →
    client.fileSlotLimit = config.limits.registeredFdsPerClient ∧
      client.bufferSlotLimit = config.limits.registeredBuffersPerClient ∧
      client.ioBytesMax = config.limits.ioBytesMax
  capacity : client.isActive = true → client.outputCapacity = config.clientOutputCapacity
  ready : client.requestReady = true →
    client.isActive = true ∧ client.phase = .submit ∧ Grammatical client

/-- What every reachable state satisfies. -/
structure Invariant (config : Config) (rt : Runtime) : Prop where
  ledger : Ledger rt
  holds : Holds rt
  limits : rt.limits = config.limits
  ringCapacity : rt.ringCapacity = Iouringd.ringCapacity config.ring
  taskCapacity : rt.taskCapacity = config.taskCapacity
  perClientCreditLimit :
    rt.perClientCreditLimit = min config.limits.perClientCredits config.taskCapacity
  clientOutputCapacity : rt.clientOutputCapacity = config.clientOutputCapacity
  entries : ∀ index, Entry config (rt.clients index)

/-- A configuration that was accepted does not ask for more than the buffers hold. -/
theorem Config.ioBytesMax_le (config : Config) : config.limits.ioBytesMax ≤ maxIoBytes := by
  have accepted := config.accepted
  unfold Limits.accepted at accepted
  simp only [Bool.not_eq_true', Bool.or_eq_false_iff, decide_eq_false_iff_not] at accepted
  exact Nat.not_lt.mp accepted.2

/-- Nor for more clients and slots than the daemon has. -/
theorem Config.slots_le (config : Config) :
    config.limits.maxClients ≤ maxClientsLimit ∧
      config.limits.registeredFdsPerClient ≤ maxRegisteredFds ∧
      config.limits.registeredBuffersPerClient ≤ maxRegisteredBuffers := by
  have accepted := config.accepted
  unfold Limits.accepted at accepted
  simp only [Bool.not_eq_true', Bool.or_eq_false_iff, decide_eq_false_iff_not, Nat.not_lt]
    at accepted
  obtain ⟨⟨⟨⟨⟨⟨⟨⟨⟨⟨⟨-, -⟩, -⟩, clients⟩, -⟩, files⟩, -⟩, buffers⟩, -⟩, -⟩, -⟩, -⟩ := accepted
  exact ⟨clients, files, buffers⟩

section Entries

variable {config : Config} {client next : Client}

/-- An entry whose connection and sizes stay as they are. -/
theorem Entry.of_fields (entry : Entry config client) (fd : next.fd = client.fd)
    (sizes : next.fileSlotLimit = client.fileSlotLimit ∧
      next.bufferSlotLimit = client.bufferSlotLimit ∧ next.ioBytesMax = client.ioBytesMax ∧
      next.outputCapacity = client.outputCapacity)
    (busy : next.outstandingTasks ≠ 0 → client.isActive = true ∨ client.outstandingTasks ≠ 0)
    (ready : next.requestReady = true →
      next.isActive = true ∧ next.phase = .submit ∧ Grammatical next) :
    Entry config next := by
  have active : next.isActive = client.isActive := by
    unfold Client.isActive
    rw [fd]
  refine ⟨?_, ?_, ready⟩
  · intro used
    have before : client.isActive = true ∨ client.outstandingTasks ≠ 0 := by
      rcases used with open' | tasks
      · exact Or.inl (active ▸ open')
      · exact busy tasks
    rw [sizes.1, sizes.2.1, sizes.2.2.1]
    exact entry.sized before
  · intro open'
    rw [sizes.2.2.2]
    exact entry.capacity (active ▸ open')

/-- Being an entry only depends on the core and on having tasks. -/
theorem Entry.of_core (entry : Entry config client) (core : next.core = client.core)
    (busy : next.outstandingTasks ≠ 0 → client.isActive = true ∨ client.outstandingTasks ≠ 0) :
    Entry config next := by
  have field : ∀ {α : Type} (get : Client → α), get next.core = get client.core :=
    fun get => congrArg get core
  refine entry.of_fields (field Client.fd)
    ⟨field Client.fileSlotLimit, field Client.bufferSlotLimit, field Client.ioBytesMax,
      field Client.outputCapacity⟩ busy ?_
  intro ready
  obtain ⟨open', submit, grammatical⟩ := entry.ready ((field Client.requestReady).symm.trans ready)
  refine ⟨(field Client.isActive).trans open', (field Client.phase).trans submit, ?_⟩
  have same : Grammatical next.core := by
    rw [core]
    exact ⟨grammatical.controlOp, grammatical.parsed, grammatical.descriptor⟩
  exact ⟨same.controlOp, same.parsed, same.descriptor⟩

/-- Closing keeps the sizes while tasks of the connection are still running. -/
theorem Entry.of_closed {last : Client} (entry : Entry config client)
    (sizes : last.fileSlotLimit = client.fileSlotLimit ∧
      last.bufferSlotLimit = client.bufferSlotLimit ∧ last.ioBytesMax = client.ioBytesMax)
    (active : client.isActive = true) : Entry config (closedClient last) := by
  refine ⟨?_, ?_, nofun⟩
  · intro _
    change last.fileSlotLimit = _ ∧ last.bufferSlotLimit = _ ∧ last.ioBytesMax = _
    rw [sizes.1, sizes.2.1, sizes.2.2]
    exact entry.sized (Or.inl active)
  · rw [closedClient_inactive]
    exact nofun

/-- Reading a connection keeps its entry. -/
theorem Entry.of_served (entry : Entry config client) (active : client.isActive = true)
    (served : Served client next) : Entry config next := by
  have within : client.ioBytesMax ≤ maxIoBytes := by
    rw [(entry.sized (Or.inl active)).2.2]
    exact config.ioBytesMax_le
  cases served with
  | reading next same busy ready =>
      have field : ∀ {α : Type} (get : Client → α),
          get next.eraseDecoder = get client.eraseDecoder := fun get => congrArg get same
      refine entry.of_fields (field Client.fd)
        ⟨field Client.fileSlotLimit, field Client.bufferSlotLimit, field Client.ioBytesMax,
          field Client.outputCapacity⟩ (fun _ => Or.inl active) ?_
      intro set
      rcases ready set with ⟨before, unchanged⟩ | ⟨submit, grammatical⟩
      · rw [unchanged]
        exact entry.ready before
      · exact ⟨(field Client.isActive).trans active, (field Client.phase).trans submit,
          grammatical within⟩
  | greeted result next phase ready answer =>
      have field : ∃ base : Client, next.eraseDecoder = base.eraseDecoder ∧ base.fd = client.fd ∧
          base.fileSlotLimit = client.fileSlotLimit ∧
          base.bufferSlotLimit = client.bufferSlotLimit ∧ base.ioBytesMax = client.ioBytesMax ∧
          base.outputCapacity = client.outputCapacity := by
        rcases answer with ⟨-, same⟩ | ⟨-, same⟩
        · exact ⟨{ client.appendOutput result.encode with phase := .submit }, same, rfl, rfl, rfl,
            rfl, rfl⟩
        · exact ⟨{ client.appendOutput result.encode with closeAfterFlush := true }, same, rfl, rfl,
            rfl, rfl, rfl⟩
      obtain ⟨base, same, fd, files, buffers, bytes, capacity⟩ := field
      have field : ∀ {α : Type} (get : Client → α),
          get next.eraseDecoder = get base.eraseDecoder := fun get => congrArg get same
      refine entry.of_fields ((field Client.fd).trans fd)
        ⟨(field Client.fileSlotLimit).trans files, (field Client.bufferSlotLimit).trans buffers,
          (field Client.ioBytesMax).trans bytes, (field Client.outputCapacity).trans capacity⟩
        (fun _ => Or.inl active) ?_
      rw [ready]
      exact nofun
  | closed last same =>
      have field : ∀ {α : Type} (get : Client → α),
          get last.eraseDecoder = get client.eraseDecoder := fun get => congrArg get same
      exact entry.of_closed ⟨field Client.fileSlotLimit, field Client.bufferSlotLimit,
        field Client.ioBytesMax⟩ active

end Entries

section Step

variable {config : Config} {rt next : Runtime}

/-- A client has tasks after a step only if it is connected or had some before. -/
theorem StepShape.busy (shape : StepShape rt next) (index : Nat)
    (tasks : (next.clients index).outstandingTasks ≠ 0) :
    (rt.clients index).isActive = true ∨ (rt.clients index).outstandingTasks ≠ 0 := by
  cases shape with
  | quiet quiet =>
      rw [(quiet.client index).outstandingTasks] at tasks
      exact Or.inr tasks
  | accepted client taskIndex env started connected admitted start answered =>
      rw [(answered.client index).outstandingTasks] at tasks
      by_cases same : index = client
      · subst same
        simp only [Runtime.connected, Bool.and_eq_true] at connected
        exact Or.inl connected.2
      · rw [start.client_other _ same] at tasks
        exact Or.inr tasks
  | completed taskIndex res middle reaped occupied completed =>
      right
      rw [← (reaped.client index).outstandingTasks]
      by_cases own : index = (middle.tasks taskIndex).clientIndex
      · subst own
        rw [completed.frame] at tasks
        simp only [Function.update_self] at tasks
        omega
      · rw [completed.frame] at tasks
        simpa only [Function.update_of_ne own] using tasks

theorem Invariant.grounded (invariant : Invariant config rt) : Grounded rt :=
  ⟨invariant.holds.placed, invariant.holds.idle invariant.ledger,
    invariant.ledger.clientCredits_eq_zero⟩

/-- An entry after a step. -/
theorem Invariant.entry_step (invariant : Invariant config rt) (shape : StepShape rt next)
    {index : Nat} (client : ClientStep rt next index) : Entry config (next.clients index) := by
  have entry := invariant.entries index
  have busy := shape.busy index
  have active : rt.connected index = true → (rt.clients index).isActive = true := by
    intro connected
    simp only [Runtime.connected, Bool.and_eq_true] at connected
    exact connected.2
  cases client with
  | kept core pending => exact entry.of_core core busy
  | opened fd valid found same =>
      rw [same]
      refine ⟨?_, ?_, by rintro ⟨⟩⟩
      · intro _
        change rt.limits.registeredFdsPerClient = _ ∧ rt.limits.registeredBuffersPerClient = _ ∧
          rt.limits.ioBytesMax = _
        rw [invariant.limits]
        exact ⟨rfl, rfl, rfl⟩
      · intro _
        exact invariant.clientOutputCapacity
  | served connected served => exact entry.of_served (active connected) served
  | answered env middle bytes connected ready dispatched core descriptor pending =>
      have finished : Entry config ({ (rt.clients index).finishRequest with
          receivedFd := (next.clients index).receivedFd } : Client) :=
        entry.of_fields rfl ⟨rfl, rfl, rfl, rfl⟩ (fun _ => Or.inl (active connected)) (by rintro ⟨⟩)
      exact finished.of_core core fun _ => Or.inl (active connected)
  | delivered taskIndex record payload occupied own connected taskId length core pending =>
      exact entry.of_core core busy
  | flushed count connected core pending => exact entry.of_core core busy
  | closed last connected same entered =>
      have field : ∀ {α : Type} (get : Client → α), get last.core = get (rt.clients index).core :=
        fun get => congrArg get same
      rw [entered]
      exact entry.of_closed ⟨field Client.fileSlotLimit, field Client.bufferSlotLimit,
        field Client.ioBytesMax⟩ (active connected)

/-- The fixed sizes do not change. -/
theorem StepShape.constants (shape : StepShape rt next) :
    next.limits = rt.limits ∧ next.ringCapacity = rt.ringCapacity ∧
      next.taskCapacity = rt.taskCapacity ∧
      next.perClientCreditLimit = rt.perClientCreditLimit ∧
      next.clientOutputCapacity = rt.clientOutputCapacity := by
  have quietly : ∀ {before after : Runtime}, Quiet before after →
      after.limits = before.limits ∧ after.ringCapacity = before.ringCapacity ∧
        after.taskCapacity = before.taskCapacity ∧
        after.perClientCreditLimit = before.perClientCreditLimit ∧
        after.clientOutputCapacity = before.clientOutputCapacity :=
    fun quiet => ⟨quiet.limits, quiet.ringCapacity, quiet.taskCapacity,
      quiet.perClientCreditLimit, quiet.clientOutputCapacity⟩
  cases shape with
  | quiet quiet => exact quietly quiet
  | accepted client taskIndex env started connected admitted start answered =>
      have answer := quietly answered
      rw [start.countAccepted_eq] at answer
      exact answer
  | completed taskIndex res middle reaped occupied completed =>
      have reap := quietly reaped
      rw [completed.frame]
      exact reap

/-- Every step keeps the invariant. -/
theorem Invariant.stepped {action : Action} (invariant : Invariant config rt)
    (taken : step rt action = .ok next) : Invariant config next := by
  have shape := step_shape invariant.grounded taken
  obtain ⟨limits, ringCapacity, taskCapacity, creditLimit, outputCapacity⟩ := shape.constants
  exact {
    ledger := invariant.ledger.stepped shape
    holds := invariant.holds.stepped invariant.ledger shape
    limits := limits.trans invariant.limits
    ringCapacity := ringCapacity.trans invariant.ringCapacity
    taskCapacity := taskCapacity.trans invariant.taskCapacity
    perClientCreditLimit := creditLimit.trans invariant.perClientCreditLimit
    clientOutputCapacity := outputCapacity.trans invariant.clientOutputCapacity
    entries := fun index =>
      invariant.entry_step shape (step_clients invariant.grounded taken index) }

theorem Invariant.initial (config : Config) : Invariant config (Runtime.initial config) where
  ledger := .initial config
  holds := .initial config
  limits := rfl
  ringCapacity := rfl
  taskCapacity := rfl
  perClientCreditLimit := rfl
  clientOutputCapacity := rfl
  entries := by
    intro index
    have inactive : ¬ Client.fresh.isActive = true := by decide
    refine ⟨?_, ?_, nofun⟩
    · rintro (active | tasks)
      · exact absurd active inactive
      · exact absurd rfl tasks
    · intro active
      exact absurd active inactive

/-- The invariant holds in every reachable state. -/
theorem Reachable.invariant (reachable : Reachable config rt) : Invariant config rt :=
  reachable.induct (.initial config) fun _ _ _ invariant taken => invariant.stepped taken

end Step

end Iouringd
