import Iouringd.Daemon.Retention

/-! # Connections over time

Client entries are used again and again, task slots too, and the generation counter of
the daemon wraps. To say which connection a byte or a task belongs to, a `World` adds
what an outside observer knows: connections are numbered as they are opened, a task
belongs to the connection whose request started it, and everything queued for a
connection is kept. The daemon's state is not touched; `World.step` is `step` with the
observer's notes.
-/

namespace Iouringd

open Foundation

/-- The daemon and the notes of an observer. `connection` is the connection an entry
serves or served last, `stream` what was queued for a connection, `requests` what was
received from it and `answered` the part of that which was dispatched, `reaped` the
completions read so far, each with whether the connection of the task was still open
then. -/
structure World where
  rt : Runtime
  opened : Nat
  connection : Nat → Option Nat
  owner : TaskId → Option Nat
  stream : Nat → List UInt8
  requests : Nat → List Request
  answered : Nat → List Request
  reaped : List (TaskId × Bool)

namespace World

def initial (config : Config) : World where
  rt := Runtime.initial config
  opened := 0
  connection := fun _ => none
  owner := fun _ => none
  stream := fun _ => []
  requests := fun _ => []
  answered := fun _ => []
  reaped := []

/-- The entry that serves a connection, while the connection is open. -/
def hostOf (world : World) (conn : Nat) : Option Nat :=
  firstBelow world.rt.limits.maxClients fun index =>
    (world.rt.clients index).isActive && world.connection index == some conn

/-- The connection a task belongs to is open. -/
def ownerOpen (world : World) (id : TaskId) : Bool :=
  ((world.owner id).bind world.hostOf).isSome

end World

/-- A connection is opened in the entry. -/
def opensAt (rt next : Runtime) (index : Nat) : Bool :=
  !(rt.clients index).isActive && (next.clients index).isActive

/-- A connection that is opened gets an entry that may be reused. -/
theorem ClientStep.entry_of_opens {rt next : Runtime} {index : Nat}
    (view : ClientStep rt next index) (opens : opensAt rt next index = true) :
    ∃ fd, reusableClient rt = some index ∧ next.clients index = openedClient rt index fd := by
  simp only [opensAt, Bool.and_eq_true, Bool.not_eq_true'] at opens
  obtain ⟨before, after⟩ := opens
  have apart : rt.connected index ≠ true := by
    simp only [Runtime.connected, before, Bool.and_false, Bool.false_eq_true, not_false_eq_true,
      ne_eq]
  cases view with
  | kept core pending =>
      have fd := congrArg Client.fd core
      have same : (next.clients index).isActive = (rt.clients index).isActive :=
        congrArg (fun fd : Fd => decide (0 ≤ fd)) fd
      rw [same, before] at after
      cases after
  | opened fd valid found entry => exact ⟨fd, found, entry⟩
  | delivered taskIndex record payload occupied own connected taskId length core pending =>
      simp only [taskConnected, own, before, Bool.false_and, Bool.false_eq_true] at connected
  | served connected served => exact absurd connected apart
  | answered env middle bytes connected ready dispatched core descriptor pending =>
      exact absurd connected apart
  | flushed count connected core pending => exact absurd connected apart
  | closed last connected same entry => exact absurd connected apart

/-- The bytes a step queues on an entry. -/
def queuedBytes (rt next : Runtime) (index : Nat) : List UInt8 :=
  if (next.clients index).isActive then
    (next.clients index).pendingOutput.drop (rt.clients index).pendingOutput.length
  else []

/-- The request a step finishes on a connection that stays open. -/
def answeredRequest (rt next : Runtime) (index : Nat) : List Request :=
  if (rt.clients index).requestReady && !(next.clients index).requestReady &&
      (next.clients index).isActive then
    [(rt.clients index).decodedRequest]
  else []

/-- The request a step makes ready. -/
def receivedRequest (rt next : Runtime) (index : Nat) : List Request :=
  if !(rt.clients index).requestReady && (next.clients index).requestReady then
    [(next.clients index).decodedRequest]
  else []

namespace World

/-- The owners of tasks after a step: the tasks a dispatch starts belong to the
connection of the entry it was for. -/
def ownerAfter (world : World) (next : Runtime) : Action → TaskId → Option Nat
  | .dispatch index _ => fun id =>
      if id ∈ startedIds world.rt next then world.connection index else world.owner id
  | _ => world.owner

/-- The completions read after a step. -/
def reapedAfter (world : World) : Action → List (TaskId × Bool)
  | .reap _ =>
      match (ringPeekCompletion world.rt.ring).2 with
      | some cqe => world.reaped ++ [(cqe.userData, world.ownerOpen cqe.userData)]
      | none => world.reaped
  | _ => world.reaped

/-- The notes after a step to `next`. -/
def advance (world : World) (action : Action) (next : Runtime) : World where
  rt := next
  opened := if (List.range world.rt.limits.maxClients).any (opensAt world.rt next) then
    world.opened + 1 else world.opened
  connection := fun index =>
    if opensAt world.rt next index then some world.opened else world.connection index
  owner := world.ownerAfter next action
  stream := fun conn => world.stream conn ++
    ((world.hostOf conn).map (queuedBytes world.rt next)).getD []
  requests := fun conn => world.requests conn ++
    ((world.hostOf conn).map (receivedRequest world.rt next)).getD []
  answered := fun conn => world.answered conn ++
    ((world.hostOf conn).map (answeredRequest world.rt next)).getD []
  reaped := world.reapedAfter action

/-- One step of the daemon, observed. -/
def step (world : World) (action : Action) : Except Errno World := do
  let next ← Iouringd.step world.rt action
  .ok (world.advance action next)

theorem step_ok {world next : World} {action : Action}
    (taken : world.step action = .ok next) :
    Iouringd.step world.rt action = .ok next.rt ∧ next = world.advance action next.rt := by
  obtain ⟨rt, stepped, done⟩ := bind_ok taken
  cases done
  exact ⟨stepped, rfl⟩

/-- Observing changes nothing: the runs of the daemon are the observed runs. -/
theorem run_iff {world : World} {actions : List Action} {rt : Runtime} :
    run Iouringd.step world.rt actions = .ok rt ↔
      ∃ next, run step world actions = .ok next ∧ next.rt = rt := by
  induction actions generalizing world with
  | nil =>
      constructor
      · intro ran
        cases ran
        exact ⟨world, rfl, rfl⟩
      · rintro ⟨next, ran, same⟩
        cases ran
        rw [← same]
        rfl
  | cons action rest ih =>
      rw [run_cons, run_cons]
      cases taken : Iouringd.step world.rt action with
      | error errno =>
          have failed : world.step action = .error errno := by
            unfold step
            rw [taken]
            rfl
          rw [failed]
          constructor
          · intro ran
            cases ran
          · rintro ⟨next, ran, -⟩
            cases ran
      | ok next =>
          have observed : world.step action = .ok (world.advance action next) := by
            unfold step
            rw [taken]
            rfl
          rw [observed]
          exact @ih (world.advance action next)

end World

/-! ## Which entry serves which connection -/

section Effects

variable {rt next : Runtime} {action : Action} {index : Nat}

/-- An entry keeps its generation and is not connected by a step, unless the step opens
a connection in it. -/
theorem ClientStep.generation_or_opened (view : ClientStep rt next index) :
    ((next.clients index).generation = (rt.clients index).generation ∧
      ((next.clients index).isActive = true → (rt.clients index).isActive = true)) ∨
    reusableClient rt = some index := by
  have kept : ∀ client : Client, client.generation = (rt.clients index).generation →
      client.fd = (rt.clients index).fd → client.generation = (rt.clients index).generation ∧
        (client.isActive = true → (rt.clients index).isActive = true) := by
    intro client generation fd
    refine ⟨generation, ?_⟩
    unfold Client.isActive
    rw [fd]
    exact id
  have closed : ∀ last : Client, last.generation = (rt.clients index).generation →
      rt.connected index = true →
      (closedClient last).generation = (rt.clients index).generation ∧
        ((closedClient last).isActive = true → (rt.clients index).isActive = true) := by
    intro last generation connected
    simp only [Runtime.connected, Bool.and_eq_true] at connected
    exact ⟨generation, fun _ => connected.2⟩
  cases view with
  | opened fd valid found entry => exact Or.inr found
  | served connected served =>
      left
      generalize next.clients index = client at served
      cases served with
      | reading _ same busy ready =>
          have generation := congrArg Client.generation same
          have fd := congrArg Client.fd same
          exact kept client generation fd
      | greeted result _ phase ready answer =>
          rcases answer with ⟨-, same⟩ | ⟨-, same⟩
          · have generation := congrArg Client.generation same
            have fd := congrArg Client.fd same
            exact kept client generation fd
          · have generation := congrArg Client.generation same
            have fd := congrArg Client.fd same
            exact kept client generation fd
      | closed last same =>
          have generation := congrArg Client.generation same
          exact closed last generation connected
  | closed last connected same entry =>
      have generation := congrArg Client.generation same
      rw [entry]
      exact Or.inl (closed last generation connected)
  | kept core pending | answered env middle bytes connected ready dispatched core descriptor pending
  | delivered taskIndex record payload occupied own connected taskId length core pending
  | flushed count connected core pending =>
      have generation := congrArg Client.generation core
      have fd := congrArg Client.fd core
      exact Or.inl (kept _ generation fd)

/-- Only a dispatch that is accepted draws a task id. -/
theorem StepEffect.starts (effect : StepEffect rt action next)
    (moved : next.nextTaskId ≠ rt.nextTaskId) :
    ∃ index env taskIndex started credits, action = .dispatch index env ∧
      rt.connected index = true ∧ (rt.clients index).requestReady = true ∧
      (rt.clients index).replyType = .submit ∧
      Started rt index taskIndex env started ∧
      Answered (started.countAccepted index (rt.clients index).usesCredit) index
        (SubmitResult.encode ⟨rt.nextTaskId, completionResOk, credits⟩) next := by
  cases effect with
  | dispatched index env middle bytes _ connected ready change answered =>
      have same : next.nextTaskId = middle.nextTaskId := by rw [answered]
      rw [same] at moved
      cases change with
      | accepted taskIndex started credits type admitted start =>
          exact ⟨index, env, taskIndex, started, credits, rfl, connected, ready, type, start,
            answered⟩
      | fileReleased slot ring result operation found idle updated =>
          refine absurd ?_ moved
          unfold clearFileSlot
          dsimp only
          split <;> rfl
      | refused _ errno credits type rolledBack =>
          refine absurd ?_ moved
          rw [rolledBack.frame]
      | _ => exact absurd rfl moved
  | served index incoming _ connected only served =>
      refine absurd ?_ moved
      rw [only.frame]
  | flushed index writes _ connected only flushed =>
      refine absurd ?_ moved
      rw [only.frame]
  | disconnected index connected =>
      have only : OnlyClient rt index (closeClient rt index) := .closeClient
      refine absurd ?_ moved
      rw [only.frame]
  | completed _ taskIndex res ring _ occupied source completed =>
      refine absurd ?_ moved
      rw [completed.frame]
  | swept updates _ swept slots =>
      refine absurd ?_ moved
      rw [swept.frame]
  | stored store =>
      refine absurd ?_ moved
      cases store <;> rfl
  | _ => exact absurd rfl moved

end Effects

/-- The notes fit the daemon's state: an entry that is connected serves a connection of
its own, and the entry of an active task still is, or was last, that of the connection
which owns the task. -/
structure Hosted (config : Config) (world : World) : Prop where
  invariant : Invariant config world.rt
  known : ∀ index, (world.rt.clients index).isActive = true →
    index < world.rt.limits.maxClients ∧ (world.connection index).isSome = true
  bounded : ∀ index conn, world.connection index = some conn → conn < world.opened
  injective : ∀ left right conn, world.connection left = some conn →
    world.connection right = some conn → left = right
  tasks : ∀ taskIndex, world.rt.occupied taskIndex = true →
    world.owner (world.rt.tasks taskIndex).taskId =
        world.connection (world.rt.tasks taskIndex).clientIndex ∧
      (world.connection (world.rt.tasks taskIndex).clientIndex).isSome = true ∧
      (world.rt.clients (world.rt.tasks taskIndex).clientIndex).generation =
        (world.rt.tasks taskIndex).clientGeneration

namespace Hosted

variable {config : Config} {world : World} {action : Action} {next : Runtime}

theorem initial (config : Config) : Hosted config (.initial config) where
  invariant := .initial config
  known := by
    intro index active
    have inactive : ¬ Client.fresh.isActive = true := by decide
    exact absurd active inactive
  bounded := nofun
  injective := nofun
  tasks := by
    intro taskIndex occupied
    simp only [World.initial, Runtime.occupied, Runtime.initial, TaskSlot.cleared, Bool.and_false,
      Bool.false_eq_true] at occupied

/-- The entry that serves a connection. -/
theorem hostOf_eq_some (hosted : Hosted config world) {conn index : Nat} :
    world.hostOf conn = some index ↔
      (world.rt.clients index).isActive = true ∧ world.connection index = some conn := by
  constructor
  · intro found
    have serves := (firstBelow_some found).2
    simpa only [Bool.and_eq_true, beq_iff_eq] using serves
  · rintro ⟨active, serves⟩
    cases found : world.hostOf conn with
    | none =>
        have missing := firstBelow_eq_none.mp found index (hosted.known index active).1
        simp only [active, serves, beq_self_eq_true, Bool.and_self, Bool.true_eq_false] at missing
    | some other =>
        have located := (firstBelow_some found).2
        simp only [Bool.and_eq_true, beq_iff_eq] at located
        rw [hosted.injective other index conn located.2 serves]

section Step

variable (hosted : Hosted config world) (taken : step world.rt action = .ok next)

include hosted taken

/-- A connection is opened in the one entry that is reused, which has no tasks. -/
theorem opens {index : Nat} (opened : opensAt world.rt next index = true) :
    reusableClient world.rt = some index := by
  simp only [opensAt, Bool.and_eq_true, Bool.not_eq_true'] at opened
  rcases (step_clients hosted.invariant.grounded taken index).generation_or_opened with
    ⟨-, active⟩ | found
  · rw [active opened.2] at opened
    exact absurd opened.1 (by decide)
  · exact found

theorem opens_idle {index taskIndex : Nat} (opened : opensAt world.rt next index = true)
    (occupied : world.rt.occupied taskIndex = true) :
    (world.rt.tasks taskIndex).clientIndex ≠ index := by
  intro own
  have free := (firstBelow_some (hosted.opens taken opened)).2
  simp only [Bool.and_eq_true, beq_iff_eq] at free
  have counted : 0 < world.rt.countTasks (ofClient index) :=
    countTasks_pos occupied (by simp only [ofClient, own, beq_self_eq_true])
  rw [← hosted.invariant.ledger.clientTasks, free.2] at counted
  exact Nat.lt_irrefl 0 counted

/-- The connection of an entry with tasks, and its generation, stay. -/
theorem entry_kept {taskIndex : Nat} (occupied : world.rt.occupied taskIndex = true) :
    (world.advance action next).connection (world.rt.tasks taskIndex).clientIndex =
        world.connection (world.rt.tasks taskIndex).clientIndex ∧
      (next.clients (world.rt.tasks taskIndex).clientIndex).generation =
        (world.rt.clients (world.rt.tasks taskIndex).clientIndex).generation := by
  constructor
  · unfold World.advance
    dsimp only
    split
    · rename_i opened
      exact absurd rfl (hosted.opens_idle taken opened occupied)
    · rfl
  · rcases (step_clients hosted.invariant.grounded taken
      (world.rt.tasks taskIndex).clientIndex).generation_or_opened with ⟨same, -⟩ | found
    · exact same
    · have free := (firstBelow_some found).2
      simp only [Bool.and_eq_true, beq_iff_eq] at free
      have counted : 0 < world.rt.countTasks (ofClient (world.rt.tasks taskIndex).clientIndex) :=
        countTasks_pos occupied (by simp only [ofClient, beq_self_eq_true])
      rw [← hosted.invariant.ledger.clientTasks, free.2] at counted
      exact absurd counted (Nat.lt_irrefl 0)

/-- A task that is active after the step was started by it or was active before. -/
theorem started_or_before {taskIndex : Nat} (occupied : next.occupied taskIndex = true) :
    (∃ index env started credits, action = .dispatch index env ∧
      world.rt.connected index = true ∧ Started world.rt index taskIndex env started ∧
      Answered (started.countAccepted index (world.rt.clients index).usesCredit) index
        (SubmitResult.encode ⟨world.rt.nextTaskId, completionResOk, credits⟩) next ∧
      (next.tasks taskIndex).taskId ∈ startedIds world.rt next) ∨
    (world.rt.occupied taskIndex = true ∧
      (next.tasks taskIndex).taskId ∉ startedIds world.rt next) := by
  have shape := step_shape hosted.invariant.grounded taken
  have after := hosted.invariant.stepped taken
  by_cases member : taskIndex ∈ startedSlots world.rt next
  · left
    obtain ⟨drawn, fresh, moved⟩ := shape.started_id member
    have changed : next.nextTaskId ≠ world.rt.nextTaskId := by
      intro same
      have below := (after.ledger.ids taskIndex occupied).2
      rw [drawn, same] at below
      exact UInt64.lt_irrefl _ below
    obtain ⟨index, env, slot, started, credits, dispatch, connected, -, -, start, answered⟩ :=
      (step_effect hosted.invariant.grounded taken).starts changed
    -- the slot of the accepted request holds the id that was drawn, and ids are distinct
    have same : slot = taskIndex := by
      have filled : next.occupied slot = true := by
        rw [answered.quiet.occupied_eq]
        refine occupied_iff.mpr ⟨?_, start.identifies.active⟩
        rw [start.countAccepted_eq]
        exact start.slot.1
      apply after.ledger.distinct slot taskIndex filled occupied
      have tasks : next.tasks = started.tasks := by
        rw [answered]
        rfl
      rw [drawn, tasks]
      exact start.identifies.taskId
    subst same
    exact ⟨index, env, started, credits, dispatch, connected, start, answered,
      List.mem_map_of_mem member⟩
  · right
    have before : world.rt.occupied taskIndex = true := by
      by_contra vacant
      rw [Bool.not_eq_true] at vacant
      apply member
      have within : taskIndex < next.taskCapacity := (occupied_iff.mp occupied).1
      simp only [startedSlots, List.mem_filter, List.mem_range, within, occupied, vacant,
        Bool.false_and, Bool.not_false, Bool.and_self, and_self]
    refine ⟨before, ?_⟩
    intro drawn
    have low := (shape.startedIds_bounds drawn).1
    have older := (hosted.invariant.ledger.ids taskIndex before).2
    rw [shape.same_task before occupied] at low
    exact absurd low (UInt64.not_le.mpr older)

end Step

/-- Every step keeps the notes in order. -/
theorem stepped (hosted : Hosted config world)
    (taken : step world.rt action = .ok next) : Hosted config (world.advance action next) := by
  have limits := (step_shape hosted.invariant.grounded taken).constants.1
  have connection : ∀ index conn, (world.advance action next).connection index = some conn →
      (opensAt world.rt next index = true ∧ conn = world.opened) ∨
        world.connection index = some conn := by
    intro index conn serves
    unfold World.advance at serves
    dsimp only at serves
    split at serves
    · rename_i opened
      exact Or.inl ⟨opened, (Option.some.inj serves).symm⟩
    · exact Or.inr serves
  refine ⟨hosted.invariant.stepped taken, ?_, ?_, ?_, ?_⟩
  · intro index active
    change (next.clients index).isActive = true at active
    change index < next.limits.maxClients ∧ _
    rw [limits]
    unfold World.advance
    dsimp only
    cases before : (world.rt.clients index).isActive with
    | false =>
        have opened : opensAt world.rt next index = true := by
          simp only [opensAt, before, active, Bool.not_false, Bool.and_self]
        rw [if_pos opened]
        exact ⟨(firstBelow_some (hosted.opens taken opened)).1, rfl⟩
    | true =>
        have kept : ¬ opensAt world.rt next index = true := by
          simp only [opensAt, before, Bool.not_true, Bool.false_and, Bool.false_eq_true,
            not_false_eq_true]
        rw [if_neg kept]
        exact hosted.known index before
  · intro index conn serves
    change conn < if _ then _ else _
    rcases connection index conn serves with ⟨opened, same⟩ | before
    · have some : (List.range world.rt.limits.maxClients).any (opensAt world.rt next) = true :=
        List.any_eq_true.mpr ⟨index, List.mem_range.mpr
          (firstBelow_some (hosted.opens taken opened)).1, opened⟩
      rw [if_pos some, same]
      exact Nat.lt_succ_self _
    · have bound := hosted.bounded index conn before
      split
      · exact Nat.lt_succ_of_lt bound
      · exact bound
  · intro left right conn leftServes rightServes
    rcases connection left conn leftServes with ⟨leftOpened, leftSame⟩ | leftBefore
    · rcases connection right conn rightServes with ⟨rightOpened, -⟩ | rightBefore
      · have found := hosted.opens taken leftOpened
        rw [hosted.opens taken rightOpened] at found
        exact (Option.some.inj found).symm
      · have bound := hosted.bounded right conn rightBefore
        omega
    · rcases connection right conn rightServes with ⟨-, rightSame⟩ | rightBefore
      · have bound := hosted.bounded left conn leftBefore
        omega
      · exact hosted.injective left right conn leftBefore rightBefore
  · intro taskIndex occupied
    change next.occupied taskIndex = true at occupied
    change world.ownerAfter next action (next.tasks taskIndex).taskId =
        (world.advance action next).connection (next.tasks taskIndex).clientIndex ∧
      ((world.advance action next).connection (next.tasks taskIndex).clientIndex).isSome = true ∧
      (next.clients (next.tasks taskIndex).clientIndex).generation =
        (next.tasks taskIndex).clientGeneration
    rcases hosted.started_or_before taken occupied with
      ⟨index, env, started, credits, dispatch, connected, start, answered, drawn⟩ |
      ⟨before, older⟩
    · subst dispatch
      simp only [Runtime.connected, Bool.and_eq_true] at connected
      have tasks : next.tasks = started.tasks := by
        rw [answered]
        rfl
      have own : (next.tasks taskIndex).clientIndex = index := by
        rw [tasks]
        exact start.identifies.clientIndex
      have kept : (world.advance (.dispatch index env) next).connection index =
          world.connection index := by
        unfold World.advance
        dsimp only
        rw [if_neg]
        simp only [opensAt, connected.2, Bool.not_true, Bool.false_and, Bool.false_eq_true,
          not_false_eq_true]
      have generation : (next.clients index).generation = (world.rt.clients index).generation := by
        rw [answered.client, start.client_self]
        rfl
      rw [own, kept]
      refine ⟨if_pos drawn, (hosted.known index connected.2).2, ?_⟩
      rw [generation, tasks]
      exact start.identifies.clientGeneration.symm
    · have same := (step_shape hosted.invariant.grounded taken).same_task before occupied
      have own : (next.tasks taskIndex).clientIndex = (world.rt.tasks taskIndex).clientIndex := by
        rw [same]
      have id : (next.tasks taskIndex).taskId = (world.rt.tasks taskIndex).taskId := by
        rw [same]
      have stamp : (next.tasks taskIndex).clientGeneration =
          (world.rt.tasks taskIndex).clientGeneration := by
        rw [same]
      obtain ⟨owner, some, generation⟩ := hosted.tasks taskIndex before
      obtain ⟨kept, sameGeneration⟩ := hosted.entry_kept taken before
      have ownerKept : world.ownerAfter next action (next.tasks taskIndex).taskId =
          world.owner (next.tasks taskIndex).taskId := by
        unfold World.ownerAfter
        split
        · exact if_neg older
        · rfl
      rw [ownerKept, own, kept, id, stamp]
      exact ⟨owner, some, sameGeneration.trans generation⟩

end Hosted

end Iouringd
