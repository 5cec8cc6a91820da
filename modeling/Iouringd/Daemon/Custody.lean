import Iouringd.Daemon.Arrivals
import Iouringd.Daemon.Isolation

/-! # Every descriptor is in one place

The history of a run keeps what the kernel knows about descriptors: which ones it handed to
the daemon, which of them the daemon is to look after, and which an io_uring CLOSE closed. As
long as no `io_uring_enter` fails and no CLOSE is refused or cancelled, a descriptor the
daemon looks after is in exactly one place until it is closed, once.
-/

namespace Iouringd

open Foundation

/-- The kernel's view of the descriptors. `posted` are the operations whose completions are
unread, oldest first; `handed` are all descriptors given to the daemon, `sockets` the
connections among them and `obtained` those that came as a `received_fd`, from an ACCEPT or
from an OPENAT; `gone` are the descriptors that CLOSE operations closed. -/
structure Custody where
  posted : List Sqe
  handed : List Fd
  sockets : List Fd
  obtained : List Fd
  gone : List Fd
  deriving DecidableEq, Repr

/-- At the start the daemon has been given nothing that is not closed. -/
def Custody.initial (config : Config) : Custody := ⟨[], config.ring.kernel.closed, [], [], []⟩

/-- A CLOSE that was refused or cancelled leaves its descriptor open. -/
def closeTakesEffect (res : Int32) : Bool := res != -EINVAL && res != -ECANCELED

/-- The descriptor an operation returned. -/
def Sqe.produced (sqe : Sqe) (res : Int32) : List Fd :=
  if (sqe.opcode == .accept || sqe.opcode == .openat) && decide (0 ≤ res) then [res] else []

/-- The descriptor an operation closed. -/
def Sqe.closed (sqe : Sqe) (res : Int32) : List Fd :=
  if sqe.opcode == .close && closeTakesEffect res then [sqe.fd] else []

/-- The segments with control messages that an input step takes from the socket. -/
def Runtime.consumed (rt : Runtime) (index : Nat) (incoming : List RecvOutcome) : List Arrival :=
  if rt.connected index then
    match serviceClientReadable rt index incoming with
    | .ok (_, _, rest) =>
        (arrivals incoming).take ((arrivals incoming).length - (arrivals rest).length)
    | .error _ => []
  else []

/-- The socket of a new connection. -/
def Action.socket : Action → List Fd
  | .connect fd _ => if 0 ≤ fd then [fd] else []
  | _ => []

/-- What a step adds to the history. -/
def Custody.note (rt : Runtime) (action : Action) (next : Runtime) (custody : Custody) :
    Custody :=
  match action with
  | .connect _ _ =>
      { custody with
        handed := custody.handed ++ action.socket
        sockets := custody.sockets ++ action.socket }
  | .input index incoming =>
      let consumed := rt.consumed index incoming
      { custody with
        handed := custody.handed ++ consumed.flatMap Arrival.descriptors
        obtained := custody.obtained ++ received (rt.clients index).receivedFd consumed }
  | .post position _ =>
      if next.ring.cqTail = rt.ring.cqTail then custody
      else { custody with posted := custody.posted ++ rt.ring.kernel.executing[position]?.toList }
  | .reap _ =>
      match custody.posted, (ringPeekCompletion rt.ring).2 with
      | sqe :: rest, some cqe =>
          { custody with
            posted := rest
            handed := custody.handed ++ sqe.produced cqe.res
            obtained := custody.obtained ++ sqe.produced cqe.res
            gone := custody.gone ++ sqe.closed cqe.res }
      | _, _ => custody
  | _ => custody

/-- The completion that is read next is that of a CLOSE that did not take effect. -/
def closeRevoked (state : Runtime × Custody) : Action → Bool
  | .reap _ =>
      match state.2.posted, (ringPeekCompletion state.1.ring).2 with
      | sqe :: _, some cqe => sqe.opcode == .close && !closeTakesEffect cqe.res
      | _, _ => false
  | _ => false

/-! ## The operations behind the unread completions -/

/-- The unread completions are those of the noted operations, which are those of their
tasks. -/
structure Tracked (rt : Runtime) (posted : List Sqe) : Prop where
  ids : posted.map Sqe.userData = rt.ring.posted.map Cqe.userData
  tasks : ∀ sqe ∈ posted, ∃ taskIndex, rt.occupied taskIndex = true ∧ sqe = taskSqe rt taskIndex

section Tracking

variable {config : Config} {rt next : Runtime} {action : Action} {posted : List Sqe}

/-- Steps that leave the completions alone and let go of no task. -/
theorem Tracked.same (tracked : Tracked rt posted) (invariant : Invariant config rt)
    (taken : step rt action = .ok next) (queue : next.ring.posted = rt.ring.posted)
    (occupied : ∀ taskIndex, rt.occupied taskIndex = true → next.occupied taskIndex = true) :
    Tracked next posted := by
  refine ⟨?_, ?_⟩
  · rw [queue]
    exact tracked.ids
  · intro sqe member
    obtain ⟨taskIndex, before, same⟩ := tracked.tasks sqe member
    have after := occupied taskIndex before
    exact ⟨taskIndex, after, same.trans (invariant.taskSqe_kept taken before after).symm⟩

/-- The kernel completes an operation. -/
theorem Tracked.post {position : Nat} {res : Int32} (tracked : Tracked rt posted)
    (matched : Matched rt) :
    Tracked { rt with ring := kernelPost rt.ring position res }
      (if (kernelPost rt.ring position res).cqTail = rt.ring.cqTail then posted
        else posted ++ rt.ring.kernel.executing[position]?.toList) := by
  rcases kernelPost_cases matched.sound position res with
    same | ⟨sqe, executing, -, -, -, appended⟩
  · rw [same, if_pos rfl]
    exact tracked
  · have moved : ¬ (kernelPost rt.ring position res).cqTail = rt.ring.cqTail := by
      unfold kernelPost at appended ⊢
      rw [executing] at appended ⊢
      dsimp only at appended ⊢
      split at appended
      · rename_i space
        rw [if_pos space]
        intro same
        have next := congrArg UInt32.toNat same
        rw [UInt32.toNat_add] at next
        have small := rt.ring.cqTail.toNat_lt
        change (_ + 1) % _ = _ at next
        omega
      · have longer := congrArg List.length appended
        rw [List.length_append, List.length_singleton] at longer
        omega
    rw [if_neg moved, executing, Option.toList_some]
    refine ⟨?_, ?_⟩
    · rw [List.map_append, tracked.ids]
      change _ = ((kernelPost rt.ring position res).posted).map Cqe.userData
      rw [appended, List.map_append]
      rfl
    · intro other member
      rcases List.mem_append.mp member with old | new
      · exact tracked.tasks other old
      · rw [List.mem_singleton.mp new]
        refine matched.sqes sqe (List.mem_append_left _ ?_)
        exact List.mem_of_getElem? executing

/-- The oldest completion is that of the oldest noted operation. -/
theorem Tracked.head {cqe : Cqe} {cqes : List Cqe} {taskIndex : Nat} (tracked : Tracked rt posted)
    (invariant : Invariant config rt) (queue : rt.ring.posted = cqe :: cqes)
    (before : rt.occupied taskIndex = true) (id : (rt.tasks taskIndex).taskId = cqe.userData) :
    ∃ rest, posted = taskSqe rt taskIndex :: rest ∧
      rest.map Sqe.userData = cqes.map Cqe.userData := by
  have ids := tracked.ids
  rw [queue, List.map_cons] at ids
  cases posted with
  | nil => cases ids
  | cons sqe rest =>
      rw [List.map_cons, List.cons.injEq] at ids
      obtain ⟨slot, held, same⟩ := tracked.tasks sqe List.mem_cons_self
      have here : slot = taskIndex := by
        apply invariant.ledger.distinct slot taskIndex held before
        rw [id, ← ids.1, same, taskSqe_userData]
      exact ⟨rest, by rw [same, here], ids.2⟩

/-- Reading a completion takes its operation off the list. -/
theorem Tracked.reaped {cqe : Cqe} {taskIndex : Nat} (tracked : Tracked rt posted)
    (matched : Matched rt) (invariant : Invariant config rt) (taken : step rt action = .ok next)
    (queue : rt.ring.posted = cqe :: next.ring.posted)
    (before : rt.occupied taskIndex = true) (id : (rt.tasks taskIndex).taskId = cqe.userData)
    (occupied : ∀ other, next.occupied other = true ↔
      rt.occupied other = true ∧ other ≠ taskIndex) :
    ∃ rest, posted = taskSqe rt taskIndex :: rest ∧ Tracked next rest := by
  obtain ⟨rest, listed, ids⟩ := tracked.head invariant queue before id
  refine ⟨rest, listed, ids, ?_⟩
  intro other member
  obtain ⟨place, also, operation⟩ := tracked.tasks other (listed ▸ List.mem_cons_of_mem _ member)
  -- the task of a later completion is another one, the ids on the ring are distinct
  have apart : place ≠ taskIndex := by
    intro same
    have behind : cqe.userData ∈ next.ring.posted.map Cqe.userData := by
      rw [← ids, ← id, ← same, ← taskSqe_userData, ← operation]
      exact List.mem_map_of_mem member
    have nodup := matched.nodup
    rw [Ring.tokens, queue, List.map_cons] at nodup
    exact (List.nodup_cons.mp (List.nodup_append.mp nodup).2.1).1 behind
  have after := (occupied place).mpr ⟨also, apart⟩
  exact ⟨place, after, operation.trans (invariant.taskSqe_kept taken also after).symm⟩

/-- Reading a completion, as the history sees it. -/
theorem note_reap {custody : Custody} {sqe : Sqe} {rest : List Sqe} {cqe : Cqe}
    {env : CompleteEnv} (posted : custody.posted = sqe :: rest)
    (peeked : (ringPeekCompletion rt.ring).2 = some cqe) :
    custody.note rt (.reap env) next = { custody with
      posted := rest
      handed := custody.handed ++ sqe.produced cqe.res
      obtained := custody.obtained ++ sqe.produced cqe.res
      gone := custody.gone ++ sqe.closed cqe.res } := by
  unfold Custody.note
  rw [posted, peeked]

/-- Nothing to read leaves the history alone. -/
theorem note_unread {custody : Custody} {env : CompleteEnv}
    (unread : (ringPeekCompletion rt.ring).2 = none) :
    custody.note rt (.reap env) next = custody := by
  unfold Custody.note
  dsimp only
  rw [unread]
  split
  · rename_i some
    cases some
  · rfl

/-- What a clean step does to the noted operations. -/
theorem Tracked.stepped {custody : Custody} (tracked : Tracked rt custody.posted)
    (matched : Matched rt) (invariant : Invariant config rt) (clean : action.clean = true)
    (taken : step rt action = .ok next) :
    Tracked next (custody.note rt action next).posted := by
  cases queueStep matched.sound invariant clean taken with
  | same _ _ unread unposted queues occupied =>
      have same := tracked.same invariant taken queues.posted fun taskIndex before =>
        (occupied taskIndex).trans before
      cases action with
      | post position res => exact absurd rfl (unposted position res)
      | reap env =>
          rw [note_unread (unread env rfl)]
          exact same
      | _ => exact same
  | started index env _ slot sound submitted posted fresh occupied others vacant =>
      apply tracked.same invariant taken posted
      intro other before
      by_cases apart : other = slot
      · rw [apart]
        exact occupied
      · exact (others other apart).trans before
  | reaped env _ slot cqe peeked sound submitted posted before id occupied =>
      obtain ⟨rest, listed, later⟩ :=
        tracked.reaped matched invariant taken posted before id occupied
      rw [note_reap listed peeked]
      exact later
  | posted position res =>
      have after := @Tracked.post rt custody.posted position res tracked matched
      unfold Custody.note
      dsimp only
      split
      · rename_i same
        rw [if_pos same] at after
        exact after
      · rename_i moved
        rw [if_neg moved] at after
        exact after

end Tracking

/-! ## Sockets -/

section Sockets

variable {config : Config} {rt next : Runtime} {action : Action}

theorem closedClient_fd (client : Client) : (closedClient client).fd < 0 := by
  change (if 0 ≤ client.fd then -1 else client.fd) < 0
  split
  · decide
  · rename_i below
    exact Int32.not_le.mp below

/-- The socket of an entry is kept, given up or that of a new connection. -/
theorem StepEffect.socket (effect : StepEffect rt action next) (index : Nat) :
    (next.clients index).fd = (rt.clients index).fd ∨ (next.clients index).fd < 0 ∨
      ∃ fd env, action = .connect fd env ∧ 0 ≤ fd ∧ reusableClient rt = some index ∧
        next.clients = Function.update rt.clients index (openedClient rt index fd) := by
  have one : ∀ {client : Nat} {entry : Client},
      next.clients = Function.update rt.clients client entry →
      entry.fd = (rt.clients client).fd ∨ entry.fd < 0 →
      (next.clients index).fd = (rt.clients index).fd ∨ (next.clients index).fd < 0 ∨
        ∃ fd env, action = .connect fd env ∧ 0 ≤ fd ∧ reusableClient rt = some index ∧
          next.clients = Function.update rt.clients index (openedClient rt index fd) := by
    intro client entry clients socket
    by_cases here : index = client
    · subst here
      rw [clients, Function.update_self]
      rcases socket with same | closed
      · exact Or.inl same
      · exact Or.inr (Or.inl closed)
    · rw [clients, Function.update_of_ne here]
      exact Or.inl rfl
  cases effect with
  | idle | turnedAway | cursorMoved | posted => exact Or.inl rfl
  | opened client fd env valid found =>
      by_cases here : index = client
      · subst here
        exact Or.inr (Or.inr ⟨fd, env, rfl, valid, found, rfl⟩)
      · exact Or.inl (congrArg Client.fd (Function.update_of_ne here _ _))
  | served client incoming _ connected only served =>
      have clients : next.clients = Function.update rt.clients client (next.clients client) := by
        conv_lhs => rw [only.frame]
      apply one clients
      generalize next.clients client = last at served
      cases served with
      | reading _ same busy ready => exact Or.inl (congrArg Client.fd same : _)
      | greeted result _ phase ready answer =>
          rcases answer with ⟨-, same⟩ | ⟨-, same⟩
          · exact Or.inl (congrArg Client.fd same : _)
          · exact Or.inl (congrArg Client.fd same : _)
      | closed base same => exact Or.inr (closedClient_fd base)
  | dispatched client env middle bytes _ connected ready change answered =>
      have core := (congrArg Client.fd change.core.1 : _)
      by_cases here : index = client
      · subst here
        rw [answered]
        simp only [Function.update_self]
        exact Or.inl core
      · rw [answered.client_other here, change.client_other here]
        exact Or.inl rfl
  | completed _ taskIndex res ring _ occupied source completed =>
      have clients := congrArg Runtime.clients completed.frame
      exact one clients (Or.inl rfl)
  | swept updates _ swept slots => exact Or.inl (core_fields (slots.core index)).1
  | flushed client writes _ connected only flushed =>
      have clients : next.clients = Function.update rt.clients client (next.clients client) := by
        conv_lhs => rw [only.frame]
      apply one clients
      cases flushed with
      | sent count core pending => exact Or.inl (core_fields core).1
      | closed last same entry =>
          rw [entry]
          exact Or.inr (closedClient_fd last)
  | disconnected client connected =>
      have only : OnlyClient rt client (closeClient rt client) := .closeClient
      have clients : (closeClient rt client).clients =
          Function.update rt.clients client ((closeClient rt client).clients client) := by
        conv_lhs => rw [only.frame]
      apply one clients
      rw [closeClient_client]
      exact Or.inr (closedClient_fd _)
  | stored store => cases store <;> exact Or.inl rfl

/-- Only a new connection adds a socket. -/
theorem Invariant.step_sockets (invariant : Invariant config rt)
    (taken : step rt action = .ok next) {fd : Fd} (valid : 0 ≤ fd) :
    next.sockets fd ≤ rt.sockets fd + action.socket.count fd := by
  have limits := (step_shape invariant.grounded taken).constants.1
  have effect := step_effect invariant.grounded taken
  unfold Runtime.sockets
  rw [limits]
  by_cases opens : ∃ index found env, action = .connect found env ∧ 0 ≤ found ∧
      reusableClient rt = some index ∧
      next.clients = Function.update rt.clients index (openedClient rt index found)
  · obtain ⟨index, found, env, rfl, nonnegative, reused, clients⟩ := opens
    have moved := @tally_update _ (fun client : Client => if client.fd = fd then 1 else 0)
      rt.clients rt.limits.maxClients index (firstBelow_some reused).1 (openedClient rt index found)
    have socket : (openedClient rt index found).fd = found := rfl
    rw [clients, Action.socket, if_pos nonnegative, List.count_singleton]
    rw [socket] at moved
    simp only [beq_iff_eq]
    omega
  · have fewer : tally (fun client : Client => if client.fd = fd then 1 else 0) next.clients
        rt.limits.maxClients ≤
        tally (fun client : Client => if client.fd = fd then 1 else 0) rt.clients
          rt.limits.maxClients := by
      refine tally_le fun index _ => ?_
      rcases effect.socket index with same | closed | ⟨found, env, opened⟩
      · rw [same]
      · have gone : ¬ (next.clients index).fd = fd := by
          intro same
          rw [same] at closed
          exact absurd valid (Int32.not_le.mpr closed)
        rw [if_neg gone]
        exact Nat.zero_le _
      · exact absurd ⟨index, found, env, opened⟩ opens
    omega

end Sockets

/-! ## One step -/

section Stepping

variable {config : Config} {rt next : Runtime} {action : Action} {custody : Custody}

/-- The opcodes of ACCEPT, OPENAT and CLOSE are used for nothing else. -/
theorem taskSqe_opcode (rt : Runtime) (taskIndex : Nat) :
    ((taskSqe rt taskIndex).opcode == .accept) = ((rt.tasks taskIndex).taskKind == .accept) ∧
      ((taskSqe rt taskIndex).opcode == .openat) = ((rt.tasks taskIndex).taskKind == .openat) ∧
      ((taskSqe rt taskIndex).opcode == .close) = ((rt.tasks taskIndex).taskKind == .close) := by
  cases kind : (rt.tasks taskIndex).taskKind <;> unfold taskSqe <;> simp only [kind] <;>
    exact ⟨rfl, rfl, rfl⟩

/-- The operation of a task produces what its task does. -/
theorem taskSqe_produced (rt : Runtime) (taskIndex : Nat) (res : Int32) :
    (taskSqe rt taskIndex).produced res = (rt.tasks taskIndex).produced res := by
  obtain ⟨accept, openat, -⟩ := taskSqe_opcode rt taskIndex
  unfold Sqe.produced TaskSlot.produced TaskSlot.produces
  rw [accept, openat]

/-- The operation of a CLOSE closes the descriptor of its task. -/
theorem taskSqe_closed {taskIndex : Nat} {res : Int32}
    (effective : ((taskSqe rt taskIndex).opcode == .close && !closeTakesEffect res) = false) :
    (taskSqe rt taskIndex).closed res = (rt.tasks taskIndex).closes := by
  have close := (taskSqe_opcode rt taskIndex).2.2
  rw [close] at effective
  unfold Sqe.closed TaskSlot.closes
  rw [close]
  by_cases kind : (rt.tasks taskIndex).taskKind = .close
  · have fd : (taskSqe rt taskIndex).fd = (rt.tasks taskIndex).closeFd := by
      unfold taskSqe
      simp only [kind]
    rw [kind] at effective ⊢
    simp only [beq_self_eq_true, Bool.true_and, Bool.not_eq_eq_eq_not, Bool.not_false] at effective
    simp only [beq_self_eq_true, Bool.true_and, effective, ↓reduceIte, fd]
  · rw [beq_eq_false_iff_ne.mpr kind, Bool.false_and, if_neg kind]
    rfl

/-- How a step moves the counts of a descriptor. -/
structure Moves (rt next : Runtime) (custody after : Custody) (fd : Fd) : Prop where
  counts : ∃ gain lost handed obtained sockets,
    next.account fd + lost = rt.account fd + gain ∧
    after.gone.count fd = custody.gone.count fd + lost ∧
    after.handed.count fd = custody.handed.count fd + handed ∧
    after.obtained.count fd = custody.obtained.count fd + obtained ∧
    after.sockets.count fd = custody.sockets.count fd + sockets ∧
    next.sockets fd ≤ rt.sockets fd + sockets ∧
    obtained ≤ gain ∧ gain ≤ handed ∧ obtained + sockets ≤ handed

/-- Steps the history ignores. -/
theorem Conserved.moves (conserved : Conserved rt next [] []) {fd : Fd} (valid : 0 ≤ fd)
    (sockets : next.sockets fd ≤ rt.sockets fd) : Moves rt next custody custody fd :=
  ⟨0, 0, 0, 0, 0, conserved.account fd valid, rfl, rfl, rfl, rfl, sockets, Nat.le_refl _,
    Nat.le_refl _, Nat.le_refl _⟩

/-- What `consumed` computes for an input step that goes through. -/
theorem consumed_eq {index : Nat} {incoming rest : List RecvOutcome} {outcome : Bool}
    {taken : List Arrival} (connected : rt.connected index = true)
    (serviced : serviceClientReadable rt index incoming = .ok (next, outcome, rest))
    (split : arrivals incoming = taken ++ arrivals rest) : rt.consumed index incoming = taken := by
  unfold Runtime.consumed
  rw [if_pos connected, serviced]
  dsimp only
  rw [split, List.length_append, Nat.add_sub_cancel]
  exact List.take_left' rfl

/-- An input step gains at least what it receives and at most what it is handed. -/
theorem Invariant.input_moves {index : Nat} {incoming : List RecvOutcome} {fd : Fd}
    (invariant : Invariant config rt) (valid : 0 ≤ fd)
    (taken : step rt (.input index incoming) = .ok next) :
    Moves rt next custody (custody.note rt (.input index incoming) next) fd := by
  have sockets := invariant.step_sockets taken valid
  simp only [step] at taken
  split at taken
  · rename_i connected
    obtain ⟨⟨after, outcome, rest⟩, serviced, done⟩ := bind_ok taken
    cases done
    have below : index < rt.limits.maxClients := by
      rw [Runtime.connected, Bool.and_eq_true, decide_eq_true_eq] at connected
      exact connected.1
    have within : (rt.clients index).ioBytesMax ≤ maxIoBytes := by
      rw [Runtime.connected, Bool.and_eq_true] at connected
      rw [((invariant.entries index).sized (Or.inl connected.2)).2.2]
      exact config.ioBytesMax_le
    obtain ⟨arrived, gain, split, gains, balanced⟩ := serviceLoop_balanced below within serviced
    have same := consumed_eq connected serviced split
    obtain ⟨only, served⟩ := serviceClientReadable_served serviced
    have conserved := (balanced.conserved (only.quiet served.quiet)).account fd valid
    refine ⟨gain.count fd, 0, (arrived.flatMap Arrival.descriptors).count fd,
      (received (rt.clients index).receivedFd arrived).count fd, 0, conserved, rfl, ?_, ?_, rfl,
      sockets, gains.received.count_le fd, gains.handed.count_le fd,
      (gains.received.trans gains.handed).count_le fd⟩
    · unfold Custody.note
      dsimp only
      rw [same, List.count_append]
    · unfold Custody.note
      dsimp only
      rw [same, List.count_append]
  · rename_i away
    cases taken
    have nothing : rt.consumed index incoming = [] := by
      unfold Runtime.consumed
      rw [if_neg away]
    refine ⟨0, 0, 0, 0, 0, rfl, rfl, ?_, ?_, rfl, sockets, Nat.le_refl _, Nat.le_refl _,
      Nat.le_refl _⟩
    · unfold Custody.note
      dsimp only
      rw [nothing, List.flatMap_nil, List.append_nil]
      rfl
    · unfold Custody.note
      dsimp only
      rw [nothing]
      exact congrArg (List.count fd) (List.append_nil _)

/-- A completion gains what its task produced and loses what it was to close. -/
theorem Invariant.completion_conserved {taskIndex : Nat} {res : Int32} {ring : Ring}
    {env : CompleteEnv} (invariant : Invariant config rt) (housed : Housed rt)
    (occupied : rt.occupied taskIndex = true)
    (closed : ring.kernel.closed = rt.ring.kernel.closed)
    (completed : completeTask { rt with ring } taskIndex res env = .ok next) :
    Conserved rt next ((rt.tasks taskIndex).produced res) (rt.tasks taskIndex).closes := by
  have placed := invariant.holds.placed taskIndex occupied
  have tied := invariant.holds.tied taskIndex occupied
  have base : Balanced rt { rt with ring } [] := balanced_of_same rfl rfl closed
  have inside : Housed { rt with ring } := ⟨housed.limit, housed.bounded, housed.vacant⟩
  have balanced : Balanced { rt with ring } next ((rt.tasks taskIndex).produced res) := by
    refine @completeTask_balanced { rt with ring } next taskIndex res env inside placed.client ?_
      completed
    intro slot reserved
    have below := (placed.result slot reserved).1
    rw [invariant.task_files occupied] at below
    exact ⟨below, (tied.result slot reserved).2.1⟩
  have whole := base.after balanced
  have counted : Completed { rt with ring } taskIndex res env next :=
    completeTask_completed ⟨placed.client, placed.file, placed.result, placed.buffer, placed.fixed⟩
      completed
  refine ⟨whole.limits, ?_⟩
  intro fd valid
  have kept := whole.kept fd valid
  have closing : next.closing fd + (rt.tasks taskIndex).closes.count fd = rt.closing fd := by
    rw [TaskSlot.count_closes]
    exact counted.countTasks_eq occupied _
  unfold Runtime.account
  omega

/-- A completion that is read gains what its operation produced and loses what it closed. -/
theorem Invariant.reap_moves {env : CompleteEnv} {fd : Fd} (invariant : Invariant config rt)
    (housed : Housed rt) (tracked : Tracked rt custody.posted)
    (effective : closeRevoked (rt, custody) (.reap env) = false) (valid : 0 ≤ fd)
    (taken : step rt (.reap env) = .ok next) :
    Moves rt next custody (custody.note rt (.reap env) next) fd := by
  have sockets := invariant.step_sockets taken valid
  obtain ⟨result, reaped, done⟩ := bind_ok taken
  cases done
  rcases reapCompletion_cases reaped with
    ⟨none, unread⟩ | ⟨ring, cqe, taskIndex, peeked, found, occupied, after, completed, same⟩
  · subst none
    rw [note_unread unread]
    exact ⟨0, 0, 0, 0, 0, rfl, rfl, rfl, rfl, rfl, sockets, Nat.le_refl _, Nat.le_refl _,
      Nat.le_refl _⟩
  · subst same
    have id := (firstBelow_some found).2
    simp only [Bool.and_eq_true, beq_iff_eq] at id
    obtain ⟨rest, listed, -⟩ := tracked.head invariant (ringPeekCompletion_some peeked).2.2 occupied
      id.2
    have read : (ringPeekCompletion rt.ring).2 = some cqe := by rw [peeked]
    have closed : ring.kernel.closed = rt.ring.kernel.closed := by
      rw [ringPeekCompletion_frame peeked]
    have account := (invariant.completion_conserved housed occupied closed completed).account fd
      valid
    have took : ((taskSqe rt taskIndex).opcode == .close && !closeTakesEffect cqe.res) = false := by
      unfold closeRevoked at effective
      dsimp only at effective
      rw [listed, read] at effective
      exact effective
    rw [note_reap listed read, taskSqe_produced, taskSqe_closed took]
    exact ⟨_, _, _, _, 0, account, List.count_append, List.count_append, List.count_append, rfl,
      sockets, Nat.le_refl _, Nat.le_refl _, Nat.le_refl _⟩

/-- How a step under the condition moves the counts of a descriptor. -/
theorem Invariant.step_custody {fd : Fd} (invariant : Invariant config rt) (housed : Housed rt)
    (mirrored : Mirrored rt) (parted : Parted rt) (tracked : Tracked rt custody.posted)
    (clean : action.clean = true) (effective : closeRevoked (rt, custody) action = false)
    (valid : 0 ≤ fd) (taken : step rt action = .ok next) :
    Moves rt next custody (custody.note rt action next) fd := by
  have sockets := invariant.step_sockets taken valid
  have bound : ∀ {index}, rt.connected index = true → index < rt.limits.maxClients := by
    intro index connected
    rw [Runtime.connected, Bool.and_eq_true, decide_eq_true_eq] at connected
    exact connected.1
  have idle : Conserved rt rt [] [] := (Balanced.refl rt).conserved (.refl rt)
  cases action with
  | connect socket env =>
      simp only [step] at taken
      split at taken
      · rename_i nonnegative
        cases taken
        have quiet : Quiet rt (openClient rt socket env) :=
          openClient_quiet invariant.grounded.idle invariant.grounded.credits
        have account := ((@openClient_balanced rt socket env mirrored housed parted).conserved
          quiet).account fd valid
        have opened : (Action.connect socket env).socket = [socket] := if_pos nonnegative
        unfold Custody.note
        rw [opened] at sockets ⊢
        exact ⟨_, 0, _, 0, _, account, rfl, List.count_append, rfl, List.count_append, sockets,
          Nat.zero_le _, Nat.le_refl _, by omega⟩
      · rename_i negative
        cases taken
        have none : (Action.connect socket env).socket = [] := if_neg negative
        unfold Custody.note
        rw [none, List.append_nil, List.append_nil]
        exact idle.moves valid (Nat.le_refl _)
  | input index incoming => exact invariant.input_moves valid taken
  | dispatch index env =>
      refine Conserved.moves ?_ valid sockets
      simp only [step] at taken
      split at taken
      · rename_i connected
        obtain ⟨result, dispatched, done⟩ := bind_ok taken
        cases done
        rcases dispatchClientRequest_explained dispatched with ⟨-, same⟩ | ⟨ready, -, explained⟩
        · subst same
          exact idle
        · obtain ⟨middle, bytes, change, answered, -⟩ := explained
          have first := change.conserved housed (bound connected)
          have second : Conserved middle result.1 [] [] := by
            refine (answered.balanced ?_).conserved answered.quiet
            rw [first.limits]
            exact bound connected
          exact ⟨second.limits.trans first.limits, fun other nonnegative =>
            (second.account other nonnegative).trans (first.account other nonnegative)⟩
      · cases taken
        exact idle
  | complete taskIndex res env => cases clean
  | reap env => exact invariant.reap_moves housed tracked effective valid taken
  | sweep updates =>
      refine Conserved.moves ?_ valid sockets
      obtain ⟨result, swept, done⟩ := bind_ok taken
      cases done
      exact (sweepClosingResources_balanced housed swept).conserved
        (sweepClosingResources_quiet swept)
  | flush index writes =>
      refine Conserved.moves ?_ valid sockets
      simp only [step] at taken
      split at taken
      · rename_i connected
        cases taken
        exact (flushOrClose_balanced (bound connected)).conserved
          (flushOrClose_quiet rt index writes)
      · cases taken
        exact idle
  | disconnect index =>
      refine Conserved.moves ?_ valid sockets
      simp only [step] at taken
      split at taken
      · rename_i connected
        cases taken
        exact (closeClient_balanced (bound connected)).conserved (closeClient_quiet rt index)
      · cases taken
        exact idle
  | moveCursor cursor =>
      refine Conserved.moves ?_ valid sockets
      cases taken
      exact ⟨rfl, fun _ _ => rfl⟩
  | post position res =>
      have conserved : Conserved rt next [] [] := by
        cases taken
        refine Balanced.conserved (balanced_of_same rfl rfl ?_)
          (quiet_of_ring rt (kernelPost rt.ring position res))
        change (kernelPost rt.ring position res).kernel.closed = rt.ring.kernel.closed
        rw [kernelPost_frame]
      unfold Custody.note
      dsimp only
      split
      · exact conserved.moves valid sockets
      · exact ⟨0, 0, 0, 0, 0, conserved.account fd valid, rfl, rfl, rfl, rfl, sockets,
          Nat.le_refl _, Nat.le_refl _, Nat.le_refl _⟩
  | store store =>
      refine Conserved.moves ?_ valid sockets
      cases taken
      refine Balanced.conserved ?_ (stored_quiet rt store)
      cases store <;> exact balanced_of_same rfl rfl rfl

end Stepping

/-! ## Runs -/

/-- What a run under the condition keeps. -/
structure InCustody (config : Config) (state : Runtime × Custody) : Prop where
  invariant : Invariant config state.1
  matched : Matched state.1
  mirrored : Mirrored state.1
  housed : Housed state.1
  parted : Parted state.1
  tracked : Tracked state.1 state.2.posted
  obtained : ∀ fd, 0 ≤ fd →
    state.2.obtained.count fd ≤ state.1.account fd + state.2.gone.count fd
  handed : ∀ fd, 0 ≤ fd →
    state.1.account fd + state.2.gone.count fd ≤ state.2.handed.count fd
  apart : ∀ fd, 0 ≤ fd →
    state.2.obtained.count fd + state.2.sockets.count fd ≤ state.2.handed.count fd
  sockets : ∀ fd, 0 ≤ fd → state.1.sockets fd ≤ state.2.sockets.count fd

section Runs

variable {config : Config} {actions : List Action} {state : Runtime × Custody}

theorem InCustody.initial (config : Config) :
    InCustody config (Runtime.initial config, .initial config) := by
  have unread : config.ring.posted = [] := by
    apply List.eq_nil_of_length_eq_zero
    rw [Ring.posted, length_window, config.cq_empty, occupied, UInt32.sub_self]
    rfl
  have nothing : ∀ {fd : Fd}, 0 ≤ fd → (Runtime.initial config).account fd =
      config.ring.kernel.closed.count fd ∧ (Runtime.initial config).sockets fd = 0 := by
    intro fd valid
    have empty : ¬ -1 = fd := ne_of_nonneg valid
    have places : tally (Client.weight fd) (fun _ => Client.fresh)
        config.limits.maxClients = 0 := by
      refine tally_eq_zero fun _ _ => ?_
      have weight : Client.fresh.weight fd = (if -1 = fd then 1 else 0) +
          ((if -1 = fd then 1 else 0) + Nat.count (fun _ => -1 = fd) maxRegisteredFds) := rfl
      rw [weight, if_neg empty, Nat.count_iff_forall_not.mpr fun _ _ => empty]
    have closing : (Runtime.initial config).closing fd = 0 :=
      Nat.count_iff_forall_not.mpr fun _ _ => Bool.false_ne_true
    have sockets : tally (fun client : Client => if client.fd = fd then 1 else 0)
        (fun _ => Client.fresh) config.limits.maxClients = 0 :=
      tally_eq_zero fun _ _ => if_neg empty
    refine ⟨?_, sockets⟩
    rw [Runtime.account, closing, Nat.add_zero]
    change tally (Client.weight fd) (fun _ => Client.fresh) config.limits.maxClients + _ = _
    rw [places, Nat.zero_add]
    rfl
  have tracked : Tracked (Runtime.initial config) [] := by
    refine ⟨?_, fun sqe member => absurd member List.not_mem_nil⟩
    change [] = config.ring.posted.map Cqe.userData
    rw [unread]
    rfl
  refine ⟨.initial config, .initial config, .initial config, .initial config, ?_, tracked, ?_, ?_,
    ?_, ?_⟩
  · intro index _
    change (-1 : Fd) < 0
    decide
  · intro fd valid
    exact Nat.zero_le _
  · intro fd valid
    rw [(nothing valid).1]
    exact Nat.le_refl _
  · intro fd valid
    exact Nat.zero_le _
  · intro fd valid
    rw [(nothing valid).2]
    exact Nat.zero_le _

theorem InCustody.stepped {action : Action} {next : Runtime × Custody}
    (kept : InCustody config state)
    (clean : action.clean = true) (effective : closeRevoked state action = false)
    (taken : recorded step Custody.note state action = .ok next) : InCustody config next := by
  obtain ⟨stepped, notes⟩ := recorded_ok taken
  have invariant := kept.invariant
  have moves := invariant.step_moves stepped
  have custody : ∀ fd, 0 ≤ fd → Moves state.1 next.1 state.2 next.2 fd := by
    intro fd valid
    rw [notes]
    exact invariant.step_custody kept.housed kept.mirrored kept.parted kept.tracked clean effective
      valid stepped
  refine ⟨invariant.stepped stepped, kept.matched.stepped invariant clean stepped,
    moves.mirrored kept.mirrored, moves.housed kept.housed,
    kept.parted.stepped invariant.grounded stepped, ?_, ?_, ?_, ?_, ?_⟩
  · rw [notes]
    exact kept.tracked.stepped kept.matched invariant clean stepped
  · intro fd valid
    obtain ⟨gain, lost, handed, obtained, sockets, moved⟩ := (custody fd valid).counts
    have before := kept.obtained fd valid
    omega
  · intro fd valid
    obtain ⟨gain, lost, handed, obtained, sockets, moved⟩ := (custody fd valid).counts
    have before := kept.handed fd valid
    omega
  · intro fd valid
    obtain ⟨gain, lost, handed, obtained, sockets, moved⟩ := (custody fd valid).counts
    have before := kept.apart fd valid
    omega
  · intro fd valid
    obtain ⟨gain, lost, handed, obtained, sockets, moved⟩ := (custody fd valid).counts
    have before := kept.sockets fd valid
    omega

/-- In every run in which no `io_uring_enter` fails and no CLOSE is refused or cancelled, a
descriptor that was received, accepted or opened is in exactly one place while it is open, a
closed descriptor is in no place, and no descriptor is closed twice. -/
theorem descriptors_conserved
    (ran : run (recorded step Custody.note) (Runtime.initial config, .initial config) actions =
      .ok state)
    (condition : Along (recorded step Custody.note)
      (fun state action => action.clean = true ∧ closeRevoked state action = false)
      (Runtime.initial config, .initial config) actions)
    (handles : state.2.handed.Nodup) :
    (∀ fd ∈ state.2.obtained, 0 ≤ fd → fd ∉ state.1.ring.kernel.closed → fd ∉ state.2.gone →
      state.1.holders fd = 1) ∧
    (∀ fd, 0 ≤ fd → fd ∈ state.1.ring.kernel.closed ∨ fd ∈ state.2.gone →
      state.1.holders fd = 0) ∧
    ∀ fd, 0 ≤ fd → state.1.ring.kernel.closed.count fd + state.2.gone.count fd ≤ 1 := by
  have kept : InCustody config state := by
    refine condition.preserves ?_ (.initial config) ran
    intro before action after meets kept taken
    exact kept.stepped meets.1 meets.2 taken
  have once : ∀ fd, 0 ≤ fd → state.1.sockets fd + state.1.holders fd +
      state.1.ring.kernel.closed.count fd + state.2.gone.count fd ≤ 1 := by
    intro fd valid
    rw [← account_eq]
    exact (kept.handed fd valid).trans (List.nodup_iff_count_le_one.mp handles fd)
  refine ⟨?_, ?_, ?_⟩
  · intro fd member valid unclosed present
    have counted := List.count_pos_iff.mpr member
    have handed := List.nodup_iff_count_le_one.mp handles fd
    have obtained := kept.obtained fd valid
    have apart := kept.apart fd valid
    have sockets := kept.sockets fd valid
    rw [account_eq, List.count_eq_zero.mpr unclosed, List.count_eq_zero.mpr present] at obtained
    have bound := once fd valid
    omega
  · intro fd valid closed
    have bound := once fd valid
    rcases closed with daemon | kernel
    · have counted := List.count_pos_iff.mpr daemon
      omega
    · have counted := List.count_pos_iff.mpr kernel
      omega
  · intro fd valid
    have bound := once fd valid
    omega

end Runs

/-- The start of a run with a history, on a small daemon. -/
def Custody.start : Runtime × Custody :=
  (Runtime.initial .smallest, .initial .smallest)

/-- A registered descriptor is in one place. -/
theorem descriptors_conserved_registered :
    ∃ state, run (recorded step Custody.note) Custody.start (joining 0 7 ++ registering 0 9) =
        .ok state ∧
      9 ∈ state.2.obtained ∧ state.1.holders 9 = 1 := by
  have seen : ((run (recorded step Custody.note) Custody.start
      (joining 0 7 ++ registering 0 9)).toOption.map fun state =>
        decide (state.2.handed.Nodup ∧ 9 ∈ state.2.obtained ∧ 9 ∉ state.1.ring.kernel.closed ∧
          9 ∉ state.2.gone)) = some true := by decide +kernel
  have checked : checkAlong (recorded step Custody.note)
      (fun state action => action.clean && !closeRevoked state action) Custody.start
      (joining 0 7 ++ registering 0 9) = true := by decide +kernel
  obtain ⟨state, ran, view⟩ := exists_of_toOption_map seen
  obtain ⟨handles, obtained, unclosed, present⟩ := of_decide_eq_true view
  have condition := along_of_checkAlong checked
  simp only [Bool.and_eq_true, Bool.not_eq_true'] at condition
  exact ⟨state, ran, obtained, (descriptors_conserved ran condition handles).1 9 obtained
    (by decide) unclosed present⟩

/-- A CLOSE of descriptor 9 is cancelled. The slot is free, the task is gone and nothing closed
the descriptor. -/
theorem descriptor_of_cancelled_close_lost :
    ∃ state, run (recorded step Custody.note) Custody.start
        (joining 0 7 ++ registering 0 9 ++
          requesting 0 (ResourceRequest.encode ⟨requestHeader .close, 1, 0⟩) .smooth ++
          [.post 0 (-ECANCELED), .reap .smooth]) = .ok state ∧
      state.2.handed.Nodup ∧ 9 ∈ state.2.obtained ∧ 9 ∉ state.1.ring.kernel.closed ∧
      9 ∉ state.2.gone ∧ state.1.holders 9 = 0 := by
  have seen : ((run (recorded step Custody.note) Custody.start
      (joining 0 7 ++ registering 0 9 ++
        requesting 0 (ResourceRequest.encode ⟨requestHeader .close, 1, 0⟩) .smooth ++
        [.post 0 (-ECANCELED), .reap .smooth])).toOption.map fun state =>
        decide (state.2.handed.Nodup ∧ 9 ∈ state.2.obtained ∧ 9 ∉ state.1.ring.kernel.closed ∧
          9 ∉ state.2.gone ∧ state.1.holders 9 = 0)) = some true := by decide +kernel
  obtain ⟨state, ran, view⟩ := exists_of_toOption_map seen
  exact ⟨state, ran, of_decide_eq_true view⟩

end Iouringd
