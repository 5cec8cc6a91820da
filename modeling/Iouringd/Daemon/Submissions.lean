import Mathlib.Data.List.Perm.Basic
import Iouringd.Ring.Queues
import Iouringd.Daemon.Retention

/-! # Operations and tasks

When no `io_uring_enter` fails, what the ring holds and what the task table holds
correspond: every entry, every running operation and every unread completion belongs to
exactly one active task, every active task has exactly one of them, and an operation
carries the parameters of its task. A failed `io_uring_enter` breaks this for good,
because the entry it leaves behind is consumed with a later submission.
-/

namespace Iouringd

open Foundation

/-- The steps of the daemon and its kernel when no `io_uring_enter` fails. Tasks are
completed by reading completions only. -/
def Action.clean : Action → Bool
  | .dispatch _ env =>
      match env.enter with
      | .consumed _ => true
      | .failed _ => false
  | .complete _ _ _ => false
  | _ => true

/-- The ring and the task table correspond. -/
structure Matched (rt : Runtime) : Prop where
  sound : RingSound rt.ring
  nodup : rt.ring.tokens.Nodup
  found : ∀ id ∈ rt.ring.tokens, ∃ taskIndex, rt.occupied taskIndex = true ∧
    (rt.tasks taskIndex).taskId = id
  awaited : ∀ taskIndex, rt.occupied taskIndex = true →
    (rt.tasks taskIndex).taskId ∈ rt.ring.tokens
  sqes : ∀ sqe ∈ rt.ring.submitted, ∃ taskIndex, rt.occupied taskIndex = true ∧
    sqe = taskSqe rt taskIndex

/-- What a step without a failing `io_uring_enter` does to the queues of the ring and to the
occupied task slots. -/
inductive QueueStep (rt : Runtime) : Action → Runtime → Prop where
  | same (action : Action) (next : Runtime)
      (unread : ∀ env, action = .reap env → (ringPeekCompletion rt.ring).2 = none)
      (unposted : ∀ position res, action ≠ .post position res)
      (queues : SameQueues rt.ring next.ring)
      (occupied : ∀ taskIndex, next.occupied taskIndex = rt.occupied taskIndex) :
      QueueStep rt action next
  | started (index : Nat) (env : DispatchEnv) (next : Runtime) (taskIndex : Nat)
      (sound : RingSound next.ring)
      (submitted : next.ring.submitted = rt.ring.submitted ++ [taskSqe next taskIndex])
      (posted : next.ring.posted = rt.ring.posted)
      (fresh : (next.tasks taskIndex).taskId = rt.nextTaskId)
      (occupied : next.occupied taskIndex = true)
      (others : ∀ other, other ≠ taskIndex → next.occupied other = rt.occupied other)
      (vacant : rt.occupied taskIndex = false) : QueueStep rt (.dispatch index env) next
  | reaped (env : CompleteEnv) (next : Runtime) (taskIndex : Nat) (cqe : Cqe)
      (peeked : (ringPeekCompletion rt.ring).2 = some cqe) (sound : RingSound next.ring)
      (submitted : next.ring.submitted = rt.ring.submitted)
      (posted : rt.ring.posted = cqe :: next.ring.posted)
      (before : rt.occupied taskIndex = true) (id : (rt.tasks taskIndex).taskId = cqe.userData)
      (occupied : ∀ other, next.occupied other = true ↔
        rt.occupied other = true ∧ other ≠ taskIndex) : QueueStep rt (.reap env) next
  | posted (position : Nat) (res : Int32) :
      QueueStep rt (.post position res) { rt with ring := kernelPost rt.ring position res }

theorem QueueStep.kept {rt next : Runtime} {action : Action}
    (keeps : action.keepsCompletions = true) (queues : SameQueues rt.ring next.ring)
    (occupied : ∀ taskIndex, next.occupied taskIndex = rt.occupied taskIndex) :
    QueueStep rt action next :=
  .same action next (fun env same => absurd same (Action.not_reap keeps env))
    (Action.not_post keeps) queues occupied

/-! ## The operation of a task does not change -/

/-- The operation of a task only depends on what the task keeps. -/
theorem taskSqe_congr {rt next : Runtime} {taskIndex : Nat}
    (task : next.tasks taskIndex = { rt.tasks taskIndex with
      ioBuffer := (next.tasks taskIndex).ioBuffer
      sockaddrLength := (next.tasks taskIndex).sockaddrLength })
    (limits : next.limits = rt.limits)
    (files : ∀ slot, (rt.tasks taskIndex).fileSlotIndex = some slot →
      ((next.clients (rt.tasks taskIndex).clientIndex).fileResources slot).daemonFd =
        ((rt.clients (rt.tasks taskIndex).clientIndex).fileResources slot).daemonFd) :
    taskSqe next taskIndex = taskSqe rt taskIndex := by
  have descriptor : ((rt.tasks taskIndex).fileSlotIndex.map fun slot =>
      ((next.clients (rt.tasks taskIndex).clientIndex).fileResources slot).daemonFd) =
      (rt.tasks taskIndex).fileSlotIndex.map fun slot =>
        ((rt.clients (rt.tasks taskIndex).clientIndex).fileResources slot).daemonFd := by
    cases named : (rt.tasks taskIndex).fileSlotIndex with
    | none => rfl
    | some slot => exact congrArg some (files slot named)
  unfold taskSqe
  rw [task]
  simp only [bufferStorageAt, globalBufferIndex, globalFileIndex, limits, descriptor]

section Step

variable {config : Config} {rt next : Runtime} {action : Action} {taskIndex : Nat}

/-- A step keeps the operation of a task that stays active. -/
theorem Invariant.taskSqe_kept (invariant : Invariant config rt)
    (taken : step rt action = .ok next) (before : rt.occupied taskIndex = true)
    (after : next.occupied taskIndex = true) : taskSqe next taskIndex = taskSqe rt taskIndex := by
  have shape := step_shape invariant.grounded taken
  have retained := invariant.step_retained shape (invariant.stepped taken).holds before after
  exact taskSqe_congr (shape.same_task before after) shape.constants.1
    fun slot named => (retained.file slot (Or.inl named)).2.1

theorem Invariant.taskId_kept (invariant : Invariant config rt)
    (taken : step rt action = .ok next) (before : rt.occupied taskIndex = true)
    (after : next.occupied taskIndex = true) :
    (next.tasks taskIndex).taskId = (rt.tasks taskIndex).taskId := by
  rw [(step_shape invariant.grounded taken).same_task before after]

namespace Matched

/-- Steps that move nothing between the queues and leave the table alone. -/
theorem same (matched : Matched rt) (invariant : Invariant config rt)
    (taken : step rt action = .ok next) (queues : SameQueues rt.ring next.ring)
    (occupied : ∀ taskIndex, next.occupied taskIndex = rt.occupied taskIndex) : Matched next where
  sound := queues.sound matched.sound
  nodup := by
    rw [queues.tokens]
    exact matched.nodup
  found := by
    intro id member
    rw [queues.tokens] at member
    obtain ⟨taskIndex, before, same⟩ := matched.found id member
    have after : next.occupied taskIndex = true := (occupied taskIndex).trans before
    exact ⟨taskIndex, after, (invariant.taskId_kept taken before after).trans same⟩
  awaited := by
    intro taskIndex after
    have before : rt.occupied taskIndex = true := (occupied taskIndex).symm.trans after
    rw [queues.tokens, invariant.taskId_kept taken before after]
    exact matched.awaited taskIndex before
  sqes := by
    intro sqe member
    rw [queues.submitted] at member
    obtain ⟨taskIndex, before, same⟩ := matched.sqes sqe member
    have after : next.occupied taskIndex = true := (occupied taskIndex).trans before
    exact ⟨taskIndex, after, same.trans (invariant.taskSqe_kept taken before after).symm⟩

/-- The kernel completes an operation: its id moves from one queue to the next. -/
theorem posted (matched : Matched rt) {position : Nat} {res : Int32} :
    Matched { rt with ring := kernelPost rt.ring position res } := by
  rcases kernelPost_cases matched.sound position res with
    same | ⟨sqe, executing, sound, pending, erased, posted⟩
  · rw [same]
    exact matched
  · have running : (sqe :: rt.ring.kernel.executing.eraseIdx position).Perm
        rt.ring.kernel.executing := by
      obtain ⟨below, there⟩ := List.getElem?_eq_some_iff.mp executing
      have perm := List.getElem_cons_eraseIdx_perm below
      rwa [there] at perm
    have submitted : (kernelPost rt.ring position res).submitted =
        rt.ring.kernel.executing.eraseIdx position ++ rt.ring.pending := by
      rw [Ring.submitted, erased, pending]
    have moved : (sqe :: (kernelPost rt.ring position res).submitted).Perm rt.ring.submitted := by
      rw [submitted, Ring.submitted]
      exact running.append_right rt.ring.pending
    have tokens : (kernelPost rt.ring position res).tokens.Perm rt.ring.tokens := by
      rw [Ring.tokens, posted, List.map_append, ← List.append_assoc]
      refine (List.perm_append_singleton _ _).trans ?_
      rw [← List.cons_append]
      exact (moved.map Sqe.userData).append_right _
    exact {
      sound := sound
      nodup := tokens.symm.nodup matched.nodup
      found := fun id member => matched.found id (tokens.mem_iff.mp member)
      awaited := fun taskIndex occupied =>
        tokens.mem_iff.mpr (matched.awaited taskIndex occupied)
      sqes := fun other member =>
        matched.sqes other (moved.subset (List.mem_cons_of_mem _ member)) }

/-- A started task brings one operation, under an id that was not in use. -/
theorem started (matched : Matched rt) (invariant : Invariant config rt)
    (taken : step rt action = .ok next) (sound : RingSound next.ring)
    (submitted : next.ring.submitted = rt.ring.submitted ++ [taskSqe next taskIndex])
    (posted : next.ring.posted = rt.ring.posted)
    (fresh : (next.tasks taskIndex).taskId = rt.nextTaskId)
    (occupied : next.occupied taskIndex = true)
    (others : ∀ other, other ≠ taskIndex → next.occupied other = rt.occupied other)
    (vacant : rt.occupied taskIndex = false) : Matched next := by
  have kept : ∀ other, rt.occupied other = true →
      other ≠ taskIndex ∧ next.occupied other = true := by
    intro other before
    have apart : other ≠ taskIndex := by
      intro same
      rw [same, vacant] at before
      cases before
    exact ⟨apart, (others other apart).trans before⟩
  have tokens : next.ring.tokens.Perm ((next.tasks taskIndex).taskId :: rt.ring.tokens) := by
    rw [Ring.tokens, submitted, posted, List.map_append, List.map_cons, List.map_nil,
      taskSqe_userData, List.append_assoc]
    exact List.perm_middle
  have unused : (next.tasks taskIndex).taskId ∉ rt.ring.tokens := by
    intro member
    obtain ⟨other, before, same⟩ := matched.found _ member
    have below := (invariant.ledger.ids other before).2
    rw [same, fresh] at below
    exact UInt64.lt_irrefl _ below
  refine ⟨sound, tokens.symm.nodup (List.nodup_cons.mpr ⟨unused, matched.nodup⟩), ?_, ?_, ?_⟩
  · intro id member
    rcases List.mem_cons.mp (tokens.mem_iff.mp member) with new | old
    · exact ⟨taskIndex, occupied, new.symm⟩
    · obtain ⟨other, before, same⟩ := matched.found id old
      have after := (kept other before).2
      exact ⟨other, after, (invariant.taskId_kept taken before after).trans same⟩
  · intro other after
    apply tokens.mem_iff.mpr
    by_cases same : other = taskIndex
    · rw [same]
      exact List.mem_cons_self
    · have before : rt.occupied other = true := (others other same).symm.trans after
      rw [invariant.taskId_kept taken before after]
      exact List.mem_cons_of_mem _ (matched.awaited other before)
  · intro sqe member
    rw [submitted] at member
    rcases List.mem_append.mp member with old | new
    · obtain ⟨other, before, same⟩ := matched.sqes sqe old
      have after := (kept other before).2
      exact ⟨other, after, same.trans (invariant.taskSqe_kept taken before after).symm⟩
    · exact ⟨taskIndex, occupied, List.mem_singleton.mp new⟩

/-- Reading a completion takes its id off the ring and its task out of the table. -/
theorem reaped (matched : Matched rt) (invariant : Invariant config rt)
    (taken : step rt action = .ok next) {cqe : Cqe} (sound : RingSound next.ring)
    (submitted : next.ring.submitted = rt.ring.submitted)
    (posted : rt.ring.posted = cqe :: next.ring.posted)
    (before : rt.occupied taskIndex = true) (id : (rt.tasks taskIndex).taskId = cqe.userData)
    (occupied : ∀ other, next.occupied other = true ↔
      rt.occupied other = true ∧ other ≠ taskIndex) : Matched next := by
  have tokens : rt.ring.tokens.Perm (cqe.userData :: next.ring.tokens) := by
    rw [Ring.tokens, Ring.tokens, submitted, posted, List.map_cons]
    exact List.perm_middle
  have nodup := tokens.nodup matched.nodup
  obtain ⟨gone, rest⟩ := List.nodup_cons.mp nodup
  -- a task whose id is still on the ring is not the one that completed
  have apart : ∀ other, rt.occupied other = true →
      (rt.tasks other).taskId ∈ next.ring.tokens → next.occupied other = true := by
    intro other held member
    refine (occupied other).mpr ⟨held, ?_⟩
    intro same
    rw [same, id] at member
    exact gone member
  refine ⟨sound, rest, ?_, ?_, ?_⟩
  · intro token member
    obtain ⟨other, held, same⟩ := matched.found token
      (tokens.mem_iff.mpr (List.mem_cons_of_mem _ member))
    have after := apart other held (same.symm ▸ member)
    exact ⟨other, after, (invariant.taskId_kept taken held after).trans same⟩
  · intro other after
    obtain ⟨held, different⟩ := (occupied other).mp after
    rw [invariant.taskId_kept taken held after]
    rcases List.mem_cons.mp (tokens.mem_iff.mp (matched.awaited other held)) with same | member
    · exact absurd (invariant.ledger.distinct other taskIndex held before (same.trans id.symm))
        different
    · exact member
  · intro sqe member
    have here : sqe.userData ∈ next.ring.tokens :=
      List.mem_append_left _ (List.mem_map_of_mem member)
    rw [submitted] at member
    obtain ⟨other, held, same⟩ := matched.sqes sqe member
    have after := apart other held (by rwa [same, taskSqe_userData] at here)
    exact ⟨other, after, same.trans (invariant.taskSqe_kept taken held after).symm⟩

end Matched

/-- A dispatch whose `io_uring_enter` does not fail leaves the queues alone unless it
starts a task. -/
theorem Dispatched.queues_or_accepted {index : Nat} {env : DispatchEnv} {middle : Runtime}
    {bytes : List UInt8} (change : Dispatched rt index env middle bytes)
    (enters : ∀ errno, env.enter ≠ .failed errno) :
    (SameQueues rt.ring middle.ring ∧ Quiet rt middle) ∨
      ∃ taskIndex started, Started rt index taskIndex env started ∧
        middle = started.countAccepted index (rt.clients index).usesCredit := by
  have untouched : SameQueues rt.ring rt.ring := .of_kernel rfl
  have updated : ∀ {entry : Nat} {fd : Fd} {outcome : UpdateOutcome} {ring : Ring},
      ringUpdateRegisteredFile rt.ring entry fd outcome = (ring, none) →
      SameQueues rt.ring ring := by
    intro entry fd outcome ring update
    exact .of_kernel (ringUpdateRegisteredFile_ok update)
  rcases change.quiet_or_accepted with quiet | ⟨taskIndex, started, -, start, same, -⟩
  · cases change with
    | resourceRefused nextId result type unheld => exact Or.inl ⟨untouched, quiet⟩
    | descriptorDropped nextId result operation held => exact Or.inl ⟨.of_kernel rfl, quiet⟩
    | fileRegistered slot resourceId nextId ring result operation held found allocated valid
        update => exact Or.inl ⟨updated update, quiet⟩
    | bufferRegistered slot resourceId nextId result operation found allocated valid =>
        exact Or.inl ⟨untouched, quiet⟩
    | fileReleased slot ring result operation found idle update =>
        refine Or.inl ⟨(updated update).trans ?_, quiet⟩
        unfold clearFileSlot
        dsimp only
        split
        · exact .of_kernel rfl
        · exact .of_kernel rfl
    | bufferReleased slot result operation found idle => exact Or.inl ⟨untouched, quiet⟩
    | stats operation => exact Or.inl ⟨untouched, quiet⟩
    | trace result events operation counted => exact Or.inl ⟨untouched, quiet⟩
    | refused _ errno credits type rolledBack =>
        refine Or.inl ⟨?_, quiet⟩
        obtain ⟨table, -, kept | ⟨sqe, failure, failed, -⟩⟩ := rolledBack.ring
        · exact .of_kernel kept
        · exact absurd failed (enters failure)
    | accepted taskIndex started credits type admitted start =>
        exact Or.inr ⟨taskIndex, started, start, rfl⟩
  · exact Or.inr ⟨taskIndex, started, start, same⟩

/-- An accepted dispatch as the ring and the table see it. -/
theorem Started.queueStep {index : Nat} {env : DispatchEnv} {started : Runtime}
    {bytes : List UInt8} (sound : RingSound rt.ring)
    (start : Started rt index taskIndex env started)
    (answered : Answered (started.countAccepted index (rt.clients index).usesCredit) index bytes
      next) : QueueStep rt (.dispatch index env) next := by
  obtain ⟨table, -, accepts⟩ := start.submitted
  have files : SameQueues rt.ring (rt.ring.withFiles table) := .of_kernel rfl
  obtain ⟨stays, submitted, posted⟩ := accepts.submitted (files.sound sound)
  have ring : next.ring = started.ring := by
    rw [answered, start.countAccepted_eq]
  have quiet := answered.quiet
  have tasks : next.tasks = started.tasks := by
    rw [answered]
    rfl
  have slot : (started.countAccepted index (rt.clients index).usesCredit).occupied taskIndex =
      true := by
    refine occupied_iff.mpr ⟨?_, start.identifies.active⟩
    rw [start.countAccepted_eq]
    exact start.slot.1
  have operation : taskSqe next taskIndex = taskSqe started taskIndex := by
    apply taskSqe_congr (by rw [tasks])
    · rw [answered, start.countAccepted_eq]
      conv_rhs => rw [start.frame]
    · intro file named
      rw [answered, start.identifies.clientIndex]
      simp only [Function.update_self]
      rw [start.client_self]
      rfl
  refine .started index env next taskIndex (ring ▸ stays) ?_ ?_ ?_ ?_ ?_ ?_
  · rw [ring, operation, submitted, files.submitted]
  · rw [ring, posted, files.posted]
  · rw [tasks]
    exact start.identifies.taskId
  · rw [quiet.occupied_eq]
    exact slot
  · intro other apart
    rw [quiet.occupied_eq, start.occupied_other _ apart]
  · rw [Runtime.occupied, start.slot.2, Bool.and_false]

/-- Every step without a failing `io_uring_enter` moves the queues in one of these ways. -/
theorem queueStep (sound : RingSound rt.ring) (invariant : Invariant config rt)
    (clean : action.clean = true) (taken : step rt action = .ok next) :
    QueueStep rt action next := by
  cases step_effect invariant.grounded taken with
  | idle _ unread unposted => exact .same _ _ unread unposted (.of_kernel rfl) fun _ => rfl
  | turnedAway fd env => exact .kept rfl (.of_kernel rfl) fun _ => rfl
  | opened index fd env valid found =>
      exact .kept rfl (.of_kernel rfl) fun _ => rfl
  | served index incoming _ connected only served =>
      refine .kept rfl (.of_kernel only.ring) ?_
      intro other
      rw [only.frame]
      rfl
  | dispatched index env middle bytes _ connected ready change answered =>
      have enters : ∀ errno, env.enter ≠ .failed errno := by
        intro errno failed
        simp only [Action.clean, failed, Bool.false_eq_true] at clean
      rcases change.queues_or_accepted enters with ⟨queues, quiet⟩ | ⟨slot, started, start, same⟩
      · refine .kept rfl ?_ ?_
        · have ring : next.ring = middle.ring := by rw [answered]
          rw [ring]
          exact queues
        · intro other
          rw [(quiet.trans answered.quiet).occupied_eq]
      · subst same
        exact start.queueStep sound answered
  | completed _ slot res ring _ occupied source completed =>
      cases action with
      | complete index result env => cases clean
      | reap env =>
          obtain ⟨cqe, peeked, found, -⟩ := source
          obtain ⟨soundness, submitted, posted⟩ := ringPeekCompletion_some peeked
          have queues : SameQueues ring next.ring := .of_kernel completed.ring
          have id := (firstBelow_some found).2
          simp only [Bool.and_eq_true, beq_iff_eq] at id
          refine .reaped env next slot cqe (by rw [peeked]) (queues.sound (soundness sound))
            (queues.submitted.trans submitted) (queues.posted ▸ posted) occupied id.2 ?_
          intro other
          constructor
          · intro after
            obtain ⟨apart, before, -⟩ := Ledger.occupied_of_completed completed after
            exact ⟨before, apart⟩
          · rintro ⟨before, apart⟩
            rw [completed.frame]
            simpa only [Runtime.occupied, Function.update_of_ne apart] using before
      | _ => cases source
  | swept updates _ swept slots =>
      refine .kept rfl (.of_kernel swept.ring) ?_
      intro other
      rw [swept.frame]
      rfl
  | flushed index writes _ connected only flushed =>
      refine .kept rfl (.of_kernel only.ring) ?_
      intro other
      rw [only.frame]
      rfl
  | disconnected index connected =>
      have only : OnlyClient rt index (closeClient rt index) := .closeClient
      refine .kept rfl (.of_kernel only.ring) ?_
      intro other
      rw [only.frame]
      rfl
  | cursorMoved cursor => exact .kept rfl (.of_kernel rfl) fun _ => rfl
  | posted position res => exact .posted position res
  | stored store =>
      have quiet := stored_quiet rt store
      refine .kept rfl ?_ fun other => quiet.occupied_eq other
      cases store <;> exact .of_kernel rfl

/-- Every step without a failing `io_uring_enter` keeps the correspondence. -/
theorem Matched.stepped (matched : Matched rt) (invariant : Invariant config rt)
    (clean : action.clean = true) (taken : step rt action = .ok next) : Matched next := by
  cases queueStep matched.sound invariant clean taken with
  | same _ _ unread unposted queues occupied =>
      exact matched.same invariant taken queues occupied
  | started index env _ slot sound submitted posted fresh occupied others vacant =>
      exact matched.started invariant taken sound submitted posted fresh occupied others vacant
  | reaped env _ slot cqe peeked sound submitted posted before id occupied =>
      exact matched.reaped invariant taken sound submitted posted before id occupied
  | posted position res => exact matched.posted

end Step

section Runs

variable {config : Config} {rt : Runtime} {actions : List Action}

theorem Matched.initial (config : Config) : Matched (Runtime.initial config) := by
  have pending : config.ring.pending = [] := by
    apply List.eq_nil_of_length_eq_zero
    rw [Ring.pending, length_window, config.sq_empty, occupied, UInt32.sub_self]
    rfl
  have posted : config.ring.posted = [] := by
    apply List.eq_nil_of_length_eq_zero
    rw [Ring.posted, length_window, config.cq_empty, occupied, UInt32.sub_self]
    rfl
  have submitted : config.ring.submitted = [] := by
    rw [Ring.submitted, config.idle, pending, List.nil_append]
  have tokens : config.ring.tokens = [] := by
    rw [Ring.tokens, submitted, posted]
    rfl
  have vacant : ∀ taskIndex, (Runtime.initial config).occupied taskIndex = false := by
    intro taskIndex
    simp only [Runtime.occupied, Runtime.initial, TaskSlot.cleared, Bool.and_false]
  refine ⟨⟨config.sq_geometry, config.cq_geometry, ?_⟩, ?_, ?_, ?_, ?_⟩
  · intro index within
    change index < occupied config.ring.sqHead config.ring.sqTail at within
    rw [config.sq_empty, occupied, UInt32.sub_self] at within
    exact absurd within (Nat.not_lt_zero _)
  · change config.ring.tokens.Nodup
    rw [tokens]
    exact List.nodup_nil
  · intro id member
    change id ∈ config.ring.tokens at member
    rw [tokens] at member
    cases member
  · intro taskIndex occupied
    rw [vacant] at occupied
    cases occupied
  · intro sqe member
    change sqe ∈ config.ring.submitted at member
    rw [submitted] at member
    cases member

/-- The correspondence after every run without a failing `io_uring_enter`. -/
theorem run_matched (ran : run step (Runtime.initial config) actions = .ok rt)
    (clean : ∀ action ∈ actions, action.clean = true) :
    Invariant config rt ∧ Matched rt := by
  refine @run_preserves _ _ _ step _ rt actions
    (fun state => Invariant config state ∧ Matched state)
    ?_ ⟨.initial config, .initial config⟩ ran
  intro before action after member holds taken
  exact ⟨holds.1.stepped taken, holds.2.stepped holds.1 (clean action member) taken⟩

/-- A dispatch that accepts nothing leaves the operations of the ring alone. -/
theorem Matched.rejected {next : Runtime} {index : Nat} {env : DispatchEnv}
    (invariant : Invariant config rt) (clean : (Action.dispatch index env).clean = true)
    (taken : step rt (.dispatch index env) = .ok next)
    (nothing : next.acceptedSubmits = rt.acceptedSubmits) :
    next.ring.submitted = rt.ring.submitted := by
  cases step_effect invariant.grounded taken with
  | idle => rfl
  | dispatched _ _ middle bytes _ connected ready change answered =>
      have enters : ∀ errno, env.enter ≠ .failed errno := by
        intro errno failed
        simp only [Action.clean, failed, Bool.false_eq_true] at clean
      have ring : next.ring = middle.ring := by rw [answered]
      rcases change.queues_or_accepted enters with ⟨queues, -⟩ | ⟨slot, started, start, same⟩
      · rw [ring, queues.submitted]
      · have moved : next.acceptedSubmits = rt.acceptedSubmits + 1 := by
          rw [answered, same, start.countAccepted_eq]
        rw [moved] at nothing
        have added := congrArg UInt64.toNat nothing
        rw [UInt64.toNat_add] at added
        have small := rt.acceptedSubmits.toNat_lt
        change (_ + 1) % _ = _ at added
        omega
  | completed _ slot res ring _ occupied source completed => cases source

end Runs

/-- A submit call that returns -1 leaves the unconsumed entries alone exactly when it did
not publish its entry before `io_uring_enter` failed. In every run in which no
`io_uring_enter` fails, each operation the kernel runs or will consume is that of the
task active under its id, and a submission that is not accepted adds none. -/
theorem failed_submission_effect (config : Config) :
    (∀ (call : SubmitCall) (ring : Ring) (enter : EnterOutcome),
      (∀ errno, (call.submit ring enter).2 = some errno →
          (call.submit ring enter).1.pending = ring.pending) ↔
        ¬ (call.entersKernel ring = true ∧ ∃ errno, enter = .failed errno)) ∧
    ∀ (actions : List Action) (rt : Runtime),
      run step (Runtime.initial config) actions = .ok rt →
      (∀ action ∈ actions, action.clean = true) →
      (∀ sqe ∈ rt.ring.submitted, ∃ taskIndex, rt.occupied taskIndex = true ∧
        (rt.tasks taskIndex).taskId = sqe.userData ∧ sqe = taskSqe rt taskIndex) ∧
      ∀ index env next, (Action.dispatch index env).clean = true →
        step rt (.dispatch index env) = .ok next →
        next.acceptedSubmits = rt.acceptedSubmits → next.ring.submitted = rt.ring.submitted := by
  refine ⟨SubmitCall.failure_leaves_pending_iff, ?_⟩
  intro actions rt ran clean
  obtain ⟨invariant, matched⟩ := run_matched ran clean
  refine ⟨?_, ?_⟩
  · intro sqe member
    obtain ⟨taskIndex, occupied, same⟩ := matched.sqes sqe member
    refine ⟨taskIndex, occupied, ?_, same⟩
    rw [same, taskSqe_userData]
  · intro index env next entered taken nothing
    exact Matched.rejected invariant entered taken nothing

/-- A NOP in a clean run is executed under its id. -/
theorem failed_submission_effect_nop :
    ∃ rt, run step (Runtime.initial (.small 1 (by decide) (by decide)))
        (joining 0 7 ++ requesting 0 (requestHeader .nop).encode .smooth) = .ok rt ∧
      rt.ring.submitted ≠ [] ∧
      ∀ sqe ∈ rt.ring.submitted, ∃ taskIndex, rt.occupied taskIndex = true ∧
        (rt.tasks taskIndex).taskId = sqe.userData ∧ sqe = taskSqe rt taskIndex := by
  have seen : ((run step (Runtime.initial (.small 1 (by decide) (by decide)))
      (joining 0 7 ++ requesting 0 (requestHeader .nop).encode .smooth)).toOption.map fun rt =>
        decide (rt.ring.submitted ≠ [])) = some true := by decide +kernel
  obtain ⟨rt, ran, running⟩ := exists_of_toOption_map seen
  exact ⟨rt, ran, of_decide_eq_true running,
    ((failed_submission_effect _).2 _ rt ran (by decide)).1⟩

/-- The system call fails behind the published entry. -/
def DispatchEnv.enterFails : DispatchEnv := { DispatchEnv.smooth with enter := .failed EAGAIN }

/-- A NOP whose `io_uring_enter` fails stays in the ring. Over two requests: a TIMEOUT is
rejected that way, the NOP after it is accepted under the same id, and what the kernel
then runs is the TIMEOUT. -/
theorem failed_submission_left_behind :
    ((SubmitCall.nop 1).submit (.fresh 1 0 0) (.failed EAGAIN)).2 = some EAGAIN ∧
    ((SubmitCall.nop 1).submit (.fresh 1 0 0) (.failed EAGAIN)).1.pending ≠
      (Ring.fresh 1 0 0).pending ∧
    ∃ rt, run step (Runtime.initial (.small 1 (by decide) (by decide)))
        (joining 0 7 ++
          requesting 0 (TimeoutRequest.encode ⟨requestHeader .timeout, 1000⟩) .enterFails ++
          requesting 0 (requestHeader .nop).encode .smooth) = .ok rt ∧
      rt.rejectedSubmits = 1 ∧ rt.acceptedSubmits = 1 ∧ (rt.tasks 0).active = true ∧
      (rt.tasks 0).taskKind = .nop ∧
      rt.ring.kernel.executing.map (fun sqe => (sqe.opcode, sqe.userData)) =
        [(.timeout, (rt.tasks 0).taskId)] := by
  refine ⟨by decide +kernel, by decide +kernel, ?_⟩
  have seen : ((run step (Runtime.initial (.small 1 (by decide) (by decide)))
      (joining 0 7 ++
        requesting 0 (TimeoutRequest.encode ⟨requestHeader .timeout, 1000⟩) .enterFails ++
        requesting 0 (requestHeader .nop).encode .smooth)).toOption.map fun rt =>
      decide (rt.rejectedSubmits = 1 ∧ rt.acceptedSubmits = 1 ∧ (rt.tasks 0).active = true ∧
        (rt.tasks 0).taskKind = .nop ∧
        rt.ring.kernel.executing.map (fun sqe => (sqe.opcode, sqe.userData)) =
          [(.timeout, (rt.tasks 0).taskId)])) = some true := by decide +kernel
  obtain ⟨rt, ran, view⟩ := exists_of_toOption_map seen
  exact ⟨rt, ran, of_decide_eq_true view⟩

end Iouringd
