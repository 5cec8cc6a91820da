import Iouringd.Daemon.Allocation
import Iouringd.Daemon.Isolation

/-! # Refused requests

The dispatcher refuses a request at some forty points, several of them behind slots that were
reserved, descriptors that were moved and entries that were removed from the kernel's table.
Every rollback is complete, but for two things: when `io_uring_enter` fails, the entry that was
put into the submission ring stays there; and the task slot that the search found is left clear,
whatever the memory of a free slot held.
-/

namespace Iouringd

open Foundation

/-- The kernel writes only to the memory of tasks that are in the table. -/
def storesInUse (rt : Runtime) : Action → Bool
  | .store (.ioBuffer taskIndex _) | .store (.sockaddrLength taskIndex _) => rt.occupied taskIndex
  | _ => true

/-- The slots of the task table that are not in use are clear. -/
def Tidy (rt : Runtime) : Prop :=
  ∀ taskIndex, (rt.tasks taskIndex).active = false → rt.tasks taskIndex = .cleared

/-- The result queued for the request has a negative `res`. -/
def Refused (rt next : Runtime) (index : Nat) : Prop :=
  ∃ res < 0, match (rt.clients index).replyType with
    | .submit => AnsweredWith rt next index res
    | .resource => ResourceAnsweredWith rt next index res
    | _ => False

/-- Everything is as it was but the count of rejections, the trace, and of the client the id
counter, the fields of the request, the output and the received descriptor, which is closed if
it changes. -/
structure Untouched (rt next : Runtime) (index : Nat) : Prop where
  frame : next = { rt with
    rejectedSubmits := next.rejectedSubmits
    nextTraceSequence := next.nextTraceSequence
    traceEvents := next.traceEvents
    traceCount := next.traceCount
    ring := { rt.ring with kernel := { rt.ring.kernel with closed := next.ring.kernel.closed } }
    clients := Function.update rt.clients index { (rt.clients index).finishRequest with
      output := (next.clients index).output
      outputSent := (next.clients index).outputSent
      nextResourceId := (next.clients index).nextResourceId
      receivedFd := (next.clients index).receivedFd } }
  descriptor : (next.ring.kernel.closed = rt.ring.kernel.closed ∧
      (next.clients index).receivedFd = (rt.clients index).receivedFd) ∨
    (0 ≤ (rt.clients index).receivedFd ∧ (next.clients index).receivedFd = -1 ∧
      next.ring.kernel.closed = rt.ring.kernel.closed ++ [(rt.clients index).receivedFd])

/-- Everything is untouched, but that free slots of the task table may have been cleared. -/
structure UntouchedButFree (rt next : Runtime) (index : Nat) : Prop where
  rest : Untouched { rt with tasks := next.tasks } next index
  tasks : ∀ taskIndex, next.tasks taskIndex = rt.tasks taskIndex ∨
    (rt.tasks taskIndex).active = false ∧ next.tasks taskIndex = .cleared

/-! ## The task table -/

section Tasks

variable {rt middle next : Runtime} {index : Nat} {action : Action} {env : DispatchEnv}
  {bytes : List UInt8}

/-- A dispatch starts a task or leaves the table, where a rollback may clear a slot. -/
theorem Dispatched.tidy (change : Dispatched rt index env middle bytes) (tidy : Tidy rt) :
    Tidy middle := by
  cases change with
  | fileReleased slot ring result operation found idle updated =>
      have touches : Touches { rt with ring } index (clearFileSlot { rt with ring } index slot) :=
        clearFileSlot_touches
      intro taskIndex inactive
      rw [touches.frame] at inactive ⊢
      exact tidy taskIndex inactive
  | refused _ errno credits type rolledBack =>
      intro taskIndex inactive
      rcases rolledBack.tasks taskIndex with same | ⟨-, cleared⟩
      · rw [same] at inactive ⊢
        exact tidy taskIndex inactive
      · exact cleared
  | accepted task started credits type admitted start =>
      intro taskIndex inactive
      change (started.tasks taskIndex).active = false at inactive
      change started.tasks taskIndex = .cleared
      by_cases same : taskIndex = task
      · subst same
        rw [start.identifies.active] at inactive
        cases inactive
      · have kept : started.tasks taskIndex = rt.tasks taskIndex := by
          rw [start.frame]
          exact Function.update_of_ne same _ _
        rw [kept] at inactive ⊢
        exact tidy taskIndex inactive
  | _ => exact tidy

theorem Tidy.stepped (tidy : Tidy rt) (grounded : Grounded rt)
    (stores : storesInUse rt action = true) (taken : step rt action = .ok next) : Tidy next := by
  have kept : next.tasks = rt.tasks → Tidy next := by
    intro same taskIndex inactive
    rw [same] at inactive ⊢
    exact tidy taskIndex inactive
  cases step_effect grounded taken with
  | idle | turnedAway | opened | cursorMoved | posted => exact tidy
  | served client incoming _ connected only => exact kept (congrArg Runtime.tasks only.frame : _)
  | dispatched client env middle bytes _ connected ready change answered =>
      have after := change.tidy tidy
      intro taskIndex inactive
      rw [answered] at inactive ⊢
      exact after taskIndex inactive
  | completed _ taskIndex res ring _ occupied source completed =>
      intro other inactive
      rw [completed.frame] at inactive ⊢
      dsimp only at inactive ⊢
      by_cases same : other = taskIndex
      · subst same
        exact Function.update_self ..
      · rw [Function.update_of_ne same] at inactive ⊢
        exact tidy other inactive
  | swept updates _ swept slots => exact kept (congrArg Runtime.tasks swept.frame : _)
  | flushed client writes _ connected only => exact kept (congrArg Runtime.tasks only.frame : _)
  | disconnected client connected =>
      have only : OnlyClient rt client (closeClient rt client) := .closeClient
      exact kept (congrArg Runtime.tasks only.frame : _)
  | stored store =>
      have written : ∀ taskIndex task, rt.occupied taskIndex = true →
          task.active = (rt.tasks taskIndex).active → Tidy (rt.setTask taskIndex task) := by
        intro taskIndex task occupied active other inactive
        change (Function.update rt.tasks taskIndex task other).active = false at inactive
        change Function.update rt.tasks taskIndex task other = .cleared
        by_cases same : other = taskIndex
        · subst same
          rw [Function.update_self, active, (occupied_iff.mp occupied).2] at inactive
          cases inactive
        · rw [Function.update_of_ne same] at inactive ⊢
          exact tidy other inactive
      cases store with
      | ioBuffer taskIndex data => exact written taskIndex _ stores rfl
      | sockaddrLength taskIndex length => exact written taskIndex _ stores rfl
      | storage offset data => exact tidy

end Tasks

/-! ## One refusal -/

section Refusing

variable {config : Config} {rt middle next : Runtime} {index : Nat} {env : DispatchEnv}
  {bytes : List UInt8}

/-- A resource result determines its `res`. -/
theorem ResourceResult.res_of_encode {left right : ResourceResult}
    (same : left.encode = right.encode) : left.res = right.res := by
  have field : ∀ result : ResourceResult, i32At result.encode 4 = result.res := by
    intro result
    simp (disch := simp) [encode, i32At_append_right, i32At_append_left]
  rw [← field left, ← field right, same]

/-- What a dispatch did that queued a negative result. -/
inductive Declined (rt : Runtime) (index : Nat) (env : DispatchEnv) : Runtime → Prop where
  | resource (nextId : UInt32) :
      Declined rt index env (rt.setClient index { rt.clients index with nextResourceId := nextId })
  | descriptor (nextId : UInt32) (held : 0 ≤ (rt.clients index).receivedFd) :
      Declined rt index env (dropReceivedFd
        (rt.setClient index { rt.clients index with nextResourceId := nextId }) index)
  | submission (middle : Runtime) (rolledBack : RolledBack rt index env middle) :
      Declined rt index env middle

theorem Dispatched.declined (change : Dispatched rt index env middle bytes)
    (answered : Answered middle index bytes next) (refused : Refused rt next index) :
    Declined rt index env middle := by
  obtain ⟨res, negative, queued⟩ := refused
  have unsent := change.core.2.1
  -- a reply that grants the request has the result 0
  have granted : ∀ result : ResourceResult, result.Grants → bytes = result.encode →
      (rt.clients index).replyType = .resource → False := by
    intro result grants same type
    rw [type] at queued
    obtain ⟨resourceId, available, pending⟩ := queued
    have sent : (next.clients index).pendingOutput =
        (rt.clients index).pendingOutput ++ result.encode := by
      rw [answered.client, ← unsent, ← same]
      rfl
    have equal : result.res = res := ResourceResult.res_of_encode
      (List.append_cancel_left (sent.symm.trans pending))
    rw [← equal, grants.res] at negative
    exact absurd negative (by decide)
  cases change with
  | resourceRefused nextId result type unheld refuses counter => exact .resource nextId
  | descriptorDropped nextId result operation held refuses counter =>
      exact .descriptor nextId held
  | fileRegistered slot resourceId nextId ring result operation held found allocated valid updated
      grants =>
      exact (granted result grants rfl (by rw [Client.replyType, operation])).elim
  | bufferRegistered slot resourceId nextId result operation found allocated valid grants =>
      exact (granted result grants rfl (by rw [Client.replyType, operation])).elim
  | fileReleased slot ring result operation found idle updated grants =>
      exact (granted result grants rfl (by rw [Client.replyType, operation])).elim
  | bufferReleased slot result operation found idle grants =>
      exact (granted result grants rfl (by rw [Client.replyType, operation])).elim
  | stats operation =>
      rw [Client.replyType, operation] at queued
      exact queued.elim
  | trace result events operation counted =>
      rw [Client.replyType, operation] at queued
      exact queued.elim
  | refused _ errno credits type rolledBack positive => exact .submission _ rolledBack
  | accepted taskIndex started credits type admitted start =>
      rw [type] at queued
      have equal : completionResOk = res := (answered.answeredWith unsent).unique queued
      rw [← equal] at negative
      exact absurd negative (by decide)

/-- Entries put back into the table are what they were. -/
theorem Mirrored.restored {slot : Nat} (mirrored : Mirrored rt)
    (registered : ((rt.clients index).fileResources slot).registered = true) :
    Function.update rt.ring.kernel.registeredFiles (globalFileIndex rt index slot)
      ((rt.clients index).fileResources slot).daemonFd = rt.ring.kernel.registeredFiles := by
  obtain ⟨client, below⟩ := mirrored.within index slot registered
  have entry := mirrored.entries index slot client below
  have same : (rt.file index slot).entry = ((rt.clients index).fileResources slot).daemonFd :=
    if_pos registered
  rw [← same, ← entry, Function.update_eq_self]

/-- An answer after which only the id counter, the ring and the task table had moved. -/
theorem Answered.untouched {nextId : UInt32} {ring : Ring} {tasks : Nat → TaskSlot}
    (answered : Answered { rt.setClient index { rt.clients index with nextResourceId := nextId }
      with ring, tasks } index bytes next) :
    Untouched { rt with ring, tasks } next index ∧ next.tasks = tasks := by
  have entry := answered.client
  have rings : next.ring = ring := by
    rw [answered]
  have table : next.tasks = tasks := by
    rw [answered]
  refine ⟨⟨?_, .inl ⟨?_, ?_⟩⟩, table⟩
  · conv_lhs => rw [answered]
    simp only [Runtime.setClient, Function.update_self, Function.update_idem] at entry ⊢
    rw [entry, rings]
    rfl
  · rw [rings]
  · rw [entry]
    simp only [Runtime.setClient, Function.update_self]
    rfl

/-- Nothing at all is touched when the free slots were clear before. -/
theorem UntouchedButFree.untouched (kept : UntouchedButFree rt next index) (tidy : Tidy rt) :
    Untouched rt next index := by
  have tasks : next.tasks = rt.tasks := by
    funext taskIndex
    rcases kept.tasks taskIndex with same | ⟨inactive, cleared⟩
    · exact same
    · rw [cleared, tidy taskIndex inactive]
  have rest := kept.rest
  rw [tasks] at rest
  exact rest

theorem Untouched.sqTail (untouched : Untouched rt next index) :
    next.ring.sqTail = rt.ring.sqTail := by
  rw [untouched.frame]

end Refusing

/-! ## Runs -/

section Runs

variable {config : Config} {actions : List Action} {rt next : Runtime} {index : Nat}
  {env : DispatchEnv}

end Runs

/-- The client of a small daemon has sent a request that is ready. -/
def offering (bytes : List UInt8) : List Action :=
  joining 0 7 ++ [.input 0 [.data bytes [] false]]

/-- A run and a dispatch behind it. -/
def offered (bytes : List UInt8) (env : DispatchEnv) : Except Errno (Runtime × Runtime × Bool) :=
  do
    let rt ← run step (Runtime.initial .smallest) (offering bytes)
    let result ← dispatchClientRequest rt 0 env
    return (rt, result)

end Iouringd
