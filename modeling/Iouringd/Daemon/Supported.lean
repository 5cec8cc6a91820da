import Iouringd.Daemon.Startup
import Iouringd.Daemon.Submissions
import Iouringd.Lib.Handshake

/-! # Only what the kernel supports

The probe at start-up says which operations the kernel has, the mask keeps it, and the
admission of a request looks at the mask. So nothing but NOP, TIMEOUT and operations of the
probe gets to the kernel, also by way of entries that a failed `io_uring_enter` left behind.
-/

namespace Iouringd

open Foundation

/-! ## What is on the ring -/

section Ring

variable {ring : Ring} {sqe other : Sqe}

/-- The place behind the window is the tail. -/
theorem cell_at_tail (mask head tail : UInt32) :
    cell mask (head + UInt32.ofNat (occupied head tail)) = cell mask tail := by
  unfold occupied
  rw [UInt32.ofNat_toNat, UInt32.add_comm, UInt32.sub_add_cancel]

/-- Publishing puts nothing else on the ring, whether there is room or not. -/
theorem Ring.mem_submitted_publish (member : other ∈ (ring.publish sqe).submitted) :
    other = sqe ∨ other ∈ ring.submitted := by
  rcases List.mem_append.mp member with running | waiting
  · exact Or.inr (List.mem_append_left _ running)
  · obtain ⟨index, inside, same⟩ := List.mem_map.mp waiting
    have below := Nat.lt_of_lt_of_le (List.mem_range.mp inside)
      (occupied_succ_le ring.sqHead ring.sqTail)
    -- the array leads to the new entry, or to an entry of before
    have leads : ∀ position, (ring.publish sqe).sqeAt position = sqe ∨
        position ≠ cell ring.sqRingMask ring.sqTail ∧
          (ring.publish sqe).sqeAt position = ring.sqeAt position := by
      intro position
      have small : cell ring.sqRingMask ring.sqTail < 2 ^ 32 := UInt32.toNat_lt _
      unfold Ring.sqeAt Ring.publish
      dsimp only
      by_cases new : position = cell ring.sqRingMask ring.sqTail
      · left
        rw [new, Function.update_self, UInt32.toNat_ofNat', Nat.mod_eq_of_lt small,
          Function.update_self]
      · rw [Function.update_of_ne new]
        by_cases shared : (ring.sqArray position).toNat = cell ring.sqRingMask ring.sqTail
        · left
          rw [shared, Function.update_self]
        · exact Or.inr ⟨new, by rw [Function.update_of_ne shared]⟩
    rcases leads (cell ring.sqRingMask (ring.sqHead + UInt32.ofNat index)) with new | ⟨apart, old⟩
    · exact Or.inl (same.symm.trans new)
    · right
      have within : index < occupied ring.sqHead ring.sqTail := by
        refine Nat.lt_of_le_of_ne (Nat.le_of_lt_succ below) ?_
        rintro rfl
        exact apart (cell_at_tail ..)
      refine List.mem_append_right _ (List.mem_map.mpr ⟨index, List.mem_range.mpr within, ?_⟩)
      rw [← same, ← old]
      rfl

/-- The kernel adds nothing. -/
theorem mem_submitted_post {position : Nat} {res : Int32}
    (member : other ∈ (kernelPost ring position res).submitted) : other ∈ ring.submitted := by
  unfold kernelPost at member
  split at member
  · exact member
  · split at member
    · rcases List.mem_append.mp member with running | waiting
      · exact List.mem_append_left _ (List.mem_of_mem_eraseIdx running)
      · exact List.mem_append_right _ waiting
    · exact member

end Ring

/-! ## What a step puts there -/

/-- The operation of a kind of task. -/
def RequestKind.operation : RequestKind → Opcode
  | .timeout => .timeout
  | .cancel => .asyncCancel
  | .sockRead | .fileRead => .readv
  | .sockWrite | .fileWrite => .writev
  | .sockReadFixed => .readFixed
  | .sockWriteFixed => .writeFixed
  | .poll => .pollAdd
  | .connect => .connect
  | .accept => .accept
  | .openat => .openat
  | .close => .close
  | _ => .nop

theorem taskSqe_operation (rt : Runtime) (taskIndex : Nat) :
    (taskSqe rt taskIndex).opcode = (rt.tasks taskIndex).taskKind.operation := by
  cases kind : (rt.tasks taskIndex).taskKind with
  | _ =>
      unfold taskSqe
      simp only [kind]
      rfl

/-- The bit that admission looks at is that of the operation. -/
theorem operation_capability (kind : RequestKind) :
    (kind.operation = .nop ∨ kind.operation = .timeout) ∨
      kind.capabilityBit = some kind.operation.capabilityBit := by
  cases kind with
  | unknown raw => exact Or.inl (Or.inl rfl)
  | _ => decide

section Steps

variable {config : Config} {rt next : Runtime} {action : Action} {index : Nat}

/-- An entry that was not there before belongs to an admitted request. -/
def Brings (rt next : Runtime) : Prop :=
  ∀ sqe ∈ next.ring.submitted, sqe ∈ rt.ring.submitted ∨
    ∃ index, admissionRefusal rt (rt.clients index) = none ∧
      sqe.opcode = (rt.clients index).request.taskKind.operation

theorem Brings.same (submitted : next.ring.submitted = rt.ring.submitted) : Brings rt next := by
  intro sqe member
  rw [submitted] at member
  exact Or.inl member

/-- Entries of the table of files are not on the ring. -/
theorem Ring.submitted_withFiles (ring : Ring) (table : Nat → Fd) :
    (ring.withFiles table).submitted = ring.submitted := rfl

theorem Dispatched.brings {env : DispatchEnv} {middle : Runtime} {bytes : List UInt8}
    (change : Dispatched rt index env middle bytes) : Brings rt middle := by
  have updated : ∀ {entry : Nat} {fd : Fd} {outcome : UpdateOutcome} {ring : Ring},
      ringUpdateRegisteredFile rt.ring entry fd outcome = (ring, none) →
      ring.submitted = rt.ring.submitted := by
    intro entry fd outcome ring update
    rw [ringUpdateRegisteredFile_ok update]
    rfl
  cases change with
  | fileRegistered slot resourceId nextId ring result operation held found allocated valid update =>
      exact .same (updated update)
  | fileReleased slot ring result operation found idle update =>
      refine .same (Eq.trans ?_ (updated update))
      unfold clearFileSlot
      dsimp only
      split
      · rfl
      · rfl
  | refused _ errno credits type rolledBack =>
      obtain ⟨table, -, same | ⟨sqe, errno, -, same⟩⟩ := rolledBack.ring
      · exact .same (by rw [same, Ring.submitted_withFiles])
      · have shown : rt.ring.published middle.ring = some sqe := by
          rw [same]
          exact Ring.published_publish rfl rfl rfl
        obtain ⟨taskIndex, attempt, made, operation⟩ := rolledBack.offered sqe shown
        intro other member
        rw [same] at member
        rcases Ring.mem_submitted_publish member with new | old
        · refine Or.inr ⟨index, made.admitted, ?_⟩
          rw [new, operation, taskSqe_operation, made.identifies.taskKind]
        · exact Or.inl old
  | accepted taskIndex started credits type admitted start =>
      obtain ⟨table, -, -, count, -, same⟩ := start.submitted
      intro other member
      change other ∈ started.ring.submitted at member
      rw [same, Ring.submitted_consume] at member
      rcases Ring.mem_submitted_publish member with new | old
      · refine Or.inr ⟨index, admitted, ?_⟩
        rw [new, taskSqe_operation, start.identifies.taskKind]
      · exact Or.inl old
  | _ => exact .same rfl

theorem StepEffect.brings (effect : StepEffect rt action next) : Brings rt next := by
  cases effect with
  | idle | turnedAway | opened | cursorMoved => exact .same rfl
  | served index incoming _ connected only served =>
      refine .same ?_
      rw [only.ring]
      rfl
  | dispatched index env middle bytes _ connected ready change answered recorded =>
      intro sqe member
      rw [answered] at member
      exact change.brings sqe member
  | completed _ taskIndex res ring _ occupied source completed calls =>
      have kept : next.ring.submitted = ring.submitted := by
        rw [completed.ring]
        rfl
      refine .same (kept.trans ?_)
      cases action with
      | reap env =>
          obtain ⟨cqe, peeked, -⟩ := source
          obtain ⟨-, same, -⟩ := ringPeekCompletion_some peeked
          exact same
      | complete taskIndex res env => rw [source.2.2]
      | _ => exact source.elim
  | swept updates _ swept slots =>
      refine .same ?_
      rw [swept.ring]
      rfl
  | flushed index writes _ connected only flushed =>
      refine .same ?_
      rw [only.ring]
      rfl
  | disconnected index connected =>
      refine .same ?_
      rw [(@OnlyClient.closeClient rt index).ring]
      rfl
  | posted position res => exact fun sqe member => Or.inl (mem_submitted_post member)
  | stored store =>
      cases store with
      | _ => exact .same rfl

end Steps

/-! ## Runs -/

section Runs

variable {config : Config} {rt : Runtime} {actions : List Action} {probe : List ProbeOp}

/-- An operation the kernel may be given. -/
def Opcode.Permitted (opcode : Opcode) (probe : List ProbeOp) : Prop :=
  opcode = .nop ∨ opcode = .timeout ∨ opcodeSupported opcode.code probe = true

/-- An admitted request is for a permitted operation. -/
theorem admitted_permitted {client : Client} (mask : rt.capabilities.opMask = probedMask probe)
    (admitted : admissionRefusal rt client = none) :
    client.request.taskKind.operation.Permitted probe := by
  have supported : unsupported rt client.request.taskKind = false := by
    by_contra missing
    rw [Bool.not_eq_false] at missing
    unfold admissionRefusal at admitted
    simp only [missing, ↓reduceIte] at admitted
    split at admitted
    · cases admitted
    · split at admitted
      · cases admitted
      · split at admitted
        · cases admitted
        · cases admitted
  rcases operation_capability client.request.taskKind with (plain | plain) | bit
  · exact Or.inl plain
  · exact Or.inr (Or.inl plain)
  · refine Or.inr (Or.inr ((probedMask_and _).mp ?_))
    unfold unsupported at supported
    rw [bit] at supported
    dsimp only at supported
    rw [mask] at supported
    exact beq_eq_false_iff_ne.mp supported

/-- In every run of a daemon that was started, whatever else fails, the kernel is given NOP,
TIMEOUT and operations that its probe reported, and no others. -/
theorem only_probed_operations {args : List Arg} {env : StartEnv} {starting : Starting}
    (sound : env.Sound) (started : (mainStart args env).outcome = .ok starting)
    (probed : env.setup.probe = .ok probe)
    (ran : run step (starting.runtime env) actions = .ok rt) :
    ∀ sqe ∈ rt.ring.submitted, sqe.opcode.Permitted probe := by
  obtain ⟨handle, params, operations, launched⟩ := mainStart_ok sound.setup started
  obtain ⟨config, same, -, reports⟩ := launched.configured sound
  have asked : operations = probe := Except.ok.inj (launched.opened.probe.symm.trans probed)
  rw [same] at ran
  rw [asked] at reports
  have kept : Reachable config rt ∧ rt.capabilities.opMask = probedMask probe ∧
      ∀ sqe ∈ rt.ring.submitted, sqe.opcode.Permitted probe := by
    refine @run_preserves _ _ _ step (Runtime.initial config) rt actions (fun rt =>
      Reachable config rt ∧ rt.capabilities.opMask = probedMask probe ∧
        ∀ sqe ∈ rt.ring.submitted, sqe.opcode.Permitted probe) ?_ ⟨⟨[], rfl⟩, ?_, ?_⟩ ran
    · rintro before action after - ⟨reachable, mask, permitted⟩ taken
      have effect := step_effect reachable.invariant.grounded taken
      refine ⟨reachable.stepped taken, by rw [effect.capabilities, mask], ?_⟩
      intro sqe member
      rcases effect.brings sqe member with old | ⟨index, admitted, operation⟩
      · exact permitted sqe old
      · rw [operation]
        exact admitted_permitted mask admitted
    · change config.capabilities.opMask = _
      rw [reports.capabilities]
      rfl
    · intro sqe member
      obtain ⟨taskIndex, occupied, -⟩ := (Matched.initial config).sqes sqe member
      unfold Runtime.occupied at occupied
      change (_ && false) = true at occupied
      rw [Bool.and_false] at occupied
      cases occupied
  exact kept.2.2

/-- An OPENAT whose `io_uring_enter` fails stays on the ring, and the kernel supports it. -/
theorem only_probed_operations_openat :
    ∃ starting rt, (mainStart plainArgs .plain).outcome = .ok starting ∧
      run step (starting.runtime .plain) (joining 0 7 ++
        requesting 0 (OpenatRequest.encode ⟨requestHeader .openat, 0, 0, 2⟩ ++ [47, 0])
          .enterFails) = .ok rt ∧
      (∃ sqe ∈ rt.ring.submitted, sqe.opcode = .openat) ∧
      ∀ sqe ∈ rt.ring.submitted,
        sqe.opcode.Permitted (probedOperations.map fun opcode => ⟨opcode.code, 1⟩) := by
  have seen : ((mainStart plainArgs .plain).outcome.toOption.map fun starting =>
      decide ((run step (starting.runtime .plain) (joining 0 7 ++
        requesting 0 (OpenatRequest.encode ⟨requestHeader .openat, 0, 0, 2⟩ ++ [47, 0])
          .enterFails)).toOption.map (fun rt =>
            decide (∃ sqe ∈ rt.ring.submitted, sqe.opcode = .openat)) = some true)) =
      some true := by decide +kernel
  obtain ⟨starting, started, view⟩ := exists_of_toOption_map seen
  obtain ⟨rt, ran, left⟩ := exists_of_toOption_map (of_decide_eq_true view)
  exact ⟨starting, rt, started, ran, of_decide_eq_true left,
    only_probed_operations StartEnv.plain_sound started rfl ran⟩

end Runs

end Iouringd
