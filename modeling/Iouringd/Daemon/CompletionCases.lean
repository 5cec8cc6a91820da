import Iouringd.Daemon.Completion
import Iouringd.Daemon.Effects

/-! # The three ways a completion is prepared

A completion is passed on as it is, its descriptor is closed, or its descriptor becomes the
resource that was reserved for it. `Prepared` says what the record, the payload and the state
are in each case; `completeTask_parts` cuts the whole call into its helpers.
-/

namespace Iouringd

open Foundation

/-- The result of an ACCEPT or OPENAT that produced a descriptor. -/
def TaskSlot.produces (task : TaskSlot) (res : Int32) : Bool :=
  (task.taskKind == .accept || task.taskKind == .openat) && decide (0 ≤ res)

/-- The error the system call reported. -/
def UpdateOutcome.fails : UpdateOutcome → Errno → Prop
  | .failed errno, result => result = errno
  | .updated _, _ => False

/-- How a completion can be prepared. -/
inductive Prepared (rt : Runtime) (task : TaskSlot) (res : Int32) (update : UpdateOutcome) :
    Preparation → Prop where
  | plain (nothing : task.produces res = false) :
      Prepared rt task res update ⟨rt, completionRecord task res, none⟩
  | abandoned (final : Int32) (produces : task.produces res = true)
      (reason : final = - EIO ∨ final = -EPROTO ∨ final = -EINVAL ∨
        (∃ errno, update.fails errno ∧ final = -errno) ∨
        (taskConnected rt task = false ∧ final = res)) :
      Prepared rt task res update
        ⟨rt.close res, { completionRecord task res with res := final }, none⟩
  | registered (slot : Nat) (length : UInt16) (payload : Option (Memory × Nat))
      (produces : task.produces res = true) (reserved : task.resultFileSlotIndex = some slot)
      (connected : taskConnected rt task = true) (valid : resultIdInvalid task = false)
      (updated : updateRegisteredFile rt (globalFileIndex rt task.clientIndex slot) res update =
        .ok { rt with ring := rt.ring.withFiles (Function.update rt.ring.kernel.registeredFiles
          (globalFileIndex rt task.clientIndex slot) res) })
      (address : (length = 0 ∧ payload = none) ∨
        (task.taskKind = .accept ∧ task.sockaddrLength ≤ task.ioLength ∧
          length = task.sockaddrLength.toUInt16 ∧ payload = some (task.ioBuffer, 0))) :
      Prepared rt task res update
        ⟨{ rt with ring := rt.ring.withFiles (Function.update rt.ring.kernel.registeredFiles
            (globalFileIndex rt task.clientIndex slot) res) }.setClient task.clientIndex
            ((rt.clients task.clientIndex).setFileSlot slot
              { (rt.clients task.clientIndex).fileResources slot with
                resourceId := task.resultResourceId
                daemonFd := res
                registered := true
                closing := false }),
          { completionRecord task res with
            res := task.resultResourceId.toInt32
            payloadLength := length }, payload⟩

section Preparing

variable {rt : Runtime} {task : TaskSlot} {res : Int32} {update : UpdateOutcome}

/-- Kinds that do not return a descriptor carry no payload length here. -/
theorem completionRecord_payloadLength (produces : task.produces res = true) :
    (completionRecord task res).payloadLength = 0 := by
  unfold TaskSlot.produces at produces
  simp only [Bool.and_eq_true, Bool.or_eq_true, beq_iff_eq, decide_eq_true_eq] at produces
  unfold completionRecord
  dsimp only
  rcases produces.1 with kind | kind <;> rw [kind]

/-- Registering the result, or closing it when the table cannot be updated. -/
theorem registerResult_prepared {slot : Nat} {attach : Preparation → Preparation}
    (produces : task.produces res = true) (reserved : task.resultFileSlotIndex = some slot)
    (connected : taskConnected rt task = true) (valid : resultIdInvalid task = false)
    (attaches : ∀ registered : Preparation, registered.payload = none →
      registered.record.payloadLength = 0 → attach registered = registered ∨
      (task.taskKind = .accept ∧ task.sockaddrLength ≤ task.ioLength ∧
        attach registered = { registered with
          record := { registered.record with payloadLength := task.sockaddrLength.toUInt16 }
          payload := some (task.ioBuffer, 0) })) :
    Prepared rt task res update
      (Preparation.registerResult ⟨rt, completionRecord task res, none⟩ task slot res update
        attach) := by
  have empty := completionRecord_payloadLength produces
  unfold Preparation.registerResult
  dsimp only
  split
  · rename_i ring errno failed
    have why := ringUpdateRegisteredFile_errno failed
    cases ringUpdateRegisteredFile_failed failed
    refine .abandoned (-errno) produces ?_
    rcases why with invalid | lost | given
    · exact Or.inr (Or.inr (Or.inl (by rw [invalid])))
    · exact Or.inl (by rw [lost])
    · have fails : update.fails errno := by
        rw [given]
        exact rfl
      exact Or.inr (Or.inr (Or.inr (Or.inl ⟨errno, fails, rfl⟩)))
  · rename_i ring updated
    have written : updateRegisteredFile rt (globalFileIndex rt task.clientIndex slot) res update =
        .ok { rt with ring } := by
      unfold updateRegisteredFile
      rw [updated]
    cases ringUpdateRegisteredFile_ok updated
    generalize shape : ({
      rt := _, record := { completionRecord task res with res := task.resultResourceId.toInt32 }
      payload := none } : Preparation) = registered
    have record : registered.record.payloadLength = 0 := by
      rw [← shape]
      exact empty
    rcases attaches registered (by rw [← shape]) record with same | ⟨kind, within, added⟩
    · rw [same, ← shape]
      have plain := Prepared.registered slot 0 none produces reserved connected valid written
        (Or.inl ⟨rfl, rfl⟩)
      rw [← empty] at plain
      exact plain
    · rw [added, ← shape]
      exact Prepared.registered slot _ _ produces reserved connected valid written
        (Or.inr ⟨kind, within, rfl, rfl⟩)

theorem prepareAcceptCompletion_prepared (kind : task.taskKind = .accept) :
    Prepared rt task res update
      (prepareAcceptCompletion task update ⟨rt, completionRecord task res, none⟩) := by
  have fields : (completionRecord task res).res = res := rfl
  have abandons : ∀ final, 0 ≤ res → (final = - EIO ∨ final = -EPROTO ∨ final = -EINVAL ∨
      (∃ errno, update.fails errno ∧ final = -errno) ∨
      (taskConnected rt task = false ∧ final = res)) → Prepared rt task res update
        (Preparation.abandon ⟨rt, completionRecord task res, none⟩ res final) :=
    fun final produced reason => .abandoned final (by simp only [TaskSlot.produces, kind,
      beq_self_eq_true, Bool.true_or, produced, decide_true, Bool.and_self]) reason
  unfold prepareAcceptCompletion
  dsimp only
  rw [fields]
  split
  · rename_i failed
    refine .plain ?_
    simp only [kind, ne_eq, not_true_eq_false, false_or] at failed
    simp only [TaskSlot.produces, kind, beq_self_eq_true, Bool.true_or, Bool.true_and,
      decide_eq_false_iff_not]
    exact Int32.not_le.mpr failed
  · rename_i success
    have produced : 0 ≤ res := by
      simp only [kind, ne_eq, not_true_eq_false, false_or] at success
      exact Int32.not_lt.mp success
    split
    · exact abandons _ produced (Or.inl rfl)
    · rename_i slot reserved
      split
      · exact abandons _ produced (Or.inl rfl)
      · split
        · exact abandons _ produced (Or.inl rfl)
        · split
          · exact abandons _ produced (Or.inr (Or.inl rfl))
          · rename_i sane
            rw [Bool.or_eq_true, not_or, decide_eq_true_eq] at sane
            split
            · rename_i apart
              rw [Bool.not_eq_true'] at apart
              exact abandons _ produced (Or.inr (Or.inr (Or.inr (Or.inr ⟨apart, rfl⟩))))
            · rename_i connected
              rw [Bool.not_eq_true', Bool.not_eq_false] at connected
              refine registerResult_prepared (by simp only [TaskSlot.produces, kind,
                beq_self_eq_true, Bool.true_or, produced, decide_true, Bool.and_self]) reserved
                connected (Bool.eq_false_iff.mpr sane.2) ?_
              intro registered _ _
              unfold Preparation.attachSockaddr
              split
              · exact Or.inr ⟨kind, UInt32.not_lt.mp sane.1, rfl⟩
              · exact Or.inl rfl

theorem prepareOpenatCompletion_prepared (kind : task.taskKind ≠ .accept) :
    Prepared rt task res update
      (prepareOpenatCompletion task update ⟨rt, completionRecord task res, none⟩) := by
  have fields : (completionRecord task res).res = res := rfl
  unfold prepareOpenatCompletion
  dsimp only
  rw [fields]
  split
  · rename_i other
    refine .plain ?_
    simp only [TaskSlot.produces, Bool.and_eq_false_iff, Bool.or_eq_false_iff, beq_eq_false_iff_ne,
      decide_eq_false_iff_not]
    rcases other with different | failed
    · exact Or.inl ⟨kind, different⟩
    · exact Or.inr (Int32.not_le.mpr failed)
  · rename_i success
    rw [not_or, not_not] at success
    have produced : 0 ≤ res := Int32.not_lt.mp success.2
    have produces : task.produces res = true := by
      simp only [TaskSlot.produces, success.1, beq_self_eq_true, Bool.or_true, produced,
        decide_true, Bool.and_self]
    have abandons : ∀ final, (final = - EIO ∨ final = -EPROTO ∨ final = -EINVAL ∨
        (∃ errno, update.fails errno ∧ final = -errno) ∨
        (taskConnected rt task = false ∧ final = res)) → Prepared rt task res update
          (Preparation.abandon ⟨rt, completionRecord task res, none⟩ res final) :=
      fun final reason => .abandoned final produces reason
    split
    · exact abandons _ (Or.inl rfl)
    · rename_i slot reserved
      split
      · exact abandons _ (Or.inl rfl)
      · split
        · exact abandons _ (Or.inr (Or.inl rfl))
        · rename_i sane
          rw [Bool.or_eq_true, not_or] at sane
          split
          · rename_i apart
            rw [Bool.not_eq_true'] at apart
            exact abandons _ (Or.inr (Or.inr (Or.inr (Or.inr ⟨apart, rfl⟩))))
          · rename_i connected
            rw [Bool.not_eq_true', Bool.not_eq_false] at connected
            exact registerResult_prepared produces reserved connected
              (Bool.eq_false_iff.mpr sane.2) fun _ _ _ => Or.inl rfl

/-- Every completion is prepared in one of the three ways. -/
theorem prepareCompletion_prepared (rt : Runtime) (task : TaskSlot) (res : Int32)
    (env : CompleteEnv) :
    Prepared rt task res env.register (prepareCompletion rt task res env) := by
  unfold prepareCompletion
  by_cases kind : task.taskKind = .accept
  · have skipped : ∀ prepared, prepareOpenatCompletion task env.register prepared = prepared := by
      intro prepared
      unfold prepareOpenatCompletion
      simp only [kind, reduceCtorEq, ne_eq, not_false_eq_true, true_or, ↓reduceIte]
    rw [skipped]
    exact prepareAcceptCompletion_prepared kind
  · have skipped : ∀ prepared, prepareAcceptCompletion task env.register prepared = prepared := by
      intro prepared
      unfold prepareAcceptCompletion
      simp only [kind, ne_eq, not_false_eq_true, true_or, ↓reduceIte]
    rw [skipped]
    exact prepareOpenatCompletion_prepared kind

/-- The negation of a positive error number is negative. -/
theorem neg_of_positive {errno : Errno} (positive : 0 < errno) : -errno < 0 := by
  have low := Int32.lt_iff_toInt_lt.mp positive
  have high := Int32.toInt_lt errno
  rw [Int32.lt_iff_toInt_lt, Int32.toInt_neg]
  have zero : (0 : Int32).toInt = 0 := rfl
  rw [zero] at low ⊢
  rw [Int.bmod_eq_of_le (by omega) (by omega)]
  omega

/-- The result of an abandoned descriptor is an error while the client is there. -/
theorem abandoned_negative {final : Int32} (sane : update.sane = true)
    (reason : final = - EIO ∨ final = -EPROTO ∨ final = -EINVAL ∨
      (∃ errno, update.fails errno ∧ final = -errno) ∨
      (taskConnected rt task = false ∧ final = res))
    (connected : taskConnected rt task = true) : final < 0 := by
  rcases reason with lost | confused | invalid | ⟨errno, failed, given⟩ | ⟨apart, -⟩
  · rw [lost]
    decide
  · rw [confused]
    decide
  · rw [invalid]
    decide
  · rw [given]
    apply neg_of_positive
    cases update with
    | failed error =>
        cases failed
        exact of_decide_eq_true sane
    | updated count => exact failed.elim
  · rw [connected] at apart
    cases apart

/-- A resource id that may be a result keeps its value as one. -/
theorem toInt_resultResourceId (valid : resultIdInvalid task = false) :
    task.resultResourceId.toInt32.toInt = task.resultResourceId.toNat := by
  simp only [resultIdInvalid, Bool.or_eq_false_iff, decide_eq_false_iff_not, UInt32.not_lt] at valid
  have most := UInt32.le_iff_toNat_le.mp valid.2
  have bound : (2147483647 : UInt32).toNat = 2147483647 := rfl
  change task.resultResourceId.toBitVec.toInt = _
  rw [BitVec.toInt_eq_toNat_of_lt (by
    change 2 * task.resultResourceId.toNat < 4294967296
    omega)]
  rfl

end Preparing

/-- A fixed read that succeeded sets the valid length of its buffer; reading the payload of
another completion leaves the state alone. -/
theorem readPayload_rt (task : TaskSlot) (res : Int32) (prepared : Preparation) :
    (readPayload task res prepared).rt = prepared.rt ∨
      ∃ slot, task.taskKind = .sockReadFixed ∧ task.bufferSlotIndex = some slot ∧ 0 ≤ res ∧
        (readPayload task res prepared).rt = prepared.rt.setClient task.clientIndex
          ((prepared.rt.clients task.clientIndex).setBufferSlot slot
            { (prepared.rt.clients task.clientIndex).bufferResources slot with
              validLength := res.toUInt32 }) := by
  unfold readPayload
  dsimp only
  split
  · split <;> exact Or.inl rfl
  · split <;> exact Or.inl rfl
  · rename_i kind
    split
    · exact Or.inl rfl
    · rename_i slot named
      split
      · by_cases success : 0 ≤ res
        · simp only [success, ↓reduceIte]
          split <;> exact Or.inr ⟨slot, kind, named, trivial, rfl⟩
        · simp only [success, ↓reduceIte]
          split <;> exact Or.inl rfl
      · exact Or.inl rfl
  · exact Or.inl rfl

/-- The state behind the counters and the trace event of a completion. -/
def settle (rt : Runtime) (task : TaskSlot) (taskIndex : Nat) (res : Int32) (now : UInt64) :
    Runtime :=
  let counted := countCompletion rt task
  (emitTraceEvent counted now
    { clientIndex := task.clientIndex
      eventKind := .completion
      taskKind := task.taskKind.toWire
      submitPriority := task.submitPriority
      taskId := task.taskId
      resourceId := tracedResource task res
      res
      credits := counted.availableCredits }).setTask taskIndex .cleared

/-- When a result slot is given up: unless its descriptor was registered. -/
def FileSlot.unused (file : FileSlot) : Bool := !file.registered || file.closing

/-- The helpers a completion runs through, for a task of an existing client. -/
theorem completeTask_parts {rt next : Runtime} {taskIndex : Nat} {res : Int32} {env : CompleteEnv}
    (client : (rt.tasks taskIndex).clientIndex < rt.limits.maxClients)
    (completed : completeTask rt taskIndex res env = .ok next) :
    ∃ prepared delivered first second final,
      Prepared rt (rt.tasks taskIndex) res env.register prepared ∧
      deliverCompletion (rt.tasks taskIndex) (readPayload (rt.tasks taskIndex) res prepared) =
        .ok delivered ∧
      releaseTaskFile delivered (rt.tasks taskIndex).clientIndex (rt.tasks taskIndex).fileSlotIndex
        FileSlot.closing env.releaseFile = .ok first ∧
      releaseTaskFile first (rt.tasks taskIndex).clientIndex
        (rt.tasks taskIndex).resultFileSlotIndex FileSlot.unused env.releaseResult = .ok second ∧
      releaseTaskBuffer second (rt.tasks taskIndex).clientIndex
        (rt.tasks taskIndex).bufferSlotIndex = .ok final ∧
      next = settle final (rt.tasks taskIndex) taskIndex prepared.record.res env.now ∧
      prepared = prepareCompletion rt (rt.tasks taskIndex) res env := by
  have prepared := prepareCompletion_prepared rt (rt.tasks taskIndex) res env
  unfold completeTask at completed
  simp only [client, ↓reduceIte] at completed
  obtain ⟨final, done, last⟩ := bind_ok completed
  unfold completeForClient at done
  obtain ⟨delivered, queued, rest⟩ := bind_ok done
  obtain ⟨first, file, rest⟩ := bind_ok rest
  obtain ⟨second, result, buffer⟩ := bind_ok rest
  cases last
  exact ⟨_, delivered, first, second, final, prepared, queued, file, result, buffer, rfl, rfl⟩

end Iouringd
