import Iouringd.Daemon.Ownership
import Iouringd.Daemon.Storage

/-! # Earlier owners of a buffer

Whatever earlier registrations left in the storage is not seen again, as long as no
`io_uring_enter` fails: the valid bytes of a registered buffer were written since it was
registered, by its payload or by fixed reads of its client, and runs that differ in the bytes
left over go the same way. With a failing `io_uring_enter` a submission that was rejected is
carried out later and its result is taken for that of a fixed read, which sends a client the
bytes of another one.
-/

namespace Iouringd

open Foundation

/-- The other memory holds the same bytes where they are a registered slot's own. What is
different was left over from earlier registrations. -/
def SameOwn (state : Runtime × Provenance) (other : Memory) : Prop :=
  ∀ index slot, ((state.1.clients index).bufferResources slot).registered = true →
    ∀ offset < state.1.limits.ioBytesMax,
      state.2.Own state.1 index slot (bufferStorageAt state.1 index slot + offset) →
        other (bufferStorageAt state.1 index slot + offset) =
          state.1.registeredBufferStorage (bufferStorageAt state.1 index slot + offset)

/-- The bytes a fixed write sends. -/
def Runtime.sentBytes (rt : Runtime) (taskIndex slot : Nat) : List UInt8 :=
  rt.registeredBufferStorage.read (bufferStorageAt rt (rt.tasks taskIndex).clientIndex slot)
    (rt.tasks taskIndex).ioLength.toNat

section Twins

variable {config : Config} {rt next : Runtime} {provenance : Provenance} {other : Memory}
  {action : Action} {index slot : Nat}

/-- Bytes that are covered read the same. -/
theorem SameOwn.read {length : Nat} (same : SameOwn (rt, provenance) other)
    (covers : provenance.Covers rt index slot length)
    (registered : ((rt.clients index).bufferResources slot).registered = true)
    (fits : length ≤ rt.limits.ioBytesMax) :
    other.read (bufferStorageAt rt index slot) length =
      rt.registeredBufferStorage.read (bufferStorageAt rt index slot) length := by
  refine Memory.read_congr fun offset below => ?_
  exact same index slot registered offset (Nat.lt_of_lt_of_le below fits) (covers offset below)

/-- The completion of a fixed read carries bytes that are covered. -/
theorem SameOwn.payload {taskIndex : Nat} {res : Int32} (same : SameOwn (rt, provenance) other)
    (sourced : Sourced config (rt, provenance)) (clean : action.clean = true)
    (completing : rt.completing action = some (taskIndex, res)) :
    SamePayload rt other taskIndex res := by
  intro kind slot named positive
  have held : rt.occupied taskIndex = true ∧
      ∃ ring, CompletionSource rt taskIndex res ring action := by
    cases action with
    | reap env =>
        simp only [Runtime.completing, Option.bind_eq_some_iff, Option.map_eq_some_iff,
          Prod.mk.injEq] at completing
        obtain ⟨cqe, peeked, _, found, rfl, rfl⟩ := completing
        obtain ⟨below, active⟩ := firstBelow_some found
        rw [Bool.and_eq_true] at active
        refine ⟨occupied_iff.mpr ⟨below, active.1⟩, (ringPeekCompletion rt.ring).1, cqe, ?_, found,
          rfl⟩
        rw [← peeked]
    | complete => cases clean
    | _ => cases completing
  obtain ⟨occupied, ring, source⟩ := held
  have counted := sourced.completed_le clean occupied source kind (Int32.le_of_lt positive)
  have short : res.toUInt32.toUInt16.toNat ≤
      provenance.stored (rt.tasks taskIndex).taskId := by
    rw [UInt32.toNat_toUInt16]
    exact Nat.le_trans (Nat.mod_le _ _) counted
  refine same.read ?_ (sourced.task_registered occupied named)
    (Nat.le_trans short (sourced.stored_le occupied kind named))
  intro offset below
  exact (sourced.reading taskIndex slot occupied kind named).2 offset
    (Nat.lt_of_lt_of_le below short)

/-- The bytes of active fixed writes are the same. -/
theorem SameOwn.sentBytes {taskIndex : Nat} (same : SameOwn (rt, provenance) other)
    (sourced : Sourced config (rt, provenance)) (occupied : rt.occupied taskIndex = true)
    (kind : (rt.tasks taskIndex).taskKind = .sockWriteFixed)
    (named : (rt.tasks taskIndex).bufferSlotIndex = some slot) :
    (rt.withStorage other).sentBytes taskIndex slot = rt.sentBytes taskIndex slot := by
  obtain ⟨fits, covers⟩ := sourced.sending taskIndex slot occupied kind named
  exact same.read covers (sourced.task_registered occupied named) fits

/-- A byte that is a slot's own after an action was before, or belongs to the payload of a
registration. -/
theorem Sourced.own_before {offset : Nat} (sourced : Sourced config (rt, provenance))
    (taken : step rt action = .ok next)
    (daemon : ∀ offset bytes, action ≠ .store (.storage offset bytes))
    (registered : ((next.clients index).bufferResources slot).registered = true)
    (own : (provenance.note rt (.act action) next).Own next index slot offset) :
    (∃ client free env, action = .dispatch client env ∧
      registeredSlot rt next client = some free ∧ bufferStorageAt rt client free ≤ offset ∧
      offset < bufferStorageAt rt client free + (rt.clients client).ioLength.toNat) ∨
    (((rt.clients index).bufferResources slot).registered = true ∧
      provenance.Own rt index slot offset) := by
  have fate := step_buffers sourced.reachable.invariant.grounded taken registered
  obtain ⟨write, last, after, writer⟩ := own
  rcases provenance.note_act rt next action daemon with
    ⟨same, nothing⟩ | ⟨client, env, free, dispatch, fresh, same⟩
  · right
    rw [same] at last after
    cases fate with
    | kept kept =>
        rw [kept.generation] at writer
        exact ⟨kept.registered, write, last, after, writer⟩
    | registered env dispatch connected ready operation found length =>
        have none := nothing index env dispatch
        rw [registeredSlot, found, Option.filter_some, if_pos registered] at none
        cases none
    | filled taskIndex res ring occupied source kind own named success before generation length =>
        rw [generation] at writer
        exact ⟨before, write, last, after, writer⟩
  · subst dispatch
    rw [same] at last after
    change (if _ then _ else _) = some write at last
    change Function.update provenance.since client _ index slot ≤ write.time at after
    by_cases inside : bufferStorageAt rt client free ≤ offset ∧
        offset < bufferStorageAt rt client free + (rt.clients client).ioLength.toNat
    · exact .inl ⟨client, free, env, rfl, fresh, inside⟩
    · right
      rw [if_neg inside] at last
      have early := sourced.marked offset write last
      -- a slot registered just now has no older bytes
      have apart : index ≠ client ∨ slot ≠ free := by
        by_contra both
        simp only [not_or, not_not] at both
        obtain ⟨rfl, rfl⟩ := both
        rw [Function.update_self, Function.update_self] at after
        exact absurd early (Nat.not_lt.mpr after)
      have since : Function.update provenance.since client
          (Function.update (provenance.since client) free provenance.clock) index slot =
            provenance.since index slot := by
        by_cases here : index = client
        · subst here
          rw [Function.update_self]
          exact Function.update_of_ne (apart.resolve_left (not_not.mpr rfl)) _ _
        · rw [Function.update_of_ne here]
      rw [since] at after
      cases fate with
      | kept kept =>
          rw [kept.generation] at writer
          exact ⟨kept.registered, write, last, after, writer⟩
      | registered _ dispatch connected ready operation found length =>
          cases dispatch
          have taken := (Option.filter_eq_some_iff.mp fresh).1
          rw [found] at taken
          cases taken
          exact absurd rfl (apart.resolve_left (not_not.mpr rfl))
      | filled taskIndex res ring occupied source => cases source

/-- An action goes the same way on the other memory. -/
theorem SameOwn.acted (same : SameOwn (rt, provenance) other)
    (sourced : Sourced config (rt, provenance))
    (fills : kernelFills (rt, provenance) (.act action) = true) (clean : action.clean = true)
    (taken : step rt action = .ok next) :
    ∃ last, step (rt.withStorage other) action = .ok (next.withStorage last) ∧
      SameOwn (next, provenance.note rt (.act action) next) last := by
  have daemon : ∀ offset bytes, action ≠ .store (.storage offset bytes) := by
    rintro offset bytes rfl
    cases fills
  have limits := (step_shape sourced.reachable.invariant.grounded taken).constants.1
  have place := @Reachable.bufferStorageAt_stepped config rt next action
  have twins := @step_twins other rt action fun _ _ => same.payload sourced clean
  obtain ⟨nextTwin, twinTaken, both⟩ := twins.succeeds taken
  cases both with
  | apart twins _ slots =>
      obtain ⟨storage, rfl⟩ := twins
      refine ⟨other, twinTaken, ?_⟩
      intro index slot registered offset small own
      dsimp only at registered small own ⊢
      rw [place sourced.reachable taken] at own ⊢
      rw [limits] at small
      rw [storage]
      rcases sourced.own_before taken daemon registered own with
        ⟨client, free, env, dispatch, fresh, -⟩ | ⟨before, own⟩
      · -- a registration that is refused registers nothing
        subst dispatch
        have registration := sourced.reachable.invariant.registeredSlot taken fresh
        have unused := registration.free
        have new := (Option.filter_eq_some_iff.mp fresh).2
        rw [slots client env rfl registration.operation] at new
        simp only [BufferSlot.isFree, new, Bool.not_true, Bool.false_and,
          Bool.false_eq_true] at unused
      · exact same index slot before offset small own
  | registered client free env dispatch found twins =>
      obtain ⟨storage, rfl⟩ := twins
      refine ⟨_, twinTaken, ?_⟩
      intro index slot registered offset small own
      dsimp only at registered small own ⊢
      rw [place sourced.reachable taken] at own ⊢
      rw [limits] at small
      rw [storage]
      by_cases inside : bufferStorageAt rt client free ≤ bufferStorageAt rt index slot + offset ∧
          bufferStorageAt rt index slot + offset <
            bufferStorageAt rt client free + (rt.clients client).ioLength.toNat
      · apply Memory.write_inside _ _ _ _ _
        rw [Memory.length_read]
        exact inside
      · have outside : bufferStorageAt rt index slot + offset < bufferStorageAt rt client free ∨
            bufferStorageAt rt client free +
              ((rt.clients client).ioPayload.read 0 (rt.clients client).ioLength.toNat).length ≤
                bufferStorageAt rt index slot + offset := by
          rw [Memory.length_read]
          omega
        rw [Memory.write_outside _ _ _ _ outside, Memory.write_outside _ _ _ _ outside]
        rcases sourced.own_before taken daemon registered own with
          ⟨also, spare, calls, again, fresh, covered⟩ | ⟨before, own⟩
        · rw [dispatch] at again
          cases again
          have first := (Option.filter_eq_some_iff.mp fresh).1
          rw [found] at first
          cases first
          exact absurd covered inside
        · exact same index slot before offset small own
  | stored offset bytes kernel => exact absurd kernel (daemon offset bytes)

/-- So does the kernel when it stores the bytes of a fixed read. -/
theorem SameOwn.fetched {taskIndex : Nat} {data : List UInt8} {later : Provenance}
    (same : SameOwn (rt, provenance) other)
    (fetches : Fetches rt provenance taskIndex slot data later) :
    SameOwn (rt.stored (.storage
        (bufferStorageAt rt (rt.tasks taskIndex).clientIndex slot) data), later)
      (other.write (bufferStorageAt rt (rt.tasks taskIndex).clientIndex slot) data) := by
  intro index held registered offset small own
  change ((rt.clients index).bufferResources held).registered = true at registered
  change later.Own rt index held (bufferStorageAt rt index held + offset) at own
  change (other.write _ data) (bufferStorageAt rt index held + offset) =
    (rt.registeredBufferStorage.write _ data) (bufferStorageAt rt index held + offset)
  by_cases inside : bufferStorageAt rt (rt.tasks taskIndex).clientIndex slot ≤
      bufferStorageAt rt index held + offset ∧ bufferStorageAt rt index held + offset <
        bufferStorageAt rt (rt.tasks taskIndex).clientIndex slot + data.length
  · exact Memory.write_inside _ _ _ _ _ inside
  · rw [Memory.write_outside _ _ _ _ (by omega), Memory.write_outside _ _ _ _ (by omega)]
    refine same index held registered offset small (own.kept ?_ rfl ?_)
    · rw [fetches.since]
    · rw [fetches.mark]
      exact (if_neg inside).symm

/-- Every move goes the same way on the other memory. -/
theorem SameOwn.moved {move : ReadMove} {state after : Runtime × Provenance}
    (same : SameOwn state other) (sourced : Sourced config state)
    (fills : kernelFills state move = true) (enters : move.enters = true)
    (taken : recorded readStep Provenance.note state move = .ok after) :
    ∃ last, recorded readStep Provenance.note (state.1.withStorage other, state.2) move =
        .ok (after.1.withStorage last, after.2) ∧ SameOwn after last := by
  obtain ⟨rt, provenance⟩ := state
  obtain ⟨next, final⟩ := after
  obtain ⟨moved, noted⟩ := recorded_ok taken
  dsimp only at moved noted
  subst noted
  -- the history is that of the clients and the tasks, not of the memory
  have finish : ∀ last, readStep (rt.withStorage other) move = .ok (next.withStorage last) →
      provenance.note (rt.withStorage other) move (next.withStorage last) =
        provenance.note rt move next →
      recorded readStep Provenance.note (rt.withStorage other, provenance) move =
        .ok (next.withStorage last, provenance.note rt move next) := by
    intro last twin history
    unfold recorded
    rw [twin]
    exact congrArg (fun history => Except.ok (next.withStorage last, history)) history
  cases move with
  | act action =>
      have clean : action.clean = true := by
        cases action with
        | dispatch index env => exact enters
        | complete taskIndex res env => cases fills
        | _ => rfl
      obtain ⟨last, twin, own⟩ := same.acted sourced fills clean moved
      exact ⟨last, finish last twin rfl, own⟩
  | fetch position data =>
      have fetchTwin : fetchAt (rt.withStorage other) position data = fetchAt rt position data :=
        rfl
      simp only [readStep] at moved
      cases fetching : fetchAt rt position data with
      | none =>
          rw [fetching] at moved
          cases moved
          refine ⟨other, finish other ?_ rfl, ?_⟩
          · simp only [readStep, fetchTwin, fetching]
          · rw [provenance.note_fetch_none fetching]
            exact same
      | some found =>
          obtain ⟨sqe, store⟩ := found
          rw [fetching] at moved
          cases moved
          simp only [kernelFills, fetching, decide_eq_true_eq] at fills
          cases store with
          | storage offset bytes =>
              obtain ⟨rfl, taskIndex, slot, rfl, fetches⟩ := sourced.fetches fetching fills
              refine ⟨_, finish _ ?_ ?_, same.fetched fetches⟩
              · simp only [readStep, fetchTwin, fetching]
                rfl
              · rfl
          | ioBuffer taskIndex bytes =>
              refine ⟨other, finish other ?_ rfl, ?_⟩
              · simp only [readStep, fetchTwin, fetching]
                rfl
              · rw [provenance.note_fetch_task fetching (by rintro _ _ ⟨⟩)]
                exact same
          | sockaddrLength taskIndex length =>
              refine ⟨other, finish other ?_ rfl, ?_⟩
              · simp only [readStep, fetchTwin, fetching]
                rfl
              · rw [provenance.note_fetch_task fetching (by rintro _ _ ⟨⟩)]
                exact same

end Twins

/-- In every run in which no `io_uring_enter` that a dispatch makes fails, the valid bytes of
every registered buffer were last written since it was registered, by the payload of the
registration or by a fixed read of its client. If the memory differs only in other bytes, the
run that follows is the same but for such bytes: the same replies and completions with the same
payloads are queued, and every active fixed write sends the same bytes. -/
theorem buffers_not_disclosed (config : Config) (moves : List ReadMove)
    (state : Runtime × Provenance)
    (ran : run (recorded readStep Provenance.note) (Runtime.initial config, .initial) moves =
      .ok state)
    (kernel : Along (recorded readStep Provenance.note)
      (fun state move => kernelFills state move = true) (Runtime.initial config, .initial) moves)
    (entered : ∀ move ∈ moves, move.enters = true) :
    (∀ index slot, ((state.1.clients index).bufferResources slot).registered = true →
      state.2.Covers state.1 index slot
        ((state.1.clients index).bufferResources slot).validLength.toNat) ∧
    ∀ other, SameOwn state other → ∀ more final,
      run (recorded readStep Provenance.note) state more = .ok final →
      Along (recorded readStep Provenance.note)
        (fun state move => kernelFills state move = true) state more →
      (∀ move ∈ more, move.enters = true) →
      ∃ last, run (recorded readStep Provenance.note) (state.1.withStorage other, state.2) more =
          .ok (final.1.withStorage last, final.2) ∧
        SameOwn final last ∧
        ∀ taskIndex slot, final.1.occupied taskIndex = true →
          (final.1.tasks taskIndex).taskKind = .sockWriteFixed →
          (final.1.tasks taskIndex).bufferSlotIndex = some slot →
          (final.1.withStorage last).sentBytes taskIndex slot =
            final.1.sentBytes taskIndex slot := by
  have sourced : Sourced config state := by
    refine (kernel.with_mem entered).preserves ?_ (Sourced.initial config) ran
    intro before move after condition holds taken
    exact holds.moved condition.1 condition.2 taken
  refine ⟨sourced.valid, ?_⟩
  intro other same more final continued fills enters
  obtain ⟨twin, taken, still, last, rfl, own⟩ := @run_simulated _ _ _ _
    (recorded readStep Provenance.note) (recorded readStep Provenance.note) _
    (fun state twin => Sourced config state ∧
      ∃ last, twin = (state.1.withStorage last, state.2) ∧ SameOwn state last) state final
    (state.1.withStorage other, state.2) more (fills.with_mem enters) (by
      rintro before _ move after condition ⟨holds, memory, rfl, own⟩ taken
      obtain ⟨last, twin, kept⟩ := own.moved holds condition.1 condition.2 taken
      exact ⟨_, twin, holds.moved condition.1 condition.2 taken, last, rfl, kept⟩)
    ⟨sourced, other, rfl, same⟩ continued
  refine ⟨last, taken, own, ?_⟩
  intro taskIndex slot occupied kind named
  exact own.sentBytes still occupied kind named

/-- A client registers a buffer with its bytes and leaves. -/
def leavingBytes (payload : List UInt8) : List Action :=
  joining 0 7 ++
    requesting 0 (RegisterBufferRequest.encode
      ⟨requestHeader .registerBuffer, UInt32.ofNat payload.length, 0⟩ ++ payload) .smooth ++
    [.disconnect 0, .sweep fun _ _ => .updated 1]

/-- The next client has a file and a buffer of which nothing is valid. -/
def joiningEmpty : List Action :=
  joining 0 8 ++
    [.input 0 [.data (requestHeader .registerFd).encode [⟨true, [9]⟩] false],
      .dispatch 0 .smooth] ++
    requesting 0 (RegisterBufferRequest.encode ⟨requestHeader .registerBuffer, 0, 0⟩) .smooth

/-- It reads two bytes into the buffer and sends them. -/
def readingThenSending : List ReadMove :=
  readingFixed.map .act ++ [.fetch 0 [1, 2], .act (.post 0 2), .act (.reap .smooth)] ++
    (requesting 0 (FixedRequest.encode ⟨requestHeader .sockWriteFixed, 1, 2, 2⟩) .smooth).map .act

/-- The buffer of the client that left two bytes, in the hands of the next one. -/
def reusedBuffer : List ReadMove :=
  (leavingBytes [0x5e, 0x5f] ++ joiningEmpty).map .act ++ readingThenSending

/-- The two valid bytes are those that were read, and they are what is sent. -/
theorem buffers_not_disclosed_reused :
    ∃ state, run (recorded readStep Provenance.note)
        (Runtime.initial (.small 2 (by decide) (by decide)), .initial) reusedBuffer = .ok state ∧
      state.1.sentBytes 0 0 = [1, 2] ∧ state.2.Covers state.1 0 0 2 ∧
      ∀ other, SameOwn state other → (state.1.withStorage other).sentBytes 0 0 = [1, 2] := by
  have seen : ((run (recorded readStep Provenance.note)
      (Runtime.initial (.small 2 (by decide) (by decide)), .initial) reusedBuffer).toOption.map
        fun state => decide (state.1.occupied 0 = true ∧
          (state.1.tasks 0).taskKind = .sockWriteFixed ∧
          (state.1.tasks 0).bufferSlotIndex = some 0 ∧
          ((state.1.clients 0).bufferResources 0).registered = true ∧
          ((state.1.clients 0).bufferResources 0).validLength = 2 ∧
          state.1.sentBytes 0 0 = [1, 2])) = some true := by decide +kernel
  obtain ⟨state, ran, view⟩ := exists_of_toOption_map seen
  obtain ⟨occupied, kind, named, registered, valid, sent⟩ := of_decide_eq_true view
  obtain ⟨covers, twins⟩ := buffers_not_disclosed _ _ state ran
    (along_of_checkAlong (by decide +kernel)) (by decide)
  have covered := covers 0 0 registered
  rw [valid] at covered
  refine ⟨state, ran, sent, covered, ?_⟩
  intro other same
  obtain ⟨last, stays, _, sends⟩ := twins other same [] state rfl trivial (by simp)
  rw [← sent, ← sends 0 0 occupied kind named]
  cases stays
  rfl

/-- The next client's POLL is turned down because `io_uring_enter` fails. Its fixed read takes
the id of the POLL, whose completion then comes first. -/
def pollTakenForRead : List ReadMove :=
  (joiningEmpty ++ requesting 0 (PollRequest.encode ⟨requestHeader .poll, 1, 1, 0⟩) .enterFails ++
    readingFixed).map .act ++ [.act (.post 0 1), .act (.reap .smooth)]

/-- The same daemon with another byte in the first place of the storage. -/
def Runtime.wiped (rt : Runtime) : Runtime :=
  rt.withStorage (rt.registeredBufferStorage.write 0 [0])

/-- The byte of the client that left becomes valid for the next one and is the payload of a
completion. If the client left another byte, the completion has another payload. -/
theorem rejected_poll_discloses :
    ∃ state final twin,
      run (recorded readStep Provenance.note)
        (Runtime.initial (.small 2 (by decide) (by decide)), .initial)
          ((leavingBytes [0x5e]).map .act) = .ok state ∧
      run (recorded readStep Provenance.note) state pollTakenForRead = .ok final ∧
      Along (recorded readStep Provenance.note)
        (fun state move => kernelFills state move = true)
        (Runtime.initial (.small 2 (by decide) (by decide)), .initial)
          ((leavingBytes [0x5e]).map .act ++ pollTakenForRead) ∧
      ((final.1.clients 0).bufferResources 0).registered = true ∧
      ((final.1.clients 0).bufferResources 0).validLength = 1 ∧
      ¬ final.2.Covers final.1 0 0 1 ∧
      SameOwn state (state.1.registeredBufferStorage.write 0 [0]) ∧
      run (recorded readStep Provenance.note) (state.1.wiped, state.2) pollTakenForRead =
        .ok twin ∧
      (final.1.clients 0).pendingOutput.getLast? = some 0x5e ∧
      (twin.1.clients 0).pendingOutput.getLast? = some 0 := by
  have seen : ((do
      let state ← run (recorded readStep Provenance.note)
        (Runtime.initial (.small 2 (by decide) (by decide)), .initial)
          ((leavingBytes [0x5e]).map .act)
      let final ← run (recorded readStep Provenance.note) state pollTakenForRead
      let twin ← run (recorded readStep Provenance.note) (state.1.wiped, state.2) pollTakenForRead
      pure (state, final, twin)).toOption.map
        fun (runs : (Runtime × Provenance) × (Runtime × Provenance) × (Runtime × Provenance)) =>
          decide
            ((((runs.2.1.1.clients 0).bufferResources 0).registered = true ∧
              ((runs.2.1.1.clients 0).bufferResources 0).validLength = 1 ∧
              (runs.2.1.1.clients 0).pendingOutput.getLast? = some 0x5e ∧
              (runs.2.2.1.clients 0).pendingOutput.getLast? = some 0) ∧
            bufferStorageAt runs.2.1.1 0 0 = 0 ∧ (runs.2.1.2.mark 0).map Mark.time = some 3 ∧
              runs.2.1.2.since 0 0 = 11 ∧
            runs.1.1.limits.registeredBuffersPerClient = 1 ∧ runs.1.1.limits.ioBytesMax = 16 ∧
              ((runs.1.1.clients 0).bufferResources 0).registered = false)) = some true := by
    decide +kernel
  obtain ⟨⟨state, final, twin⟩, ran, view⟩ := exists_of_toOption_map seen
  obtain ⟨⟨registered, valid, payload, other⟩, place, mark, since, perClient, bytes, unused⟩ :=
    of_decide_eq_true view
  obtain ⟨_, left, ran⟩ := bind_ok ran
  obtain ⟨_, taken, ran⟩ := bind_ok ran
  obtain ⟨_, twinTaken, ran⟩ := bind_ok ran
  cases ran
  refine ⟨state, final, twin, left, taken, along_of_checkAlong (by decide +kernel), registered,
    valid, ?_, ?_, twinTaken, payload, other⟩
  · intro covers
    obtain ⟨write, last, after, -⟩ := covers 0 (by decide)
    rw [place] at last
    rw [last] at mark
    have early : write.time = 3 := Option.some.inj mark
    rw [since, early] at after
    exact absurd after (by decide)
  · -- the first place of the storage is in the first slot of the first client
    intro index slot held offset small own
    refine Memory.write_outside _ _ _ _ (.inr ?_)
    by_contra first
    rw [List.length_singleton] at first
    have start : bufferStorageAt state.1 index slot + offset = 0 := by omega
    unfold bufferStorageAt globalBufferIndex at start
    rw [perClient, bytes] at start
    have client : index = 0 := by omega
    have free : slot = 0 := by omega
    subst client free
    rw [unused] at held
    cases held

end Iouringd
