import Iouringd.Foundation.History
import Iouringd.Daemon.Identifiers
import Iouringd.Daemon.World

/-! # The order of resource ids

The ids a connection is given are drawn from a counter that is also put back when a
submission fails. As long as the counter has not wrapped, every id in use lies below it, so
the next draw returns the counter itself and the ids of the resources a connection creates
are strictly increasing.
-/

namespace Iouringd

open Foundation

/-- The id a slot carries, in use or not. -/
def Client.resourceIdAt (client : Client) : Nat ⊕ Nat → ResourceId
  | .inl slot => (client.fileResources slot).resourceId
  | .inr slot => (client.bufferResources slot).resourceId

/-- The slots of a client. -/
def Client.places (client : Client) : List (Nat ⊕ Nat) :=
  (List.range client.fileSlotLimit).map .inl ++ (List.range client.bufferSlotLimit).map .inr

/-- The ids a step puts in use: that of a registration, or of the slot an accepted ACCEPT or
OPENAT reserves. -/
def createdIds (client next : Client) : List ResourceId :=
  next.places.filterMap fun place =>
    if client.label place = none then next.label place else none

/-- The ids created on the connection of an entry, up to the step in which its counter
wrapped. -/
structure Issued where
  ids : Nat → List ResourceId
  wrapped : Nat → Bool

def Issued.none : Issued := ⟨fun _ => [], fun _ => false⟩

/-- The counter of an entry wraps in a step that leaves it lower than before. -/
def Issued.note (rt : Runtime) (_ : Action) (next : Runtime) (issued : Issued) : Issued where
  ids := fun index =>
    if opensAt rt next index then []
    else if issued.wrapped index ||
        decide ((next.clients index).nextResourceId < (rt.clients index).nextResourceId) then
      issued.ids index
    else issued.ids index ++ createdIds (rt.clients index) (next.clients index)
  wrapped := fun index =>
    !opensAt rt next index && (issued.wrapped index ||
      decide ((next.clients index).nextResourceId < (rt.clients index).nextResourceId))

section Clients

variable {client next : Client}

theorem Client.nodup_places (client : Client) : client.places.Nodup := by
  unfold places
  refine List.nodup_append.mpr ⟨?_, ?_, ?_⟩
  · exact List.nodup_range.map fun _ _ same => Sum.inl.inj same
  · exact List.nodup_range.map fun _ _ same => Sum.inr.inj same
  · intro left inLeft right inRight same
    obtain ⟨slot, -, isFile⟩ := List.mem_map.mp inLeft
    obtain ⟨other, -, isBuffer⟩ := List.mem_map.mp inRight
    rw [← isFile, ← isBuffer] at same
    cases same

theorem mem_createdIds {id : ResourceId} (member : id ∈ createdIds client next) :
    ∃ place, client.label place = none ∧ next.label place = some id := by
  obtain ⟨place, -, created⟩ := List.mem_filterMap.mp member
  split at created
  · rename_i unused
    exact ⟨place, unused, created⟩
  · cases created

/-- Giving ids up creates none. -/
theorem Shrinks.createdIds (shrinks : Shrinks client next) :
    Iouringd.createdIds client next = [] := by
  apply List.eq_nil_iff_forall_not_mem.mpr
  intro id member
  obtain ⟨place, unused, used⟩ := mem_createdIds member
  rw [gives_label (shrinks.labels place) used] at unused
  cases unused

/-- A draw creates at most the id that was drawn. -/
theorem Labels.mem_createdIds {place : Nat ⊕ Nat} (labels : Labels client next place)
    {id : ResourceId} (member : id ∈ Iouringd.createdIds client next) :
    id = (allocateResourceId client).1 := by
  obtain ⟨other, unused, used⟩ := Iouringd.mem_createdIds member
  by_cases here : other = place
  · rw [here, labels.fresh] at used
    exact (Option.some.inj used).symm
  · rw [gives_label (labels.labels other here) used] at unused
    cases unused

/-- Slots have different ids in use, so none is created twice. -/
theorem Labelled.nodup_createdIds (labelled : Labelled next) :
    (Iouringd.createdIds client next).Nodup := by
  refine List.Nodup.filterMap ?_ next.nodup_places
  intro first second id inFirst inSecond
  have used : ∀ place, id ∈ (if client.label place = none then next.label place else none) →
      next.label place = some id := by
    intro place member
    split at member
    · exact member
    · cases member
  exact labelled.distinct first second id (used first inFirst) (used second inSecond)

/-- Different ids that are all the same are one. -/
theorem pairwise_of_nodup_of_eq {ids : List ResourceId} {id : ResourceId} (nodup : ids.Nodup)
    (same : ∀ other ∈ ids, other = id) : ids.Pairwise (· < ·) := by
  cases ids with
  | nil => exact .nil
  | cons first rest =>
      cases rest with
      | nil => exact List.pairwise_singleton _ _
      | cons second rest =>
          have equal : first = second :=
            (same first List.mem_cons_self).trans
              (same second (List.mem_cons_of_mem _ List.mem_cons_self)).symm
          rw [List.nodup_cons, equal] at nodup
          exact absurd List.mem_cons_self nodup.1

/-- The counter is drawn when it is valid and not in use. -/
theorem allocateResourceId_counter (slots : 0 < client.fileSlotLimit + client.bufferSlotLimit)
    (valid : client.nextResourceId ≠ resourceIdInvalid)
    (unused : resourceIdInUse client client.nextResourceId = false) :
    allocateResourceId client = (client.nextResourceId,
      { client with nextResourceId := client.nextResourceId + 1 }) := by
  obtain ⟨attempts, counted⟩ := Nat.exists_eq_add_of_lt slots
  unfold allocateResourceId
  rw [counted, Nat.zero_add]
  unfold allocateAttempts
  have same : resourceIdInUse { client with nextResourceId := client.nextResourceId + 1 }
      client.nextResourceId = false := unused
  simp only [valid, same, Bool.false_eq_true, ↓reduceIte]

/-- An id in use labels a slot. -/
theorem label_of_inUse {id : ResourceId} (used : resourceIdInUse client id = true) :
    ∃ place, client.owns place ∧ client.label place = some id := by
  simp only [resourceIdInUse, Bool.or_eq_true, List.any_eq_true, List.mem_range, Bool.and_eq_true,
    beq_iff_eq, bne_iff_ne] at used
  rcases used with ⟨slot, below, held⟩ | ⟨slot, below, held⟩
  · refine ⟨.inl slot, below, FileSlot.label_eq_some.mpr ?_⟩
    rw [Bool.eq_false_iff, ne_eq, FileSlot.isFree_iff]
    rcases held with ⟨registered, named⟩ | ⟨named, busy⟩
    · refine ⟨fun free => ?_, named⟩
      rw [registered] at free
      cases free.1
    · refine ⟨fun free => ?_, named⟩
      rcases busy with flying | closing
      · exact flying free.2.2
      · rw [closing] at free
        cases free.2.1
  · refine ⟨.inr slot, below, BufferSlot.label_eq_some.mpr ?_⟩
    rw [Bool.eq_false_iff, ne_eq, BufferSlot.isFree_iff]
    rcases held with ⟨registered, named⟩ | ⟨named, busy⟩
    · refine ⟨fun free => ?_, named⟩
      rw [registered] at free
      cases free.1
    · refine ⟨fun free => ?_, named⟩
      rcases busy with flying | closing
      · exact flying free.2.2
      · rw [closing] at free
        cases free.2.1

end Clients

/-! ## Runs -/

/-- The ids created on a connection are increasing, and up to the wrap the counter lies above
them and above everything in use. -/
structure Ordered (client : Client) (ids : List ResourceId) (wrapped : Bool) : Prop where
  increasing : ids.Pairwise (· < ·)
  counter : wrapped = false → client.nextResourceId ≠ resourceIdInvalid
  below : wrapped = false → ∀ id ∈ ids, id < client.nextResourceId
  inUse : wrapped = false → ∀ place id, client.label place = some id → id < client.nextResourceId

section Steps

variable {client next : Client} {ids : List ResourceId}

/-- A connection starts with the counter at one. -/
theorem ordered_of_clear (clear : ∀ place, next.isClear place) (counter : next.nextResourceId = 1) :
    Ordered next [] false := by
  refine ⟨.nil, fun _ invalid => ?_, fun _ _ member => ?_, fun _ place id used => ?_⟩
  · rw [counter] at invalid
    cases invalid
  · cases member
  · rw [Client.label_of_isClear (clear place)] at used
    cases used

/-- The counter of a connection has wrapped, so nothing more is claimed. -/
theorem Ordered.wraps (ordered : Ordered client ids false) : Ordered next ids true :=
  ⟨ordered.increasing, nofun, nofun, nofun⟩

/-- Below the wrap a draw returns the counter. -/
theorem Ordered.drawn {place : Nat ⊕ Nat} (ordered : Ordered client ids false)
    (labels : Labels client next place) :
    (allocateResourceId client).1 = client.nextResourceId ∧
      (allocateResourceId client).2.nextResourceId = client.nextResourceId + 1 := by
  have slots : 0 < client.fileSlotLimit + client.bufferSlotLimit := by
    have within := labels.within
    cases place with
    | inl slot =>
        change slot < client.fileSlotLimit at within
        omega
    | inr slot =>
        change slot < client.bufferSlotLimit at within
        omega
  have unused : resourceIdInUse client client.nextResourceId = false := by
    rw [Bool.eq_false_iff]
    intro used
    obtain ⟨other, -, named⟩ := label_of_inUse used
    exact UInt32.lt_irrefl _ (ordered.inUse rfl other _ named)
  rw [allocateResourceId_counter slots (ordered.counter rfl) unused]
  exact ⟨rfl, rfl⟩

/-- A step in which the counter does not go down keeps the order. -/
theorem Ordered.relabelled (ordered : Ordered client ids false) (labelled : Labelled next)
    (relabelled : Relabelled client next) (upwards : client.nextResourceId ≤ next.nextResourceId) :
    Ordered next (ids ++ createdIds client next) false := by
  have higher : ∀ id, id < client.nextResourceId → id < next.nextResourceId :=
    fun id below => UInt32.lt_of_lt_of_le below upwards
  have positive : next.nextResourceId ≠ resourceIdInvalid := by
    intro invalid
    rw [invalid] at upwards
    exact ordered.counter rfl (UInt32.le_zero_iff.mp upwards)
  cases relabelled with
  | shrunk shrinks counter =>
      rw [shrinks.createdIds, List.append_nil]
      refine ⟨ordered.increasing, fun _ => positive, fun _ id member => ?_,
        fun _ place id used => ?_⟩
      · exact higher id (ordered.below rfl id member)
      · exact higher id (ordered.inUse rfl place id (gives_label (shrinks.labels place) used))
  | drawn place labels counter =>
      obtain ⟨drawn, stepped⟩ := ordered.drawn labels
      have last : client.nextResourceId < next.nextResourceId := by
        rw [counter, stepped] at upwards ⊢
        apply UInt32.lt_of_le_of_ne upwards
        intro same
        have wide := congrArg UInt32.toNat same
        have bound := client.nextResourceId.toNat_lt
        rw [UInt32.toNat_add] at wide
        change _ = (_ + 1) % _ at wide
        omega
      have fresh : ∀ id ∈ createdIds client next, id = client.nextResourceId :=
        fun id member => (labels.mem_createdIds member).trans drawn
      refine ⟨?_, fun _ => positive, fun _ id member => ?_, fun _ other id used => ?_⟩
      · refine List.pairwise_append.mpr ⟨ordered.increasing,
          pairwise_of_nodup_of_eq labelled.nodup_createdIds fresh, ?_⟩
        intro earlier old later new
        rw [fresh later new]
        exact ordered.below rfl earlier old
      · rcases List.mem_append.mp member with old | new
        · exact higher id (ordered.below rfl id old)
        · rw [fresh id new]
          exact last
      · by_cases here : other = place
        · rw [here, labels.fresh, drawn] at used
          rw [← Option.some.inj used]
          exact last
        · exact higher id
            (ordered.inUse rfl other id (gives_label (labels.labels other here) used))
  | emptied clear counter =>
      have nothing : createdIds client next = [] := by
        apply List.eq_nil_iff_forall_not_mem.mpr
        intro id member
        obtain ⟨place, -, used⟩ := mem_createdIds member
        rw [Client.label_of_isClear (clear place)] at used
        cases used
      rw [nothing, List.append_nil]
      refine ⟨ordered.increasing, fun _ => positive, fun _ id member => ?_,
        fun _ place id used => ?_⟩
      · exact higher id (ordered.below rfl id member)
      · rw [Client.label_of_isClear (clear place)] at used
        cases used

/-- Until then the counter goes down only behind its largest value. -/
theorem Ordered.falls (ordered : Ordered client ids false) (relabelled : Relabelled client next)
    (stays : client.isActive = true ∨ next.isActive = false)
    (falls : next.nextResourceId < client.nextResourceId) :
    client.nextResourceId.toNat = 2 ^ 32 - 1 := by
  have unused : resourceIdInUse client client.nextResourceId = false := by
    rw [Bool.eq_false_iff]
    intro used
    obtain ⟨other, -, named⟩ := label_of_inUse used
    exact UInt32.lt_irrefl _ (ordered.inUse rfl other _ named)
  -- A draw moves the counter by one, or not at all when there are no slots.
  have draws : (allocateResourceId client).1 = resourceIdInvalid ∧
        (allocateResourceId client).2.nextResourceId = client.nextResourceId ∨
      (allocateResourceId client).1 = client.nextResourceId ∧
        (allocateResourceId client).2.nextResourceId = client.nextResourceId + 1 := by
    by_cases slots : 0 < client.fileSlotLimit + client.bufferSlotLimit
    · rw [allocateResourceId_counter slots (ordered.counter rfl) unused]
      exact Or.inr ⟨rfl, rfl⟩
    · unfold allocateResourceId
      rw [Nat.eq_zero_of_not_pos slots]
      exact Or.inl ⟨rfl, rfl⟩
  have kept : next.nextResourceId ≠ client.nextResourceId := by
    intro same
    rw [same] at falls
    exact UInt32.lt_irrefl _ falls
  have moved : next.nextResourceId = (allocateResourceId client).2.nextResourceId →
      client.nextResourceId.toNat = 2 ^ 32 - 1 := by
    intro counter
    rcases draws with ⟨-, same⟩ | ⟨-, same⟩
    · exact absurd (counter.trans same) kept
    · rw [counter, same, UInt32.lt_iff_toNat_lt, UInt32.toNat_add] at falls
      have bound := client.nextResourceId.toNat_lt
      change (_ + 1) % _ < _ at falls
      omega
  cases relabelled with
  | shrunk shrinks counter =>
      cases counter with
      | kept same => exact absurd same kept
      | moved same => exact moved same
      | returned valid same =>
          rcases draws with ⟨invalid, -⟩ | ⟨drawn, -⟩
          · exact absurd invalid valid
          · exact absurd (same.trans drawn) kept
  | drawn place labels counter => exact moved counter
  | emptied clear counter opens =>
      rcases stays with active | inactive
      · rw [opens.1] at active
        cases active
      · rw [opens.2] at inactive
        cases inactive

end Steps

/-- Ids are valid and distinct where they are in use, and ordered. -/
structure Numbering (config : Config) (state : Runtime × Issued) : Prop where
  invariant : Invariant config state.1
  labelled : ∀ index, Labelled (state.1.clients index)
  ordered : ∀ index, Ordered (state.1.clients index) (state.2.ids index) (state.2.wrapped index)

section Runs

variable {config : Config} {state next : Runtime × Issued} {action : Action}

theorem Numbering.initial (config : Config) : Numbering config (Runtime.initial config, .none) := by
  have clear : ∀ index place, ((Runtime.initial config).clients index).isClear place := by
    rintro index (slot | slot)
    · rfl
    · rfl
  exact ⟨.initial config, fun index => labelled_of_clear (clear index), fun index =>
    ordered_of_clear (clear index) rfl⟩

theorem Numbering.stepped (numbering : Numbering config state)
    (taken : recorded step Issued.note state action = .ok next) : Numbering config next := by
  obtain ⟨stepped, noted⟩ := recorded_ok taken
  have invariant := numbering.invariant.stepped stepped
  have relabelled := numbering.invariant.step_relabelled stepped
  have labelled : ∀ index, Labelled (next.1.clients index) := fun index =>
    (numbering.labelled index).relabelled (relabelled index)
  refine ⟨invariant, labelled, ?_⟩
  intro index
  have ordered := numbering.ordered index
  rw [noted]
  simp only [Issued.note]
  by_cases opens : opensAt state.1 next.1 index = true
  · obtain ⟨fd, -, entry⟩ :=
      (step_clients numbering.invariant.grounded stepped index).entry_of_opens opens
    simp only [opens, ↓reduceIte, Bool.not_true, Bool.false_and]
    rw [entry]
    refine ordered_of_clear ?_ rfl
    rintro (slot | slot)
    · rfl
    · rfl
  · rw [Bool.not_eq_true] at opens
    simp only [opens, Bool.false_eq_true, ↓reduceIte, Bool.not_false, Bool.true_and]
    cases before : state.2.wrapped index with
    | true =>
        simp only [Bool.true_or, ↓reduceIte]
        exact ⟨ordered.increasing, nofun, nofun, nofun⟩
    | false =>
        rw [before] at ordered
        by_cases wraps : (next.1.clients index).nextResourceId <
            (state.1.clients index).nextResourceId
        · simp only [wraps, decide_true, Bool.or_true, ↓reduceIte]
          exact ordered.wraps
        · simp only [wraps, decide_false, Bool.or_self, Bool.false_eq_true, ↓reduceIte]
          exact ordered.relabelled (labelled index) (relabelled index) (UInt32.not_lt.mp wraps)

/-- In every reachable state the ids that are in use in a client (of slots that are
registered, closing or in flight) are valid and pairwise distinct over both tables, every
free slot carries the invalid id, and the ids of the resources created on a connection are
strictly increasing until its counter wraps, which it does only behind its largest value. -/
theorem resource_ids_unambiguous {actions : List Action}
    (ran : run (recorded step Issued.note) (Runtime.initial config, .none) actions = .ok state)
    (index : Nat) :
    (∀ place id, (state.1.clients index).label place = some id → id ≠ resourceIdInvalid) ∧
    (∀ first second id, (state.1.clients index).label first = some id →
      (state.1.clients index).label second = some id → first = second) ∧
    (∀ place, (state.1.clients index).label place = none →
      (state.1.clients index).resourceIdAt place = resourceIdInvalid) ∧
    (state.2.ids index).Pairwise (· < ·) ∧
    ∀ action next, step state.1 action = .ok next → opensAt state.1 next index = false →
      state.2.wrapped index = false →
      (next.clients index).nextResourceId < (state.1.clients index).nextResourceId →
      (state.1.clients index).nextResourceId.toNat = 2 ^ 32 - 1 := by
  have numbering := @run_preserves _ _ _ _ _ state actions (Numbering config)
    (fun _ _ _ _ holds taken => holds.stepped taken) (.initial config) ran
  have labelled := numbering.labelled index
  refine ⟨labelled.valid, labelled.distinct, ?_, (numbering.ordered index).increasing, ?_⟩
  · intro place unused
    have clear := labelled.tidy place unused
    cases place with
    | inl slot =>
        change ((state.1.clients index).fileResources slot).resourceId = _
        rw [show (state.1.clients index).fileResources slot = .cleared from clear]
        rfl
    | inr slot =>
        change ((state.1.clients index).bufferResources slot).resourceId = _
        rw [show (state.1.clients index).bufferResources slot = .cleared from clear]
        rfl
  · intro action next stepped stays unwrapped falls
    have ordered := numbering.ordered index
    rw [unwrapped] at ordered
    refine ordered.falls (numbering.invariant.step_relabelled stepped index) ?_ falls
    simp only [opensAt, Bool.and_eq_false_iff, Bool.not_eq_false'] at stays
    exact stays

end Runs

/-- A client registers a buffer and opens a file; the first attempt fails in the ring and
returns its id. Then it registers another buffer in place of the first. -/
def numbered : List Action :=
  joining 0 7 ++
    requesting 0 (RegisterBufferRequest.encode ⟨requestHeader .registerBuffer, 1, 0⟩ ++ [5])
      .smooth ++
    requesting 0 (OpenatRequest.encode ⟨requestHeader .openat, 0, 0, 2⟩ ++ [47, 0])
      { DispatchEnv.smooth with enter := .failed EAGAIN } ++
    requesting 0 (OpenatRequest.encode ⟨requestHeader .openat, 0, 0, 2⟩ ++ [47, 0]) .smooth ++
    requesting 0 (ResourceRequest.encode ⟨requestHeader .releaseResource, 1, 0⟩) .smooth ++
    requesting 0 (RegisterBufferRequest.encode ⟨requestHeader .registerBuffer, 1, 0⟩ ++ [5])
      .smooth

/-- Three resources were created, under the ids one, two and three. -/
theorem resource_ids_numbered :
    ∃ state, run (recorded step Issued.note)
        (Runtime.initial (.small 2 (by decide) (by decide)), .none) numbered = .ok state ∧
      state.2.ids 0 = [1, 2, 3] ∧ (state.2.ids 0).Pairwise (· < ·) := by
  have seen : ((run (recorded step Issued.note)
      (Runtime.initial (.small 2 (by decide) (by decide)), .none) numbered).toOption.map
        fun state => state.2.ids 0) = some [1, 2, 3] := by decide +kernel
  obtain ⟨state, ran, ids⟩ := exists_of_toOption_map seen
  exact ⟨state, ran, ids, (resource_ids_unambiguous ran 0).2.2.2.1⟩

end Iouringd
