import Iouringd.Daemon.Accounting
import Iouringd.Daemon.Numbering

/-! # Drawing a resource id

`iouringd_allocate_resource_id` tries as many consecutive values of its counter as the client
has slots. A free slot leaves fewer ids in use than there are attempts, so one of them finds
an unused id, unless an attempt is lost on the invalid id 0: with a single free slot and all
other ids in use among the attempts, the allocation then fails.
-/

namespace Iouringd

open Foundation

/-- The values `iouringd_allocate_resource_id` may try, in order. -/
def candidateIds (client : Client) : List ResourceId :=
  (List.range (client.fileSlotLimit + client.bufferSlotLimit)).map fun attempt =>
    client.nextResourceId + UInt32.ofNat attempt

/-- The ids in use by the slots of a client. -/
def usedIds (client : Client) : List ResourceId := client.places.filterMap client.label

/-- The slots, of files and of buffers, that are free. -/
def freeSlots (client : Client) : Nat := availableFileSlots client + availableBufferSlots client

/-- The slot limits lie within the arrays, and the ids in use are distinct and valid. -/
structure SlotIds (client : Client) : Prop where
  files : client.fileSlotLimit ≤ maxRegisteredFds
  buffers : client.bufferSlotLimit ≤ maxRegisteredBuffers
  distinct : (usedIds client).Nodup
  valid : resourceIdInvalid ∉ usedIds client

/-- The invalid id is among the values to be tried, at most one slot is free, and every id in
use is to be tried as well. -/
def idsRunShort (client : Client) : Bool :=
  decide (resourceIdInvalid ∈ candidateIds client) && decide (freeSlots client ≤ 1) &&
    (usedIds client).all (candidateIds client).contains

/-! ## Counting -/

/-- A list without repetitions that is longer than a set lies in it and one extra value
exactly when it consists of the set and that value. -/
theorem covered_iff {α : Type*} [DecidableEq α] {tried : List α} {used : List α} {skipped : α}
    (nodup : tried.Nodup) (distinct : used.Nodup) (apart : skipped ∉ used)
    (longer : used.length < tried.length) :
    (∀ value ∈ tried, value = skipped ∨ value ∈ used) ↔
      skipped ∈ tried ∧ tried.length ≤ used.length + 1 ∧ ∀ value ∈ used, value ∈ tried := by
  have sizes : tried.toFinset.card = tried.length := List.toFinset_card_of_nodup nodup
  have counts : used.toFinset.card = used.length := List.toFinset_card_of_nodup distinct
  have extended : (insert skipped used.toFinset).card = used.length + 1 := by
    rw [Finset.card_insert_of_notMem (mt List.mem_toFinset.mp apart), counts]
  constructor
  · intro covered
    have inside : tried.toFinset ⊆ insert skipped used.toFinset := by
      intro value member
      rw [Finset.mem_insert, List.mem_toFinset]
      exact covered value (List.mem_toFinset.mp member)
    have all : tried.toFinset = insert skipped used.toFinset :=
      Finset.eq_of_subset_of_card_le inside (by omega)
    refine ⟨?_, ?_, fun value member => ?_⟩
    · rw [← List.mem_toFinset, all]
      exact Finset.mem_insert_self skipped _
    · rw [← sizes, all, extended]
    · rw [← List.mem_toFinset, all]
      exact Finset.mem_insert_of_mem (List.mem_toFinset.mpr member)
  · rintro ⟨tries, short, within⟩ value member
    have inside : insert skipped used.toFinset ⊆ tried.toFinset := by
      intro other inOther
      rw [Finset.mem_insert, List.mem_toFinset] at inOther
      rw [List.mem_toFinset]
      rcases inOther with same | inUsed
      · rw [same]
        exact tries
      · exact within other inUsed
    have all : insert skipped used.toFinset = tried.toFinset :=
      Finset.eq_of_subset_of_card_le inside (by omega)
    have present : value ∈ insert skipped used.toFinset := all ▸ List.mem_toFinset.mpr member
    rwa [Finset.mem_insert, List.mem_toFinset] at present

section Clients

variable {client : Client}

theorem mem_places {place : Nat ⊕ Nat} : place ∈ client.places ↔ client.owns place := by
  cases place with
  | inl slot => simp [Client.places, Client.owns]
  | inr slot => simp [Client.places, Client.owns]

/-- The list holds what `iouringd_resource_id_in_use` finds. -/
theorem mem_usedIds {id : ResourceId} : id ∈ usedIds client ↔ resourceIdInUse client id = true := by
  rw [usedIds, List.mem_filterMap]
  constructor
  · rintro ⟨place, member, used⟩
    exact inUse_of_label (mem_places.mp member) used
  · intro used
    obtain ⟨place, owned, labelled⟩ := label_of_inUse used
    exact ⟨place, mem_places.mpr owned, labelled⟩

/-- Every slot is free or has an id in use. -/
theorem length_usedIds (client : Client) :
    (usedIds client).length + freeSlots client = client.fileSlotLimit + client.bufferSlotLimit := by
  have files := @List.length_eq_countP_add_countP _
    (fun slot => (client.fileResources slot).isFree) (List.range client.fileSlotLimit)
  have buffers := @List.length_eq_countP_add_countP _
    (fun slot => (client.bufferResources slot).isFree) (List.range client.bufferSlotLimit)
  have named : ∀ slot, (client.label (.inl slot)).isSome = !(client.fileResources slot).isFree := by
    intro slot
    change (FileSlot.label _).isSome = _
    unfold FileSlot.label
    split <;> simp_all
  have marked : ∀ slot,
      (client.label (.inr slot)).isSome = !(client.bufferResources slot).isFree := by
    intro slot
    change (BufferSlot.label _).isSome = _
    unfold BufferSlot.label
    split <;> simp_all
  rw [usedIds, List.length_filterMap_eq_countP, Client.places, List.countP_append, List.countP_map,
    List.countP_map]
  simp only [List.length_range] at files buffers
  simp only [freeSlots, availableFileSlots, availableBufferSlots, Nat.count, Function.comp_def,
    named, marked, Bool.decide_eq_true]
  simp only [Bool.not_eq_true, Bool.decide_eq_false] at files buffers
  omega

theorem length_candidateIds (client : Client) :
    (candidateIds client).length = client.fileSlotLimit + client.bufferSlotLimit := by
  rw [candidateIds, List.length_map, List.length_range]

/-- There are far fewer slots than values of the counter. -/
theorem SlotIds.nodup_candidateIds (ids : SlotIds client) : (candidateIds client).Nodup := by
  have files : client.fileSlotLimit ≤ 32 := ids.files
  have buffers : client.bufferSlotLimit ≤ 4 := ids.buffers
  refine List.Nodup.map_on ?_ List.nodup_range
  intro first inFirst second inSecond same
  have small : first < 2 ^ 32 ∧ second < 2 ^ 32 := by
    rw [List.mem_range] at inFirst inSecond
    omega
  have equal : UInt32.ofNat first = UInt32.ofNat second := by
    exact (UInt32.add_right_inj client.nextResourceId).mp same
  have values := congrArg UInt32.toNat equal
  rwa [UInt32.toNat_ofNat_of_lt' small.1, UInt32.toNat_ofNat_of_lt' small.2] at values

/-- The attempts fail when each of them meets the invalid id or one in use. -/
theorem allocateAttempts_invalid (attempts : Nat) (client : Client) :
    (allocateAttempts attempts client).1 = resourceIdInvalid ↔
      ∀ attempt < attempts, client.nextResourceId + UInt32.ofNat attempt = resourceIdInvalid ∨
        resourceIdInUse client (client.nextResourceId + UInt32.ofNat attempt) = true := by
  induction attempts generalizing client with
  | zero => simp [allocateAttempts]
  | succ attempts ih =>
      have shifted : ∀ attempt, client.nextResourceId + 1 + UInt32.ofNat attempt =
          client.nextResourceId + UInt32.ofNat (attempt + 1) := by
        intro attempt
        rw [UInt32.add_assoc, UInt32.add_comm 1]
        rw [UInt32.ofNat_add]
        rfl
      have same : ∀ id, resourceIdInUse
          { client with nextResourceId := client.nextResourceId + 1 } id =
            resourceIdInUse client id := fun _ => rfl
      have rest := ih { client with nextResourceId := client.nextResourceId + 1 }
      simp only [shifted, same] at rest
      have first : client.nextResourceId + UInt32.ofNat 0 = client.nextResourceId := by simp
      rw [Nat.forall_lt_succ_left, first, allocateAttempts, ← rest]
      split
      · rename_i invalid
        exact ⟨fun failed => ⟨Or.inl invalid, failed⟩, fun failed => failed.2⟩
      · rename_i valid
        split
        · rename_i used
          exact ⟨fun failed => ⟨Or.inr used, failed⟩, fun failed => failed.2⟩
        · rename_i unused
          refine ⟨fun failed => absurd failed valid, fun failed => ?_⟩
          rcases failed.1 with invalid | used
          · exact absurd invalid valid
          · exact absurd used unused

/-- The allocation fails when every value it tries is invalid or in use. -/
theorem allocateResourceId_invalid (client : Client) :
    (allocateResourceId client).1 = resourceIdInvalid ↔
      ∀ id ∈ candidateIds client, id = resourceIdInvalid ∨ id ∈ usedIds client := by
  rw [allocateResourceId, allocateAttempts_invalid]
  simp only [candidateIds, List.forall_mem_map, List.mem_range, mem_usedIds]

theorem idsRunShort_iff : idsRunShort client = true ↔
    resourceIdInvalid ∈ candidateIds client ∧ freeSlots client ≤ 1 ∧
      ∀ id ∈ usedIds client, id ∈ candidateIds client := by
  simp only [idsRunShort, Bool.and_eq_true, decide_eq_true_eq, List.all_eq_true,
    List.contains_iff_mem, and_assoc]

/-- With a free slot the allocation fails only for want of attempts. -/
theorem SlotIds.allocateResourceId_invalid_iff (ids : SlotIds client)
    (free : 0 < freeSlots client) :
    (allocateResourceId client).1 = resourceIdInvalid ↔ idsRunShort client = true := by
  have slots := length_usedIds client
  have tried := length_candidateIds client
  rw [allocateResourceId_invalid, idsRunShort_iff,
    covered_iff ids.nodup_candidateIds ids.distinct ids.valid (by omega)]
  refine and_congr_right fun _ => and_congr_left fun _ => ?_
  omega

/-- A free file slot is one of the free slots. -/
theorem freeSlots_of_file {slot : Nat} (below : slot < client.fileSlotLimit)
    (free : (client.fileResources slot).isFree = true) : 0 < freeSlots client := by
  have counted : 0 < availableFileSlots client :=
    List.countP_pos_iff.mpr ⟨slot, List.mem_range.mpr below, decide_eq_true free⟩
  exact Nat.add_pos_left counted _

theorem freeSlots_of_buffer {slot : Nat} (below : slot < client.bufferSlotLimit)
    (free : (client.bufferResources slot).isFree = true) : 0 < freeSlots client := by
  have counted : 0 < availableBufferSlots client :=
    List.countP_pos_iff.mpr ⟨slot, List.mem_range.mpr below, decide_eq_true free⟩
  exact Nat.add_pos_right _ counted

end Clients

/-! ## Requests that need an id -/

/-- The resource result queued by a dispatch carries `res`. -/
def ResourceAnsweredWith (rt next : Runtime) (index : Nat) (res : Int32) : Prop :=
  ∃ resourceId available, (next.clients index).pendingOutput =
    (rt.clients index).pendingOutput ++ ResourceResult.encode ⟨resourceId, res, available, 0⟩

section Requests

variable {rt middle next : Runtime} {index : Nat} {env : DispatchEnv}

theorem Answered.resourceAnsweredWith {result : ResourceResult}
    (answered : Answered middle index result.encode next) (reserved : result.reserved = 0)
    (unsent : (middle.clients index).pendingOutput = (rt.clients index).pendingOutput) :
    ResourceAnsweredWith rt next index result.res := by
  refine ⟨result.resourceId, result.resourcesAvailable, ?_⟩
  rw [answered.client, ← unsent, ← reserved]
  rfl

/-- Another error is another result. -/
theorem neg_ne_overflow {errno : Errno} (other : errno ≠ EOVERFLOW) : -errno ≠ -EOVERFLOW :=
  fun same => other (Int32.neg_inj.mp same)

theorem pendingOutput_dropReceivedFd (rt : Runtime) (index : Nat) :
    ((dropReceivedFd rt index).clients index).pendingOutput =
      (rt.clients index).pendingOutput := by
  simp only [dropReceivedFd, Runtime.setClient, Function.update_self]
  rfl

/-- A registration that gets an id is not refused for want of one. -/
theorem dispatchRegisterFd_answer
    (drawn : 0 < freeSlots (rt.clients index) →
      (allocateResourceId (rt.clients index)).1 ≠ resourceIdInvalid)
    (update : env.update ≠ .failed EOVERFLOW)
    (dispatched : dispatchRegisterFd rt index env = .ok next) :
    ∃ res, res ≠ -EOVERFLOW ∧ ResourceAnsweredWith rt next index res := by
  unfold dispatchRegisterFd at dispatched
  dsimp only at dispatched
  split at dispatched
  · exact ⟨-EINVAL, by decide, (answerResource_ok dispatched).resourceAnsweredWith rfl rfl⟩
  · split at dispatched
    · obtain ⟨queued, taken, done⟩ := bind_ok dispatched
      cases done
      exact ⟨-EAGAIN, by decide, (answered_dropReceivedFd taken).resourceAnsweredWith rfl
        (pendingOutput_dropReceivedFd rt index)⟩
    · rename_i slot found
      obtain ⟨below, free⟩ := firstBelow_some found
      obtain ⟨nextId, moved⟩ := allocateResourceId_snd (rt.clients index)
      rw [moved, if_neg (drawn (freeSlots_of_file below free))] at dispatched
      split at dispatched
      · rename_i ring errno failed
        refine ⟨-errno, ?_, (answerResource_ok dispatched).resourceAnsweredWith rfl ?_⟩
        · apply neg_ne_overflow
          rintro rfl
          rcases ringUpdateRegisteredFile_errno failed with invalid | short | refused
          · cases invalid
          · cases short
          · exact update refused
        · rw [pendingOutput_dropReceivedFd]
          simp only [Runtime.setClient, Function.update_self]
          rfl
      · rename_i ring updated
        refine ⟨0, by decide, (answerResourceChange_ok dispatched).resourceAnsweredWith rfl ?_⟩
        simp only [Runtime.setClient, Function.update_self]
        rfl

theorem dispatchRegisterBuffer_answer
    (drawn : 0 < freeSlots (rt.clients index) →
      (allocateResourceId (rt.clients index)).1 ≠ resourceIdInvalid)
    (dispatched : dispatchRegisterBuffer rt index env = .ok next) :
    ∃ res, res ≠ -EOVERFLOW ∧ ResourceAnsweredWith rt next index res := by
  unfold dispatchRegisterBuffer at dispatched
  dsimp only at dispatched
  split at dispatched
  · exact ⟨-EAGAIN, by decide, (answerResource_ok dispatched).resourceAnsweredWith rfl rfl⟩
  · rename_i slot found
    obtain ⟨below, free⟩ := firstBelow_some found
    obtain ⟨nextId, moved⟩ := allocateResourceId_snd (rt.clients index)
    rw [moved, if_neg (drawn (freeSlots_of_buffer below free))] at dispatched
    refine ⟨0, by decide, (answerResourceChange_ok dispatched).resourceAnsweredWith rfl ?_⟩
    simp only [Runtime.setClient, Function.update_self]
    rfl

/-- What a submission that creates a resource meets early is no want of an id. -/
theorem earlyRefusal_ne_overflow
    (kind : (rt.clients index).request.taskKind = .accept ∨
      (rt.clients index).request.taskKind = .openat)
    (drawn : 0 < freeSlots (rt.clients index) →
      (allocateResourceId (rt.clients index)).1 ≠ resourceIdInvalid)
    (fresh : rt.nextTaskId < taskIdReservedMin) :
    earlyRefusal rt (rt.clients index) ≠ some EOVERFLOW := by
  have ids : idRefusal rt = none := if_neg (UInt64.not_le.mpr fresh)
  rcases kind with accept | openat
  · have unbuffered : taskBuffer (rt.clients index) = .ok none := by
      unfold taskBuffer
      rw [accept]
    simp only [earlyRefusal, accept, resourceRefusal, unbuffered, ids]
    split
    · decide
    · split_ifs
      · decide
      · decide
      · exact Option.some_ne_none _ |>.symm
  · simp only [earlyRefusal, openat, openatRefusal, if_neg (UInt64.not_le.mpr fresh)]
    split
    · decide
    · rename_i slot free
      obtain ⟨below, unused⟩ := firstBelow_some free
      rw [if_neg (drawn (freeSlots_of_file below unused))]
      exact Option.some_ne_none _ |>.symm

/-- A submission that gets an id for its resource is not refused for want of one. -/
theorem dispatchSubmission_answer
    (kind : (rt.clients index).request.taskKind = .accept ∨
      (rt.clients index).request.taskKind = .openat)
    (drawn : 0 < freeSlots (rt.clients index) →
      (allocateResourceId (rt.clients index)).1 ≠ resourceIdInvalid)
    (enter : env.enter ≠ .failed EOVERFLOW) (fresh : rt.nextTaskId < taskIdReservedMin)
    (dispatched : dispatchSubmission rt index env = .ok next) :
    ∃ res, res ≠ -EOVERFLOW ∧ AnsweredWith rt next index res := by
  obtain ⟨res, answered, result⟩ := dispatchSubmission_result dispatched
  have early := earlyRefusal_ne_overflow kind drawn fresh
  generalize earlyRefusal rt (rt.clients index) = refusal at early result
  refine ⟨res, ?_, answered⟩
  cases result with
  | early errno =>
      apply neg_ne_overflow
      rintro rfl
      exact early rfl
  | tableFull => decide
  | noResultSlot => decide
  | accepted => decide
  | noResultId taskIndex found accept slot free exhausted =>
      obtain ⟨below, unused⟩ := firstBelow_some free
      exact absurd exhausted (drawn (freeSlots_of_file below unused))
  | declined taskIndex found errno cause =>
      apply neg_ne_overflow
      rintro rfl
      rcases cause with invalid | busy | failed
      · cases invalid
      · cases busy
      · exact enter failed

/-- The errors of the checks before a submission. -/
theorem admissionRefusal_errno {errno : Errno}
    (refused : admissionRefusal rt (rt.clients index) = some errno) :
    errno = EAGAIN ∨ errno = ENOTSUP ∨ errno = EINVAL := by
  unfold admissionRefusal at refused
  split at refused
  · exact Or.inl (Option.some.inj refused).symm
  · split at refused
    · exact Or.inl (Option.some.inj refused).symm
    · split at refused
      · exact Or.inl (Option.some.inj refused).symm
      · split at refused
        · exact Or.inr (Or.inl (Option.some.inj refused).symm)
        · split at refused
          · exact Or.inr (Or.inr (Option.some.inj refused).symm)
          · cases refused

/-- The request creates a resource. -/
def Client.createsResource (client : Client) : Bool :=
  match client.replyType with
  | .resource => client.controlOp != some .releaseResource
  | .submit => client.request.taskKind == .accept || client.request.taskKind == .openat
  | .stats | .trace => false

/-- The result of the message that answers a request which creates a resource. -/
def RepliedWith (rt next : Runtime) (index : Nat) (res : Int32) : Prop :=
  match (rt.clients index).replyType with
  | .resource => ResourceAnsweredWith rt next index res
  | _ => AnsweredWith rt next index res

/-- A request that creates a resource and gets an id is not refused for want of one. -/
theorem dispatchRequest_answer (creates : (rt.clients index).createsResource = true)
    (drawn : 0 < freeSlots (rt.clients index) →
      (allocateResourceId (rt.clients index)).1 ≠ resourceIdInvalid)
    (update : env.update ≠ .failed EOVERFLOW) (enter : env.enter ≠ .failed EOVERFLOW)
    (fresh : rt.nextTaskId < taskIdReservedMin)
    (dispatched : dispatchRequest rt index env = .ok next) :
    ∃ res, res ≠ -EOVERFLOW ∧ RepliedWith rt next index res := by
  unfold dispatchRequest at dispatched
  unfold Client.createsResource at creates
  split at dispatched
  · rename_i operation
    simp only [RepliedWith, Client.replyType, operation]
    exact dispatchRegisterFd_answer drawn update dispatched
  · rename_i operation
    simp only [RepliedWith, Client.replyType, operation]
    exact dispatchRegisterBuffer_answer drawn dispatched
  · rename_i operation
    simp only [Client.replyType, operation, bne_self_eq_false, Bool.false_eq_true] at creates
  · rename_i operation
    simp only [Client.replyType, operation, Bool.false_eq_true] at creates
  · rename_i operation
    simp only [Client.replyType, operation, Bool.false_eq_true] at creates
  · rename_i noFd noBuffer noRelease noStats noTrace
    have type : (rt.clients index).replyType = .submit := by
      unfold Client.replyType
      split
      · exact absurd ‹_› noFd
      · exact absurd ‹_› noBuffer
      · exact absurd ‹_› noRelease
      · exact absurd ‹_› noStats
      · exact absurd ‹_› noTrace
      · rfl
    simp only [RepliedWith, type]
    simp only [type, Bool.or_eq_true, beq_iff_eq] at creates
    split at dispatched
    · rename_i errno refused
      refine ⟨-errno, neg_ne_overflow ?_, refuse_answered dispatched rfl⟩
      rcases admissionRefusal_errno refused with again | unsupported | invalid
      · rw [again]
        decide
      · rw [unsupported]
        decide
      · rw [invalid]
        decide
    · exact dispatchSubmission_answer creates drawn enter fresh dispatched

/-- With a free slot the allocation returns a valid id that is not in use, unless the ids run
short: the attempts include the invalid id, one slot is free, and the ids of all other slots
are among the attempts. As long as they do not run short, no request that creates a resource
is refused for want of an id: -EOVERFLOW comes from the kernel or from the task ids only. -/
theorem resource_id_allocated_iff (ids : SlotIds (rt.clients index)) :
    (0 < freeSlots (rt.clients index) →
      ((allocateResourceId (rt.clients index)).1 ≠ resourceIdInvalid ∧
          resourceIdInUse (rt.clients index) (allocateResourceId (rt.clients index)).1 = false ↔
        idsRunShort (rt.clients index) = false)) ∧
    (idsRunShort (rt.clients index) = false → ∀ env next,
      (rt.clients index).createsResource = true → env.update ≠ .failed EOVERFLOW →
      env.enter ≠ .failed EOVERFLOW → rt.nextTaskId < taskIdReservedMin →
      dispatchRequest rt index env = .ok next →
      ∃ res, res ≠ -EOVERFLOW ∧ RepliedWith rt next index res) := by
  have draws : 0 < freeSlots (rt.clients index) → ((allocateResourceId (rt.clients index)).1 ≠
      resourceIdInvalid ↔ idsRunShort (rt.clients index) = false) := by
    intro free
    rw [ne_eq, ids.allocateResourceId_invalid_iff free, Bool.not_eq_true]
  constructor
  · intro free
    rw [← draws free]
    exact ⟨fun allocated => allocated.1, fun valid => ⟨valid, allocateResourceId_unused valid⟩⟩
  · intro enough env next creates update enter fresh dispatched
    exact dispatchRequest_answer creates (fun free => (draws free).mpr enough) update enter fresh
      dispatched

/-- The connections of a daemon satisfy the premise. -/
theorem Reachable.slotIds {config : Config} (reachable : Reachable config rt)
    (active : (rt.clients index).isActive = true) : SlotIds (rt.clients index) := by
  obtain ⟨files, buffers, -⟩ := (reachable.invariant.entries index).sized (Or.inl active)
  obtain ⟨-, maxFiles, maxBuffers⟩ := config.slots_le
  have labelled := reachable.labelled index
  refine ⟨files ▸ maxFiles, buffers ▸ maxBuffers, ?_, ?_⟩
  · refine List.Nodup.filterMap ?_ (rt.clients index).nodup_places
    intro first second id inFirst inSecond
    exact labelled.distinct first second id inFirst inSecond
  · intro member
    obtain ⟨place, -, used⟩ := List.mem_filterMap.mp member
    exact labelled.valid place resourceIdInvalid used rfl

end Requests

/-- The runtime with another value of an entry's id counter. -/
def Runtime.withCounter (rt : Runtime) (index : Nat) (counter : UInt32) : Runtime :=
  rt.setClient index { rt.clients index with nextResourceId := counter }

/-- A client of one file slot and one buffer slot has registered a buffer, under id 1, and its
REGISTER_FD request has arrived. -/
def fileWaiting : List Action :=
  joining 0 7 ++
    requesting 0 (RegisterBufferRequest.encode ⟨requestHeader .registerBuffer, 1, 0⟩ ++ [5])
      .smooth ++
    [.input 0 [.data (requestHeader .registerFd).encode [⟨true, [9]⟩] false]]

/-- The slots of that client. -/
theorem slotIds_of_one {client : Client} (files : client.fileSlotLimit = 1)
    (buffers : client.bufferSlotLimit = 1) (used : usedIds client = [1]) : SlotIds client := by
  refine ⟨?_, ?_, ?_, ?_⟩
  · rw [files]
    decide
  · rw [buffers]
    decide
  · rw [used]
    decide
  · rw [used]
    decide

/-- The last value before the counter wraps is drawn. -/
theorem resource_id_allocated_at_wrap :
    ∃ rt, run step (Runtime.initial (.small 2 (by decide) (by decide))) fileWaiting = .ok rt ∧
      SlotIds ((rt.withCounter 0 0xffffffff).clients 0) ∧
      (allocateResourceId ((rt.withCounter 0 0xffffffff).clients 0)).1 ≠ resourceIdInvalid := by
  have seen : ((run step (Runtime.initial (.small 2 (by decide) (by decide)))
      fileWaiting).toOption.map fun rt =>
        (((rt.withCounter 0 0xffffffff).clients 0).fileSlotLimit,
          ((rt.withCounter 0 0xffffffff).clients 0).bufferSlotLimit,
          usedIds ((rt.withCounter 0 0xffffffff).clients 0),
          freeSlots ((rt.withCounter 0 0xffffffff).clients 0),
          idsRunShort ((rt.withCounter 0 0xffffffff).clients 0))) =
      some (1, 1, [1], 1, false) := by decide +kernel
  obtain ⟨rt, ran, view⟩ := exists_of_toOption_map seen
  simp only [Prod.mk.injEq] at view
  obtain ⟨files, buffers, used, free, enough⟩ := view
  have ids := slotIds_of_one files buffers used
  refine ⟨rt, ran, ids, ?_⟩
  exact (((resource_id_allocated_iff ids).1 (by rw [free]; decide)).mpr enough).1

/-- With the counter at 0 the attempts are 0 and the id in use, so the request is refused
although a file slot is free. -/
theorem resource_id_missed_at_wrap :
    ∃ rt, run step (Runtime.initial (.small 2 (by decide) (by decide))) fileWaiting = .ok rt ∧
      SlotIds ((rt.withCounter 0 0).clients 0) ∧
      findFreeFileSlot ((rt.withCounter 0 0).clients 0) = some 0 ∧
      (allocateResourceId ((rt.withCounter 0 0).clients 0)).1 = resourceIdInvalid ∧
      ∃ next, dispatchRequest (rt.withCounter 0 0) 0 .smooth = .ok next ∧
        ResourceAnsweredWith (rt.withCounter 0 0) next 0 (-EOVERFLOW) := by
  have seen : ((run step (Runtime.initial (.small 2 (by decide) (by decide)))
      fileWaiting).toOption.map fun rt =>
        (decide (((rt.withCounter 0 0).clients 0).fileSlotLimit = 1 ∧
            ((rt.withCounter 0 0).clients 0).bufferSlotLimit = 1 ∧
            usedIds ((rt.withCounter 0 0).clients 0) = [1] ∧
            findFreeFileSlot ((rt.withCounter 0 0).clients 0) = some 0 ∧
            (allocateResourceId ((rt.withCounter 0 0).clients 0)).1 = resourceIdInvalid),
          (dispatchRequest (rt.withCounter 0 0) 0 .smooth).toOption.map fun next =>
            decide ((next.clients 0).pendingOutput =
              ((rt.withCounter 0 0).clients 0).pendingOutput ++
                ResourceResult.encode ⟨resourceIdInvalid, -EOVERFLOW, 1, 0⟩))) =
      some (true, some true) := by decide +kernel
  obtain ⟨rt, ran, view⟩ := exists_of_toOption_map seen
  rw [Prod.mk.injEq, decide_eq_true_eq] at view
  obtain ⟨⟨files, buffers, used, free, missed⟩, answered⟩ := view
  obtain ⟨next, dispatched, queued⟩ := exists_of_toOption_map answered
  exact ⟨rt, ran, slotIds_of_one files buffers used, free, missed, next, dispatched, _, _,
    of_decide_eq_true queued⟩

end Iouringd
