import Iouringd.Daemon.Shape

/-! # What a sweep does

`iouringd_sweep_closing_resources` walks over every slot of every client and frees those
that are closing and not in flight. Every turn looks at a slot of its own, so the whole pass
is described slot by slot: `Client.swept` is the entry it leaves, and it reports progress
when there was a slot to free.
-/

namespace Iouringd

open Foundation

/-- A slot the sweep frees. -/
def FileSlot.due (file : FileSlot) : Bool := file.closing && file.inFlight == 0

def BufferSlot.due (buffer : BufferSlot) : Bool := buffer.closing && buffer.inFlight == 0

/-- The entry of a client after a sweep. -/
def Client.swept (client : Client) : Client :=
  { client with
    fileResources := fun slot =>
      if slot ∈ List.range client.fileSlotLimit then
        (if (client.fileResources slot).due then .cleared else client.fileResources slot)
      else client.fileResources slot
    bufferResources := fun slot =>
      if slot ∈ List.range client.bufferSlotLimit then
        (if (client.bufferResources slot).due then .cleared else client.bufferResources slot)
      else client.bufferResources slot }

/-- The client has a slot the sweep frees. -/
def Client.due (client : Client) : Bool :=
  (List.range client.fileSlotLimit).any (fun slot => (client.fileResources slot).due) ||
    (List.range client.bufferSlotLimit).any fun slot => (client.bufferResources slot).due

section Turns

variable {rt next : Runtime} {index slot : Nat}

theorem Touches.clients (touches : Touches rt index next) :
    next.clients = Function.update rt.clients index (next.clients index) := by
  have frame := congrArg Runtime.clients touches.frame
  rw [← touches.client] at frame
  exact frame

/-- The turn for a file slot. -/
theorem sweepFileSlot_ok {updates : Nat → Nat → UpdateOutcome} {state after : Runtime × Bool}
    (turn : sweepFileSlot index updates state slot = .ok after) :
    after.1.clients = Function.update state.1.clients index
        (if ((state.1.clients index).fileResources slot).due then
          (state.1.clients index).setFileSlot slot .cleared else state.1.clients index) ∧
      after.2 = (state.2 || ((state.1.clients index).fileResources slot).due) := by
  unfold sweepFileSlot at turn
  dsimp only at turn
  split at turn
  · rename_i kept
    cases turn
    have idle : ((state.1.clients index).fileResources slot).due = false := by
      simp only [FileSlot.due]
      revert kept
      cases ((state.1.clients index).fileResources slot).closing <;> simp
    rw [idle]
    exact ⟨by simp only [Bool.false_eq_true, ↓reduceIte, Function.update_eq_self], by simp⟩
  · rename_i frees
    obtain ⟨released, taken, done⟩ := bind_ok turn
    cases done
    simp only [Bool.or_eq_true, Bool.not_eq_true', bne_iff_ne, ne_eq, not_or,
      Bool.not_eq_false, not_not] at frees
    have due : ((state.1.clients index).fileResources slot).due = true := by
      rw [FileSlot.due, frees.1, frees.2]
      rfl
    obtain ⟨touches, entry⟩ := tryReleaseFileSlot_ok taken
    rw [if_pos ⟨frees.2, Or.inr frees.1⟩] at entry
    rw [due, touches.clients, entry]
    exact ⟨rfl, (Bool.or_true _).symm⟩

/-- The turn for a buffer slot. -/
theorem sweepBufferSlot_ok {state after : Runtime × Bool}
    (turn : sweepBufferSlot index state slot = .ok after) :
    after.1.clients = Function.update state.1.clients index
        (if ((state.1.clients index).bufferResources slot).due then
          (state.1.clients index).setBufferSlot slot .cleared else state.1.clients index) ∧
      after.2 = (state.2 || ((state.1.clients index).bufferResources slot).due) := by
  unfold sweepBufferSlot at turn
  dsimp only at turn
  split at turn
  · rename_i kept
    cases turn
    have idle : ((state.1.clients index).bufferResources slot).due = false := by
      simp only [BufferSlot.due]
      revert kept
      cases ((state.1.clients index).bufferResources slot).closing <;> simp
    rw [idle]
    exact ⟨by simp only [Bool.false_eq_true, ↓reduceIte, Function.update_eq_self], by simp⟩
  · rename_i frees
    obtain ⟨released, taken, done⟩ := bind_ok turn
    cases done
    simp only [Bool.or_eq_true, Bool.not_eq_true', bne_iff_ne, ne_eq, not_or,
      Bool.not_eq_false, not_not] at frees
    have due : ((state.1.clients index).bufferResources slot).due = true := by
      rw [BufferSlot.due, frees.1, frees.2]
      rfl
    obtain ⟨touches, entry⟩ := tryReleaseBufferSlot_ok taken
    rw [if_pos ⟨frees.2, Or.inr frees.1⟩] at entry
    rw [due, touches.clients, entry]
    exact ⟨rfl, (Bool.or_true _).symm⟩

end Turns

section Loops

variable {index : Nat} {state after : Runtime × Bool} {slots : List Nat}

/-- The loop over the file slots of a client. -/
theorem sweepFileSlots_ok {updates : Nat → Nat → UpdateOutcome} (different : slots.Nodup)
    (looped : slots.foldlM (sweepFileSlot index updates) state = .ok after) :
    after.1.clients = Function.update state.1.clients index { state.1.clients index with
        fileResources := fun slot =>
          if slot ∈ slots then
            (if ((state.1.clients index).fileResources slot).due then .cleared
            else (state.1.clients index).fileResources slot)
          else (state.1.clients index).fileResources slot } ∧
      after.2 = (state.2 || slots.any fun slot =>
        ((state.1.clients index).fileResources slot).due) := by
  have frame : after.1.clients = Function.update state.1.clients index
      { state.1.clients index with fileResources := (after.1.clients index).fileResources } := by
    refine @run_related _ _ _ (sweepFileSlot index updates) state after slots
      (fun before after => after.1.clients = Function.update before.1.clients index
        { before.1.clients index with fileResources := (after.1.clients index).fileResources })
      ?_ ?_ ?_ looped
    · intro state
      exact (Function.update_eq_self index state.1.clients).symm
    · intro first second third one two
      rw [two, one, Function.update_idem, Function.update_self, Function.update_self]
    · intro before slot next _ turn
      rw [(sweepFileSlot_ok turn).1, Function.update_self]
      split
      · rfl
      · rfl
  obtain ⟨cells, flag⟩ := @run_cells _ _ _ _ (sweepFileSlot index updates) state after slots _
    (fun state slot => (state.1.clients index).fileResources slot)
    (fun _ file => if file.due then .cleared else file) Prod.snd (fun _ file => file.due)
    different (by
      intro before slot next _ turn
      obtain ⟨clients, raised⟩ := sweepFileSlot_ok turn
      rw [clients, Function.update_self]
      refine ⟨?_, ?_, raised⟩
      · split
        · exact Function.update_self _ _ _
        · rfl
      · intro other apart
        split
        · exact Function.update_of_ne apart _ _
        · rfl) looped
  refine ⟨frame.trans ?_, flag⟩
  rw [funext cells]

/-- The loop over the buffer slots of a client. -/
theorem sweepBufferSlots_ok (different : slots.Nodup)
    (looped : slots.foldlM (sweepBufferSlot index) state = .ok after) :
    after.1.clients = Function.update state.1.clients index { state.1.clients index with
        bufferResources := fun slot =>
          if slot ∈ slots then
            (if ((state.1.clients index).bufferResources slot).due then .cleared
            else (state.1.clients index).bufferResources slot)
          else (state.1.clients index).bufferResources slot } ∧
      after.2 = (state.2 || slots.any fun slot =>
        ((state.1.clients index).bufferResources slot).due) := by
  have frame : after.1.clients = Function.update state.1.clients index
      { state.1.clients index with
        bufferResources := (after.1.clients index).bufferResources } := by
    refine @run_related _ _ _ (sweepBufferSlot index) state after slots
      (fun before after => after.1.clients = Function.update before.1.clients index
        { before.1.clients index with
          bufferResources := (after.1.clients index).bufferResources })
      ?_ ?_ ?_ looped
    · intro state
      exact (Function.update_eq_self index state.1.clients).symm
    · intro first second third one two
      rw [two, one, Function.update_idem, Function.update_self, Function.update_self]
    · intro before slot next _ turn
      rw [(sweepBufferSlot_ok turn).1, Function.update_self]
      split
      · rfl
      · rfl
  obtain ⟨cells, flag⟩ := @run_cells _ _ _ _ (sweepBufferSlot index) state after slots _
    (fun state slot => (state.1.clients index).bufferResources slot)
    (fun _ buffer => if buffer.due then .cleared else buffer) Prod.snd
    (fun _ buffer => buffer.due) different (by
      intro before slot next _ turn
      obtain ⟨clients, raised⟩ := sweepBufferSlot_ok turn
      rw [clients, Function.update_self]
      refine ⟨?_, ?_, raised⟩
      · split
        · exact Function.update_self _ _ _
        · rfl
      · intro other apart
        split
        · exact Function.update_of_ne apart _ _
        · rfl) looped
  refine ⟨frame.trans ?_, flag⟩
  rw [funext cells]

/-- The turn for a client. -/
theorem sweepClient_ok {updates : Nat → Nat → UpdateOutcome}
    (turn : sweepClient updates state index = .ok after) :
    after.1.clients =
        Function.update state.1.clients index (state.1.clients index).swept ∧
      after.2 = (state.2 || (state.1.clients index).due) := by
  obtain ⟨middle, files, buffers⟩ := bind_ok turn
  obtain ⟨first, raised⟩ := sweepFileSlots_ok List.nodup_range files
  obtain ⟨second, also⟩ := sweepBufferSlots_ok List.nodup_range buffers
  have entry := congrFun first index
  rw [Function.update_self] at entry
  rw [second, also, raised, entry, first, Function.update_idem, Bool.or_assoc]
  exact ⟨rfl, rfl⟩

/-- A sweep leaves every client swept, and reports whether one of them had a slot to
free. -/
theorem sweepClosingResources_ok {rt : Runtime} {updates : Nat → Nat → UpdateOutcome}
    {result : Runtime × Bool} (swept : sweepClosingResources rt updates = .ok result) :
    (∀ index, result.1.clients index =
      if index ∈ List.range rt.limits.maxClients then (rt.clients index).swept
      else rt.clients index) ∧
      result.2 = (List.range rt.limits.maxClients).any fun index => (rt.clients index).due := by
  obtain ⟨cells, flag⟩ := @run_cells _ _ _ _ (sweepClient updates) (rt, false) result _ _
    (fun state index => state.1.clients index) (fun _ client => client.swept) Prod.snd
    (fun _ client => client.due) List.nodup_range (by
      intro before index next _ turn
      obtain ⟨clients, raised⟩ := sweepClient_ok turn
      rw [clients, Function.update_self]
      refine ⟨rfl, ?_, raised⟩
      intro other apart
      exact Function.update_of_ne apart _ _) swept
  refine ⟨cells, flag.trans ?_⟩
  rw [Bool.false_or]

end Loops

end Iouringd
