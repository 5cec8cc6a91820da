import Iouringd.Foundation.Recent
import Iouringd.Daemon.StepEffects

/-! # The trace ring

Every event that was ever recorded, as a list. The ring holds the last 256 of them, and
a trace reply carries events of the list only, also after the sequence numbers wrap.
-/

namespace Iouringd

open Foundation

/-- The event `iouringd_emit_trace_event` records. -/
def traceEvent (rt : Runtime) (now : UInt64) (args : TraceArgs) : TraceEvent where
  sequence := rt.nextTraceSequence
  timestampNsec := now
  taskId := args.taskId
  resourceId := args.resourceId
  res := args.res
  credits := args.credits
  eventKind := args.eventKind.toWire
  taskKind := args.taskKind
  clientSlot := UInt16.ofNat args.clientIndex
  priority := args.submitPriority.toWire
  reserved1 := 0

/-- The ring after the events of `history`. -/
structure TraceHolds (rt : Runtime) (history : List TraceEvent) : Prop where
  sequence : rt.nextTraceSequence = UInt64.ofNat (history.length + 1)
  count : rt.traceCount.toNat = min history.length 256
  recent : Recent 256 rt.traceEvents history

namespace TraceHolds

variable {rt next : Runtime} {history : List TraceEvent}

theorem initial (config : Config) : TraceHolds (Runtime.initial config) [] :=
  ⟨rfl, rfl, .nil _⟩

theorem same (holds : TraceHolds rt history) (same : SameTrace rt next) :
    TraceHolds next history :=
  ⟨same.sequence.trans holds.sequence, (congrArg UInt32.toNat same.count).trans holds.count,
    same.events ▸ holds.recent⟩

/-- The sequence number of the last event, one less than the counter. -/
theorem sequence_sub_one (holds : TraceHolds rt history) :
    rt.nextTraceSequence - 1 = UInt64.ofNat history.length := by
  rw [holds.sequence, UInt64.ofNat_add]
  exact UInt64.add_sub_cancel _ _

/-- Where the event with a sequence number goes; 256 divides the range of the numbers. -/
theorem slot_eq (position : Nat) :
    (UInt64.ofNat position % 256).toNat = position % 256 := by
  have range : (256 : UInt64).toNat = 256 := rfl
  rw [UInt64.toNat_mod, UInt64.toNat_ofNat', range]
  exact Nat.mod_mod_of_dvd position (by decide)

/-- Recording an event adds it to the history. -/
theorem emit (holds : TraceHolds rt history) (now : UInt64) (args : TraceArgs) :
    TraceHolds (emitTraceEvent rt now args) (history ++ [traceEvent rt now args]) := by
  have length : (history ++ [traceEvent rt now args]).length = history.length + 1 := by
    rw [List.length_append, List.length_singleton]
  refine ⟨?_, ?_, ?_⟩
  · change rt.nextTraceSequence + 1 = _
    rw [length, holds.sequence, UInt64.ofNat_add (history.length + 1) 1]
    rfl
  · change (if rt.traceCount < 256 then rt.traceCount + 1 else rt.traceCount).toNat = _
    have count := holds.count
    have bound : (256 : UInt32).toNat = 256 := rfl
    rw [length]
    split
    · rename_i room
      rw [UInt32.lt_iff_toNat_lt, bound] at room
      have one : (1 : UInt32).toNat = 1 := rfl
      rw [UInt32.toNat_add, one, Nat.mod_eq_of_lt (by omega)]
      omega
    · rename_i full
      rw [UInt32.lt_iff_toNat_lt, bound] at full
      omega
  · have pushed := holds.recent.push (traceEvent rt now args)
    rw [← slot_eq, ← holds.sequence_sub_one] at pushed
    exact pushed

/-- In a ring that is not full yet, an event is found by its sequence number. -/
theorem mem_of_sequence (holds : TraceHolds rt history) {sequence : UInt64}
    (low : 1 ≤ sequence.toNat) (high : sequence.toNat ≤ history.length) :
    rt.traceEvents ((sequence - 1) % 256).toNat ∈ history := by
  have one : (1 : UInt64).toNat = 1 := rfl
  have before : sequence - 1 = UInt64.ofNat (sequence.toNat - 1) := by
    rw [UInt64.ofNat_sub low, UInt64.ofNat_toNat]
    rfl
  rw [before, slot_eq]
  refine holds.recent.mem (Nat.mod_lt _ (by decide)) ?_
  have bound := Nat.mod_le (sequence.toNat - 1) 256
  omega

/-- Events are taken from the history; `start` is the first sequence number asked for. -/
theorem eventsFrom_subset (holds : TraceHolds rt history) {latest start : UInt64}
    (known : 256 ≤ history.length ∨ (1 ≤ start.toNat ∧ latest.toNat ≤ history.length))
    (remaining : Nat) :
    ∀ event ∈ traceEventsFrom rt.traceEvents latest remaining start, event ∈ history := by
  induction remaining generalizing start with
  | zero => exact nofun
  | succ remaining ih =>
      intro event member
      unfold traceEventsFrom at member
      split at member
      · rename_i more
        rw [UInt64.le_iff_toNat_le] at more
        rcases List.mem_cons.mp member with here | later
        · subst here
          rcases known with full | ⟨low, high⟩
          · have below : ((start - 1) % 256).toNat < 256 := by
              rw [UInt64.toNat_mod]
              exact Nat.mod_lt _ (by decide)
            exact holds.recent.mem below (by omega)
          · exact holds.mem_of_sequence low (by omega)
        · refine @ih (start + 1) ?_ event later
          by_cases full : 256 ≤ history.length
          · exact Or.inl full
          · apply known.imp id
            rintro ⟨low, high⟩
            have one : (1 : UInt64).toNat = 1 := rfl
            rw [UInt64.toNat_add, one, Nat.mod_eq_of_lt (by omega)]
            omega
      · cases member

/-- A trace reply carries events that were recorded. -/
theorem replyEvents_subset (holds : TraceHolds rt history) (client : Client) :
    ∀ event ∈ traceReplyEvents rt client, event ∈ history := by
  unfold traceReplyEvents
  by_cases full : 256 ≤ history.length
  · exact holds.eventsFrom_subset (Or.inl full) _
  · unfold traceReplyCount
    split
    · rename_i asked
      have latest : traceLatestSequence rt = UInt64.ofNat history.length := by
        unfold traceLatestSequence
        rw [if_neg, holds.sequence_sub_one]
        rw [holds.sequence]
        intro zero
        have value := congrArg UInt64.toNat zero
        rw [UInt64.toNat_ofNat', Nat.mod_eq_of_lt (by omega)] at value
        exact absurd value (Nat.succ_ne_zero _)
      have number : (traceLatestSequence rt).toNat = history.length := by
        rw [latest, UInt64.toNat_ofNat', Nat.mod_eq_of_lt (by omega)]
      refine holds.eventsFrom_subset (Or.inr ⟨?_, Nat.le_of_eq number⟩) _
      have behind := UInt64.lt_iff_toNat_lt.mp asked.2.2
      have one : (1 : UInt64).toNat = 1 := rfl
      have start : (client.traceAfterSequence + 1).toNat = client.traceAfterSequence.toNat + 1 := by
        rw [UInt64.toNat_add, one, Nat.mod_eq_of_lt (by omega)]
      unfold traceStart
      dsimp only
      split
      · rename_i overwritten
        rw [UInt64.lt_iff_toNat_lt] at overwritten
        omega
      · omega
    · exact nofun

end TraceHolds

end Iouringd
