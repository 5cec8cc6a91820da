import Iouringd.Daemon.Retrieval
import Iouringd.Lib.Deliveries
import Iouringd.Lib.Emissions

/-! # Replies that look like completions

The library tells a reply from a completion by the first eight bytes: a completion starts with
the header of the protocol, a reply with a number of the daemon. For a reply to a submission that
number is the task id, for a trace the sequence of the oldest event. The daemon counts both up
from 1, so it takes more than 10^15 steps until one of them is the header.
-/

namespace Iouringd

open Foundation

/-- The first eight bytes of a completion record, as a number: the magic number and the two parts
of the version. -/
def completionHeader : Nat := 0x000c000131444f49

/-- What the library takes for a completion has the header in front. -/
theorem word_of_header {bytes : List UInt8} (long : 8 ≤ bytes.length)
    (header : Process.isCompletionHeader (bytes.take 8) = true) :
    u32At bytes 0 = wireMagic ∧ u16At bytes 4 = protocolMajor ∧
      (u64At bytes 0).toNat = completionHeader := by
  simp only [Process.isCompletionHeader, ne_eq, Bool.not_eq_true', Bool.or_eq_false_iff,
    decide_eq_false_iff_not, not_not] at header
  unfold u32At u16At at header ⊢
  rw [fieldAt_take 4 bytes 0 8 (by decide), fieldAt_take 2 bytes 4 8 (by decide),
    fieldAt_take 2 bytes 6 8 (by decide)] at header
  obtain ⟨⟨magic, major⟩, minor⟩ := header
  refine ⟨magic, major, ?_⟩
  have low : fieldAt 4 bytes 0 < 2 ^ 32 := fieldAt_lt 4 bytes 0
  have middle : fieldAt 2 bytes 4 < 2 ^ 16 := fieldAt_lt 2 bytes 4
  have high : fieldAt 2 bytes 6 < 2 ^ 16 := fieldAt_lt 2 bytes 6
  have whole : fieldAt 8 bytes 0 < 2 ^ 64 := fieldAt_lt 8 bytes 0
  have outer : fieldAt 8 bytes 0 = _ := fieldAt_add 4 4 bytes 0 (by omega)
  have inner : fieldAt 4 bytes 4 = _ := fieldAt_add 2 2 bytes 4 (by omega)
  have first : fieldAt 4 bytes 0 = wireMagic.toNat := by
    rw [← magic, UInt32.toNat_ofNat', Nat.mod_eq_of_lt low]
  have second : fieldAt 2 bytes 4 = protocolMajor.toNat := by
    rw [← major, UInt16.toNat_ofNat', Nat.mod_eq_of_lt middle]
  have third : fieldAt 2 bytes 6 = protocolMinor.toNat := by
    rw [← minor, UInt16.toNat_ofNat', Nat.mod_eq_of_lt high]
  rw [u64At, UInt64.toNat_ofNat', Nat.mod_eq_of_lt whole, outer, inner, first, second, third]
  rfl

section Answers

variable {rt : Runtime} {index : Nat} {env : DispatchEnv} {message : Message}
  {history : List TraceEvent}

/-- The oldest event is one of those recorded. -/
theorem oldestRetained_le (history : List TraceEvent) :
    oldestRetained history ≤ history.length := by
  unfold oldestRetained
  split
  · exact Nat.zero_le _
  · omega

/-- A reply of a daemon that has counted less far is not taken for a completion. -/
theorem Message.Answers.unlike (answers : message.Answers rt index env)
    (clients : rt.limits.maxClients ≤ maxClientsLimit)
    (tasks : rt.nextTaskId.toNat < completionHeader) (holds : TraceHolds rt history)
    (few : history.length < completionHeader) : Unlike message.encode := by
  have refuse : ∀ {bytes : List UInt8}, 8 ≤ bytes.length →
      (u32At bytes 0 = wireMagic → u16At bytes 4 = protocolMajor →
        (u64At bytes 0).toNat = completionHeader → False) → Unlike bytes := by
    intro bytes long apart
    refine ⟨long, ?_⟩
    rw [Bool.eq_false_iff]
    intro header
    obtain ⟨magic, major, word⟩ := word_of_header long header
    exact apart magic major word
  cases message with
  | submit result =>
      apply refuse (by rw [Message.encode, result.length_encode]; decide)
      intro _ _ word
      have taskId : u64At result.encode 0 = result.taskId := by
        have same := congrArg SubmitResult.taskId (SubmitResult.decode_encode result)
        exact same
      rw [Message.encode, taskId] at word
      rcases answers with ⟨errno, credits, same, -⟩ | ⟨credits, same, -⟩
      · have invalid : result.taskId.toNat = 0 := by rw [same]; rfl
        exact absurd (invalid.symm.trans word) (by decide)
      · have next : result.taskId = rt.nextTaskId := by rw [same]
        rw [next] at word
        exact Nat.ne_of_lt tasks word
  | resource result =>
      apply refuse (by rw [Message.encode, result.length_encode]; decide)
      intro magic major _
      have resourceId : u32At result.encode 0 = result.resourceId := by
        have same := congrArg ResourceResult.resourceId (ResourceResult.decode_encode result)
        exact same
      rcases answers with refuses | grants
      · rw [Message.encode, resourceId, refuses.resourceId] at magic
        exact absurd magic (by decide)
      · have front : result.encode = u32 result.resourceId ++ (i32 completionResOk ++
            (u32 result.resourcesAvailable ++ u32 result.reserved)) := by
          rw [ResourceResult.encode, grants.res, List.append_assoc, List.append_assoc]
        rw [Message.encode, front, u16At_append_right _ _ _ (by rw [length_u32]), length_u32,
          u16At_append_left _ _ _ (by rw [length_i32]; decide)] at major
        exact absurd major (by decide)
  | stats result =>
      apply refuse (by rw [Message.encode, result.length_encode]; decide)
      intro magic _ _
      have active : u32At result.encode 0 = result.activeClients := by
        have same := congrArg StatsResult.activeClients (StatsResult.decode_encode result)
        exact same
      have answer : result = statsResult rt := answers
      have least : countActiveClients rt ≤ 64 := Nat.le_trans (Nat.count_le _) clients
      rw [Message.encode, active, answer] at magic
      have same := congrArg UInt32.toNat magic
      change (UInt32.ofNat (countActiveClients rt)).toNat = _ at same
      rw [UInt32.toNat_ofNat', Nat.mod_eq_of_lt (by omega)] at same
      rw [same] at least
      exact absurd least (by decide)
  | trace result events =>
      apply refuse (by
        rw [Message.encode, List.length_append, result.length_encode]
        exact Nat.le_add_right_of_le (by decide))
      intro _ _ word
      have oldest : u64At result.encode 0 = result.oldestSequence := by
        have same := congrArg TraceResult.oldestSequence (TraceResult.decode_encode result)
        exact same
      rw [Message.encode, u64At_append_left _ _ _ (by rw [result.length_encode]; decide), oldest,
        answers.1] at word
      have exact := holds.toNat_oldest (Nat.lt_of_lt_of_le (Nat.succ_lt_succ few) (by decide))
      change (traceOldestSequence rt).toNat = _ at word
      have bound := oldestRetained_le history
      rw [← exact, word] at bound
      exact absurd few (Nat.not_lt.mpr bound)
  | greeting result => exact answers.elim
  | completion record payload => exact answers.elim

end Answers

/-! ## How far the daemon counts -/

section Counting

variable {config : Config} {rt next : Runtime} {action : Action} {steps : Nat}

/-- A step records one event at most. -/
theorem StepEffect.traces (effect : StepEffect rt action next) : Traces rt next fun _ => True := by
  have weaken : ∀ {before : Runtime} {sort : TraceArgs → Prop}, SameTrace rt before →
      Traces before next sort → Traces rt next fun _ => True := by
    intro before sort same traces
    rcases traces with quiet | ⟨now, args, -, after⟩
    · exact Or.inl (same.trans quiet)
    · exact Or.inr ⟨now, args, trivial, (same.emit now args).trans after⟩
  cases effect with
  | dispatched index env middle bytes _ connected ready change answered recorded =>
      exact weaken (.refl rt) recorded
  | completed _ taskIndex res ring _ occupied source completed calls =>
      exact @weaken { rt with ring } _ ⟨rfl, rfl, rfl⟩ completed.recorded
  | served index incoming _ connected only served =>
      left
      rw [only.frame]
      exact ⟨rfl, rfl, rfl⟩
  | swept updates _ swept slots =>
      left
      rw [swept.frame]
      exact ⟨rfl, rfl, rfl⟩
  | flushed index writes _ connected only flushed =>
      left
      rw [only.frame]
      exact ⟨rfl, rfl, rfl⟩
  | disconnected index connected =>
      have only : OnlyClient rt index (closeClient rt index) := .closeClient
      left
      rw [only.frame]
      exact ⟨rfl, rfl, rfl⟩
  | stored store =>
      left
      cases store with
      | _ => exact ⟨rfl, rfl, rfl⟩
  | _ => exact Or.inl ⟨rfl, rfl, rfl⟩

/-- How far the daemon can have counted after so many steps. -/
structure Counted (steps : Nat) (rt : Runtime) : Prop where
  tasks : rt.nextTaskId.toNat ≤ steps + 1
  events : ∃ history, TraceHolds rt history ∧ history.length ≤ steps

theorem Counted.initial (config : Config) : Counted 0 (Runtime.initial config) :=
  ⟨Nat.le_refl 1, [], .initial config, Nat.le_refl 0⟩

theorem Counted.stepped (counted : Counted steps rt) (invariant : Invariant config rt)
    (taken : step rt action = .ok next) : Counted (steps + 1) next := by
  obtain ⟨tasks, history, holds, few⟩ := counted
  constructor
  · exact Nat.le_trans (step_shape invariant.grounded taken).nextTaskId_le_succ
      (Nat.succ_le_succ tasks)
  · rcases (step_effect invariant.grounded taken).traces with same | ⟨now, args, -, same⟩
    · exact ⟨history, holds.same same, Nat.le_succ_of_le few⟩
    · refine ⟨_, (holds.emit now args).same same, ?_⟩
      rw [List.length_append]
      exact Nat.succ_le_succ few

end Counting

/-! ## Runs -/

section Runs

variable {config : Config} {world : World} {action : Action} {next : Runtime} {steps : Nat}
  {log extra : Nat → List Message} {actions : List Action}

/-- No reply of the log is taken for a completion. -/
def Legible (log : Nat → List Message) : Prop :=
  ∀ conn, ∀ message ∈ log conn, message.replyType.isSome = true → Unlike message.encode

theorem Legible.extended (legible : Legible log) (hosted : Hosted config world)
    (emission : Emission world action next extra) (counted : Counted steps world.rt)
    (few : steps + 1 < completionHeader) : Legible (world.extend log extra) := by
  intro conn message member reply
  cases hosts : world.hostOf conn with
  | none =>
      rw [World.extend_none hosts] at member
      exact legible conn message member reply
  | some index =>
      rw [World.extend_some hosts] at member
      rcases List.mem_append.mp member with old | new
      · exact legible conn message old reply
      · obtain ⟨tasks, history, holds, recorded⟩ := counted
        cases emission.origin index message new with
        | greeting result incoming => cases reply
        | reply env _ ready answers =>
            have clients : world.rt.limits.maxClients ≤ maxClientsLimit := by
              rw [hosted.invariant.limits]
              exact config.slots_le.1
            exact answers.unlike clients (by omega) holds (by omega)
        | completion env taskIndex res ring prepared => cases reply

/-- In the first 10^15 steps no reply is taken for a completion, and everything passes the checks
of the library. -/
theorem emissions_legible (ran : run World.step (.initial config) actions = .ok world)
    (looped : ∀ action ∈ actions, action.looped = true)
    (kept : Along World.step (fun world action => honest world.rt action = true)
      (.initial config) actions) (short : actions.length < completionHeader) :
    ∃ log, Logged world log ∧ Passing world log ∧ Legible log := by
  have initially : Hosted config (.initial config) ∧ Vetted (Runtime.initial config) ∧
      (∃ history, TraceHolds (Runtime.initial config) history ∧ Sound history) ∧
      Counted 0 (Runtime.initial config) ∧
      ∃ log, Logged (.initial config) log ∧ Passing (.initial config) log ∧ Legible log := by
    refine ⟨.initial config, ?_, ⟨[], .initial config, nofun⟩, .initial config, fun _ => [],
      .initial config, ⟨fun _ => nofun, fun _ => .nil⟩, fun _ => nofun⟩
    intro taskIndex occupied
    simp only [Runtime.occupied, Runtime.initial, TaskSlot.cleared, Bool.and_false,
      Bool.false_eq_true] at occupied
  have reached := @Along.counts _ _ _ World.step _ _ _ actions
    (fun steps state => Hosted config state ∧ Vetted state.rt ∧
      (∃ history, TraceHolds state.rt history ∧ Sound history) ∧ Counted steps state.rt ∧
      ∃ log, Logged state log ∧ Passing state log ∧ Legible log) 0 (completionHeader - 1)
    (kept.with_mem looped) ?_ (by omega) initially ran
  · obtain ⟨-, -, -, -, found⟩ := reached
    exact found
  · intro steps before action after few meets reached taken
    obtain ⟨stepped, same⟩ := World.step_ok taken
    obtain ⟨hosted, vetted, ⟨history, holds, sound⟩, counted, log, logged, passing, legible⟩ :=
      reached
    obtain ⟨extra, emission⟩ := hosted.emission meets.2 stepped
    rw [same]
    exact ⟨hosted.stepped stepped, vetted.stepped hosted.invariant stepped,
      hosted.invariant.step_traces vetted stepped holds sound,
      counted.stepped hosted.invariant stepped, _,
      logged.extended hosted stepped emission,
      passing.extended hosted vetted holds sound emission meets.1,
      legible.extended hosted emission counted (by omega)⟩

end Runs

end Iouringd
