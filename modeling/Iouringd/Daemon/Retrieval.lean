import Iouringd.Daemon.Inversion
import Iouringd.Daemon.Trace

/-! # Retrieving the trace

A GET_TRACE reply against the list of all events that were recorded. The reply names the
oldest and the latest event the ring holds and carries the events behind the cursor that the
ring still has. This is right as long as the counter of sequence numbers has not come round
to 0, where the daemon takes the log for empty. A reader that goes on from the last event it
got sees every event once, in order, except those that were overwritten when it asked.
-/

namespace Iouringd

open Foundation

/-- The oldest sequence number the ring still holds. -/
def oldestRetained (log : List TraceEvent) : Nat :=
  if log.length = 0 then 0 else max 1 (log.length - 255)

/-- The first `limit` recorded events behind a cursor that the ring still holds. Events are
numbered from 1. -/
def expectedEvents (log : List TraceEvent) (after limit : Nat) : List TraceEvent :=
  (((log.zipIdx 1).filter fun entry =>
    decide (after < entry.2) && decide (oldestRetained log ≤ entry.2)).map Prod.fst).take limit

/-- The reply to a GET_TRACE request is that of the whole log. -/
structure ExactReply (rt : Runtime) (client : Client) (log : List TraceEvent) : Prop where
  latest : (traceResult rt client).latestSequence.toNat = log.length
  oldest : (traceResult rt client).oldestSequence.toNat = oldestRetained log
  events : traceReplyEvents rt client =
    expectedEvents log client.traceAfterSequence.toNat client.traceMaxEvents.toNat
  count : (traceResult rt client).count.toNat = (traceReplyEvents rt client).length

section Lists

/-- Numbers from some point on. -/
theorem filter_zipIdx (log : List TraceEvent) (first bound : Nat) :
    ((log.zipIdx first).filter fun entry => decide (bound ≤ entry.2)).map Prod.fst =
      log.drop (bound - first) := by
  induction log generalizing first with
  | nil => simp
  | cons event rest ih =>
      rw [List.zipIdx_cons, List.filter_cons]
      by_cases late : bound ≤ first
      · have none : bound - first = 0 := by omega
        have later : bound - (first + 1) = 0 := by omega
        have tail := ih (first + 1)
        rw [later, List.drop_zero] at tail
        rw [if_pos (decide_eq_true late), List.map_cons, tail, none, List.drop_zero]
      · have more : bound - first = bound - (first + 1) + 1 := by omega
        rw [if_neg (by simpa using late), ih (first + 1), more, List.drop_succ_cons]

/-- What is expected is a part of the log. -/
theorem expectedEvents_eq (log : List TraceEvent) (after limit : Nat) :
    expectedEvents log after limit = (log.drop (max after (log.length - 256))).take limit := by
  by_cases empty : log.length = 0
  · rw [List.length_eq_zero_iff.mp empty]
    simp [expectedEvents]
  · have both : ∀ entry : TraceEvent × Nat,
        (decide (after < entry.2) && decide (oldestRetained log ≤ entry.2)) =
          decide (max after (log.length - 256) + 1 ≤ entry.2) := by
      intro entry
      rw [← Bool.decide_and, decide_eq_decide, oldestRetained, if_neg empty]
      omega
    rw [expectedEvents, funext both, filter_zipIdx, Nat.add_sub_cancel]

end Lists

namespace TraceHolds

variable {rt next : Runtime} {log : List TraceEvent}

/-- The counter as a number, before it comes round. -/
theorem toNat_sequence (holds : TraceHolds rt log) (short : log.length + 1 < 2 ^ 64) :
    rt.nextTraceSequence.toNat = log.length + 1 := by
  rw [holds.sequence, UInt64.toNat_ofNat', Nat.mod_eq_of_lt short]

theorem toNat_latest (holds : TraceHolds rt log) (short : log.length + 1 < 2 ^ 64) :
    (traceLatestSequence rt).toNat = log.length := by
  have counter := holds.toNat_sequence short
  unfold traceLatestSequence
  rw [if_neg, holds.sequence_sub_one, UInt64.toNat_ofNat', Nat.mod_eq_of_lt (by omega)]
  intro zero
  rw [zero] at counter
  cases counter

theorem toNat_oldest (holds : TraceHolds rt log) (short : log.length + 1 < 2 ^ 64) :
    (traceOldestSequence rt).toNat = oldestRetained log := by
  have counter := holds.toNat_sequence short
  have count := holds.count
  unfold traceOldestSequence oldestRetained
  by_cases empty : log.length = 0
  · have none : rt.traceCount = 0 := by
      rw [← UInt32.toNat_inj, count, empty]
      rfl
    rw [if_pos none, if_pos empty]
    rfl
  · have some : rt.traceCount ≠ 0 := by
      intro zero
      rw [zero] at count
      have least : (0 : UInt32).toNat = 0 := rfl
      omega
    rw [if_neg some, if_neg empty, UInt64.toNat_sub_of_le, UInt32.toNat_toUInt64, counter, count]
    · omega
    · rw [UInt64.le_iff_toNat_le, UInt32.toNat_toUInt64, counter, count]
      omega

/-- An event the ring still holds is found at its place. -/
theorem event_at (holds : TraceHolds rt log) {position : Nat} (inside : position < log.length)
    (kept : log.length ≤ position + 256) :
    rt.traceEvents ((UInt64.ofNat (position + 1) - 1) % 256).toNat = log[position] := by
  have before : UInt64.ofNat (position + 1) - 1 = UInt64.ofNat position := by
    rw [UInt64.ofNat_add]
    exact UInt64.add_sub_cancel _ _
  rw [before, slot_eq]
  exact holds.recent position _ (List.getElem?_eq_getElem inside) kept

/-- The events copied from a place in the log on. -/
theorem eventsFrom_eq (holds : TraceHolds rt log) (short : log.length + 1 < 2 ^ 64)
    {position : Nat} (kept : log.length ≤ position + 256) (within : position ≤ log.length)
    (limit : Nat) :
    traceEventsFrom rt.traceEvents (traceLatestSequence rt) limit (UInt64.ofNat (position + 1)) =
      (log.drop position).take limit := by
  induction limit generalizing position with
  | zero => simp only [traceEventsFrom, List.take_zero]
  | succ limit ih =>
      have number : (UInt64.ofNat (position + 1)).toNat = position + 1 := by
        rw [UInt64.toNat_ofNat', Nat.mod_eq_of_lt (by omega)]
      unfold traceEventsFrom
      by_cases inside : position < log.length
      · have more : UInt64.ofNat (position + 1) ≤ traceLatestSequence rt := by
          rw [UInt64.le_iff_toNat_le, number, holds.toNat_latest short]
          omega
        have following : UInt64.ofNat (position + 1) + 1 = UInt64.ofNat (position + 1 + 1) := by
          rw [UInt64.ofNat_add (position + 1) 1]
          rfl
        rw [if_pos more, holds.event_at inside kept, following, ih (by omega) (by omega),
          List.drop_eq_getElem_cons inside, List.take_succ_cons]
      · have done : ¬ UInt64.ofNat (position + 1) ≤ traceLatestSequence rt := by
          rw [UInt64.le_iff_toNat_le, number, holds.toNat_latest short]
          omega
        rw [if_neg done, List.drop_eq_nil_of_le (by omega), List.take_nil]

/-- Counting first and copying what was counted is copying. -/
theorem eventsFrom_count (ring : Nat → TraceEvent) (latest : UInt64) (limit : Nat)
    (start : UInt64) :
    traceEventsFrom ring latest (countTraceEvents latest limit start) start =
      traceEventsFrom ring latest limit start := by
  induction limit generalizing start with
  | zero => rfl
  | succ limit ih =>
      unfold countTraceEvents
      split
      · rename_i more
        rw [traceEventsFrom, if_pos more, traceEventsFrom, if_pos more, ih]
      · rename_i done
        rw [traceEventsFrom, traceEventsFrom, if_neg done]

/-- Where the reply starts, as a place in the log. -/
theorem start_eq (holds : TraceHolds rt log) (short : log.length + 1 < 2 ^ 64) {client : Client}
    (behind : client.traceAfterSequence.toNat < log.length) :
    traceStart rt client =
      UInt64.ofNat (max client.traceAfterSequence.toNat (log.length - 256) + 1) := by
  have oldest := holds.toNat_oldest short
  have one : (1 : UInt64).toNat = 1 := rfl
  have first : (client.traceAfterSequence + 1).toNat = client.traceAfterSequence.toNat + 1 := by
    rw [UInt64.toNat_add, one, Nat.mod_eq_of_lt (by omega)]
  unfold oldestRetained at oldest
  rw [if_neg (by omega)] at oldest
  unfold traceStart
  dsimp only
  split
  · rename_i overwritten
    rw [UInt64.lt_iff_toNat_lt] at overwritten
    rw [← UInt64.toNat_inj, UInt64.toNat_ofNat', Nat.mod_eq_of_lt (by omega)]
    omega
  · rename_i kept
    rw [UInt64.lt_iff_toNat_lt] at kept
    rw [← UInt64.toNat_inj, UInt64.toNat_ofNat', Nat.mod_eq_of_lt (by omega)]
    omega

/-- The events of a reply are those expected. -/
theorem replyEvents_eq (holds : TraceHolds rt log) (short : log.length + 1 < 2 ^ 64)
    (client : Client) : traceReplyEvents rt client =
      expectedEvents log client.traceAfterSequence.toNat client.traceMaxEvents.toNat := by
  have latest := holds.toNat_latest short
  rw [expectedEvents_eq]
  unfold traceReplyEvents traceReplyCount
  split
  · rename_i asked
    have behind := UInt64.lt_iff_toNat_lt.mp asked.2.2
    rw [latest] at behind
    rw [eventsFrom_count, holds.start_eq short behind,
      holds.eventsFrom_eq short (by omega) (by omega)]
  · rename_i unasked
    have nothing : client.traceMaxEvents = 0 ∨
        log.length ≤ max client.traceAfterSequence.toNat (log.length - 256) := by
      by_cases limit : client.traceMaxEvents = 0
      · exact Or.inl limit
      · apply Or.inr
        by_contra more
        refine unasked ⟨limit, fun zero => ?_, ?_⟩
        · have count := holds.count
          rw [zero] at count
          have least : (0 : UInt32).toNat = 0 := rfl
          omega
        · rw [UInt64.lt_iff_toNat_lt, latest]
          omega
    unfold traceEventsFrom
    rcases nothing with limit | done
    · have none : client.traceMaxEvents.toNat = 0 := congrArg UInt32.toNat limit
      rw [none, List.take_zero]
    · rw [List.drop_eq_nil_of_le done, List.take_nil]

/-- Every reply is exact before the counter comes round. -/
theorem exactReply (holds : TraceHolds rt log) (short : log.length + 1 < 2 ^ 64)
    (client : Client) : ExactReply rt client log := by
  refine ⟨holds.toNat_latest short, holds.toNat_oldest short, holds.replyEvents_eq short client, ?_⟩
  rw [traceResult_count, length_traceReplyEvents]

/-- With the counter at 0 the latest event is not reported. -/
theorem not_exactReply (holds : TraceHolds rt log) (round : log.length + 1 = 2 ^ 64)
    (client : Client) : ¬ ExactReply rt client log := by
  intro exact
  have zero : rt.nextTraceSequence = 0 := by
    rw [holds.sequence, round]
    rfl
  have latest := exact.latest
  change (traceLatestSequence rt).toNat = _ at latest
  unfold traceLatestSequence at latest
  rw [if_pos zero] at latest
  have least : (0 : UInt64).toNat = 0 := rfl
  omega

end TraceHolds

/-! ## Runs -/

/-- A GET_TRACE request of the reader: the cursor it passed, the oldest event there was, and
the cursor it has afterwards. -/
structure Ask where
  before : UInt64
  oldest : UInt64
  after : UInt64
  deriving DecidableEq, Repr

/-- A reader that goes on from the last event it got. -/
structure Reader where
  cursor : UInt64
  seen : List TraceEvent
  asks : List Ask
  deriving DecidableEq, Repr

/-- The reader with the events of a reply. -/
def Reader.receives (reader : Reader) (oldest : UInt64) (events : List TraceEvent) : Reader :=
  let after := (events.getLast?.map TraceEvent.sequence).getD reader.cursor
  ⟨after, reader.seen ++ events, reader.asks ++ [⟨reader.cursor, oldest, after⟩]⟩

/-- The runtime, every event recorded so far, and the reader. -/
structure TraceWorld where
  rt : Runtime
  log : List TraceEvent
  reader : Reader

/-- The calls of a run: an event, a GET_TRACE request of any client, one of the reader, and
whatever else the daemon does to the entry of a client. -/
inductive TraceCall where
  | emit (now : UInt64) (args : TraceArgs)
  | get (index : Nat) (after : UInt64) (limit : UInt32)
  | poll (index : Nat) (limit : UInt32)
  | serve (index : Nat) (client : Client)

/-- A client whose GET_TRACE request is ready. -/
def Runtime.asking (rt : Runtime) (index : Nat) (after : UInt64) (limit : UInt32) : Runtime :=
  rt.setClient index { rt.clients index with traceAfterSequence := after, traceMaxEvents := limit }

/-- One call. -/
def TraceWorld.step (world : TraceWorld) : TraceCall → Except Errno TraceWorld
  | .emit now args =>
      .ok { world with
        rt := emitTraceEvent world.rt now args
        log := world.log ++ [traceEvent world.rt now args] }
  | .get index after limit => do
      let rt ← dispatchGetTrace (world.rt.asking index after limit) index
      .ok { world with rt }
  | .poll index limit => do
      let asking := world.rt.asking index world.reader.cursor limit
      let rt ← dispatchGetTrace asking index
      .ok { world with
        rt
        reader := world.reader.receives (traceOldestSequence asking)
          (traceReplyEvents asking (asking.clients index)) }
  | .serve index client => .ok { world with rt := world.rt.setClient index client }

/-- The events of the log carry their numbers. -/
def Serial (log : List TraceEvent) : Prop :=
  ∀ position event, log[position]? = some event →
    event.sequence = UInt64.ofNat (position + 1)

/-- What a reader that started at `start` knows of the log. -/
structure Follows (start : UInt64) (log : List TraceEvent) (reader : Reader) : Prop where
  started : start ≤ reader.cursor
  increasing : reader.seen.Pairwise fun first second => first.sequence < second.sequence
  recorded : ∀ event ∈ reader.seen, 1 ≤ event.sequence.toNat ∧
    log[event.sequence.toNat - 1]? = some event
  bounded : ∀ event ∈ reader.seen, start < event.sequence ∧ event.sequence ≤ reader.cursor
  passed : ∀ ask ∈ reader.asks, ask.after ≤ reader.cursor
  covered : ∀ sequence, start < sequence → sequence ≤ reader.cursor →
    ((∃ event ∈ reader.seen, event.sequence = sequence) ↔
      ∃ ask ∈ reader.asks, ask.before < sequence ∧ sequence ≤ ask.after ∧ ask.oldest ≤ sequence)

section Segments

variable {log : List TraceEvent} {reader : Reader} {start : UInt64}

theorem Serial.toNat_sequence (serial : Serial log) (short : log.length < 2 ^ 64) {position : Nat}
    {event : TraceEvent} (found : log[position]? = some event) :
    event.sequence.toNat = position + 1 := by
  obtain ⟨inside, -⟩ := List.getElem?_eq_some_iff.mp found
  rw [serial position event found, UInt64.toNat_ofNat', Nat.mod_eq_of_lt (by omega)]

/-- The events expected behind a cursor, by number. -/
theorem Serial.mem_expectedEvents (serial : Serial log) (short : log.length < 2 ^ 64)
    {after limit : Nat} {event : TraceEvent} :
    event ∈ expectedEvents log after limit ↔ 1 ≤ event.sequence.toNat ∧
      log[event.sequence.toNat - 1]? = some event ∧
      max after (log.length - 256) < event.sequence.toNat ∧
      event.sequence.toNat ≤ max after (log.length - 256) + limit := by
  rw [expectedEvents_eq, List.mem_iff_getElem?]
  constructor
  · rintro ⟨offset, found⟩
    rw [List.getElem?_take] at found
    split at found
    · rename_i below
      rw [List.getElem?_drop] at found
      have number := serial.toNat_sequence short found
      rw [number, Nat.add_sub_cancel]
      exact ⟨by omega, found, by omega, by omega⟩
    · cases found
  · rintro ⟨positive, found, late, below⟩
    refine ⟨event.sequence.toNat - 1 - max after (log.length - 256), ?_⟩
    rw [List.getElem?_take, if_pos (by omega), List.getElem?_drop]
    have place : max after (log.length - 256) +
        (event.sequence.toNat - 1 - max after (log.length - 256)) = event.sequence.toNat - 1 := by
      omega
    rw [place]
    exact found

theorem Serial.pairwise_expectedEvents (serial : Serial log) (short : log.length < 2 ^ 64)
    (after limit : Nat) : (expectedEvents log after limit).Pairwise fun first second =>
      first.sequence < second.sequence := by
  have whole : log.Pairwise fun first second => first.sequence < second.sequence := by
    rw [List.pairwise_iff_getElem]
    intro first second inFirst inSecond before
    rw [UInt64.lt_iff_toNat_lt, serial.toNat_sequence short (List.getElem?_eq_getElem inFirst),
      serial.toNat_sequence short (List.getElem?_eq_getElem inSecond)]
    omega
  rw [expectedEvents_eq]
  exact (whole.sublist (List.drop_sublist _ _)).sublist (List.take_sublist _ _)

/-- The last event of a list of increasing sequence numbers has the largest. -/
theorem le_getLast {events : List TraceEvent} {last event : TraceEvent}
    (increasing : events.Pairwise fun first second => first.sequence < second.sequence)
    (ends : events.getLast? = some last) (member : event ∈ events) :
    event.sequence ≤ last.sequence := by
  obtain ⟨front, rfl⟩ := List.getLast?_eq_some_iff.mp ends
  rw [List.pairwise_append] at increasing
  rcases List.mem_append.mp member with inFront | isLast
  · exact UInt64.le_of_lt (increasing.2.2 event inFront last List.mem_cons_self)
  · rw [List.mem_singleton.mp isLast]
    exact UInt64.le_refl _

theorem Follows.initial (start : UInt64) (log : List TraceEvent) :
    Follows start log ⟨start, [], []⟩ := by
  refine ⟨UInt64.le_refl _, .nil, nofun, nofun, nofun, ?_⟩
  intro sequence late early
  rw [UInt64.lt_iff_toNat_lt] at late
  rw [UInt64.le_iff_toNat_le] at early
  change sequence.toNat ≤ start.toNat at early
  omega

/-- More events do not change what was seen. -/
theorem Follows.append (follows : Follows start log reader) (more : List TraceEvent) :
    Follows start (log ++ more) reader := by
  refine ⟨follows.started, follows.increasing, ?_, follows.bounded, follows.passed,
    follows.covered⟩
  intro event member
  obtain ⟨positive, found⟩ := follows.recorded event member
  obtain ⟨inside, -⟩ := List.getElem?_eq_some_iff.mp found
  exact ⟨positive, by rw [List.getElem?_append_left inside]; exact found⟩

/-- A reply without events leaves the cursor. -/
theorem Follows.receives_nil (follows : Follows start log reader) (oldest : UInt64) :
    Follows start log (reader.receives oldest []) := by
  have seen : (reader.receives oldest []).seen = reader.seen := List.append_nil _
  refine ⟨follows.started, seen ▸ follows.increasing, seen ▸ follows.recorded,
    seen ▸ follows.bounded, ?_, ?_⟩
  · intro ask member
    rcases List.mem_append.mp member with before | new
    · exact follows.passed ask before
    · rw [List.mem_singleton.mp new]
      exact UInt64.le_refl _
  · intro sequence late early
    rw [seen, follows.covered sequence late early]
    constructor
    · rintro ⟨ask, member, passes⟩
      exact ⟨ask, List.mem_append_left _ member, passes⟩
    · rintro ⟨ask, member, passes⟩
      rcases List.mem_append.mp member with before | new
      · exact ⟨ask, before, passes⟩
      · rw [List.mem_singleton.mp new] at passes
        exact absurd (UInt64.lt_of_lt_of_le passes.1 passes.2.1) (UInt64.lt_irrefl _)

/-- A reply with events moves the cursor to the last of them; what it leaves out had been
overwritten. -/
theorem Follows.receives_some (follows : Follows start log reader) (serial : Serial log)
    (short : log.length < 2 ^ 64) {oldest : UInt64} (first : oldest.toNat = oldestRetained log)
    {limit : Nat} {last : TraceEvent}
    (ends : (expectedEvents log reader.cursor.toNat limit).getLast? = some last) :
    Follows start log
      (reader.receives oldest (expectedEvents log reader.cursor.toNat limit)) := by
  have increasing := serial.pairwise_expectedEvents short reader.cursor.toNat limit
  have member : ∀ event, event ∈ expectedEvents log reader.cursor.toNat limit ↔ _ :=
    fun event => serial.mem_expectedEvents short
  generalize expectedEvents log reader.cursor.toNat limit = events at ends increasing member ⊢
  have cursor : (reader.receives oldest events).cursor = last.sequence := by
    simp only [Reader.receives, ends, Option.map_some, Option.getD_some]
  have asks : (reader.receives oldest events).asks =
      reader.asks ++ [⟨reader.cursor, oldest, last.sequence⟩] := by
    simp only [Reader.receives, ends, Option.map_some, Option.getD_some]
  have seen : (reader.receives oldest events).seen = reader.seen ++ events := rfl
  have later : ∀ event ∈ events, reader.cursor < event.sequence := by
    intro event inEvents
    obtain ⟨-, -, late, -⟩ := (member event).mp inEvents
    rw [UInt64.lt_iff_toNat_lt]
    omega
  obtain ⟨lastPositive, lastFound, lastLate, lastBelow⟩ :=
    (member last).mp (List.mem_of_getLast? ends)
  have moved : reader.cursor < last.sequence := later last (List.mem_of_getLast? ends)
  refine ⟨?_, ?_, ?_, ?_, ?_, ?_⟩
  · rw [cursor]
    exact UInt64.le_trans follows.started (UInt64.le_of_lt moved)
  · rw [seen, List.pairwise_append]
    refine ⟨follows.increasing, increasing, fun old inSeen new inEvents => ?_⟩
    exact UInt64.lt_of_le_of_lt (follows.bounded old inSeen).2 (later new inEvents)
  · rw [seen]
    intro event inBoth
    rcases List.mem_append.mp inBoth with inSeen | inEvents
    · exact follows.recorded event inSeen
    · obtain ⟨positive, found, -⟩ := (member event).mp inEvents
      exact ⟨positive, found⟩
  · rw [seen, cursor]
    intro event inBoth
    rcases List.mem_append.mp inBoth with inSeen | inEvents
    · obtain ⟨low, high⟩ := follows.bounded event inSeen
      exact ⟨low, UInt64.le_trans high (UInt64.le_of_lt moved)⟩
    · exact ⟨UInt64.lt_of_le_of_lt follows.started (later event inEvents),
        le_getLast increasing ends inEvents⟩
  · rw [asks, cursor]
    intro ask inAsks
    rcases List.mem_append.mp inAsks with before | new
    · exact UInt64.le_trans (follows.passed ask before) (UInt64.le_of_lt moved)
    · rw [List.mem_singleton.mp new]
      exact UInt64.le_refl _
  · rw [seen, asks, cursor]
    intro sequence late early
    by_cases known : sequence ≤ reader.cursor
    · -- the new events and the new request are about later numbers
      have before := follows.covered sequence late known
      constructor
      · rintro ⟨event, inBoth, same⟩
        rcases List.mem_append.mp inBoth with inSeen | inEvents
        · obtain ⟨ask, inAsks, passes⟩ := before.mp ⟨event, inSeen, same⟩
          exact ⟨ask, List.mem_append_left _ inAsks, passes⟩
        · have beyond := later event inEvents
          rw [same] at beyond
          exact absurd (UInt64.lt_of_lt_of_le beyond known) (UInt64.lt_irrefl _)
      · rintro ⟨ask, inAsks, passes⟩
        rcases List.mem_append.mp inAsks with old | new
        · obtain ⟨event, inSeen, same⟩ := before.mpr ⟨ask, old, passes⟩
          exact ⟨event, List.mem_append_left _ inSeen, same⟩
        · rw [List.mem_singleton.mp new] at passes
          exact absurd (UInt64.lt_of_lt_of_le passes.1 known) (UInt64.lt_irrefl _)
    · rw [UInt64.not_le] at known
      obtain ⟨lastInside, -⟩ := List.getElem?_eq_some_iff.mp lastFound
      have lastNumber := UInt64.le_iff_toNat_le.mp early
      unfold oldestRetained at first
      rw [if_neg (by omega)] at first
      constructor
      · rintro ⟨event, inBoth, same⟩
        refine ⟨_, List.mem_append_right _ List.mem_cons_self, known, early, ?_⟩
        rcases List.mem_append.mp inBoth with inSeen | inEvents
        · have high := (follows.bounded event inSeen).2
          rw [same] at high
          exact absurd (UInt64.lt_of_lt_of_le known high) (UInt64.lt_irrefl _)
        · obtain ⟨positive, -, kept, -⟩ := (member event).mp inEvents
          rw [same] at positive kept
          rw [UInt64.le_iff_toNat_le]
          change oldest.toNat ≤ _
          omega
      · rintro ⟨ask, inAsks, passes⟩
        rcases List.mem_append.mp inAsks with old | new
        · exact absurd (UInt64.lt_of_lt_of_le known
            (UInt64.le_trans passes.2.1 (follows.passed ask old))) (UInt64.lt_irrefl _)
        · rw [List.mem_singleton.mp new] at passes
          have kept := UInt64.le_iff_toNat_le.mp passes.2.2
          have past := UInt64.lt_iff_toNat_lt.mp known
          dsimp only at kept
          have inside : sequence.toNat - 1 < log.length := by omega
          have found := List.getElem?_eq_getElem inside
          have number := serial.toNat_sequence short found
          have same : (log[sequence.toNat - 1]).sequence = sequence := by
            rw [← UInt64.toNat_inj, number]
            omega
          refine ⟨log[sequence.toNat - 1], List.mem_append_right _ ((member _).mpr ?_), same⟩
          rw [same]
          exact ⟨by omega, found, by omega, by omega⟩

end Segments

/-- The log, the ring and the reader after a run. -/
structure Retrieves (start : UInt64) (world : TraceWorld) : Prop where
  holds : TraceHolds world.rt world.log
  serial : Serial world.log
  follows : world.log.length + 1 < 2 ^ 64 → Follows start world.log world.reader

section Runs

variable {start : UInt64} {world next : TraceWorld}

/-- A request for the trace leaves it as it is. -/
theorem sameTrace_get {rt answered : Runtime} {index : Nat} {after : UInt64} {limit : UInt32}
    (dispatched : dispatchGetTrace (rt.asking index after limit) index = .ok answered) :
    SameTrace rt answered := by
  obtain ⟨replied, reply, done⟩ := bind_ok dispatched
  cases done
  rw [queueTraceResult_ok reply]
  exact ⟨rfl, rfl, rfl⟩

theorem Serial.nil : Serial [] := by
  intro position event found
  rw [List.getElem?_nil] at found
  cases found

theorem Serial.push {rt : Runtime} {log : List TraceEvent} (serial : Serial log)
    (holds : TraceHolds rt log) (now : UInt64) (args : TraceArgs) :
    Serial (log ++ [traceEvent rt now args]) := by
  intro position event found
  rcases Nat.lt_trichotomy position log.length with before | same | beyond
  · rw [List.getElem?_append_left before] at found
    exact serial position event found
  · subst same
    rw [List.getElem?_concat_length] at found
    cases found
    exact holds.sequence
  · have missing : (log ++ [traceEvent rt now args])[position]? = none := by
      rw [List.getElem?_eq_none_iff, List.length_append, List.length_singleton]
      exact beyond
    rw [missing] at found
    cases found

theorem Retrieves.stepped {call : TraceCall} (retrieves : Retrieves start world)
    (taken : world.step call = .ok next) : Retrieves start next := by
  cases call with
  | emit now args =>
      cases taken
      refine ⟨retrieves.holds.emit now args, retrieves.serial.push retrieves.holds now args, ?_⟩
      intro short
      rw [List.length_append, List.length_singleton] at short
      exact (retrieves.follows (by omega)).append _
  | get index after limit =>
      obtain ⟨rt, dispatched, done⟩ := bind_ok taken
      cases done
      exact ⟨retrieves.holds.same (sameTrace_get dispatched), retrieves.serial, retrieves.follows⟩
  | poll index limit =>
      obtain ⟨rt, dispatched, done⟩ := bind_ok taken
      cases done
      refine ⟨retrieves.holds.same (sameTrace_get dispatched), retrieves.serial, fun short => ?_⟩
      change world.log.length + 1 < 2 ^ 64 at short
      have follows := retrieves.follows short
      have asking : TraceHolds (world.rt.asking index world.reader.cursor limit) world.log :=
        retrieves.holds.same ⟨rfl, rfl, rfl⟩
      have oldest := asking.toNat_oldest short
      have events := asking.replyEvents_eq short
        ((world.rt.asking index world.reader.cursor limit).clients index)
      have cursor : ((world.rt.asking index world.reader.cursor limit).clients
          index).traceAfterSequence = world.reader.cursor := by
        rw [Runtime.asking, Runtime.clients_setClient]
      rw [cursor] at events
      dsimp only
      rw [events]
      cases ends : (expectedEvents world.log world.reader.cursor.toNat
          ((world.rt.asking index world.reader.cursor limit).clients
            index).traceMaxEvents.toNat).getLast? with
      | none =>
          rw [List.getLast?_eq_none_iff.mp ends]
          exact follows.receives_nil _
      | some last => exact follows.receives_some retrieves.serial (by omega) oldest ends
  | serve index client =>
      cases taken
      exact ⟨retrieves.holds.same ⟨rfl, rfl, rfl⟩, retrieves.serial, retrieves.follows⟩

/-- After any calls, every GET_TRACE reply is exact as long as the counter of sequence numbers
has not come round to 0, which it does at 2^64 - 1 events: the head names the oldest and the
latest event, and the events are those expected. The bytes queued are the head and the events.
Before that a reader that goes on from the last event it got has seen increasing sequence
numbers, each with the event recorded under it, and of the numbers its cursor has passed it
has seen exactly those that were not yet overwritten when it asked. -/
theorem trace_retrieval_exact_iff {config : Config} {calls : List TraceCall}
    (ran : run TraceWorld.step ⟨Runtime.initial config, [], ⟨start, [], []⟩⟩ calls = .ok world)
    (counted : world.log.length < 2 ^ 64) :
    ((∀ client, ExactReply world.rt client world.log) ↔ world.log.length ≠ 2 ^ 64 - 1) ∧
    (∀ index after limit answered,
      dispatchGetTrace (world.rt.asking index after limit) index = .ok answered →
      (answered.clients index).pendingOutput = (world.rt.clients index).pendingOutput ++
        (traceResult world.rt ((world.rt.asking index after limit).clients index)).encode ++
        (traceReplyEvents world.rt ((world.rt.asking index after limit).clients index)).flatMap
          TraceEvent.encode) ∧
    (world.log.length ≠ 2 ^ 64 - 1 → Follows start world.log world.reader) := by
  have retrieves := @run_preserves _ _ _ _ _ world calls (Retrieves start)
    (fun _ _ _ _ holds taken => holds.stepped taken)
    ⟨.initial config, .nil, fun _ => .initial start []⟩ ran
  refine ⟨⟨fun exact round => ?_, fun short client => ?_⟩, ?_, fun short => ?_⟩
  · exact retrieves.holds.not_exactReply (by omega) Client.fresh (exact Client.fresh)
  · exact retrieves.holds.exactReply (by omega) client
  · intro index after limit answered dispatched
    obtain ⟨replied, reply, done⟩ := bind_ok dispatched
    cases done
    have pending : ((world.rt.asking index after limit).clients index).pendingOutput =
        (world.rt.clients index).pendingOutput := by
      rw [Runtime.asking, Runtime.clients_setClient]
      rfl
    rw [queueTraceResult_ok reply, finishClientRequest, Runtime.clients_setClient,
      Runtime.clients_setClient, ← pending, List.append_assoc]
    rfl
  · exact retrieves.follows (by omega)

end Runs

/-- An event about nothing in particular. -/
def someArgs : TraceArgs where
  clientIndex := 0
  eventKind := .submitAccept
  taskKind := 0
  submitPriority := .normal
  taskId := 1
  resourceId := 0
  res := 0
  credits := 0

/-- A client connects; two events, a request of the reader, a third event and another
request. -/
def followed : List TraceCall :=
  [.serve 0 { Client.fresh with outputCapacity := 4096 }, .emit 1 someArgs, .emit 2 someArgs,
    .poll 0 1, .emit 3 someArgs, .poll 0 256]

/-- The reader sees the three events. -/
theorem trace_followed :
    ∃ world, run TraceWorld.step
        ⟨Runtime.initial (.small 2 (by decide) (by decide)), [], ⟨0, [], []⟩⟩ followed = .ok world ∧
      world.reader.seen.map TraceEvent.sequence = [1, 2, 3] ∧
      (∀ client, ExactReply world.rt client world.log) ∧ Follows 0 world.log world.reader := by
  have seen : ((run TraceWorld.step
      ⟨Runtime.initial (.small 2 (by decide) (by decide)), [], ⟨0, [], []⟩⟩
        followed).toOption.map fun world =>
          (world.log.length, world.reader.seen.map TraceEvent.sequence)) =
      some (3, [1, 2, 3]) := by decide +kernel
  obtain ⟨world, ran, view⟩ := exists_of_toOption_map seen
  obtain ⟨length, sequences⟩ := Prod.mk.inj view
  have short : world.log.length ≠ 2 ^ 64 - 1 := by
    rw [length]
    decide
  obtain ⟨exact, -, follows⟩ := trace_retrieval_exact_iff ran (by rw [length]; decide)
  exact ⟨world, ran, sequences, exact.mpr short, follows short⟩

/-- Any number of events may be recorded. -/
theorem emitted (count : Nat) (world : TraceWorld) :
    ∃ next, run TraceWorld.step world (List.replicate count (.emit 0 someArgs)) = .ok next ∧
      next.log.length = world.log.length + count := by
  induction count generalizing world with
  | zero => exact ⟨world, rfl, rfl⟩
  | succ count ih =>
      obtain ⟨next, ran, longer⟩ := ih { world with
        rt := emitTraceEvent world.rt 0 someArgs
        log := world.log ++ [traceEvent world.rt 0 someArgs] }
      refine ⟨next, ?_, ?_⟩
      · rw [List.replicate_succ, run_cons]
        exact ran
      · rw [longer, List.length_append, List.length_singleton]
        omega

/-- After 2^64 - 1 events the daemon reports 0 as the latest and sends no events, although the
ring holds 256. -/
theorem trace_latest_lost :
    ∃ world, run TraceWorld.step
        ⟨Runtime.initial (.small 2 (by decide) (by decide)), [], ⟨0, [], []⟩⟩
        (List.replicate (2 ^ 64 - 1) (.emit 0 someArgs)) = .ok world ∧
      world.log.length = 2 ^ 64 - 1 ∧ world.rt.traceCount = 256 ∧
      (traceResult world.rt { Client.fresh with traceMaxEvents := 256 }).latestSequence = 0 ∧
      traceReplyEvents world.rt { Client.fresh with traceMaxEvents := 256 } = [] := by
  obtain ⟨world, ran, length⟩ := emitted (2 ^ 64 - 1)
    ⟨Runtime.initial (.small 2 (by decide) (by decide)), [], ⟨0, [], []⟩⟩
  rw [List.length_nil, Nat.zero_add] at length
  have retrieves := @run_preserves _ _ _ _ _ world _ (Retrieves 0)
    (fun _ _ _ _ holds taken => holds.stepped taken)
    ⟨.initial _, .nil, fun _ => .initial 0 []⟩ ran
  have zero : world.rt.nextTraceSequence = 0 := by
    rw [retrieves.holds.sequence, length]
    rfl
  have latest : traceLatestSequence world.rt = 0 := by
    unfold traceLatestSequence
    rw [if_pos zero]
  refine ⟨world, ran, length, ?_, latest, ?_⟩
  · rw [← UInt32.toNat_inj, retrieves.holds.count, length]
    rfl
  · unfold traceReplyEvents traceReplyCount
    rw [latest, if_neg]
    · rfl
    · rintro ⟨-, -, behind⟩
      exact absurd behind (by decide)

end Iouringd
