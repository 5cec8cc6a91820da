import Iouringd.Daemon.Admission
import Iouringd.Daemon.Sessions
import Iouringd.Daemon.Trace
import Iouringd.Lib.Validators

/-! # Everything the daemon emits passes the client's checks

The library checks each record it reads. The daemon fills the fields these checks tie
together in separate places: the kind and the priority when a request is decoded, the
lengths when it is admitted, the result when the completion is read. What an active
task and a recorded event carry is kept as an invariant, and the messages of a step are
checked against it.
-/

namespace Iouringd

open Foundation

/-! ## What is assumed of the kernel -/

/-- The system calls of a completion fail with positive error numbers. -/
def CompleteEnv.sane (env : CompleteEnv) : Bool :=
  env.register.sane && env.releaseFile.sane && env.releaseResult.sane

/-- The completion about to be read is not that of a read which returns more than was
asked for. -/
def readsWithin (rt : Runtime) : Bool :=
  match (ringPeekCompletion rt.ring).2 with
  | none => true
  | some cqe =>
      match findTaskSlot rt cqe.userData with
      | none => true
      | some taskIndex =>
          !(rt.tasks taskIndex).taskKind.reads ||
            decide (cqe.res.toInt ≤ (rt.tasks taskIndex).ioLength.toNat)

/-- Reads return at most the requested length and failures set a positive `errno`. -/
def honest (rt : Runtime) : Action → Bool
  | .dispatch _ env => env.sane
  | .reap env => env.sane && readsWithin rt
  | _ => true

/-! ## Events -/

theorem RequestKind.toWire_of_isTask {kind : RequestKind} (task : kind.isTask = true) :
    1 ≤ kind.toWire ∧ kind.toWire < 15 := by
  cases kind with
  | registerFd | releaseResource | registerBuffer | getStats | getTrace | unknown raw => cases task
  | _ => decide

theorem Priority.ofWire_toWire_isValid {priority : Priority} (valid : priority.isValid = true) :
    (Priority.ofWire priority.toWire).isValid = true := by
  cases priority with
  | unknown raw => cases valid
  | _ => rfl

theorem traceEvent_valid (rt : Runtime) (now : UInt64) {args : TraceArgs}
    (kind : args.taskKind < 15) (priority : args.submitPriority.isValid = true) :
    traceEventIsValid (traceEvent rt now args) = true := by
  have range : ¬ args.eventKind.toWire < TraceEventKind.submitAccept.toWire ∧
      ¬ TraceEventKind.resourceRelease.toWire < args.eventKind.toWire := by
    cases args.eventKind with
    | _ => decide
  have known : ¬ 15 ≤ args.taskKind := UInt16.not_le.mpr kind
  simp only [traceEventIsValid, traceEvent, range, known, Priority.ofWire_toWire_isValid priority,
    decide_false, Bool.or_self, Bool.not_false, Bool.and_self, beq_self_eq_true]

section History

variable {config : Config} {rt next : Runtime} {history : List TraceEvent}

/-- Events that pass the check. -/
def Sound (history : List TraceEvent) : Prop :=
  ∀ event ∈ history, traceEventIsValid event = true

theorem Traces.extends {sort : TraceArgs → Prop} (traces : Traces rt next sort)
    (holds : TraceHolds rt history) (sound : Sound history)
    (passes : ∀ args, sort args → args.taskKind < 15 ∧ args.submitPriority.isValid = true) :
    ∃ longer, TraceHolds next longer ∧ Sound longer := by
  rcases traces with same | ⟨now, args, sorted, same⟩
  · exact ⟨history, holds.same same, sound⟩
  · refine ⟨_, (holds.emit now args).same same, ?_⟩
    obtain ⟨kind, priority⟩ := passes args sorted
    intro event member
    rcases List.mem_append.mp member with old | new
    · exact sound event old
    · rw [List.mem_singleton.mp new]
      exact traceEvent_valid rt now kind priority

/-- Every step records events that pass the check. -/
theorem Invariant.step_traces (invariant : Invariant config rt) (vetted : Vetted rt)
    {action : Action} (taken : step rt action = .ok next) (holds : TraceHolds rt history)
    (sound : Sound history) : ∃ longer, TraceHolds next longer ∧ Sound longer := by
  have kept : SameTrace rt next → ∃ longer, TraceHolds next longer ∧ Sound longer :=
    fun same => ⟨history, holds.same same, sound⟩
  cases step_effect invariant.grounded taken with
  | dispatched index env middle bytes _ connected ready change answered traces =>
      apply traces.extends holds sound
      rintro args (⟨kind, priority⟩ | ⟨type, kind, priority⟩)
      · rw [kind, priority]
        exact ⟨by decide, rfl⟩
      · obtain ⟨-, -, grammatical⟩ := (invariant.entries index).ready ready
        obtain ⟨task, valid⟩ := grammatical.submission type
        rw [kind, priority]
        exact ⟨(RequestKind.toWire_of_isTask task).2, valid⟩
  | completed _ taskIndex res ring _ occupied source completed calls =>
      have entry := vetted taskIndex occupied
      have before : TraceHolds { rt with ring } history := holds.same ⟨rfl, rfl, rfl⟩
      apply completed.recorded.extends before sound
      rintro args ⟨kind, priority⟩
      rw [kind, priority]
      exact ⟨(RequestKind.toWire_of_isTask entry.kind).2, entry.priority⟩
  | served index incoming _ connected only served =>
      apply kept
      rw [only.frame]
      exact ⟨rfl, rfl, rfl⟩
  | swept updates _ swept slots =>
      apply kept
      rw [swept.frame]
      exact ⟨rfl, rfl, rfl⟩
  | flushed index writes _ connected only flushed =>
      apply kept
      rw [only.frame]
      exact ⟨rfl, rfl, rfl⟩
  | disconnected index connected =>
      have only : OnlyClient rt index (closeClient rt index) := .closeClient
      apply kept
      rw [only.frame]
      exact ⟨rfl, rfl, rfl⟩
  | stored store =>
      apply kept
      cases store with
      | _ => exact ⟨rfl, rfl, rfl⟩
  | _ => exact kept ⟨rfl, rfl, rfl⟩

end History

/-! ## Completion records -/

section Records

variable {task : TaskSlot} {ioBytesMax : Nat} {res : Int32}

theorem isReadKind_toWire {kind : RequestKind} (known : kind.isTask = true) :
    isReadKind kind.toWire = kind.reads := by
  cases kind with
  | registerFd | releaseResource | registerBuffer | getStats | getTrace | unknown raw => cases known
  | _ => rfl

/-- What the check of a completion record asks for, by the kind of the task. -/
theorem completionRecord_valid (vetted : task.Vetted ioBytesMax)
    (identified : taskIdIsInvalid task.taskId = false) {final : Int32} {length : UInt16}
    (reads : task.taskKind.reads = true → if final < 0 then length = 0 else
      final ≤ 65535 ∧ length = final.toUInt32.toUInt16)
    (accepts : task.taskKind = .accept → if final < 0 then length = 0 else 0 < final)
    (others : task.taskKind.reads = false → task.taskKind ≠ .accept → length = 0) :
    completionRecordIsValid
      { completionRecord task res with res := final, payloadLength := length } = true := by
  obtain ⟨low, high⟩ := RequestKind.toWire_of_isTask vetted.kind
  have least : ¬ task.taskKind.toWire < RequestKind.nop.toWire := UInt16.not_lt.mpr low
  have most : ¬ 15 ≤ task.taskKind.toWire := UInt16.not_le.mpr high
  unfold completionRecordIsValid
  simp only [completionRecord, ne_eq, not_true_eq_false, decide_false, identified, least, most,
    Bool.or_self, Bool.false_eq_true, ↓reduceIte, isReadKind_toWire vetted.kind]
  cases named : task.taskKind.reads with
  | true =>
      have given := reads named
      simp only [↓reduceIte]
      split
      · rename_i negative
        rw [if_pos negative] at given
        rw [given]
        rfl
      · rename_i nonnegative
        rw [if_neg nonnegative] at given
        rw [given.2, beq_self_eq_true, Bool.and_true]
        exact decide_eq_true given.1
  | false =>
      simp only [Bool.false_eq_true, ↓reduceIte]
      split
      · rename_i wire
        have accept : task.taskKind = .accept := by
          rw [← RequestKind.ofWire_toWire task.taskKind (Or.inl vetted.kind), wire]
          rfl
        have given := accepts accept
        split
        · rename_i negative
          rw [if_pos negative] at given
          rw [given]
          rfl
        · rename_i nonnegative
          rw [if_neg nonnegative] at given
          exact decide_eq_true given
      · rename_i wire
        have other : task.taskKind ≠ .accept := by
          intro accept
          rw [accept] at wire
          exact wire rfl
        rw [others named other]
        rfl

/-- A read that returns at most what was asked for fits the 16 bits of the length. -/
theorem read_fits (vetted : task.Vetted ioBytesMax) (bounded : ioBytesMax ≤ maxIoBytes)
    (reads : task.taskKind.reads = true) (within : res.toInt ≤ task.ioLength.toNat) :
    res ≤ 65535 := by
  have fits := vetted.length reads
  have most : (maxIoBytes : Int) = 4096 := rfl
  have bound : (65535 : Int32).toInt = 65535 := rfl
  rw [Int32.le_iff_toInt_le, bound]
  omega

theorem Prepared.record_valid {rt : Runtime} {update : UpdateOutcome} {prepared : Preparation}
    (prepares : Prepared rt task res update prepared) (vetted : task.Vetted ioBytesMax)
    (bounded : ioBytesMax ≤ maxIoBytes)
    (identified : taskIdIsInvalid task.taskId = false) (connected : taskConnected rt task = true)
    (sane : update.sane = true)
    (within : task.taskKind.reads = true → res.toInt ≤ task.ioLength.toNat) :
    completionRecordIsValid prepared.record = true := by
  cases prepares with
  | plain nothing =>
      refine @completionRecord_valid task ioBytesMax res vetted identified res
        (completionRecord task res).payloadLength ?_ ?_ ?_
      · intro reads
        have length : (completionRecord task res).payloadLength =
            if 0 < res then res.toUInt32.toUInt16 else 0 := by
          unfold completionRecord
          cases named : task.taskKind with
          | sockRead | sockReadFixed | fileRead => rfl
          | _ =>
              rw [named] at reads
              cases reads
        rw [length]
        split
        · rename_i negative
          exact if_neg (Int32.lt_asymm negative)
        · rename_i nonnegative
          refine ⟨read_fits vetted bounded reads (within reads), ?_⟩
          split
          · rfl
          · rename_i zero
            have none : res = 0 :=
              Int32.le_antisymm (Int32.not_lt.mp zero) (Int32.not_lt.mp nonnegative)
            rw [none]
            rfl
      · intro accept
        simp only [TaskSlot.produces, accept, beq_self_eq_true, Bool.true_or, Bool.true_and,
          decide_eq_false_iff_not] at nothing
        rw [if_pos (Int32.not_le.mp nothing)]
        unfold completionRecord
        simp only [accept]
      · intro quiet other
        unfold completionRecord
        cases named : task.taskKind with
        | sockRead | sockReadFixed | fileRead =>
            rw [named] at quiet
            cases quiet
        | _ => rfl
  | abandoned final produces reason =>
      have empty := completionRecord_payloadLength produces
      have negative : final < 0 := abandoned_negative sane reason connected
      refine @completionRecord_valid task ioBytesMax res vetted identified final
        (completionRecord task res).payloadLength ?_ ?_ (fun _ _ => empty)
      · intro _
        rw [if_pos negative]
        exact empty
      · intro _
        rw [if_pos negative]
        exact empty
  | registered slot length payload produces reserved _ valid updated address =>
      have positive : 0 < task.resultResourceId.toInt32 := by
        have value := toInt_resultResourceId valid
        simp only [resultIdInvalid, Bool.or_eq_false_iff, beq_eq_false_iff_ne] at valid
        have some : task.resultResourceId.toNat ≠ 0 := by
          intro zero
          exact valid.1 (UInt32.toNat_inj.mp zero)
        have zero : (0 : Int32).toInt = 0 := rfl
        rw [Int32.lt_iff_toInt_lt, value]
        omega
      have nonnegative : ¬ task.resultResourceId.toInt32 < 0 := Int32.lt_asymm positive
      simp only [TaskSlot.produces, Bool.and_eq_true, Bool.or_eq_true, beq_iff_eq] at produces
      apply completionRecord_valid vetted identified
      · intro reads
        rcases produces.1 with named | named
        · rw [named] at reads
          cases reads
        · rw [named] at reads
          cases reads
      · intro _
        rw [if_neg nonnegative]
        exact positive
      · intro _ other
        rcases address with ⟨none, -⟩ | ⟨accept, -⟩
        · exact none
        · exact absurd accept other

end Records

/-! ## Messages -/

/-- The client takes the message. -/
def Message.Passes : Message → Prop
  | submit result => submitResultIsValid result = true
  | resource result => resourceResultIsValid result = true
  | trace result events => result.reserved = 0 ∧ result.count.toNat = events.length ∧ Sound events
  | completion record payload =>
      completionRecordIsValid record = true ∧ payload.length = record.payloadLength.toNat
  | _ => True

/-- The message is a reply to the request; a trace reply carries no more events than were
asked for. -/
def Message.Suits (message : Message) (request : Request) : Prop :=
  message.replyType = some request.kind.replyType ∧
    match message with
    | trace result _ => ∀ after most, request.body = .trace after most → result.count ≤ most
    | _ => True

/-- The replies of a log. -/
def replies (log : List Message) : List Message :=
  log.filter fun message => message.replyType.isSome

section Replies

variable {config : Config} {rt : Runtime} {index : Nat} {env : DispatchEnv}
  {history : List TraceEvent} {message : Message}

theorem taskIdIsInvalid_eq_false {taskId : TaskId} (low : 1 ≤ taskId)
    (high : taskId < taskIdReservedMin) : taskIdIsInvalid taskId = false := by
  simp only [taskIdIsInvalid, Bool.or_eq_false_iff, beq_eq_false_iff_ne, decide_eq_false_iff_not]
  refine ⟨?_, UInt64.not_le.mpr high⟩
  intro invalid
  rw [invalid] at low
  exact absurd low (by decide)

/-- A reply passes the checks when the errors behind it are positive. -/
theorem Message.Answers.passes (answers : message.Answers rt index env)
    (ledger : Ledger rt) (holds : TraceHolds rt history) (sound : Sound history)
    (sane : env.sane = true) : message.Passes := by
  cases message with
  | submit result =>
      change submitResultIsValid result = true
      unfold submitResultIsValid
      rw [Bool.or_eq_true]
      rcases answers with ⟨errno, credits, same, positive⟩ | ⟨credits, same, fresh⟩
      · apply Or.inl
        rw [same]
        simp only [submitResultIsRejection, beq_self_eq_true, Bool.true_and, decide_eq_true_eq]
        exact neg_of_positive (positive sane)
      · apply Or.inr
        have low : 1 ≤ rt.nextTaskId := by
          have counter := ledger.nextTaskId
          have one : (1 : UInt64).toNat = 1 := rfl
          rw [UInt64.le_iff_toNat_le]
          omega
        rw [same]
        simp only [beq_self_eq_true, taskIdIsInvalid_eq_false low fresh, Bool.not_false,
          Bool.and_self]
  | resource result =>
      change resourceResultIsValid result = true
      unfold resourceResultIsValid
      rw [Bool.or_eq_true]
      rcases answers with refuses | grants
      · obtain ⟨errno, res, positive⟩ := refuses.res
        apply Or.inl
        simp only [resourceResultIsRejection, refuses.resourceId, refuses.reserved, res,
          beq_self_eq_true, Bool.true_and, Bool.and_true, decide_eq_true_eq]
        exact neg_of_positive (positive sane)
      · apply Or.inr
        have named : (result.resourceId == resourceIdInvalid) = false :=
          beq_eq_false_iff_ne.mpr grants.resourceId
        simp only [grants.reserved, grants.res, named, beq_self_eq_true, Bool.not_false,
          Bool.and_self]
  | trace result events =>
      obtain ⟨head, listed⟩ := answers
      subst head listed
      refine ⟨rfl, ?_, ?_⟩
      · rw [traceResult_count, length_traceReplyEvents]
      · intro event member
        exact sound event (holds.replyEvents_subset _ event member)
  | stats result => trivial
  | greeting result => trivial
  | completion record payload => exact answers.elim

/-- A trace reply has at most as many events as the request asks for. -/
theorem Message.Answers.suits (answers : message.Answers rt index env)
    (type : message.replyType = some (rt.clients index).decodedRequest.kind.replyType) :
    message.Suits (rt.clients index).decodedRequest := by
  refine ⟨type, ?_⟩
  cases message with
  | trace result events =>
      obtain ⟨head, -⟩ := answers
      intro after most body
      have asked : (rt.clients index).traceMaxEvents = most := by
        change (rt.clients index).decodedBody = _ at body
        unfold Client.decodedBody at body
        cases kind : (rt.clients index).request.taskKind with
        | getTrace =>
            simp only [kind, RequestBody.trace.injEq] at body
            exact body.2
        | _ => simp only [kind, reduceCtorEq] at body
      rw [head, UInt32.le_iff_toNat_le, traceResult_count, ← asked]
      unfold traceReplyCount
      split
      · exact countTraceEvents_le _ _ _
      · exact Nat.zero_le _
  | _ => trivial

end Replies

/-! ## Steps and runs -/

section Steps

variable {config : Config} {world : World} {action : Action} {next : Runtime}
  {log extra : Nat → List Message} {history : List TraceEvent}

/-- Everything a step queues passes the checks. -/
theorem Emission.passes (emission : Emission world action next extra)
    (hosted : Hosted config world) (vetted : Vetted world.rt) (holds : TraceHolds world.rt history)
    (sound : Sound history) (kept : honest world.rt action = true) {index : Nat}
    (active : (world.rt.clients index).isActive = true) :
    ∀ message ∈ extra index, message.Passes := by
  intro message member
  have whole := (emission.session index active).whole message member
  cases emission.origin index message member with
  | greeting result incoming => trivial
  | reply env _ ready answers => exact answers.passes hosted.invariant.ledger holds sound kept
  | completion env taskIndex res ring prepared occupied own connected source prepares =>
      obtain ⟨cqe, peeked, found, result⟩ := source
      simp only [honest, CompleteEnv.sane, Bool.and_eq_true] at kept
      obtain ⟨low, high⟩ := hosted.active_id occupied
      have bounded : world.rt.limits.ioBytesMax ≤ maxIoBytes := by
        rw [hosted.invariant.limits]
        exact config.ioBytesMax_le
      refine ⟨prepares.record_valid (vetted taskIndex occupied) bounded
        (taskIdIsInvalid_eq_false low
          (UInt64.lt_of_lt_of_le high hosted.invariant.ledger.unreserved))
        connected kept.1.1.1 ?_, whole⟩
      intro reads
      have within := kept.2
      simp only [readsWithin, peeked, found, reads, Bool.not_true, Bool.false_or,
        decide_eq_true_eq] at within
      rw [← result]
      exact within

/-- A step that finishes a request queues one reply, which suits it. -/
theorem Emission.suits (emission : Emission world action next extra) {index : Nat}
    (active : (world.rt.clients index).isActive = true) :
    List.Forall₂ Message.Suits (replies (extra index)) (answeredRequest world.rt next index) := by
  have session := emission.session index active
  have origin := emission.origin index
  generalize extra index = messages at session origin
  unfold answeredRequest
  cases session with
  | quiet phase ready request closing pending =>
      rw [ready]
      cases (world.rt.clients index).requestReady <;> exact .nil
  | received submit phase idle ready closing pending =>
      rw [idle]
      exact .nil
  | greeted result _ phase idle ready answer pending =>
      rw [idle]
      exact .nil
  | answered message active phase samePhase ready idle whole type pending =>
      rw [ready, idle, active]
      have reply : replies [message] = [message] := by
        unfold replies
        rw [List.filter_cons_of_pos (by rw [type]; rfl), List.filter_nil]
      rw [reply]
      refine .cons ?_ .nil
      cases origin message (List.mem_singleton_self _) with
      | greeting result incoming => cases type
      | reply env _ ready answers => exact answers.suits type
      | completion => cases type
  | delivered record payload _ phase ready request closing whole pending =>
      rw [ready]
      cases (world.rt.clients index).requestReady <;> exact .nil
  | closed inactive ready =>
      rw [inactive, Bool.and_false]
      exact .nil

/-- The log of each connection passes the checks, and its replies suit the requests that
were answered. -/
structure Passing (world : World) (log : Nat → List Message) : Prop where
  passes : ∀ conn, ∀ message ∈ log conn, message.Passes
  suits : ∀ conn, List.Forall₂ Message.Suits (replies (log conn)) (world.answered conn)

theorem Passing.extended (passing : Passing world log) (hosted : Hosted config world)
    (vetted : Vetted world.rt) (holds : TraceHolds world.rt history) (sound : Sound history)
    (emission : Emission world action next extra) (kept : honest world.rt action = true) :
    Passing (world.advance action next) (world.extend log extra) := by
  refine ⟨?_, ?_⟩
  · intro conn message member
    cases hosts : world.hostOf conn with
    | none =>
        rw [World.extend_none hosts] at member
        exact passing.passes conn message member
    | some index =>
        rw [World.extend_some hosts] at member
        rcases List.mem_append.mp member with old | new
        · exact passing.passes conn message old
        · exact emission.passes hosted vetted holds sound kept
            (hosted.hostOf_eq_some.mp hosts).1 message new
  · intro conn
    change List.Forall₂ _ _ (world.answered conn ++ _)
    cases hosts : world.hostOf conn with
    | none =>
        rw [World.extend_none hosts, Option.map_none, Option.getD_none, List.append_nil]
        exact passing.suits conn
    | some index =>
        rw [World.extend_some hosts, Option.map_some, Option.getD_some, replies,
          List.filter_append]
        exact List.rel_append (passing.suits conn)
          (emission.suits (hosted.hostOf_eq_some.mp hosts).1)

/-- What the daemon emits in a run of the loop is, for every connection, a list of whole
messages that all pass the checks of the client library: completion records with their
payloads, submit results, resource results and trace replies with their events. A trace
reply has no more events than its request asked for. -/
theorem emissions_pass {actions : List Action}
    (ran : run World.step (.initial config) actions = .ok world)
    (looped : ∀ action ∈ actions, action.looped = true)
    (kept : Along World.step (fun world action => honest world.rt action = true)
      (.initial config) actions) :
    ∃ log, Logged world log ∧ (∀ conn, ∀ message ∈ log conn, message.Passes) ∧
      ∀ conn, List.Forall₂ Message.Suits (replies (log conn)) (world.answered conn) := by
  have initially : Hosted config (.initial config) ∧ Vetted (Runtime.initial config) ∧
      (∃ history, TraceHolds (Runtime.initial config) history ∧ Sound history) ∧
      ∃ log, Logged (.initial config) log ∧ Passing (.initial config) log := by
    refine ⟨.initial config, ?_, ⟨[], .initial config, nofun⟩, fun _ => [], .initial config,
      fun _ => nofun, fun _ => .nil⟩
    intro taskIndex occupied
    simp only [Runtime.occupied, Runtime.initial, TaskSlot.cleared, Bool.and_false,
      Bool.false_eq_true] at occupied
  have reached : Hosted config world ∧ Vetted world.rt ∧
      (∃ history, TraceHolds world.rt history ∧ Sound history) ∧
      ∃ log, Logged world log ∧ Passing world log := by
    refine @Along.preserves _ _ _ World.step _ _ _ actions
      (fun state => Hosted config state ∧ Vetted state.rt ∧
        (∃ history, TraceHolds state.rt history ∧ Sound history) ∧
        ∃ log, Logged state log ∧ Passing state log) (kept.with_mem looped) ?_ initially ran
    intro before action after meets reached taken
    obtain ⟨stepped, same⟩ := World.step_ok taken
    obtain ⟨hosted, vetted, ⟨history, holds, sound⟩, log, logged, passing⟩ := reached
    obtain ⟨extra, emission⟩ := hosted.emission meets.2 stepped
    rw [same]
    exact ⟨hosted.stepped stepped, vetted.stepped hosted.invariant stepped,
      hosted.invariant.step_traces vetted stepped holds sound, _,
      logged.extended hosted stepped emission,
      passing.extended hosted vetted holds sound emission meets.1⟩
  obtain ⟨-, -, -, log, logged, passing⟩ := reached
  exact ⟨log, logged, passing.passes, passing.suits⟩

end Steps

/-- A client reads three bytes from a descriptor it registered and asks for the trace. -/
def readAndTraced : List Action :=
  readInFlight ++ [.store (.ioBuffer 0 [1, 2, 3]), .post 0 3, .reap .smooth] ++
    requesting 0 (GetTraceRequest.encode ⟨requestHeader .getTrace, 0, 2, 0⟩) .smooth

theorem emissions_pass_read :
    ∃ world, run World.step (.initial (.small 1 (by decide) (by decide))) readAndTraced =
        .ok world ∧ (world.answered 0).length = 3 ∧ world.reaped = [(1, true)] ∧
      ∃ log, Logged world log ∧ (∀ conn, ∀ message ∈ log conn, message.Passes) ∧
        ∀ conn, List.Forall₂ Message.Suits (replies (log conn)) (world.answered conn) := by
  have seen : ((run World.step (.initial (.small 1 (by decide) (by decide)))
      readAndTraced).toOption.map fun world => ((world.answered 0).length, world.reaped)) =
      some (3, [(1, true)]) := by decide +kernel
  have checked : checkAlong World.step (fun world action => honest world.rt action)
      (.initial (.small 1 (by decide) (by decide))) readAndTraced = true := by decide +kernel
  have looped : ∀ action ∈ readAndTraced, action.looped = true := by
    rw [← List.all_eq_true]
    rfl
  obtain ⟨world, ran, view⟩ := exists_of_toOption_map seen
  obtain ⟨answered, reaped⟩ := Prod.mk.inj view
  exact ⟨world, ran, answered, reaped, emissions_pass ran looped (along_of_checkAlong checked)⟩

end Iouringd
