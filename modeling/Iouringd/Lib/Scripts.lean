import Iouringd.Lib.Completions

/-! # Calls in pieces

A call of the library makes many system calls. As long as no peek finds a part of a header, no
`recv` fails and there is memory, it makes no difference to a call in how many pieces its bytes
arrive and how often it is interrupted: it does what it does when everything goes well.
-/

namespace Iouringd

open Foundation

/-- A peek finds a whole header, or is interrupted. -/
def RecvResult.findsHeader : RecvResult → Bool
  | .bytes count => decide (8 ≤ count)
  | .interrupted => true
  | .failed _ => false

/-- A read does not fail. -/
def RecvResult.sound : RecvResult → Bool
  | .failed _ => false
  | _ => true

/-- No peek finds a part of a header, no `recv` fails and there is memory. -/
structure Script.Calm (script : Script) : Prop where
  peeks : ∀ outcome ∈ script.peeks, outcome.findsHeader = true
  recvs : ∀ outcome ∈ script.recvs, outcome.sound = true
  mallocs : ∀ granted ∈ script.mallocs, granted = true

/-- Everything goes well. -/
theorem Script.smooth_calm : Script.smooth.Calm := by
  refine ⟨?_, ?_, ?_⟩
  · intro outcome member
    cases member
  · intro outcome member
    cases member
  · intro granted member
    cases member

instance (script : Script) : Decidable script.Calm :=
  decidable_of_iff ((∀ outcome ∈ script.peeks, outcome.findsHeader = true) ∧
      (∀ outcome ∈ script.recvs, outcome.sound = true) ∧ ∀ granted ∈ script.mallocs, granted = true)
    ⟨fun all => ⟨all.1, all.2.1, all.2.2⟩, fun calm => ⟨calm.peeks, calm.recvs, calm.mallocs⟩⟩

namespace Process

/-- Under a calm script an operation does what it does when everything goes well. -/
def Calmly {α : Type} (operation : Process → α × Process) : Prop :=
  ∀ process : Process, process.script.Calm → ∃ result next, next.script.Calm ∧
    operation process = (result, next) ∧
      operation (process.under .smooth) = (result, next.under .smooth)

/-! ## The system calls -/

/-- A stream that ends early. -/
theorem readLoop_short {wanted : Nat} {stream : List UInt8} (short : stream.length < wanted) :
    readLoop [] wanted stream = (.error EPIPE, [], []) :=
  if_pos short

/-- A stream that is long enough. -/
theorem readLoop_enough {wanted : Nat} {stream : List UInt8} (enough : ¬ stream.length < wanted) :
    readLoop [] wanted stream = (.ok (stream.take wanted), stream.drop wanted, []) :=
  if_neg enough

/-- Pieces and interruptions do not show in what is read. -/
theorem readLoop_sound (outcomes : List RecvResult) : ∀ wanted stream,
    (∀ outcome ∈ outcomes, outcome.sound = true) →
    (∀ outcome ∈ (readLoop outcomes wanted stream).2.2, outcome.sound = true) ∧
      readLoop [] wanted stream =
        ((readLoop outcomes wanted stream).1, (readLoop outcomes wanted stream).2.1, []) := by
  induction outcomes with
  | nil =>
      intro wanted stream sound
      unfold readLoop
      split
      · exact ⟨sound, rfl⟩
      · exact ⟨sound, rfl⟩
  | cons outcome outcomes ih =>
      intro wanted stream sound
      have later := fun next member => sound next (List.mem_cons_of_mem outcome member)
      by_cases none : wanted = 0
      · subst none
        simp only [readLoop, ↓reduceIte, Nat.not_lt_zero, List.take_zero, List.drop_zero]
        exact ⟨sound, trivial⟩
      · cases outcome with
        | interrupted =>
            have again : readLoop (.interrupted :: outcomes) wanted stream =
                readLoop outcomes wanted stream := by
              rw [readLoop, if_neg none]
            rw [again]
            exact ih wanted stream later
        | failed errno => cases sound (.failed errno) List.mem_cons_self
        | bytes count =>
            cases stream with
            | nil =>
                have ended : readLoop (.bytes count :: outcomes) wanted [] =
                    (.error EPIPE, [], outcomes) := by
                  rw [readLoop, if_neg none]
                  rfl
                rw [ended, readLoop_short (Nat.pos_of_ne_zero none)]
                exact ⟨later, rfl⟩
            | cons byte rest =>
                generalize whole : byte :: rest = stream
                have some : stream.isEmpty = false := by
                  rw [← whole]
                  rfl
                have long : 0 < stream.length := by
                  rw [← whole]
                  exact Nat.zero_lt_succ _
                generalize amount : min (max 1 count) (min wanted stream.length) = taken
                have within : taken ≤ wanted ∧ taken ≤ stream.length := by omega
                have taking : readLoop (.bytes count :: outcomes) wanted stream =
                    ((readLoop outcomes (wanted - taken) (stream.drop taken)).1.map
                        (stream.take taken ++ ·),
                      (readLoop outcomes (wanted - taken) (stream.drop taken)).2) := by
                  simp only [readLoop, if_neg none, some, Bool.false_eq_true, ↓reduceIte, amount]
                rw [taking]
                obtain ⟨still, same⟩ := ih (wanted - taken) (stream.drop taken) later
                refine ⟨still, ?_⟩
                have result := congrArg Prod.fst same
                have left := congrArg (fun read => read.2.1) same
                dsimp only at result left ⊢
                rw [← result, ← left]
                have remains := @List.length_drop _ taken stream
                by_cases short : stream.length < wanted
                · rw [readLoop_short short, readLoop_short (by omega)]
                  rfl
                · rw [readLoop_enough short, readLoop_enough (by omega)]
                  simp only [Except.map, List.drop_drop, Nat.add_sub_cancel' within.1]
                  rw [← List.take_add, Nat.add_sub_cancel' within.1]

/-- A read in pieces. -/
theorem readFull_calmly (fd : Fd) (length : Nat) :
    Calmly fun process => process.readFull fd length := by
  intro process calm
  obtain ⟨sound, same⟩ := readLoop_sound process.script.recvs length (process.inbox fd) calm.recvs
  refine ⟨_, (process.readFull fd length).2, ⟨calm.peeks, sound, calm.mallocs⟩, rfl, ?_⟩
  have smooth : ∀ read : Except Errno (List UInt8) × List UInt8 × List RecvResult,
      read = readLoop [] length (process.inbox fd) →
        (process.under .smooth).readFull fd length = (read.1,
          ((process.under .smooth).setInbox fd read.2.1).under ⟨[], read.2.2, []⟩) := by
    rintro read rfl
    rfl
  exact smooth _ same.symm

/-- An interrupted peek that finds the header. -/
theorem peekLoop_findsHeader {stream : List UInt8} (outcomes : List RecvResult)
    (finds : ∀ outcome ∈ outcomes, outcome.findsHeader = true) :
    (∀ outcome ∈ (peekLoop stream outcomes).2, outcome.findsHeader = true) ∧
      (peekLoop stream outcomes).1 = peeked stream 8 := by
  induction outcomes with
  | nil => exact ⟨finds, rfl⟩
  | cons outcome outcomes ih =>
      have later := fun next member => finds next (List.mem_cons_of_mem outcome member)
      cases outcome with
      | interrupted => exact ih later
      | failed errno => cases finds (.failed errno) List.mem_cons_self
      | bytes count =>
          have whole : 8 ≤ count := of_decide_eq_true (finds (.bytes count) List.mem_cons_self)
          refine ⟨later, ?_⟩
          have less : min count stream.length < 8 ↔ min 8 stream.length < 8 := by omega
          simp only [peekLoop, peeked, less]

/-- A peek at a header that has arrived. -/
theorem peekProtocolHeader_calmly (fd : Fd) :
    Calmly fun process => process.peekProtocolHeader fd := by
  intro process calm
  obtain ⟨finds, same⟩ := @peekLoop_findsHeader (process.inbox fd) _ calm.peeks
  refine ⟨_, (process.peekProtocolHeader fd).2, ⟨finds, calm.recvs, calm.mallocs⟩, rfl, ?_⟩
  exact congrArg (fun result => (result, process.under .smooth)) same.symm

/-- An allocation. -/
theorem malloc_calmly : Calmly malloc := by
  intro process calm
  unfold malloc
  cases mallocs : process.script.mallocs with
  | nil => exact ⟨true, process, calm, rfl, rfl⟩
  | cons granted rest =>
      have here := calm.mallocs
      rw [mallocs] at here
      have now := here granted List.mem_cons_self
      subst now
      exact ⟨true, process.under { process.script with mallocs := rest }, ⟨calm.peeks, calm.recvs,
        fun next member => here next (List.mem_cons_of_mem _ member)⟩, rfl, rfl⟩

/-! ## The functions -/

/-- An entry for a payload. -/
theorem storeBufferedPayloadOwned_calmly (fd : Fd) (taskId : TaskId) (payload : List UInt8) :
    Calmly fun process => process.storeBufferedPayloadOwned fd taskId payload := by
  intro process calm
  obtain ⟨granted, next, still, rough, smooth⟩ := malloc_calmly process calm
  unfold storeBufferedPayloadOwned
  dsimp only at rough smooth ⊢
  rw [rough, smooth]
  cases granted with
  | false => exact ⟨_, next, still, rfl, rfl⟩
  | true =>
      exact ⟨_, { next with payloads := next.payloads ++ [⟨fd, taskId, payload⟩] }, still, rfl, rfl⟩

/-- An entry for a completion. -/
theorem queueBufferedCompletion_calmly (fd : Fd) (completion : CompletionRecord)
    (payload : List UInt8) :
    Calmly fun process => process.queueBufferedCompletion fd completion payload := by
  intro process calm
  obtain ⟨granted, next, still, rough, smooth⟩ := malloc_calmly process calm
  unfold queueBufferedCompletion
  dsimp only at rough smooth ⊢
  rw [rough, smooth]
  cases granted with
  | false => exact ⟨_, next, still, rfl, rfl⟩
  | true =>
      exact ⟨_, { next with completions := next.completions ++ [⟨fd, completion, payload⟩] },
        still, rfl, rfl⟩

/-- A payload that may be empty. -/
theorem keepPayload_calmly (fd : Fd) (completion : CompletionRecord) (payload : List UInt8) :
    Calmly fun process => process.keepPayload fd completion payload := by
  intro process calm
  unfold keepPayload
  by_cases some : payload.length ≠ 0
  · simp only [if_pos some]
    exact storeBufferedPayloadOwned_calmly fd _ payload process calm
  · simp only [if_neg some]
    exact ⟨none, process, calm, rfl, rfl⟩

/-- The first completion that is buffered. -/
theorem popBufferedCompletion_calmly (fd : Fd) :
    Calmly fun process => process.popBufferedCompletion fd := by
  intro process calm
  have queue : (process.under .smooth).completions = process.completions := rfl
  unfold popBufferedCompletion
  dsimp only
  rw [queue]
  cases takeFirst (fun entry : BufferedCompletion => entry.fd == fd) process.completions with
  | none => exact ⟨_, process, calm, rfl, rfl⟩
  | some found =>
      obtain ⟨entry, rest⟩ := found
      obtain ⟨error, next, still, rough, smooth⟩ := keepPayload_calmly fd entry.completion
        entry.payload { process with completions := rest } calm
      have erased : ({ process.under .smooth with completions := rest } : Process) =
          ({ process with completions := rest } : Process).under .smooth := rfl
      dsimp only at rough smooth ⊢
      rw [erased, rough, smooth]
      cases error with
      | some errno => exact ⟨_, next, still, rfl, rfl⟩
      | none => exact ⟨_, next, still, rfl, rfl⟩

/-- A completion, with its payload. -/
theorem readCompletionWithPayload_calmly (fd : Fd) :
    Calmly fun process => process.readCompletionWithPayload fd := by
  intro process calm
  obtain ⟨result, next, still, rough, smooth⟩ :=
    readFull_calmly fd CompletionRecord.size process calm
  unfold readCompletionWithPayload
  dsimp only at rough smooth ⊢
  rw [rough, smooth]
  cases result with
  | error errno => exact ⟨_, next, still, rfl, rfl⟩
  | ok bytes =>
      dsimp only
      by_cases invalid : (!completionRecordIsValid (CompletionRecord.decode bytes)) = true
      · simp only [if_pos invalid]
        exact ⟨_, next, still, rfl, rfl⟩
      · simp only [if_neg invalid]
        by_cases none : (CompletionRecord.decode bytes).payloadLength = 0
        · simp only [if_pos none]
          exact ⟨_, next, still, rfl, rfl⟩
        · simp only [if_neg none]
          obtain ⟨granted, next, still, rough, smooth⟩ := malloc_calmly next still
          rw [rough, smooth]
          cases granted with
          | false => exact ⟨_, next, still, rfl, rfl⟩
          | true =>
              obtain ⟨result, next, still, rough, smooth⟩ := readFull_calmly fd
                (CompletionRecord.decode bytes).payloadLength.toNat next still
              dsimp only at rough smooth ⊢
              rw [rough, smooth]
              cases result with
              | error errno => exact ⟨_, next, still, rfl, rfl⟩
              | ok payload => exact ⟨_, next, still, rfl, rfl⟩

/-- Completions up to the next reply. -/
theorem drainLoop_calmly (fd : Fd) (fuel : Nat) :
    Calmly fun process => drainLoop fd fuel process := by
  induction fuel with
  | zero =>
      intro process calm
      exact ⟨none, process, calm, rfl, rfl⟩
  | succ fuel ih =>
      intro process calm
      obtain ⟨result, next, still, rough, smooth⟩ := peekProtocolHeader_calmly fd process calm
      unfold drainLoop
      dsimp only at rough smooth ⊢
      rw [rough, smooth]
      cases result with
      | error errno => exact ⟨_, next, still, rfl, rfl⟩
      | ok header =>
          dsimp only
          by_cases reply : (!isCompletionHeader header) = true
          · simp only [if_pos reply]
            exact ⟨_, next, still, rfl, rfl⟩
          · simp only [if_neg reply]
            obtain ⟨result, next, still, rough, smooth⟩ :=
              readCompletionWithPayload_calmly fd next still
            dsimp only at rough smooth ⊢
            rw [rough, smooth]
            cases result with
            | error errno => exact ⟨_, next, still, rfl, rfl⟩
            | ok found =>
                obtain ⟨completion, payload⟩ := found
                obtain ⟨error, next, still, rough, smooth⟩ :=
                  queueBufferedCompletion_calmly fd completion payload next still
                dsimp only at rough smooth ⊢
                rw [rough, smooth]
                cases error with
                | some errno => exact ⟨_, next, still, rfl, rfl⟩
                | none => exact ih next still

theorem drainCompletionPrefix_calmly (fd : Fd) :
    Calmly fun process => process.drainCompletionPrefix fd :=
  fun process => drainLoop_calmly fd ((process.inbox fd).length + 1) process

/-- A reply of fixed size. -/
theorem readReply_calmly {α : Type} (fd : Fd) (size : Nat) (decode : List UInt8 → α)
    (check : α → Option Errno) :
    Calmly fun process => process.readReply fd size decode check := by
  intro process calm
  obtain ⟨error, next, still, rough, smooth⟩ := drainCompletionPrefix_calmly fd process calm
  unfold readReply
  dsimp only at rough smooth ⊢
  rw [rough, smooth]
  cases error with
  | some errno => exact ⟨_, next, still, rfl, rfl⟩
  | none =>
      obtain ⟨result, next, still, rough, smooth⟩ := readFull_calmly fd size next still
      dsimp only at rough smooth ⊢
      rw [rough, smooth]
      cases result with
      | error errno => exact ⟨_, next, still, rfl, rfl⟩
      | ok bytes => exact ⟨_, next, still, rfl, rfl⟩

/-- The events of a trace. -/
theorem readTraceEvents_calmly (fd : Fd) (count : Nat) : ∀ events,
    Calmly fun process => readTraceEvents fd count process events := by
  induction count with
  | zero =>
      intro events process calm
      exact ⟨_, process, calm, rfl, rfl⟩
  | succ count ih =>
      intro events process calm
      obtain ⟨result, next, still, rough, smooth⟩ := readFull_calmly fd TraceEvent.size process calm
      unfold readTraceEvents
      dsimp only at rough smooth ⊢
      rw [rough, smooth]
      cases result with
      | error errno => exact ⟨_, next, still, rfl, rfl⟩
      | ok bytes =>
          dsimp only
          by_cases invalid : (!traceEventIsValid (TraceEvent.decode bytes)) = true
          · simp only [if_pos invalid]
            exact ⟨_, next, still, rfl, rfl⟩
          · simp only [if_neg invalid]
            exact ih _ next still

/-- A trace. -/
theorem readTraceResult_calmly (fd : Fd) (capacity : Nat) :
    Calmly fun process => process.readTraceResult fd capacity := by
  intro process calm
  obtain ⟨error, next, still, rough, smooth⟩ := drainCompletionPrefix_calmly fd process calm
  unfold readTraceResult
  dsimp only at rough smooth ⊢
  rw [rough, smooth]
  cases error with
  | some errno => exact ⟨_, next, still, rfl, rfl⟩
  | none =>
      obtain ⟨result, next, still, rough, smooth⟩ := readFull_calmly fd TraceResult.size next still
      dsimp only at rough smooth ⊢
      rw [rough, smooth]
      cases result with
      | error errno => exact ⟨_, next, still, rfl, rfl⟩
      | ok bytes =>
          dsimp only
          by_cases reserved : (TraceResult.decode bytes).reserved ≠ 0
          · simp only [if_pos reserved]
            exact ⟨_, next, still, rfl, rfl⟩
          · simp only [if_neg reserved]
            by_cases many : capacity < (TraceResult.decode bytes).count.toNat
            · simp only [if_pos many]
              exact ⟨_, next, still, rfl, rfl⟩
            · simp only [if_neg many]
              obtain ⟨result, next, still, rough, smooth⟩ := readTraceEvents_calmly fd
                (TraceResult.decode bytes).count.toNat [] next still
              dsimp only at rough smooth
              rw [rough, smooth]
              exact ⟨_, next, still, rfl, rfl⟩

/-- A wait. -/
theorem waitCompletion_calmly (fd : Fd) : Calmly fun process => process.waitCompletion fd := by
  intro process calm
  obtain ⟨result, next, still, rough, smooth⟩ := popBufferedCompletion_calmly fd process calm
  unfold waitCompletion
  dsimp only at rough smooth ⊢
  rw [rough, smooth]
  cases result with
  | error errno => exact ⟨_, next, still, rfl, rfl⟩
  | ok found =>
      cases found with
      | some completion => exact ⟨_, next, still, rfl, rfl⟩
      | none =>
          obtain ⟨result, next, still, rough, smooth⟩ :=
            readCompletionWithPayload_calmly fd next still
          dsimp only at rough smooth ⊢
          rw [rough, smooth]
          cases result with
          | error errno => exact ⟨_, next, still, rfl, rfl⟩
          | ok found =>
              obtain ⟨completion, payload⟩ := found
              obtain ⟨error, next, still, rough, smooth⟩ :=
                keepPayload_calmly fd completion payload next still
              dsimp only at rough smooth ⊢
              rw [rough, smooth]
              cases error with
              | some errno => exact ⟨_, next, still, rfl, rfl⟩
              | none => exact ⟨_, next, still, rfl, rfl⟩

end Process

end Iouringd
