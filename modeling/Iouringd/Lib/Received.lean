import Iouringd.Lib.Exchange

/-! # Where an entry comes from

Whatever the daemon sends and however the system calls end, every completion in the list is made
of bytes that were sent on its descriptor number, the record and its payload next to each other,
and so is every payload. Which connection of the number that was is another matter.
-/

namespace Iouringd

open Foundation

/-- A record was read off a stream, with its payload right behind it. -/
def Came (stream : List UInt8) (record : CompletionRecord) (payload : List UInt8) : Prop :=
  ∃ bytes, bytes.length = CompletionRecord.size ∧ CompletionRecord.decode bytes = record ∧
    bytes ++ payload <:+: stream

/-- Nothing was read off a stream on which nothing came. -/
theorem not_came_nil (record : CompletionRecord) (payload : List UInt8) :
    ¬ Came [] record payload := by
  rintro ⟨bytes, long, -, inside⟩
  have empty := List.append_eq_nil_iff.mp (List.infix_nil.mp inside)
  rw [empty.1] at long
  cases long

/-- What came on a stream came on a longer one. -/
theorem Came.append {stream : List UInt8} {record : CompletionRecord} {payload : List UInt8}
    (came : Came stream record payload) (more : List UInt8) :
    Came (stream ++ more) record payload := by
  obtain ⟨bytes, long, decoded, inside⟩ := came
  exact ⟨bytes, long, decoded, inside.trans (List.prefix_append stream more).isInfix⟩

namespace Process

/-- The unread bytes of every number, its buffered completions and its payloads were sent on it:
`came` is what was sent on each number. -/
structure Received (came : Fd → List UInt8) (process : Process) : Prop where
  inbox : ∀ fd, process.inbox fd <:+ came fd
  completions : ∀ entry ∈ process.completions, Came (came entry.fd) entry.completion entry.payload
  payloads : ∀ entry ∈ process.payloads, ∃ record, record.taskId = entry.taskId ∧
    Came (came entry.fd) record entry.payload

section Operations

variable {came : Fd → List UInt8} {process next : Process} {fd : Fd}

/-- The script is no matter. -/
theorem Received.under (received : process.Received came) (script : Script) :
    (process.under script).Received came :=
  ⟨received.inbox, received.completions, received.payloads⟩

/-- Reading takes bytes off the front. -/
theorem readLoop_front (outcomes : List RecvResult) : ∀ wanted stream,
    (readLoop outcomes wanted stream).2.1 <:+ stream ∧
      ∀ bytes, (readLoop outcomes wanted stream).1 = .ok bytes → bytes.length = wanted ∧
        stream = bytes ++ (readLoop outcomes wanted stream).2.1 := by
  induction outcomes with
  | nil =>
      intro wanted stream
      by_cases short : stream.length < wanted
      · rw [readLoop_short short]
        refine ⟨List.nil_suffix, ?_⟩
        intro bytes read
        cases read
      · rw [readLoop_enough short]
        refine ⟨List.drop_suffix wanted stream, ?_⟩
        intro bytes read
        cases read
        exact ⟨by rw [List.length_take]; omega, (List.take_append_drop wanted stream).symm⟩
  | cons outcome outcomes ih =>
      intro wanted stream
      unfold readLoop
      split
      · rename_i none
        subst none
        refine ⟨List.suffix_rfl, ?_⟩
        intro bytes read
        cases read
        exact ⟨rfl, rfl⟩
      · split
        · exact ih wanted stream
        · refine ⟨List.suffix_rfl, ?_⟩
          intro bytes read
          cases read
        · rename_i count
          split
          · refine ⟨List.nil_suffix, ?_⟩
            intro bytes read
            cases read
          · generalize amount : min (max 1 count) (min wanted stream.length) = taken
            have within : taken ≤ wanted ∧ taken ≤ stream.length := by omega
            obtain ⟨rest, whole⟩ := ih (wanted - taken) (stream.drop taken)
            refine ⟨rest.trans (List.drop_suffix taken stream), ?_⟩
            intro bytes read
            dsimp only at read ⊢
            cases more : (readLoop outcomes (wanted - taken) (stream.drop taken)).1 with
            | error errno =>
                rw [more] at read
                cases read
            | ok later =>
                rw [more] at read
                cases read
                obtain ⟨long, split⟩ := whole later more
                refine ⟨?_, ?_⟩
                · rw [List.length_append, List.length_take, long]
                  omega
                · rw [List.append_assoc, ← split, List.take_append_drop]

/-- A read leaves the lists and takes its bytes off the front of the stream. -/
theorem Received.readFull (received : process.Received came) {length : Nat}
    {result : Except Errno (List UInt8)} (read : process.readFull fd length = (result, next)) :
    next.Received came ∧ ∀ bytes, result = .ok bytes → bytes.length = length ∧
      process.inbox fd = bytes ++ next.inbox fd := by
  obtain ⟨rest, whole⟩ :=
    readLoop_front process.script.recvs length (process.inbox fd)
  unfold Process.readFull at read
  cases read
  have after : ∀ bytes script, ((process.setInbox fd bytes).under script).inbox fd = bytes :=
    fun bytes _ => inbox_setInbox process fd bytes
  refine ⟨⟨?_, received.completions, received.payloads⟩, ?_⟩
  · intro other
    by_cases same : other = fd
    · subst same
      rw [after]
      exact rest.trans (received.inbox other)
    · exact (inbox_setInbox_of_ne same _).symm ▸ received.inbox other
  · intro bytes got
    rw [after]
    exact whole bytes got

/-- A peek takes nothing. -/
theorem Received.peekProtocolHeader (received : process.Received came)
    {result : Except Errno (List UInt8)} (peek : process.peekProtocolHeader fd = (result, next)) :
    next.Received came := by
  unfold Process.peekProtocolHeader at peek
  cases peek
  exact received.under _

/-- Nor does an allocation. -/
theorem Received.malloc (received : process.Received came) {granted : Bool}
    (allocated : process.malloc = (granted, next)) : next.Received came := by
  unfold Process.malloc at allocated
  split at allocated
  · cases allocated
    exact received
  · cases allocated
    exact received.under _

/-- A payload is kept under the task of its record. -/
theorem Received.keepPayload (received : process.Received came) {completion : CompletionRecord}
    {payload : List UInt8} (here : Came (came fd) completion payload) {error : Option Errno}
    (kept : process.keepPayload fd completion payload = (error, next)) : next.Received came := by
  unfold Process.keepPayload storeBufferedPayloadOwned at kept
  split at kept
  · split at kept
    · rename_i middle allocated
      cases kept
      exact received.malloc allocated
    · rename_i middle allocated
      cases kept
      obtain ⟨inbox, completions, payloads⟩ := received.malloc allocated
      refine ⟨inbox, completions, ?_⟩
      intro entry member
      rcases List.mem_append.mp member with before | now
      · exact payloads entry before
      · rw [List.mem_singleton.mp now]
        exact ⟨completion, rfl, here⟩
  · cases kept
    exact received

/-- A completion is queued with its payload. -/
theorem Received.queueBufferedCompletion (received : process.Received came)
    {completion : CompletionRecord} {payload : List UInt8}
    (here : Came (came fd) completion payload) {error : Option Errno}
    (queued : process.queueBufferedCompletion fd completion payload = (error, next)) :
    next.Received came := by
  unfold Process.queueBufferedCompletion at queued
  split at queued
  · rename_i middle allocated
    cases queued
    exact received.malloc allocated
  · rename_i middle allocated
    cases queued
    obtain ⟨inbox, completions, payloads⟩ := received.malloc allocated
    refine ⟨inbox, ?_, payloads⟩
    intro entry member
    rcases List.mem_append.mp member with before | now
    · exact completions entry before
    · rw [List.mem_singleton.mp now]
      exact here

/-- A completion that is taken from the list was sent on its number. -/
theorem Received.popBufferedCompletion (received : process.Received came)
    {result : Except Errno (Option CompletionRecord)}
    (popped : process.popBufferedCompletion fd = (result, next)) :
    next.Received came ∧ ∀ record, result = .ok (some record) →
      ∃ payload, Came (came fd) record payload := by
  unfold Process.popBufferedCompletion at popped
  split at popped
  · cases popped
    exact ⟨received, nofun⟩
  · rename_i entry rest found
    obtain ⟨number, member, shorter⟩ := takeFirst_some found
    have here : Came (came fd) entry.completion entry.payload := by
      rw [← eq_of_beq number]
      exact received.completions entry member
    have left : ({ process with completions := rest } : Process).Received came :=
      ⟨received.inbox, fun other inside => received.completions other (shorter.subset inside),
        received.payloads⟩
    split at popped
    · rename_i errno middle kept
      cases popped
      exact ⟨left.keepPayload here kept, nofun⟩
    · rename_i middle kept
      cases popped
      refine ⟨left.keepPayload here kept, ?_⟩
      intro record same
      cases same
      exact ⟨entry.payload, here⟩

/-- A completion is read off the stream, its payload behind its record. -/
theorem Received.readCompletionWithPayload (received : process.Received came)
    {result : Except Errno (CompletionRecord × List UInt8)}
    (read : process.readCompletionWithPayload fd = (result, next)) :
    next.Received came ∧ ∀ record payload, result = .ok (record, payload) →
      Came (came fd) record payload := by
  unfold Process.readCompletionWithPayload at read
  split at read
  · rename_i errno middle first
    cases read
    exact ⟨(received.readFull first).1, nofun⟩
  · rename_i bytes middle first
    obtain ⟨after, whole⟩ := received.readFull first
    obtain ⟨long, front⟩ := whole bytes rfl
    dsimp only at read
    split at read
    · cases read
      exact ⟨after, nofun⟩
    · split at read
      · cases read
        refine ⟨after, ?_⟩
        rintro record payload same
        cases same
        refine ⟨bytes, long, rfl, ?_⟩
        rw [List.append_nil]
        refine List.IsInfix.trans ?_ (received.inbox fd).isInfix
        rw [front]
        exact (List.prefix_append _ _).isInfix
      · split at read
        · rename_i allocating allocated
          cases read
          exact ⟨after.malloc allocated, nofun⟩
        · rename_i allocating allocated
          have memory := after.malloc allocated
          have stays : allocating.inbox = middle.inbox := by
            unfold Process.malloc at allocated
            split at allocated
            · cases allocated
              rfl
            · cases allocated
              rfl
          split at read
          · rename_i errno last second
            cases read
            exact ⟨(memory.readFull second).1, nofun⟩
          · rename_i payload last second
            cases read
            obtain ⟨final, rest⟩ := memory.readFull second
            refine ⟨final, ?_⟩
            rintro record found same
            cases same
            refine ⟨bytes, long, rfl, ?_⟩
            refine List.IsInfix.trans ?_ (received.inbox fd).isInfix
            rw [front, ← stays, (rest payload rfl).2, ← List.append_assoc]
            exact (List.prefix_append _ _).isInfix

/-- Draining queues what was read. -/
theorem Received.drainLoop (fuel : Nat) : ∀ {process : Process}, process.Received came →
    ∀ {error : Option Errno}, Process.drainLoop fd fuel process = (error, next) →
      next.Received came := by
  induction fuel with
  | zero =>
      intro process received error drained
      cases drained
      exact received
  | succ fuel ih =>
      intro process received error drained
      unfold Process.drainLoop at drained
      split at drained
      · rename_i errno middle peek
        cases drained
        exact received.peekProtocolHeader peek
      · rename_i header middle peek
        have after := received.peekProtocolHeader peek
        split at drained
        · cases drained
          exact after
        · split at drained
          · rename_i errno middle read
            cases drained
            exact (after.readCompletionWithPayload read).1
          · rename_i completion payload middle read
            obtain ⟨reading, came⟩ := after.readCompletionWithPayload read
            have here := came completion payload rfl
            split at drained
            · rename_i errno last queued
              cases drained
              exact reading.queueBufferedCompletion here queued
            · rename_i last queued
              exact ih (reading.queueBufferedCompletion here queued) drained

/-- A reply of fixed size. -/
theorem Received.readReply (received : process.Received came) {α : Type} {size : Nat}
    {decode : List UInt8 → α} {check : α → Option Errno} {answer : Answer α}
    (read : process.readReply fd size decode check = (answer, next)) : next.Received came := by
  unfold Process.readReply Process.drainCompletionPrefix at read
  split at read
  · rename_i errno middle drained
    cases read
    exact received.drainLoop _ drained
  · rename_i middle drained
    have after := received.drainLoop _ drained
    split at read
    · rename_i errno last first
      cases read
      exact (after.readFull first).1
    · rename_i bytes last first
      cases read
      exact (after.readFull first).1

/-- The events of a trace. -/
theorem Received.readTraceEvents (count : Nat) : ∀ {process : Process} {events : List TraceEvent},
    process.Received came → ∀ {result : List TraceEvent × Option Errno},
      Process.readTraceEvents fd count process events = (result, next) → next.Received came := by
  induction count with
  | zero =>
      intro process events received result read
      cases read
      exact received
  | succ count ih =>
      intro process events received result read
      unfold Process.readTraceEvents at read
      split at read
      · rename_i errno middle first
        cases read
        exact (received.readFull first).1
      · rename_i bytes middle first
        have after := (received.readFull first).1
        dsimp only at read
        split at read
        · cases read
          exact after
        · exact ih after read

/-- A trace. -/
theorem Received.readTraceResult (received : process.Received came) {capacity : Nat}
    {answer : Answer (TraceResult × List TraceEvent)}
    (read : process.readTraceResult fd capacity = (answer, next)) : next.Received came := by
  unfold Process.readTraceResult Process.drainCompletionPrefix at read
  split at read
  · rename_i errno middle drained
    cases read
    exact received.drainLoop _ drained
  · rename_i middle drained
    have after := received.drainLoop _ drained
    split at read
    · rename_i errno last first
      cases read
      exact (after.readFull first).1
    · rename_i bytes last first
      have further := (after.readFull first).1
      dsimp only at read
      split at read
      · cases read
        exact further
      · split at read
        · cases read
          exact further
        · cases read
          exact further.readTraceEvents _ rfl

/-- A call. -/
theorem Received.call (received : process.Received came) {call : Call} {answer : Answer Reply}
    (read : process.call fd call = (answer, next)) : next.Received came := by
  unfold Process.call Process.readSubmitResult Process.readResourceResult
    Process.readStatsResult at read
  split at read
  · cases read
    exact received.readReply (Prod.eta _).symm
  · cases read
    exact received.readReply (Prod.eta _).symm
  · cases read
    exact received.readReply (Prod.eta _).symm
  · cases read
    exact received.readTraceResult (Prod.eta _).symm

/-- A wait returns what was sent on its number. -/
theorem Received.waitCompletion (received : process.Received came)
    {answer : Answer CompletionRecord} (waited : process.waitCompletion fd = (answer, next)) :
    next.Received came ∧ ∀ record, answer.result = some record →
      ∃ payload, Came (came fd) record payload := by
  unfold Process.waitCompletion at waited
  split at waited
  · rename_i errno middle popped
    cases waited
    exact ⟨(received.popBufferedCompletion popped).1, nofun⟩
  · rename_i completion middle popped
    cases waited
    obtain ⟨after, here⟩ := received.popBufferedCompletion popped
    refine ⟨after, ?_⟩
    intro record same
    cases same
    exact here completion rfl
  · rename_i middle popped
    have after := (received.popBufferedCompletion popped).1
    split at waited
    · rename_i errno last read
      cases waited
      exact ⟨(after.readCompletionWithPayload read).1, nofun⟩
    · rename_i completion payload last read
      obtain ⟨reading, here⟩ := after.readCompletionWithPayload read
      have came := here completion payload rfl
      split at waited
      · rename_i errno final kept
        cases waited
        exact ⟨reading.keepPayload came kept, nofun⟩
      · rename_i final kept
        cases waited
        refine ⟨reading.keepPayload came kept, ?_⟩
        intro record same
        cases same
        exact ⟨payload, came⟩

/-- A payload that is read was sent on the number, behind a record of the task. -/
theorem Received.readCompletionPayload (received : process.Received came)
    {record : CompletionRecord} {capacity : Nat} {result : Except Errno (List UInt8)}
    (read : process.readCompletionPayload fd record capacity = (result, next)) :
    next.Received came ∧ ∀ bytes, result = .ok bytes → bytes = [] ∨
      ∃ earlier, earlier.taskId = record.taskId ∧ Came (came fd) earlier bytes := by
  unfold Process.readCompletionPayload at read
  split at read
  · cases read
    exact ⟨received, nofun⟩
  · split at read
    · cases read
      exact ⟨received, fun bytes same => .inl (Except.ok.inj same).symm⟩
    · split at read
      · cases read
        exact ⟨received, nofun⟩
      · split at read
        · cases read
          exact ⟨received, nofun⟩
        · rename_i entry rest found
          cases read
          obtain ⟨matched, member, shorter⟩ := takeFirst_some found
          rw [Bool.and_eq_true] at matched
          refine ⟨⟨received.inbox, received.completions, fun other inside =>
            received.payloads other (shorter.subset inside)⟩, ?_⟩
          intro bytes same
          cases same
          right
          obtain ⟨earlier, task, here⟩ := received.payloads entry member
          rw [eq_of_beq matched.1] at here
          exact ⟨earlier, task.trans (eq_of_beq matched.2), here⟩

end Operations

end Process

namespace Caller

/-- What a wait or a payload read returns came on the current connection of the number, record
and payload next to each other. -/
def AsReceived (caller : Caller) : Event → Outcome → Prop
  | .wait fd _, .waited ⟨some record, _⟩ => ∃ payload, Came (caller.came fd) record payload
  | .payload fd record _, .paid (.ok bytes) => bytes = [] ∨
      ∃ earlier, earlier.taskId = record.taskId ∧ Came (caller.came fd) earlier bytes
  | _, _ => True

/-- When a number gets a new connection, nothing of the earlier one is left in the lists. -/
def Clean (caller : Caller) : Event → Prop
  | .connect fd =>
      (∀ entry ∈ caller.process.completions, entry.fd ≠ fd) ∧
        ∀ entry ∈ caller.process.payloads, entry.fd ≠ fd
  | _ => True

instance (caller : Caller) : (event : Event) → Decidable (caller.Clean event)
  | .connect _ => inferInstanceAs (Decidable (_ ∧ _))
  | .sends _ _ | .call _ _ _ _ _ | .unanswered _ _ _ | .wait _ _ | .payload _ _ _ => .isTrue trivial

section Steps

variable {caller next : Caller} {event : Event}

/-- A step is legal, and what is noted is what was performed. -/
theorem step_ok (happened : caller.step event = .ok next) :
    caller.Legal event ∧ next = { caller with process := (caller.process.perform event).2 }.note
      event (caller.process.perform event).1 := by
  unfold step at happened
  split at happened
  · rename_i legal
    exact ⟨legal, (Except.ok.inj happened).symm⟩
  · cases happened

/-- Sending on a number makes what came there longer. -/
theorem sent_received {came : Fd → List UInt8} {process : Process} {fd : Fd}
    (received : process.Received came) (bytes : List UInt8) :
    (process.setInbox fd (process.inbox fd ++ bytes)).Received
      (Function.update came fd (came fd ++ bytes)) := by
  have grown : ∀ other, ∃ more, Function.update came fd (came fd ++ bytes) other =
      came other ++ more := by
    intro other
    by_cases same : other = fd
    · subst same
      exact ⟨bytes, Function.update_self _ _ _⟩
    · exact ⟨[], (Function.update_of_ne same _ _).trans (List.append_nil _).symm⟩
  refine ⟨?_, ?_, ?_⟩
  · intro other
    by_cases same : other = fd
    · subst same
      rw [Process.inbox_setInbox, Function.update_self]
      obtain ⟨front, whole⟩ := received.inbox other
      rw [← whole, List.append_assoc]
      exact List.suffix_append _ _
    · rw [Process.inbox_setInbox_of_ne same, Function.update_of_ne same]
      exact received.inbox other
  · intro entry member
    obtain ⟨more, longer⟩ := grown entry.fd
    rw [longer]
    exact (received.completions entry member).append more
  · intro entry member
    obtain ⟨more, longer⟩ := grown entry.fd
    obtain ⟨record, task, came⟩ := received.payloads entry member
    rw [longer]
    exact ⟨record, task, came.append more⟩

/-- On a new connection nothing came, and nothing of its number is in the lists. -/
theorem connected_received {came : Fd → List UInt8} {process : Process} {fd : Fd}
    (received : process.Received came)
    (gone : (∀ entry ∈ process.completions, entry.fd ≠ fd) ∧
      ∀ entry ∈ process.payloads, entry.fd ≠ fd) :
    (process.setInbox fd []).Received (Function.update came fd []) := by
  refine ⟨?_, ?_, ?_⟩
  · intro other
    by_cases same : other = fd
    · subst same
      rw [Process.inbox_setInbox]
      exact List.nil_suffix
    · rw [Process.inbox_setInbox_of_ne same, Function.update_of_ne same]
      exact received.inbox other
  · intro entry member
    rw [Function.update_of_ne (gone.1 entry member)]
    exact received.completions entry member
  · intro entry member
    rw [Function.update_of_ne (gone.2 entry member)]
    exact received.payloads entry member

/-- A wait notes what was returned. -/
theorem note_wait (caller : Caller) (fd : Fd) (script : Script) (outcome : Outcome) :
    (caller.note (.wait fd script) outcome).process = caller.process ∧
      (caller.note (.wait fd script) outcome).came = caller.came := by
  unfold note
  split <;> first | exact ⟨rfl, rfl⟩ | contradiction

/-- A payload read notes what was taken. -/
theorem note_payload (caller : Caller) (fd : Fd) (record : CompletionRecord) (capacity : Nat)
    (outcome : Outcome) :
    (caller.note (.payload fd record capacity) outcome).process = caller.process ∧
      (caller.note (.payload fd record capacity) outcome).came = caller.came := by
  unfold note
  split <;> first | exact ⟨rfl, rfl⟩ | contradiction

/-- Every event keeps the origin of all entries, whatever becomes of its system calls. -/
theorem received_stepped (received : caller.process.Received caller.came)
    (clean : caller.Clean event) (happened : caller.step event = .ok next) :
    next.process.Received next.came := by
  obtain ⟨-, rfl⟩ := step_ok happened
  cases event with
  | sends fd deliveries => exact sent_received received _
  | call fd call reply behind script =>
      have sent := @sent_received _ _ fd received
        (reply.encode ++ behind.flatMap Delivery.encode)
      exact ((sent.under script).call (Prod.eta _).symm).under _
  | unanswered fd call script => exact ((received.under script).call (Prod.eta _).symm).under _
  | wait fd script =>
      have after := ((received.under script).waitCompletion
        (Prod.eta ((caller.process.under script).waitCompletion fd)).symm).1.under .smooth
      obtain ⟨process, came⟩ := note_wait
        { caller with process := (caller.process.perform (.wait fd script)).2 } fd script
        (caller.process.perform (.wait fd script)).1
      rw [process, came]
      exact after
  | payload fd record capacity =>
      have after := (received.readCompletionPayload
        (Prod.eta (caller.process.readCompletionPayload fd record capacity)).symm).1
      obtain ⟨process, came⟩ := note_payload
        { caller with process := (caller.process.perform (.payload fd record capacity)).2 } fd
        record capacity (caller.process.perform (.payload fd record capacity)).1
      rw [process, came]
      exact after
  | connect fd => exact connected_received received clean

/-- What an event brings the process is of the current connection. -/
theorem asReceived (received : caller.process.Received caller.came) (event : Event) :
    caller.AsReceived event (caller.process.perform event).1 := by
  cases event with
  | wait fd script =>
      have here := ((received.under script).waitCompletion
        (Prod.eta ((caller.process.under script).waitCompletion fd)).symm).2
      simp only [Process.perform]
      generalize ((caller.process.under script).waitCompletion fd).1 = answer at here ⊢
      obtain ⟨result, error⟩ := answer
      cases result with
      | none => trivial
      | some record => exact here record rfl
  | payload fd record capacity =>
      have here := (received.readCompletionPayload
        (Prod.eta (caller.process.readCompletionPayload fd record capacity)).symm).2
      simp only [Process.perform]
      generalize (caller.process.readCompletionPayload fd record capacity).1 = result at here ⊢
      cases result with
      | error errno => trivial
      | ok bytes => exact here bytes rfl
  | sends fd deliveries => trivial
  | call fd call reply behind script => trivial
  | unanswered fd call script => trivial
  | connect fd => trivial

end Steps

end Caller

end Iouringd
