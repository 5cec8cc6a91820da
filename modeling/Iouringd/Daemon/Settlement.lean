import Mathlib.Data.List.Count
import Iouringd.Daemon.Custody

/-! # Descriptors that come with the input are settled

The kernel installs the descriptors of a control message before the daemon looks at them. A
descriptor is settled when it is the `received_fd` of its connection, or closed, or registered.
Two kinds of messages make `iouringd_read_client_input` give up without looking at their
descriptors: those with more than one, and those marked MSG_CTRUNC. Nothing refers to these
descriptors afterwards; all others are settled.
-/

namespace Iouringd

open Foundation

/-- A control message the kernel can deliver in the buffer of the daemon: one SCM_RIGHTS
message, with descriptors that are installed. It may have lost some of them. -/
def Arrival.delivered (arrival : Arrival) : Bool :=
  match arrival.control with
  | [] => true
  | [⟨true, fds⟩] => !fds.isEmpty && decide (fds.length ≤ 2) && fds.all fun fd => decide (0 ≤ fd)
  | _ => false

/-- The segment brings no descriptor, or one and all that was sent. -/
def Arrival.single (arrival : Arrival) : Bool :=
  arrival.descriptors.isEmpty || (arrival.descriptors.length == 1 && !arrival.truncated)

section Reading

variable {held middle after : Fd} {closed first second : List Fd}

/-- Behind a first gain without closed descriptors, the rest has to pass. -/
theorem Passes.append_iff (passes : Passes held middle [] first) :
    Passes held after closed (first ++ second) ↔ Passes middle after closed second := by
  have counts : ∀ fd, 0 ≤ fd → (if middle = fd then 1 else 0) =
      (if held = fd then 1 else 0) + first.count fd := by
    intro fd valid
    have count := passes fd valid
    rw [List.count_nil, Nat.add_zero] at count
    exact count
  constructor
  · intro whole fd valid
    have total := whole fd valid
    have count := counts fd valid
    rw [List.count_append] at total
    omega
  · intro rest fd valid
    have total := rest fd valid
    have count := counts fd valid
    rw [List.count_append]
    omega

/-- Descriptors that are neither received nor closed are lost. -/
theorem passes_untouched_iff {fds : List Fd} (valid : ∀ fd ∈ fds, 0 ≤ fd) :
    Passes held held [] fds ↔ fds = [] := by
  constructor
  · intro passes
    cases fds with
    | nil => rfl
    | cons fd rest =>
        have count := passes fd (valid fd List.mem_cons_self)
        rw [List.count_nil, List.count_cons_self] at count
        omega
  · rintro rfl
    exact Passes.refl held

theorem Arrival.delivered_cases {arrival : Arrival} (delivered : arrival.delivered = true) :
    arrival.control = [] ∨ ∃ fds, arrival.control = [⟨true, fds⟩] ∧ fds ≠ [] ∧
      ∀ fd ∈ fds, 0 ≤ fd := by
  unfold Arrival.delivered at delivered
  split at delivered
  · rename_i none
    exact Or.inl none
  · rename_i fds some
    rw [Bool.and_eq_true, Bool.and_eq_true, Bool.not_eq_true', List.isEmpty_eq_false_iff,
      List.all_eq_true] at delivered
    exact Or.inr ⟨fds, some, delivered.1.1, fun fd member => of_decide_eq_true
      (delivered.2 fd member)⟩
  · cases delivered

theorem Arrival.delivered_valid {arrival : Arrival} (delivered : arrival.delivered = true) :
    ∀ fd ∈ arrival.descriptors, 0 ≤ fd := by
  unfold Arrival.descriptors
  rcases delivered_cases delivered with none | ⟨fds, some, -, valid⟩
  · rw [none]
    exact nofun
  · rw [some, List.flatMap_singleton]
    exact valid

/-- What the control messages of a whole segment do: either the loop over them goes through
and all descriptors pass, or it stops, and they pass if there was just one. -/
theorem receiveControl_settles (client : Client) {control : List ControlMessage}
    (delivered : (⟨control, false⟩ : Arrival).delivered = true) :
    (∃ fd, receiveControl client control = ({ client with receivedFd := fd }, [], true) ∧
      Passes client.receivedFd fd [] (control.flatMap ControlMessage.descriptors) ∧
      (⟨control, false⟩ : Arrival).single = true) ∨
    ∃ closed, receiveControl client control = (client, closed, false) ∧
      (Passes client.receivedFd client.receivedFd closed
        (control.flatMap ControlMessage.descriptors) ↔
        (⟨control, false⟩ : Arrival).single = true) := by
  have valid := Arrival.delivered_valid delivered
  rcases Arrival.delivered_cases delivered with none | ⟨fds, some, nonempty, -⟩
  · cases none
    exact Or.inl ⟨client.receivedFd, rfl, Passes.refl _, rfl⟩
  · cases some
    unfold Arrival.descriptors at valid
    rw [List.flatMap_singleton] at valid ⊢
    match fds, nonempty, valid with
    | [fd], _, valid =>
        by_cases holds : 0 ≤ client.receivedFd
        · refine Or.inr ⟨[fd], ?_, ?_⟩
          · simp only [receiveControl, Bool.not_true, Bool.false_eq_true, ↓reduceIte, holds]
          · exact iff_of_true (fun _ _ => rfl) rfl
        · refine Or.inl ⟨fd, ?_, ?_, rfl⟩
          · simp only [receiveControl, Bool.not_true, Bool.false_eq_true, ↓reduceIte, holds]
          · intro other positive
            have apart : ¬ client.receivedFd = other := by
              rintro rfl
              exact holds positive
            rw [if_neg apart, List.count_nil, List.count_singleton]
            simp only [beq_iff_eq, Nat.add_zero, Nat.zero_add]
    | fd :: another :: more, _, valid =>
        refine Or.inr ⟨[], rfl, ?_⟩
        rw [passes_untouched_iff valid]
        exact iff_of_false nofun Bool.false_ne_true

/-- A read settles what it takes from the socket exactly when every segment of it brings at
most one descriptor, and not as the rest of more. -/
theorem readClientInput_settles (client : Client) (incoming : List RecvOutcome)
    (delivered : ∀ arrival ∈ arrivals incoming, arrival.delivered = true) :
    ∃ consumed, arrivals incoming = consumed ++ arrivals (readClientInput client incoming).rest ∧
      (Passes client.receivedFd (readClientInput client incoming).client.receivedFd
        (readClientInput client incoming).closedFds (consumed.flatMap Arrival.descriptors) ↔
        ∀ arrival ∈ consumed, arrival.single = true) := by
  have nothing : ∀ fd : Fd, Passes fd fd [] ([].flatMap Arrival.descriptors) ↔
      ∀ arrival ∈ ([] : List Arrival), arrival.single = true :=
    fun fd => iff_of_true (Passes.refl fd) nofun
  induction incoming generalizing client with
  | nil =>
      unfold readClientInput
      split <;> exact ⟨[], rfl, nothing _⟩
  | cons outcome rest ih =>
      have later : ∀ arrival ∈ arrivals rest, arrival.delivered = true := by
        intro arrival member
        apply delivered arrival
        rw [arrivals, List.mem_filterMap] at member ⊢
        obtain ⟨source, inside, same⟩ := member
        exact ⟨source, List.mem_cons_of_mem outcome inside, same⟩
      have skip : outcome.arrival = none → arrivals (outcome :: rest) = arrivals rest :=
        fun none => List.filterMap_cons_none none
      unfold readClientInput
      split
      · cases outcome with
        | data bytes control truncated =>
            dsimp only
            split
            · rename_i empty
              obtain ⟨consumed, split, settles⟩ := ih client later
              refine ⟨consumed, ?_, settles⟩
              rw [skip (by simp only [RecvOutcome.arrival, empty, Bool.true_or, ↓reduceIte]), split]
            · rename_i some
              have front : (control.isEmpty && !truncated) = false →
                  arrivals (.data bytes control truncated :: rest) =
                    ⟨control, truncated⟩ :: arrivals rest := by
                intro present
                apply List.filterMap_cons_some
                simp only [RecvOutcome.arrival, some, present, Bool.false_eq_true, ↓reduceIte,
                  Bool.or_self]
              generalize client.input.write client.inputLen
                (bytes.take (client.expectedInput - client.inputLen)) = input
              generalize bytes.drop (client.expectedInput - client.inputLen) = left
              cases truncated with
              | true =>
                  have here := front (Bool.and_false _)
                  refine ⟨[⟨control, true⟩], ?_, ?_⟩
                  · change _ = _ ++ arrivals (if left.isEmpty then rest
                      else .data left [] false :: rest)
                    rw [here, arrivals_leftover]
                    rfl
                  · have valid := Arrival.delivered_valid
                      (delivered ⟨control, true⟩ (here ▸ List.mem_cons_self))
                    change Passes client.receivedFd client.receivedFd [] _ ↔ _
                    rw [List.flatMap_singleton, passes_untouched_iff valid,
                      List.forall_mem_singleton, Arrival.single, Bool.not_true, Bool.and_false,
                      Bool.or_false, List.isEmpty_iff]
              | false =>
                  obtain ⟨own, arrived, carried, singles, here⟩ : ∃ own,
                      arrivals (.data bytes control false :: rest) = own ++ arrivals rest ∧
                      own.flatMap Arrival.descriptors =
                        control.flatMap ControlMessage.descriptors ∧
                      ((∀ arrival ∈ own, arrival.single = true) ↔
                        (⟨control, false⟩ : Arrival).single = true) ∧
                      (⟨control, false⟩ : Arrival).delivered = true := by
                    cases control with
                    | nil =>
                        refine ⟨[], skip ?_, rfl, iff_of_true nofun rfl, rfl⟩
                        simp only [RecvOutcome.arrival, List.isEmpty_nil, Bool.not_false,
                          Bool.and_self, Bool.or_true, ↓reduceIte]
                    | cons message messages =>
                        have present := front rfl
                        exact ⟨_, present, List.flatMap_singleton .., List.forall_mem_singleton,
                          delivered _ (present ▸ List.mem_cons_self)⟩
                  simp only [Bool.false_eq_true, ↓reduceIte]
                  rcases receiveControl_settles { client with input } here with
                    ⟨fd, received, passes, single⟩ | ⟨closed, received, settles⟩
                  · simp only [received]
                    split
                    · obtain ⟨further, behind, settles⟩ := ih { client with
                        input
                        receivedFd := fd
                        inputLen := client.inputLen +
                          (bytes.take (client.expectedInput - client.inputLen)).length } later
                      refine ⟨own ++ further, ?_, ?_⟩
                      · rw [arrived, behind, List.append_assoc]
                      · rw [List.flatMap_append, carried, passes.append_iff, settles,
                          List.forall_mem_append]
                        exact ⟨fun rest => ⟨singles.mpr single, rest⟩, And.right⟩
                    · rename_i part
                      refine ⟨own, ?_, ?_⟩
                      · have same := arrivals_leftover left rest
                        rw [if_neg part] at same
                        rw [arrived, same]
                      · rw [carried]
                        exact iff_of_true passes (singles.mpr single)
                  · simp only [received]
                    refine ⟨own, ?_, ?_⟩
                    · rw [arrived, arrivals_leftover]
                    · rw [carried, settles, singles]
        | eof =>
            dsimp only
            split <;> exact ⟨[], skip rfl, nothing _⟩
        | again => exact ⟨[], skip rfl, nothing _⟩
        | interrupted =>
            obtain ⟨consumed, split, settles⟩ := ih client later
            refine ⟨consumed, ?_, settles⟩
            rw [skip rfl, split]
        | failed errno => exact ⟨[], skip rfl, nothing _⟩
      · exact ⟨[], rfl, nothing _⟩

end Reading

/-! ## One call -/

/-- What comes in on the connection, and what it held, is held or closed. -/
def Settles (index : Nat) (rt next : Runtime) (installed : List Fd) : Prop :=
  ∀ fd, 0 ≤ fd → (if (rt.clients index).receivedFd = fd then 1 else 0) +
      rt.ring.kernel.closed.count fd + installed.count fd ≤
    (if (next.clients index).receivedFd = fd then 1 else 0) + next.ring.kernel.closed.count fd

section Servicing

variable {rt middle next : Runtime} {index : Nat} {first second : List Fd}

theorem Settles.trans (one : Settles index rt middle first)
    (two : Settles index middle next second) : Settles index rt next (first ++ second) := by
  intro fd valid
  have before := one fd valid
  have after := two fd valid
  rw [List.count_append]
  omega

theorem Settles.then (one : Settles index rt middle first) (two : Settles index middle next []) :
    Settles index rt next first := by
  have both := one.trans two
  rwa [List.append_nil] at both

theorem settles_of_same (received : (next.clients index).receivedFd = (rt.clients index).receivedFd)
    (closed : next.ring.kernel.closed = rt.ring.kernel.closed) : Settles index rt next [] := by
  intro fd valid
  rw [received, closed, List.count_nil]
  exact Nat.le_refl _

theorem settles_closeClient : Settles index rt (closeClient rt index) [] := by
  intro fd valid
  rw [closeClient_closed_count rt index fd valid, List.count_nil]
  omega

theorem settles_queueHandshakeResult {request : HandshakeRequest}
    (queued : queueHandshakeResult rt index request = .ok next) : Settles index rt next [] := by
  unfold queueHandshakeResult at queued
  obtain ⟨answered, taken, done⟩ := bind_ok queued
  cases done
  cases Runtime.queue_ok taken
  refine settles_of_same ?_ rfl
  simp only [Runtime.clients_setClient, Client.resetInput, Client.appendOutput]
  split
  · rfl
  · rfl

/-- One call of the service loop settles what it takes from the socket. -/
theorem serviceLoop_settles {fuel : Nat} {progress outcome : Bool}
    {incoming rest : List RecvOutcome} (within : (rt.clients index).ioBytesMax ≤ maxIoBytes)
    (delivered : ∀ arrival ∈ arrivals incoming, arrival.delivered = true)
    (serviced : serviceLoop index fuel rt progress incoming = .ok (next, outcome, rest)) :
    ∃ consumed, arrivals incoming = consumed ++ arrivals rest ∧
      ((∀ arrival ∈ consumed, arrival.single = true) →
        Settles index rt next (consumed.flatMap Arrival.descriptors)) := by
  have nothing : ∀ rt : Runtime, Settles index rt rt [] := fun rt => settles_of_same rfl rfl
  induction fuel generalizing rt progress incoming with
  | zero =>
      cases serviced
      exact ⟨[], rfl, fun _ => nothing _⟩
  | succ fuel ih =>
      unfold serviceLoop at serviced
      split at serviced
      · cases serviced
        exact ⟨[], rfl, fun _ => nothing _⟩
      · dsimp only at serviced
        obtain ⟨consumed, split, passes⟩ :=
          readClientInput_settles (rt.clients index) incoming delivered
        have erased := readClientInput_erase (rt.clients index) incoming
        obtain ⟨-, closed⟩ := closeAll_fields
          (readClientInput (rt.clients index) incoming).closedFds
          (rt.setClient index (readClientInput (rt.clients index) incoming).client)
        have entry : ((readClientInput (rt.clients index) incoming).closedFds.foldl Runtime.close
            (rt.setClient index (readClientInput (rt.clients index) incoming).client)).clients
              index = (readClientInput (rt.clients index) incoming).client := by
          rw [closeAll_clients, Runtime.clients_setClient]
        generalize (readClientInput (rt.clients index) incoming).closedFds.foldl Runtime.close
          (rt.setClient index (readClientInput (rt.clients index) incoming).client) = middle
          at serviced closed entry
        generalize readClientInput (rt.clients index) incoming = result at *
        have read : (∀ arrival ∈ consumed, arrival.single = true) →
            Settles index rt middle (consumed.flatMap Arrival.descriptors) := by
          intro singles fd valid
          have passed := passes.mpr singles fd valid
          rw [entry, closed]
          change _ ≤ _ + (rt.ring.kernel.closed ++ result.closedFds).count fd
          rw [List.count_append]
          omega
        split at serviced
        · cases serviced
          exact ⟨consumed, split, fun singles => (read singles).then settles_closeClient⟩
        · cases serviced
          exact ⟨consumed, split, fun singles => (read singles).then settles_closeClient⟩
        · cases serviced
          exact ⟨consumed, split, read⟩
        · split at serviced
          · obtain ⟨answered, taken, done⟩ := bind_ok serviced
            cases done
            exact ⟨consumed, split, fun singles =>
              (read singles).then (settles_queueHandshakeResult taken)⟩
          · split at serviced
            · cases serviced
              exact ⟨consumed, split, fun singles => (read singles).then settles_closeClient⟩
            · rename_i decoded processed
              have fits : result.client.ioBytesMax ≤ maxIoBytes := by
                change result.client.eraseDecoder.ioBytesMax ≤ maxIoBytes
                rw [erased]
                exact within
              have set : Settles index middle (middle.setClient index decoded) [] := by
                refine settles_of_same ?_ rfl
                rw [Runtime.clients_setClient, entry]
                exact processSubmitInput_receivedFd fits processed
              split at serviced
              · cases serviced
                exact ⟨consumed, split, fun singles => (read singles).then set⟩
              · have kept := processSubmitInput_erase processed
                have wide : ((middle.setClient index decoded).clients index).ioBytesMax ≤
                    maxIoBytes := by
                  rw [Runtime.clients_setClient]
                  change decoded.eraseDecoder.ioBytesMax ≤ maxIoBytes
                  rw [kept]
                  exact fits
                have left : ∀ arrival ∈ arrivals result.rest, arrival.delivered = true := by
                  intro arrival member
                  apply delivered arrival
                  rw [split]
                  exact List.mem_append_right consumed member
                obtain ⟨later, behind, settles⟩ := ih wide left serviced
                refine ⟨consumed ++ later, ?_, ?_⟩
                · rw [split, behind, List.append_assoc]
                · intro singles
                  obtain ⟨here, there⟩ := List.forall_mem_append.mp singles
                  rw [List.flatMap_append]
                  exact ((read here).then set).trans (settles there)

end Servicing

/-! ## Whole runs -/

/-- The received descriptor of the connection, if a step made it a registered resource. -/
def Runtime.registers (rt next : Runtime) (index : Nat) : List Fd :=
  if (List.range maxRegisteredFds).any fun slot =>
      !((rt.clients index).fileResources slot).registered &&
        ((next.clients index).fileResources slot).registered &&
        ((next.clients index).fileResources slot).daemonFd == (rt.clients index).receivedFd
  then [(rt.clients index).receivedFd] else []

/-- The descriptors a step brings in on the connections of an entry. -/
def Action.installed (rt : Runtime) (index : Nat) : Action → List Fd
  | .input other incoming =>
      if other = index then (rt.consumed index incoming).flatMap Arrival.descriptors else []
  | _ => []

/-- The descriptors that came in on the connections of an entry and that were neither closed
nor registered since. -/
def noteUnsettled (index : Nat) (rt : Runtime) (action : Action) (next : Runtime)
    (unsettled : List Fd) : List Fd :=
  (unsettled ++ action.installed rt index).diff
    (next.ring.kernel.closed.diff rt.ring.kernel.closed ++ rt.registers next index)

/-- What the kernel hands over on the connections of the entry comes one descriptor at a
time. -/
def handsSingles (index : Nat) (rt : Runtime) : Action → Bool
  | .input other incoming =>
      other != index ||
        ((arrivals incoming).all Arrival.delivered &&
          (rt.consumed index incoming).all Arrival.single)
  | _ => true

section Runs

variable {config : Config} {rt next : Runtime} {action : Action} {index : Nat}

/-- The steps that move the received descriptor of an entry. -/
theorem StepEffect.receivedFd (effect : StepEffect rt action next) (index : Nat) :
    (next.clients index).receivedFd = (rt.clients index).receivedFd ∨
      reusableClient rt = some index ∨ (∃ incoming, action = .input index incoming) ∨
      (∃ env, action = .dispatch index env) ∨ (∃ writes, action = .flush index writes) ∨
      action = .disconnect index := by
  have one : ∀ {client : Nat} {entry : Client},
      next.clients = Function.update rt.clients client entry → index ≠ client →
      (next.clients index).receivedFd = (rt.clients index).receivedFd := by
    intro client entry clients apart
    rw [clients, Function.update_of_ne apart]
  have same : ∀ {client : Nat} {entry : Client},
      next.clients = Function.update rt.clients client entry →
      entry.receivedFd = (rt.clients client).receivedFd →
      (next.clients index).receivedFd = (rt.clients index).receivedFd := by
    intro client entry clients received
    by_cases here : index = client
    · subst here
      rw [clients, Function.update_self, received]
    · exact one clients here
  cases effect with
  | idle | turnedAway | cursorMoved | posted => exact Or.inl rfl
  | opened client fd env valid found =>
      by_cases here : index = client
      · exact Or.inr (Or.inl (here ▸ found))
      · exact Or.inl (one rfl here)
  | served client incoming _ connected only =>
      by_cases here : index = client
      · subst here
        exact Or.inr (Or.inr (Or.inl ⟨incoming, rfl⟩))
      · exact Or.inl (one (congrArg Runtime.clients only.frame) here)
  | dispatched client env middle bytes _ connected ready change answered =>
      by_cases here : index = client
      · subst here
        exact Or.inr (Or.inr (Or.inr (Or.inl ⟨env, rfl⟩)))
      · apply Or.inl
        rw [answered.client_other here, change.client_other here]
  | completed _ taskIndex res ring _ occupied source completed =>
      have clients := congrArg Runtime.clients completed.frame
      exact Or.inl (same clients rfl)
  | swept updates _ swept slots => exact Or.inl (core_fields (slots.core index)).2
  | flushed client writes _ connected only flushed =>
      by_cases here : index = client
      · subst here
        exact Or.inr (Or.inr (Or.inr (Or.inr (Or.inl ⟨writes, rfl⟩))))
      · exact Or.inl (one (congrArg Runtime.clients only.frame) here)
  | disconnected client connected =>
      by_cases here : index = client
      · subst here
        exact Or.inr (Or.inr (Or.inr (Or.inr (Or.inr rfl))))
      · have only : OnlyClient rt client (closeClient rt client) := .closeClient
        exact Or.inl (one (congrArg Runtime.clients only.frame) here)
  | stored store => cases store <;> exact Or.inl rfl

theorem settles_flushOrClose {writes : List WriteOutcome} :
    Settles index rt (flushOrClose rt index writes).1 [] := by
  obtain ⟨output, sent, flushed⟩ := flushClientOutput_client (rt.clients index) writes
  have set : Settles index rt
      (rt.setClient index (flushClientOutput (rt.clients index) writes).1) [] := by
    refine settles_of_same ?_ rfl
    rw [Runtime.clients_setClient, flushed]
  unfold flushOrClose
  dsimp only
  split
  · exact set.then settles_closeClient
  · exact set

/-- A dispatch keeps the received descriptor, closes it or makes it a resource. -/
theorem Dispatched.receivedFd {env : DispatchEnv} {middle : Runtime} {bytes : List UInt8}
    (change : Dispatched rt index env middle bytes) :
    (middle.clients index).receivedFd = (rt.clients index).receivedFd ∨
      middle.ring.kernel.closed = rt.ring.kernel.closed ++ [(rt.clients index).receivedFd] ∨
      ∃ slot < (rt.clients index).fileSlotLimit,
        ((rt.clients index).fileResources slot).registered = false ∧
        ((middle.clients index).fileResources slot).registered = true ∧
        ((middle.clients index).fileResources slot).daemonFd = (rt.clients index).receivedFd := by
  cases change with
  | resourceRefused nextId result type unheld =>
      rw [Runtime.clients_setClient]
      exact Or.inl rfl
  | descriptorDropped nextId result operation held =>
      refine Or.inr (Or.inl ?_)
      change rt.ring.kernel.closed ++ [((rt.setClient index _).clients index).receivedFd] = _
      rw [Runtime.clients_setClient]
  | fileRegistered slot resourceId nextId ring result operation held found allocated valid
      updated =>
      obtain ⟨below, vacant⟩ := findFreeFileSlot_found found
      refine Or.inr (Or.inr ⟨slot, below, vacant, ?_⟩)
      rw [Runtime.clients_setClient]
      simp only [Client.setFileSlot, Function.update_self, and_self]
  | bufferRegistered slot resourceId nextId result operation found allocated valid =>
      rw [Runtime.clients_setClient]
      exact Or.inl rfl
  | fileReleased slot ring result operation found idle updated =>
      rw [clearFileSlot_client]
      exact Or.inl rfl
  | bufferReleased slot result operation found idle =>
      rw [clearBufferSlot, Runtime.clients_setClient]
      exact Or.inl rfl
  | stats operation => exact Or.inl rfl
  | trace result events operation counted => exact Or.inl rfl
  | refused _ errno credits type rolledBack =>
      apply Or.inl
      rw [rolledBack.frame]
      simp only [Function.update_self]
  | accepted taskIndex started credits type admitted start =>
      rw [start.client_self]
      exact Or.inl rfl

/-- What one step does to the descriptors of an entry. -/
theorem Invariant.step_settles (invariant : Invariant config rt) (parted : Parted rt)
    (housed : Housed rt) (singles : handsSingles index rt action = true)
    (taken : step rt action = .ok next) {fd : Fd} (valid : 0 ≤ fd) :
    (if (rt.clients index).receivedFd = fd then 1 else 0) +
        (action.installed rt index).count fd ≤
      (if (next.clients index).receivedFd = fd then 1 else 0) +
        ((next.ring.kernel.closed.count fd - rt.ring.kernel.closed.count fd) +
          (rt.registers next index).count fd) := by
  have settled : ∀ installed, Settles index rt next installed →
      action.installed rt index = installed →
        (if (rt.clients index).receivedFd = fd then 1 else 0) +
        (action.installed rt index).count fd ≤
      (if (next.clients index).receivedFd = fd then 1 else 0) +
        ((next.ring.kernel.closed.count fd - rt.ring.kernel.closed.count fd) +
          (rt.registers next index).count fd) := by
    intro installed settles same
    have counts := settles fd valid
    rw [same]
    omega
  by_cases input : ∃ incoming, action = .input index incoming
  · obtain ⟨incoming, rfl⟩ := input
    rw [handsSingles, bne_self_eq_false, Bool.false_or, Bool.and_eq_true, List.all_eq_true,
      List.all_eq_true] at singles
    obtain ⟨delivered, single⟩ := singles
    simp only [step] at taken
    split at taken
    · rename_i connected
      obtain ⟨⟨after, outcome, rest⟩, serviced, done⟩ := bind_ok taken
      cases done
      have within : (rt.clients index).ioBytesMax ≤ maxIoBytes := by
        rw [Runtime.connected, Bool.and_eq_true] at connected
        rw [((invariant.entries index).sized (Or.inl connected.2)).2.2]
        exact config.ioBytesMax_le
      obtain ⟨consumed, split, settles⟩ := serviceLoop_settles within delivered serviced
      have same := consumed_eq connected serviced split
      rw [same] at single
      apply settled _ (settles single)
      rw [Action.installed, if_pos rfl, same]
    · rename_i away
      cases taken
      have nothing : rt.consumed index incoming = [] := by
        unfold Runtime.consumed
        rw [if_neg away]
      refine settled [] (settles_of_same rfl rfl) ?_
      rw [Action.installed, if_pos rfl, nothing]
      rfl
  · have nothing : action.installed rt index = [] := by
      cases action with
      | input other incoming =>
          rw [Action.installed]
          split
          · rename_i same
            subst same
            exact absurd ⟨incoming, rfl⟩ input
          · rfl
      | _ => rfl
    have effect := step_effect invariant.grounded taken
    rcases effect.receivedFd index with same | found | brings | ⟨env, rfl⟩ | ⟨writes, rfl⟩ | rfl
    · rw [nothing, same, List.count_nil]
      omega
    · have free := (firstBelow_some found).2
      have inactive : (rt.clients index).isActive = false := by
        simp only [Bool.and_eq_true, Bool.not_eq_true'] at free
        exact free.1.1
      have unheld : ¬ (rt.clients index).receivedFd = fd := by
        intro same
        have below := parted index inactive
        rw [same] at below
        exact absurd valid (Int32.not_le.mpr below)
      rw [nothing, if_neg unheld, List.count_nil]
      omega
    · exact absurd brings input
    · cases effect with
      | idle =>
          rw [nothing, List.count_nil]
          omega
      | dispatched _ _ middle bytes _ connected ready change answered =>
          have received : (next.clients index).receivedFd = (middle.clients index).receivedFd := by
            rw [answered.client]
            rfl
          have closed : next.ring = middle.ring := by rw [answered]
          rw [nothing, received, closed, List.count_nil]
          rcases change.receivedFd with same | dropped | ⟨slot, below, vacant, registered, holds⟩
          · rw [same]
            omega
          · rw [dropped, List.count_append, List.count_singleton]
            simp only [beq_iff_eq]
            omega
          · have files : (next.clients index).fileResources =
                (middle.clients index).fileResources := by
              rw [answered.client]
              rfl
            have registers : rt.registers next index = [(rt.clients index).receivedFd] := by
              unfold Runtime.registers
              refine if_pos (List.any_eq_true.mpr ⟨slot, List.mem_range.mpr ?_, ?_⟩)
              · exact Nat.lt_of_lt_of_le below (housed.bounded index)
              · rw [files, vacant, registered, holds, beq_self_eq_true]
                rfl
            rw [registers, List.count_singleton]
            simp only [beq_iff_eq]
            omega
      | completed _ taskIndex res ring _ occupied source => cases source
    · simp only [step] at taken
      split at taken
      · cases taken
        exact settled [] settles_flushOrClose nothing
      · cases taken
        exact settled [] (settles_of_same rfl rfl) nothing
    · simp only [step] at taken
      split at taken
      · cases taken
        exact settled [] settles_closeClient nothing
      · cases taken
        exact settled [] (settles_of_same rfl rfl) nothing

/-- What a run keeps whose inputs bring descriptors one at a time. -/
structure Accounted (config : Config) (index : Nat) (state : Runtime × List Fd) : Prop where
  invariant : Invariant config state.1
  parted : Parted state.1
  housed : Housed state.1
  unsettled : ∀ fd, 0 ≤ fd →
    state.2.count fd ≤ if (state.1.clients index).receivedFd = fd then 1 else 0

theorem Accounted.initial (config : Config) (index : Nat) :
    Accounted config index (Runtime.initial config, []) := by
  refine ⟨.initial config, ?_, .initial config, ?_⟩
  · intro other _
    change (-1 : Fd) < 0
    decide
  · intro fd _
    exact Nat.zero_le _

theorem Accounted.stepped {state after : Runtime × List Fd}
    (accounted : Accounted config index state) (singles : handsSingles index state.1 action = true)
    (taken : recorded step (noteUnsettled index) state action = .ok after) :
    Accounted config index after := by
  obtain ⟨stepped, noted⟩ := recorded_ok taken
  have invariant := accounted.invariant
  refine ⟨invariant.stepped stepped, accounted.parted.stepped invariant.grounded stepped,
    (invariant.step_moves stepped).housed accounted.housed, ?_⟩
  intro fd valid
  have before := accounted.unsettled fd valid
  have settles := invariant.step_settles accounted.parted accounted.housed singles stepped valid
  rw [noted, noteUnsettled, List.count_diff, List.count_append, List.count_append,
    List.count_diff]
  omega

end Runs

/-- A read leaves every descriptor that came in recorded or closed exactly when each message
brought at most one, and that not cut off. In every run whose messages are of that kind, a
descriptor that came in on a connection and that was neither closed nor registered is the one
the connection holds, and a closed connection holds none. -/
theorem installed_descriptors_settled (config : Config) (index : Nat) :
    (∀ client incoming consumed, (∀ arrival ∈ arrivals incoming, arrival.delivered = true) →
      arrivals incoming = consumed ++ arrivals (readClientInput client incoming).rest →
      (Passes client.receivedFd (readClientInput client incoming).client.receivedFd
          (readClientInput client incoming).closedFds (consumed.flatMap Arrival.descriptors) ↔
        ∀ arrival ∈ consumed, arrival.single = true)) ∧
    (∀ actions state,
      run (recorded step (noteUnsettled index)) (Runtime.initial config, []) actions =
        .ok state →
      Along (recorded step (noteUnsettled index))
        (fun state action => handsSingles index state.1 action = true) (Runtime.initial config, [])
        actions →
      (∀ fd, 0 ≤ fd →
        state.2.count fd ≤ if (state.1.clients index).receivedFd = fd then 1 else 0) ∧
      ((state.1.clients index).isActive = false → ∀ fd ∈ state.2, fd < 0)) := by
  constructor
  · intro client incoming consumed delivered taken
    obtain ⟨known, split, settles⟩ := readClientInput_settles client incoming delivered
    have same : consumed = known := by
      rw [split] at taken
      exact (List.append_cancel_right taken).symm
    rw [same]
    exact settles
  · intro actions state ran condition
    have accounted : Accounted config index state := by
      refine condition.preserves ?_ (.initial config index) ran
      intro before action after singles accounted taken
      exact accounted.stepped singles taken
    refine ⟨accounted.unsettled, ?_⟩
    intro inactive fd member
    rw [← Int32.not_le]
    intro valid
    have counted := List.count_pos_iff.mpr member
    have unheld : ¬ (state.1.clients index).receivedFd = fd := by
      intro same
      have below := accounted.parted index inactive
      rw [same] at below
      exact absurd valid (Int32.not_le.mpr below)
    have most := accounted.unsettled fd valid
    rw [if_neg unheld] at most
    omega

/-- A descriptor arrives with the first bytes of a request, and the client leaves. -/
def handing (fds : List Fd) (truncated : Bool) : List Action :=
  joining 0 7 ++ [.input 0 [.data [73] [⟨true, fds⟩] truncated], .disconnect 0]

/-- The only descriptor is closed with the connection. -/
theorem installed_descriptor_closed :
    ∃ state, run (recorded step (noteUnsettled 0))
        (Runtime.initial (.small 1 (by decide) (by decide)), []) (handing [9] false) = .ok state ∧
      9 ∈ state.1.ring.kernel.closed ∧ ∀ fd ∈ state.2, fd < 0 := by
  have seen : ((run (recorded step (noteUnsettled 0))
      (Runtime.initial (.small 1 (by decide) (by decide)), []) (handing [9] false)).toOption.map
        fun state => decide ((state.1.clients 0).isActive = false ∧
          9 ∈ state.1.ring.kernel.closed)) = some true := by decide +kernel
  obtain ⟨state, ran, view⟩ := exists_of_toOption_map seen
  obtain ⟨inactive, closed⟩ := of_decide_eq_true view
  have checked : checkAlong (recorded step (noteUnsettled 0))
      (fun state action => handsSingles 0 state.1 action)
      (Runtime.initial (.small 1 (by decide) (by decide)), []) (handing [9] false) = true := by
    decide +kernel
  exact ⟨state, ran, closed, ((installed_descriptors_settled _ 0).2 _ state ran
    (along_of_checkAlong checked)).2 inactive⟩

/-- Two descriptors in one message are neither closed nor recorded; the connection is gone. -/
theorem two_descriptors_lost :
    ∃ state, run (recorded step (noteUnsettled 0))
        (Runtime.initial (.small 1 (by decide) (by decide)), []) (handing [9, 10] false) =
        .ok state ∧
      (state.1.clients 0).isActive = false ∧ (state.1.clients 0).receivedFd < 0 ∧
      state.2 = [9, 10] ∧ 9 ∉ state.1.ring.kernel.closed ∧ 10 ∉ state.1.ring.kernel.closed := by
  have seen : ((run (recorded step (noteUnsettled 0))
      (Runtime.initial (.small 1 (by decide) (by decide)), []) (handing [9, 10] false)).toOption.map
        fun state => decide ((state.1.clients 0).isActive = false ∧
          (state.1.clients 0).receivedFd < 0 ∧ state.2 = [9, 10] ∧
          9 ∉ state.1.ring.kernel.closed ∧ 10 ∉ state.1.ring.kernel.closed)) = some true := by
    decide +kernel
  obtain ⟨state, ran, view⟩ := exists_of_toOption_map seen
  exact ⟨state, ran, of_decide_eq_true view⟩

end Iouringd
