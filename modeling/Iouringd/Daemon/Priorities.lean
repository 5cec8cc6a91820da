import Iouringd.Daemon.Connection
import Iouringd.Foundation.Rotation

/-! # The dispatch pass

`iouringd_dispatch_ready_requests` goes through the bands from the highest to the lowest, and in
each round the clients from the cursor. Dispatching moves the cursor while the loop counter runs
on, so a pass is a scan that moves its origin: it can leave out ready clients. Whether it does
depends on how far apart those of a band lie in the client table.
-/

namespace Iouringd

open Foundation

/-- The client waits with a request of the band. -/
def bandReady (rt : Runtime) (band index : Nat) : Bool :=
  (rt.clients index).isActive && (rt.clients index).requestReady &&
    decide (clientBand (rt.clients index) = band)

/-- The clients that wait in the bands below a number can be listed, the highest band first, such
that in each band they lie in longer and longer strides: the first counted from the cursor, each
other from the one before, and a band's cursor is behind the last client of the bands before. -/
def SpacedFrom (rt : Runtime) : Nat → Nat → Prop
  | _, 0 => True
  | cursor, band + 1 => ∃ order, Spaces rt.limits.maxClients cursor (bandReady rt band) order ∧
      SpacedFrom rt (cursorBehind rt.limits.maxClients cursor order) band

/-- The clients that wait lie well apart, as seen from the cursor. -/
def WellSpaced (rt : Runtime) : Prop :=
  SpacedFrom rt rt.dispatchCursor 4

/-- The places that the inner loop for a band looks at from a cursor. -/
def bandScan (rt : Runtime) (cursor band : Nat) : Scan :=
  .after rt.limits.maxClients cursor (bandReady rt band) rt.limits.maxClients

/-- The cursor with which a pass comes to its bands, the highest first. -/
def bandCursor (rt : Runtime) : Nat → Nat
  | 0 => rt.dispatchCursor
  | done + 1 =>
      (bandScan rt (bandCursor rt done) (3 - done)).cursorAfter rt.limits.maxClients
        (bandCursor rt done)

/-- In every band the scan comes to all clients that wait: the spacing as the loop tests it. -/
def NoneSkipped (rt : Runtime) : Prop :=
  ∀ done < 4, ∀ index < rt.limits.maxClients, bandReady rt (3 - done) index = true →
    index ∈ (bandScan rt (bandCursor rt done) (3 - done)).taken

instance (rt : Runtime) : Decidable (NoneSkipped rt) :=
  inferInstanceAs (Decidable (∀ done < 4, ∀ index < rt.limits.maxClients, _ → _))

/-- What a dispatch pass is for: every client that waits at its start is dispatched once, and
none while a client of a higher band still waits. -/
structure ServedByBand (rt : Runtime) (order : List Nat) : Prop where
  once : ∀ index < rt.limits.maxClients, (rt.clients index).isActive = true →
    (rt.clients index).requestReady = true → order.count index = 1
  descending : order.Pairwise fun first second =>
    clientBand (rt.clients second) ≤ clientBand (rt.clients first)
  highest : ∀ before index behind, order = before ++ index :: behind →
    ∀ other < rt.limits.maxClients, (rt.clients other).isActive = true →
      (rt.clients other).requestReady = true →
      clientBand (rt.clients index) < clientBand (rt.clients other) → other ∈ before

/-! ## One band -/

theorem clientBand_le (client : Client) : clientBand client ≤ 3 := by
  unfold clientBand
  split
  · exact Nat.le_refl 3
  · split
    · decide
    · decide
    · decide

theorem bandReady_iff {rt : Runtime} {band index : Nat} : bandReady rt band index = true ↔
    ((rt.clients index).isActive = true ∧ (rt.clients index).requestReady = true) ∧
      clientBand (rt.clients index) = band := by
  simp only [bandReady, Bool.and_eq_true, decide_eq_true_eq]

/-- A turn passes a client over or dispatches its request. -/
theorem dispatchTurn_cases {rt : Runtime} {order : List Nat} {band offset : Nat}
    {envs : Nat → DispatchEnv} {result : Runtime × List Nat}
    (taken : dispatchTurn band envs (rt, order) offset = .ok result) :
    (bandReady rt band ((rt.dispatchCursor + offset) % rt.limits.maxClients) = false ∧
      result = (rt, order)) ∨
    (bandReady rt band ((rt.dispatchCursor + offset) % rt.limits.maxClients) = true ∧
      ∃ answered, dispatchClientRequest rt ((rt.dispatchCursor + offset) % rt.limits.maxClients)
          (envs ((rt.dispatchCursor + offset) % rt.limits.maxClients)) = .ok answered ∧
        answered.2 = true ∧ result = ({ answered.1 with dispatchCursor :=
          ((rt.dispatchCursor + offset) % rt.limits.maxClients + 1) % rt.limits.maxClients },
          order ++ [(rt.dispatchCursor + offset) % rt.limits.maxClients])) := by
  unfold dispatchTurn at taken
  dsimp only at taken
  generalize (rt.dispatchCursor + offset) % rt.limits.maxClients = index at *
  rw [← Bool.not_eq_true, bandReady_iff]
  split at taken
  · rename_i idle
    cases taken
    refine .inl ⟨?_, rfl⟩
    rintro ⟨⟨active, ready⟩, -⟩
    rw [active, ready] at idle
    cases idle
  · rename_i busy
    rw [Bool.or_eq_true, not_or, Bool.not_eq_true', Bool.not_eq_true', Bool.not_eq_false,
      Bool.not_eq_false] at busy
    split at taken
    · rename_i other
      cases taken
      exact .inl ⟨fun waits => other waits.2, rfl⟩
    · rename_i same
      obtain ⟨answered, dispatched, last⟩ := bind_ok taken
      have done : answered.2 = true := by
        unfold dispatchClientRequest at dispatched
        rw [if_pos busy.2] at dispatched
        obtain ⟨after, -, rest⟩ := bind_ok dispatched
        cases rest
        rfl
      rw [if_pos done] at last
      cases last
      exact .inr ⟨⟨busy, not_not.mp same⟩, answered, dispatched, done, rfl⟩

/-- A pass so far: the clients in the list are answered, the others are as they were. -/
structure PassedOver (rt : Runtime) (order : List Nat) (now : Runtime) : Prop where
  limits : now.limits = rt.limits
  kept : ∀ index, index ∉ order → now.clients index = rt.clients index
  answered : ∀ index ∈ order, (now.clients index).requestReady = false

section Bands

variable {rt now next : Runtime} {order before : List Nat} {band cursor turn index : Nat}
  {envs : Nat → DispatchEnv}

theorem Dispatched.limits {env : DispatchEnv} {middle : Runtime} {bytes : List UInt8}
    (change : Dispatched rt index env middle bytes) : middle.limits = rt.limits := by
  rcases change.quiet_or_accepted with quiet | ⟨taskIndex, started, -, start, same, -⟩
  · exact quiet.limits
  · rw [same]
    change started.limits = rt.limits
    rw [start.frame]

/-- A dispatch of a ready request. -/
theorem PassedOver.dispatched {env : DispatchEnv} {result : Runtime × Bool} {place : Nat}
    (served : PassedOver rt order now) (ready : (now.clients index).requestReady = true)
    (dispatched : dispatchClientRequest now index env = .ok result) :
    result.2 = true ∧
      PassedOver rt (order ++ [index]) { result.1 with dispatchCursor := place } := by
  rcases dispatchClientRequest_explained dispatched with ⟨unready, -⟩ | ⟨-, done, explained⟩
  · rw [ready] at unready
    cases unready
  · obtain ⟨middle, bytes, change, answered, -⟩ := explained
    refine ⟨done, ?_, ?_, ?_⟩
    · change result.1.limits = rt.limits
      rw [← served.limits, answered, ← change.limits]
    · intro other fresh
      rw [List.mem_append, List.mem_singleton, not_or] at fresh
      change result.1.clients other = rt.clients other
      rw [answered.client_other fresh.2, change.client_other fresh.2]
      exact served.kept other fresh.1
    · intro other member
      change (result.1.clients other).requestReady = false
      by_cases same : other = index
      · subst same
        rw [answered.client]
        rfl
      · rcases List.mem_append.mp member with old | new
        · rw [answered.client_other same, change.client_other same]
          exact served.answered other old
        · exact absurd (List.mem_singleton.mp new) same

/-- The pass and the scan that describes it, within a band. -/
structure Scanned (rt : Runtime) (before : List Nat) (cursor turn : Nat) (scan : Scan)
    (now : Runtime) (order : List Nat) : Prop where
  listed : order = before ++ scan.taken
  passed : PassedOver rt order now
  cursor : now.dispatchCursor = scan.cursorAfter rt.limits.maxClients cursor
  position : (now.dispatchCursor + turn) % rt.limits.maxClients =
    scan.position % rt.limits.maxClients

/-- A turn of the loop is a turn of the scan. -/
theorem Scanned.turned {scan : Scan} {result : Runtime × List Nat}
    (scanned : Scanned rt before cursor turn scan now order)
    (apart : ∀ index ∈ before, bandReady rt band index = false)
    (taken : dispatchTurn band envs (now, order) turn = .ok result) :
    Scanned rt before cursor (turn + 1)
      (scan.advance rt.limits.maxClients (bandReady rt band) turn) result.1 result.2 := by
  obtain ⟨listed, passed, moved, position⟩ := scanned
  have place : (now.dispatchCursor + turn) % now.limits.maxClients =
      scan.position % rt.limits.maxClients := by
    rw [passed.limits]
    exact position
  rcases dispatchTurn_cases taken with ⟨idle, same⟩ | ⟨waits, answered, dispatched, done, same⟩
  · rw [place] at idle
    -- a client that does not wait was taken before or did not wait at the start
    have miss : bandReady rt band (scan.position % rt.limits.maxClients) = false ∨
        scan.position % rt.limits.maxClients ∈ scan.taken := by
      by_cases member : scan.position % rt.limits.maxClients ∈ order
      · rw [listed] at member
        rcases List.mem_append.mp member with old | new
        · exact .inl (apart _ old)
        · exact .inr new
      · left
        rw [← idle, bandReady, bandReady, passed.kept _ member]
    rw [Scan.advance_of_miss miss, same]
    refine ⟨listed, passed, moved, ?_⟩
    rw [← Nat.add_assoc, ← Nat.mod_add_mod, position, Nat.mod_add_mod]
  · rw [place] at waits dispatched same
    have fresh : scan.position % rt.limits.maxClients ∉ order := by
      intro member
      have ready := (bandReady_iff.mp waits).1.2
      rw [passed.answered _ member] at ready
      cases ready
    have hit : bandReady rt band (scan.position % rt.limits.maxClients) = true := by
      rw [← waits, bandReady, bandReady, passed.kept _ fresh]
    have untaken : scan.position % rt.limits.maxClients ∉ scan.taken := by
      intro member
      rw [listed] at fresh
      exact fresh (List.mem_append_right _ member)
    rw [Scan.advance_of_hit hit untaken, same]
    refine ⟨?_, (passed.dispatched (bandReady_iff.mp waits).1.2 dispatched).2, ?_, ?_⟩
    · rw [listed, List.append_assoc]
    · simp only [Scan.cursorAfter, cursorBehind_concat, passed.limits]
    · dsimp only
      rw [passed.limits, Nat.mod_add_mod, Nat.add_assoc, Nat.mod_add_mod]
      congr 1
      omega

/-- The loop over a band takes what the scan takes. -/
theorem dispatchBand_scans {result : Runtime × List Nat} (passed : PassedOver rt before now)
    (apart : ∀ index ∈ before, bandReady rt band index = false)
    (taken : dispatchBand envs (now, before) band = .ok result) :
    result.2 = before ++ (bandScan rt now.dispatchCursor band).taken ∧
      PassedOver rt result.2 result.1 ∧
      result.1.dispatchCursor =
        (bandScan rt now.dispatchCursor band).cursorAfter rt.limits.maxClients
          now.dispatchCursor := by
  have turns : ∀ count result, (List.range count).foldlM (dispatchTurn band envs) (now, before) =
      .ok result → Scanned rt before now.dispatchCursor count
        (.after rt.limits.maxClients now.dispatchCursor (bandReady rt band) count)
        result.1 result.2 := by
    intro count
    induction count with
    | zero =>
        intro result taken
        cases taken
        exact ⟨(List.append_nil _).symm, passed, rfl, rfl⟩
    | succ count ih =>
        intro result taken
        rw [List.range_succ, List.foldlM_append] at taken
        obtain ⟨middle, first, last⟩ := bind_ok taken
        obtain ⟨after, turn, done⟩ := bind_ok last
        cases done
        exact (ih middle first).turned apart turn
  unfold dispatchBand at taken
  dsimp only at taken
  rw [passed.limits] at taken
  obtain ⟨listed, after, cursor, -⟩ := turns _ result taken
  exact ⟨listed, after, cursor⟩

end Bands

/-! ## The pass -/

section Pass

variable {rt next : Runtime} {order : List Nat} {envs : Nat → DispatchEnv}

/-- What is taken in the bands before. -/
def takenBefore (rt : Runtime) : Nat → List Nat
  | 0 => []
  | done + 1 => takenBefore rt done ++ (bandScan rt (bandCursor rt done) (3 - done)).taken

theorem mem_takenBefore {done index : Nat} : index ∈ takenBefore rt done ↔
    ∃ earlier < done, index ∈ (bandScan rt (bandCursor rt earlier) (3 - earlier)).taken := by
  induction done with
  | zero => simp [takenBefore]
  | succ done ih =>
      rw [takenBefore, List.mem_append, ih]
      constructor
      · rintro (⟨earlier, before, member⟩ | now)
        · exact ⟨earlier, by omega, member⟩
        · exact ⟨done, by omega, now⟩
      · rintro ⟨earlier, before, member⟩
        rcases Nat.lt_succ_iff_lt_or_eq.mp before with less | same
        · exact .inl ⟨earlier, less, member⟩
        · exact .inr (same ▸ member)

/-- A client of a band is taken in that band only. -/
theorem band_of_mem {done index : Nat}
    (member : index ∈ (bandScan rt (bandCursor rt done) (3 - done)).taken) :
    bandReady rt (3 - done) index = true :=
  (Scan.after_taken _ _ _ _).2 index member

/-- A client that waits in a band was not taken in a band before. -/
theorem takenBefore_apart {done index : Nat} (inside : done < 4)
    (member : index ∈ takenBefore rt done) : bandReady rt (3 - done) index = false := by
  obtain ⟨earlier, before, taken⟩ := mem_takenBefore.mp member
  have band := (bandReady_iff.mp (band_of_mem taken)).2
  rw [← Bool.not_eq_true]
  intro waits
  have other := (bandReady_iff.mp waits).2
  omega

/-- The pass takes what the scans of the bands take. -/
theorem dispatchReadyRequests_order
    (passed : dispatchReadyRequests rt envs = .ok (next, order)) : order = takenBefore rt 4 := by
  have bands : ∀ done ≤ 4, ∀ result,
      ((List.range done).map (3 - ·)).foldlM (dispatchBand envs) (rt, []) = .ok result →
      result.2 = takenBefore rt done ∧ PassedOver rt result.2 result.1 ∧
        result.1.dispatchCursor = bandCursor rt done := by
    intro done
    induction done with
    | zero =>
        intro _ result taken
        cases taken
        exact ⟨rfl, ⟨rfl, fun _ _ => rfl, nofun⟩, rfl⟩
    | succ done ih =>
        intro inside result taken
        rw [List.range_succ, List.map_append, List.foldlM_append] at taken
        obtain ⟨⟨now, before⟩, first, last⟩ := bind_ok taken
        obtain ⟨listed, passed, cursor⟩ := ih (by omega) _ first
        obtain ⟨after, band, finished⟩ := bind_ok last
        cases finished
        dsimp only at listed passed cursor
        have apart : ∀ index ∈ before, bandReady rt (3 - done) index = false := by
          intro index member
          rw [listed] at member
          exact takenBefore_apart (by omega) member
        obtain ⟨taken, after, moved⟩ := dispatchBand_scans passed apart band
        rw [cursor] at taken moved
        refine ⟨?_, after, moved⟩
        rw [taken, listed, takenBefore]
  exact (bands 4 (le_refl 4) (next, order) passed).1

/-- The bands of what a pass takes never rise. -/
theorem takenBefore_descending (done : Nat) (inside : done ≤ 4) :
    (takenBefore rt done).Pairwise fun first second =>
      clientBand (rt.clients second) ≤ clientBand (rt.clients first) := by
  induction done with
  | zero => exact List.Pairwise.nil
  | succ done ih =>
      rw [takenBefore, List.pairwise_append]
      refine ⟨ih (by omega), ?_, ?_⟩
      · apply List.pairwise_of_forall_mem_list
        intro first left second right
        rw [(bandReady_iff.mp (band_of_mem left)).2, (bandReady_iff.mp (band_of_mem right)).2]
      · intro first left second right
        obtain ⟨earlier, before, taken⟩ := mem_takenBefore.mp left
        rw [(bandReady_iff.mp (band_of_mem taken)).2, (bandReady_iff.mp (band_of_mem right)).2]
        omega

theorem takenBefore_nodup (done : Nat) (inside : done ≤ 4) : (takenBefore rt done).Nodup := by
  induction done with
  | zero => exact List.nodup_nil
  | succ done ih =>
      rw [takenBefore, List.nodup_append]
      refine ⟨ih (by omega), (Scan.after_taken _ _ _ _).1, ?_⟩
      intro first left second right same
      subst same
      have apart := takenBefore_apart (by omega) left
      rw [band_of_mem right] at apart
      cases apart

/-- Every client that waits waits in one of the bands. -/
theorem exists_band {index : Nat} (active : (rt.clients index).isActive = true)
    (ready : (rt.clients index).requestReady = true) :
    ∃ done < 4, bandReady rt (3 - done) index = true ∧
      clientBand (rt.clients index) = 3 - done := by
  have bounded : clientBand (rt.clients index) ≤ 3 := clientBand_le _
  have same : clientBand (rt.clients index) = 3 - (3 - clientBand (rt.clients index)) := by omega
  exact ⟨3 - clientBand (rt.clients index), by omega,
    bandReady_iff.mpr ⟨⟨active, ready⟩, same⟩, same⟩

/-- A dispatch pass serves every client that waits once and by bands, exactly when its scans
come to all of them. -/
theorem servedByBand_iff_noneSkipped
    (passed : dispatchReadyRequests rt envs = .ok (next, order)) :
    ServedByBand rt order ↔ NoneSkipped rt := by
  rw [dispatchReadyRequests_order passed]
  constructor
  · intro served done inside index below waits
    obtain ⟨⟨active, ready⟩, band⟩ := bandReady_iff.mp waits
    have listed : index ∈ takenBefore rt 4 := by
      rw [← List.count_pos_iff, served.once index below active ready]
      exact Nat.one_pos
    obtain ⟨other, inside', taken⟩ := mem_takenBefore.mp listed
    have same := (bandReady_iff.mp (band_of_mem taken)).2
    have equal : other = done := by omega
    exact equal ▸ taken
  · intro none
    have listed : ∀ index < rt.limits.maxClients, (rt.clients index).isActive = true →
        (rt.clients index).requestReady = true → index ∈ takenBefore rt 4 := by
      intro index below active ready
      obtain ⟨done, inside, waits, -⟩ := exists_band active ready
      exact mem_takenBefore.mpr ⟨done, inside, none done inside index below waits⟩
    refine ⟨?_, takenBefore_descending 4 (le_refl 4), ?_⟩
    · intro index below active ready
      exact List.count_eq_one_of_mem (takenBefore_nodup 4 (le_refl 4))
        (listed index below active ready)
    · intro before index behind split other below active ready less
      have member := listed other below active ready
      have descending := @takenBefore_descending rt 4 (le_refl 4)
      rw [split] at member descending
      rcases List.mem_append.mp member with first | rest
      · exact first
      · rcases List.mem_cons.mp rest with same | later
        · rw [same] at less
          exact absurd less (Nat.lt_irrefl _)
        · have order := (List.pairwise_cons.mp (List.pairwise_append.mp descending).2.1).1
            other later
          omega

/-- The lists of well spaced clients are what the scans of the bands take. -/
theorem spacedFrom_iff (left : Nat) (inside : left ≤ 4) :
    SpacedFrom rt (bandCursor rt (4 - left)) left ↔ ∀ done, 4 - left ≤ done → done < 4 →
      ∀ index < rt.limits.maxClients, bandReady rt (3 - done) index = true →
        index ∈ (bandScan rt (bandCursor rt done) (3 - done)).taken := by
  induction left with
  | zero =>
      refine ⟨?_, fun _ => trivial⟩
      intro _ done late below
      omega
  | succ left ih =>
      have band : 3 - (4 - (left + 1)) = left := by omega
      have next : bandCursor rt (4 - left) = cursorBehind rt.limits.maxClients
          (bandCursor rt (4 - (left + 1)))
          (bandScan rt (bandCursor rt (4 - (left + 1))) left).taken := by
        have turn : 4 - left = 4 - (left + 1) + 1 := by omega
        rw [turn, bandCursor, band]
        rfl
      rw [SpacedFrom]
      constructor
      · rintro ⟨order, spaces, lower⟩ done late below
        have taken := Scan.taken_of_spaces spaces
        rcases Nat.lt_or_eq_of_le late with later | same
        · rw [← taken] at lower
          change SpacedFrom rt (cursorBehind _ _ (bandScan rt _ left).taken) left at lower
          rw [← next] at lower
          exact (ih (by omega)).mp lower done (by omega) below
        · subst same
          rw [band]
          intro index inside waits
          rw [bandScan, taken]
          exact (spaces.listed index).mpr ⟨inside, waits⟩
      · intro all
        have now := all (4 - (left + 1)) (le_refl _) (by omega)
        rw [band] at now
        refine ⟨_, Scan.takes_all_iff.mp now, ?_⟩
        change SpacedFrom rt (cursorBehind _ _ (bandScan rt _ left).taken) left
        rw [← next, ih (by omega)]
        exact fun done late below => all done (by omega) below

/-- The scans leave out nobody exactly when the clients that wait are well spaced. -/
theorem wellSpaced_iff_noneSkipped : WellSpaced rt ↔ NoneSkipped rt := by
  rw [WellSpaced, NoneSkipped]
  exact (spacedFrom_iff 4 (le_refl 4)).trans
    ⟨fun all done => all done (Nat.zero_le done), fun all done _ => all done⟩

/-- A dispatch pass serves every client that waits once and by bands, exactly when the clients
that wait are well spaced. -/
theorem dispatchReadyRequests_served_iff
    (passed : dispatchReadyRequests rt envs = .ok (next, order)) :
    ServedByBand rt order ↔ WellSpaced rt := by
  rw [wellSpaced_iff_noneSkipped]
  exact servedByBand_iff_noneSkipped passed

/-- Clients of different bands are well spaced. -/
theorem wellSpaced_of_bands (apart : ∀ first < rt.limits.maxClients,
    ∀ second < rt.limits.maxClients, ∀ band, bandReady rt band first = true →
      bandReady rt band second = true → first = second) : WellSpaced rt := by
  rw [wellSpaced_iff_noneSkipped]
  intro done _ index below waits
  apply Scan.mem_after_of_single below waits
  intro other inside also
  exact apart other inside index below _ also waits

end Pass

/-- A client sends a NOP of a priority. -/
def offeringNop (index : Nat) (priority : Priority) : Action :=
  .input index [.data (SubmitRequest.encode { requestHeader .nop with priority }) [] false]

/-- A run and a dispatch pass behind it. -/
def passing (config : Config) (actions : List Action) :
    Except Errno (Runtime × Runtime × List Nat) := do
  let rt ← run step (Runtime.initial config) actions
  let result ← dispatchReadyRequests rt fun _ => .smooth
  return (rt, result)

theorem passing_ok {config : Config} {actions : List Action}
    {result : Runtime × Runtime × List Nat} (ran : passing config actions = .ok result) :
    run step (Runtime.initial config) actions = .ok result.1 ∧
      dispatchReadyRequests result.1 (fun _ => .smooth) = .ok result.2 := by
  obtain ⟨rt, first, rest⟩ := bind_ok ran
  obtain ⟨last, second, done⟩ := bind_ok rest
  cases done
  exact ⟨first, second⟩

/-- Of two clients the one with the higher priority is served first. -/
theorem dispatchReadyRequests_served_pair :
    ∃ rt next, run step (Runtime.initial (.small 1 (by decide) (by decide)))
        (joining 0 7 ++ joining 1 8 ++ [offeringNop 0 .low, offeringNop 1 .high]) = .ok rt ∧
      dispatchReadyRequests rt (fun _ => .smooth) = .ok (next, [1, 0]) ∧
      ServedByBand rt [1, 0] := by
  have seen : ((passing (.small 1 (by decide) (by decide))
      (joining 0 7 ++ joining 1 8 ++ [offeringNop 0 .low, offeringNop 1 .high])).toOption.map
        fun result => decide (result.2.2 = [1, 0] ∧ NoneSkipped result.1)) = some true := by
    decide +kernel
  obtain ⟨⟨rt, next, order⟩, ran, view⟩ := exists_of_toOption_map seen
  obtain ⟨listed, none⟩ := of_decide_eq_true view
  obtain ⟨first, passed⟩ := passing_ok ran
  dsimp only at listed none first passed
  rw [listed] at passed
  refine ⟨rt, next, first, passed, ?_⟩
  exact (dispatchReadyRequests_served_iff passed).mpr (wellSpaced_iff_noneSkipped.mpr none)

/-- A daemon for three clients. -/
def Config.three : Config :=
  .fresh ⟨3, 1, 1, 64, 16, 2⟩ (by decide) 2 (by decide) (by decide)

/-- Three clients wait with requests of one priority. The pass serves the first and the last:
after client 0 the cursor is 1 and the loop counter is 1, so the next client is 2. -/
theorem waiting_client_passed_over :
    ∃ rt next, run step (Runtime.initial .three)
        (joining 0 7 ++ joining 1 8 ++ joining 2 9 ++
          [offeringNop 0 .normal, offeringNop 1 .normal, offeringNop 2 .normal]) = .ok rt ∧
      dispatchReadyRequests rt (fun _ => .smooth) = .ok (next, [0, 2]) ∧
      (rt.clients 1).isActive = true ∧ (rt.clients 1).requestReady = true ∧
      (next.clients 1).requestReady = true ∧ ¬ ServedByBand rt [0, 2] := by
  have seen : ((passing .three
      (joining 0 7 ++ joining 1 8 ++ joining 2 9 ++
        [offeringNop 0 .normal, offeringNop 1 .normal, offeringNop 2 .normal])).toOption.map
        fun result => decide (result.2.2 = [0, 2] ∧ result.1.limits.maxClients = 3 ∧
          (result.1.clients 1).isActive = true ∧ (result.1.clients 1).requestReady = true ∧
          (result.2.1.clients 1).requestReady = true)) = some true := by
    decide +kernel
  obtain ⟨⟨rt, next, order⟩, ran, view⟩ := exists_of_toOption_map seen
  obtain ⟨listed, three, active, ready, waits⟩ := of_decide_eq_true view
  obtain ⟨first, passed⟩ := passing_ok ran
  dsimp only at listed three active ready waits first passed
  rw [listed] at passed
  refine ⟨rt, next, first, passed, active, ready, waits, ?_⟩
  intro served
  have once := served.once 1 (by rw [three]; decide) active ready
  cases once

end Iouringd
