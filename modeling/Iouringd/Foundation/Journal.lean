import Mathlib.Data.List.Count
import Mathlib.Data.List.Nodup
import Mathlib.Data.List.Lemmas

/-! # Journals

A journal is a list of records, oldest first. A record opens an account under a key, closes
one, or does neither. A journal is kept well when no account is opened twice and none is
closed that is not open; what is open after it can then be counted.
-/

namespace Foundation.Journal

variable {ρ κ : Type}

/-- What a record does to accounts. -/
inductive Entry (κ : Type) where
  | opens (key : κ)
  | closes (key : κ)
  | aside

/-- The account an entry opens. -/
def Entry.openedKey : Entry κ → Option κ
  | .opens key => some key
  | _ => none

/-- The account an entry closes. -/
def Entry.closedKey : Entry κ → Option κ
  | .closes key => some key
  | _ => none

/-- The accounts that were opened, in order. -/
def opened (entry : ρ → Entry κ) (journal : List ρ) : List κ :=
  journal.filterMap fun record => (entry record).openedKey

/-- The accounts that were closed, in order. -/
def closed (entry : ρ → Entry κ) (journal : List ρ) : List κ :=
  journal.filterMap fun record => (entry record).closedKey

/-- The accounts that are open, in the order in which they were opened. -/
def pending [DecidableEq κ] (entry : ρ → Entry κ) (journal : List ρ) : List κ :=
  (opened entry journal).filter fun key => key ∉ closed entry journal

/-- Every record stands in `holds` to the journal before it. -/
def Sequentially (holds : List ρ → ρ → Prop) (journal : List ρ) : Prop :=
  ∀ earlier record later, journal = earlier ++ record :: later → holds earlier record

/-- There is no record to say anything about. -/
theorem sequentially_nil (holds : List ρ → ρ → Prop) : Sequentially holds [] := by
  intro earlier record later split
  exact absurd split.symm (List.append_ne_nil_of_right_ne_nil _ (List.cons_ne_nil _ _))

/-- One more record has one more thing to stand to. -/
theorem Sequentially.concat {holds : List ρ → ρ → Prop} {journal : List ρ} {last : ρ}
    (before : Sequentially holds journal) (new : holds journal last) :
    Sequentially holds (journal ++ [last]) := by
  intro earlier record later split
  rcases List.eq_nil_or_concat later with rfl | ⟨front, final, rfl⟩
  · obtain ⟨same, record⟩ := List.append_inj' split rfl
    obtain ⟨rfl, -⟩ := List.cons.inj record
    rw [← same]
    exact new
  · have whole : journal ++ [last] = (earlier ++ record :: front) ++ [final] := by
      rw [split, List.concat_eq_append, List.append_assoc]
      rfl
    exact before earlier record front (List.append_inj' whole rfl).1

variable {entry : ρ → Entry κ} {journal : List ρ} {record : ρ} {key : κ}

/-- One more record that opens no account. -/
theorem opened_concat_same (reads : (entry record).openedKey = none) :
    opened entry (journal ++ [record]) = opened entry journal := by
  rw [opened, List.filterMap_append, List.filterMap_cons, reads]
  exact List.append_nil _

/-- One that opens an account. -/
theorem opened_concat (reads : entry record = .opens key) :
    opened entry (journal ++ [record]) = opened entry journal ++ [key] := by
  rw [opened, List.filterMap_append, List.filterMap_cons, reads]
  rfl

/-- One that closes no account. -/
theorem closed_concat_same (reads : (entry record).closedKey = none) :
    closed entry (journal ++ [record]) = closed entry journal := by
  rw [closed, List.filterMap_append, List.filterMap_cons, reads]
  exact List.append_nil _

/-- One that closes an account. -/
theorem closed_concat (reads : entry record = .closes key) :
    closed entry (journal ++ [record]) = closed entry journal ++ [key] := by
  rw [closed, List.filterMap_append, List.filterMap_cons, reads]
  rfl

section Keeping

variable [DecidableEq κ]

/-- No account is opened twice, and one that is closed is open. -/
structure Kept (entry : ρ → Entry κ) (journal : List ρ) : Prop where
  once : (opened entry journal).Nodup
  current : Sequentially
    (fun earlier record => ∀ key, entry record = .closes key → key ∈ pending entry earlier) journal

/-- Open means opened and not closed. -/
theorem mem_pending : key ∈ pending entry journal ↔
    key ∈ opened entry journal ∧ key ∉ closed entry journal := by
  rw [pending, List.mem_filter, decide_eq_true_eq]

/-- The empty journal. -/
theorem Kept.nil (entry : ρ → Entry κ) : Kept entry [] := ⟨List.nodup_nil, sequentially_nil _⟩

/-- No account is open twice. -/
theorem Kept.pending_nodup (kept : Kept entry journal) : (pending entry journal).Nodup :=
  kept.once.filter _

/-! ## One more record -/

/-- An account that was closed had been opened. -/
theorem Kept.closed_subset (kept : Kept entry journal) :
    ∀ key ∈ closed entry journal, key ∈ opened entry journal := by
  intro key member
  obtain ⟨record, found, closes⟩ := List.mem_filterMap.mp member
  obtain ⟨earlier, later, rfl⟩ := List.append_of_mem found
  have reads : entry record = .closes key := by
    cases reads : entry record with
    | closes other =>
        rw [reads] at closes
        exact congrArg Entry.closes (Option.some.inj closes)
    | _ =>
        rw [reads] at closes
        cases closes
  have before := (mem_pending.mp (kept.current earlier record later rfl key reads)).1
  rw [opened, List.filterMap_append]
  exact List.mem_append_left _ before

/-- A record that is about no account. -/
theorem Kept.aside (kept : Kept entry journal) (reads : entry record = .aside) :
    Kept entry (journal ++ [record]) ∧
      pending entry (journal ++ [record]) = pending entry journal := by
  have same : opened entry (journal ++ [record]) = opened entry journal :=
    opened_concat_same (by rw [reads]; rfl)
  have closes : closed entry (journal ++ [record]) = closed entry journal :=
    closed_concat_same (by rw [reads]; rfl)
  refine ⟨⟨same ▸ kept.once, kept.current.concat ?_⟩, by rw [pending, same, closes, pending]⟩
  intro key other
  rw [reads] at other
  cases other

/-- An account is opened under a key that is new. -/
theorem Kept.opens (kept : Kept entry journal) (reads : entry record = .opens key)
    (fresh : key ∉ opened entry journal) :
    Kept entry (journal ++ [record]) ∧
      pending entry (journal ++ [record]) = pending entry journal ++ [key] := by
  have opens : opened entry (journal ++ [record]) = opened entry journal ++ [key] :=
    opened_concat reads
  have same : closed entry (journal ++ [record]) = closed entry journal :=
    closed_concat_same (by rw [reads]; rfl)
  refine ⟨⟨?_, kept.current.concat ?_⟩, ?_⟩
  · rw [opens, ← List.concat_eq_append]
    exact kept.once.concat fresh
  · intro other closes
    rw [reads] at closes
    cases closes
  · have unclosed : key ∉ closed entry journal :=
      fun member => fresh (kept.closed_subset key member)
    rw [pending, opens, same, List.filter_append, pending]
    simp only [unclosed, not_false_eq_true, decide_true, List.filter_cons_of_pos, List.filter_nil]

/-- An account that is open is closed. -/
theorem Kept.closes (kept : Kept entry journal) (reads : entry record = .closes key)
    (current : key ∈ pending entry journal) :
    Kept entry (journal ++ [record]) ∧
      pending entry (journal ++ [record]) = (pending entry journal).erase key := by
  have same : opened entry (journal ++ [record]) = opened entry journal :=
    opened_concat_same (by rw [reads]; rfl)
  have closes : closed entry (journal ++ [record]) = closed entry journal ++ [key] :=
    closed_concat reads
  refine ⟨⟨same ▸ kept.once, kept.current.concat ?_⟩, ?_⟩
  · intro other closed
    rw [reads] at closed
    cases closed
    exact current
  · rw [kept.pending_nodup.erase_eq_filter, pending, same, closes, pending, List.filter_filter]
    apply List.filter_congr
    intro other _
    simp only [List.mem_append, List.mem_singleton, not_or, Bool.decide_and, Bool.and_comm, bne,
      decide_not, beq_eq_decide]

/-- How many open accounts pass a test, when one that is open is closed. -/
theorem countP_erase_pending (test : κ → Bool) (current : key ∈ pending entry journal) :
    ((pending entry journal).erase key).countP test + (if test key then 1 else 0) =
      (pending entry journal).countP test := by
  have moved := (List.perm_cons_erase current).countP_eq test
  rw [moved, List.countP_cons]

end Keeping

end Foundation.Journal
