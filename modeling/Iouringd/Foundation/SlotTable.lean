import Mathlib.Data.Nat.Count
import Mathlib.Logic.Function.Basic

/-! # Tables of slots indexed by naturals

A fixed table is a function on naturals of which only the entries below a limit
are used. `firstBelow` is the linear search every table is scanned with, and
`Nat.count` counts the entries below a limit that satisfy a predicate. The
results say when a search succeeds and how a count moves when one entry is
overwritten.
-/

namespace Foundation

/-- The first index below `limit` that satisfies `test`. -/
def firstBelow (limit : Nat) (test : Nat → Bool) : Option Nat :=
  (List.range limit).find? test

theorem firstBelow_some {limit : Nat} {test : Nat → Bool} {index : Nat}
    (found : firstBelow limit test = some index) : index < limit ∧ test index = true :=
  ⟨List.mem_range.mp (List.mem_of_find?_eq_some found), List.find?_some found⟩

/-- A search ends at the first entry that passes. -/
theorem firstBelow_eq_some {limit : Nat} {test : Nat → Bool} {index : Nat} (below : index < limit)
    (passes : test index = true) (first : ∀ earlier < index, test earlier = false) :
    firstBelow limit test = some index := by
  rw [firstBelow, List.find?_range_eq_some]
  refine ⟨passes, List.mem_range.mpr below, ?_⟩
  intro earlier before
  rw [first earlier before]
  rfl

theorem firstBelow_eq_none {limit : Nat} {test : Nat → Bool} :
    firstBelow limit test = none ↔ ∀ index < limit, test index = false := by
  simp only [firstBelow, List.find?_eq_none, List.mem_range, Bool.not_eq_true]

variable {α : Type} (holds : α → Prop) [DecidablePred holds]

/-- Overwriting one entry moves a count by the difference of that entry. -/
theorem count_update (table : Nat → α) (limit index : Nat) (value : α) (below : index < limit) :
    Nat.count (fun slot => holds (Function.update table index value slot)) limit +
        (if holds (table index) then 1 else 0) =
      Nat.count (fun slot => holds (table slot)) limit + (if holds value then 1 else 0) := by
  induction limit with
  | zero => exact absurd below (Nat.not_lt_zero index)
  | succ limit ih =>
      simp only [Nat.count_succ]
      by_cases last : index = limit
      · subst last
        have untouched : Nat.count (fun slot => holds (Function.update table index value slot))
            index = Nat.count (fun slot => holds (table slot)) index := by
          clear ih below
          have same : ∀ bound ≤ index,
              Nat.count (fun slot => holds (Function.update table index value slot)) bound =
                Nat.count (fun slot => holds (table slot)) bound := by
            intro bound within
            induction bound with
            | zero => simp only [Nat.count_zero]
            | succ bound ih =>
                have other : bound ≠ index := by omega
                rw [Nat.count_succ, Nat.count_succ, ih (by omega),
                  Function.update_of_ne other]
          exact same index (Nat.le_refl index)
        rw [untouched, Function.update_self]
        omega
      · have earlier := ih (by omega)
        rw [Function.update_of_ne (Ne.symm last)]
        omega

/-- Filling an entry that was not counted. -/
theorem count_update_of_not (table : Nat → α) (limit index : Nat) (value : α)
    (below : index < limit) (fresh : ¬ holds (table index)) :
    Nat.count (fun slot => holds (Function.update table index value slot)) limit =
      Nat.count (fun slot => holds (table slot)) limit + (if holds value then 1 else 0) := by
  have moved := count_update holds table limit index value below
  simpa only [fresh, ↓reduceIte, Nat.add_zero] using moved

/-- Replacing an entry by one that is not counted. -/
theorem count_update_to_not (table : Nat → α) (limit index : Nat) (value : α)
    (below : index < limit) (empty : ¬ holds value) :
    Nat.count (fun slot => holds (Function.update table index value slot)) limit +
        (if holds (table index) then 1 else 0) =
      Nat.count (fun slot => holds (table slot)) limit := by
  have moved := count_update holds table limit index value below
  simpa only [empty, ↓reduceIte, Nat.add_zero] using moved

omit [DecidablePred holds] in
/-- Counts agree when the counted entries agree. -/
theorem count_congr {left right : Nat → Prop} [DecidablePred left] [DecidablePred right]
    {limit : Nat} (same : ∀ slot < limit, left slot ↔ right slot) :
    Nat.count left limit = Nat.count right limit := by
  induction limit with
  | zero => simp only [Nat.count_zero]
  | succ limit ih =>
      rw [Nat.count_succ, Nat.count_succ, ih fun slot below => same slot (by omega)]
      simp only [same limit (Nat.lt_succ_self limit)]

/-- A table is not full exactly when some entry is not counted. -/
theorem count_lt_iff_exists_not {test : Nat → Prop} [DecidablePred test] {limit : Nat} :
    Nat.count test limit < limit ↔ ∃ slot < limit, ¬ test slot := by
  have bounded : Nat.count test limit ≤ limit := Nat.count_le test
  have full : Nat.count test limit = limit ↔ ∀ slot < limit, test slot := Nat.count_iff_forall
  constructor
  · intro room
    by_contra none
    have every : ∀ slot < limit, test slot := by
      intro slot below
      by_contra fails
      exact none ⟨slot, below, fails⟩
    have := full.mpr every
    omega
  · rintro ⟨slot, below, fails⟩
    rcases Nat.lt_or_eq_of_le bounded with room | all
    · exact room
    · exact absurd (full.mp all slot below) fails

/-- A stronger test counts no more entries. -/
theorem count_le_of_imp {left right : Nat → Prop} [DecidablePred left] [DecidablePred right]
    {limit : Nat} (weaker : ∀ slot < limit, left slot → right slot) :
    Nat.count left limit ≤ Nat.count right limit := by
  induction limit with
  | zero => simp only [Nat.count_zero, Nat.le_refl]
  | succ limit ih =>
      have earlier := ih fun slot below => weaker slot (by omega)
      have last := weaker limit (Nat.lt_succ_self limit)
      rw [Nat.count_succ, Nat.count_succ]
      by_cases here : left limit
      · simp only [here, last here, ↓reduceIte]
        omega
      · simp only [here, ↓reduceIte]
        omega

end Foundation
