import Mathlib.Algebra.BigOperators.Group.Finset.Basic
import Mathlib.Algebra.Order.BigOperators.Group.Finset

/-! # Sums over a table

The weight of a table is the sum of the weights of its entries. Overwriting one entry moves
it by the difference of the two weights, so a change that takes as much from one entry as
it adds elsewhere is seen from the entries it touches.
-/

namespace Foundation

variable {α : Type}

/-- The sum of the weights of the entries below `limit`. -/
def tally (weigh : α → Nat) (table : Nat → α) (limit : Nat) : Nat :=
  ∑ index ∈ Finset.range limit, weigh (table index)

variable {weigh : α → Nat} {table other : Nat → α} {limit : Nat}

/-- Lighter entries weigh less together. -/
theorem tally_le (less : ∀ index < limit, weigh (other index) ≤ weigh (table index)) :
    tally weigh other limit ≤ tally weigh table limit :=
  Finset.sum_le_sum fun index member => less index (Finset.mem_range.mp member)

/-- Only the weights count. -/
theorem tally_congr (same : ∀ index < limit, weigh (other index) = weigh (table index)) :
    tally weigh other limit = tally weigh table limit :=
  Finset.sum_congr rfl fun index member => same index (Finset.mem_range.mp member)

/-- The last entry apart. -/
theorem tally_succ (weigh : α → Nat) (table : Nat → α) (limit : Nat) :
    tally weigh table (limit + 1) = tally weigh table limit + weigh (table limit) :=
  Finset.sum_range_succ _ _

/-- Overwriting an entry. -/
theorem tally_update {index : Nat} (below : index < limit) (entry : α) :
    tally weigh (Function.update table index entry) limit + weigh (table index) =
      tally weigh table limit + weigh entry := by
  have member : index ∈ Finset.range limit := Finset.mem_range.mpr below
  have rest : ∑ slot ∈ (Finset.range limit).erase index,
      weigh (Function.update table index entry slot) =
      ∑ slot ∈ (Finset.range limit).erase index, weigh (table slot) := by
    refine Finset.sum_congr rfl fun slot inside => ?_
    rw [Function.update_of_ne (Finset.ne_of_mem_erase inside)]
  unfold tally
  rw [← Finset.add_sum_erase _ _ member, ← Finset.add_sum_erase _ _ member, rest,
    Function.update_self]
  omega

/-- The sum of two weights. -/
theorem tally_add (first second : α → Nat) :
    tally (fun entry => first entry + second entry) table limit =
      tally first table limit + tally second table limit := Finset.sum_add_distrib

/-- Nothing weighs nothing. -/
theorem tally_eq_zero (none : ∀ index < limit, weigh (table index) = 0) :
    tally weigh table limit = 0 :=
  Finset.sum_eq_zero fun index member => none index (Finset.mem_range.mp member)

end Foundation
