import Mathlib.Data.List.Basic

/-! # The last values of a history

A table of `size` entries that is written round robin holds the last `size` values
that were written, and never anything else in an entry that has been written.
-/

namespace Foundation

variable {α : Type} {size : Nat} {table : Nat → α} {history : List α}

/-- The table holds the last `size` values of the history, each at its position modulo
`size`. -/
def Recent (size : Nat) (table : Nat → α) (history : List α) : Prop :=
  ∀ position value, history[position]? = some value → history.length ≤ position + size →
    table (position % size) = value

theorem Recent.nil (table : Nat → α) : Recent size table [] := by
  intro position value found
  rw [List.getElem?_nil] at found
  cases found

/-- Writing the next entry adds to the history. -/
theorem Recent.push (recent : Recent size table history) (value : α) :
    Recent size (Function.update table (history.length % size) value) (history ++ [value]) := by
  intro position other found late
  rw [List.length_append, List.length_singleton] at late
  rcases Nat.lt_trichotomy position history.length with before | same | beyond
  · rw [List.getElem?_append_left before] at found
    have apart : position % size ≠ history.length % size := by
      intro equal
      -- equal remainders less than `size` apart are equal
      have gap : (history.length - position) % size = 0 := Nat.sub_mod_eq_zero_of_mod_eq equal.symm
      have short : history.length - position < size := by omega
      rw [Nat.mod_eq_of_lt short] at gap
      omega
    rw [Function.update_of_ne apart]
    exact recent position other found (by omega)
  · subst same
    rw [List.getElem?_concat_length] at found
    rw [Function.update_self]
    exact Option.some.inj found
  · have missing : (history ++ [value])[position]? = none := by
      rw [List.getElem?_eq_none_iff, List.length_append, List.length_singleton]
      exact beyond
    rw [missing] at found
    cases found

/-- An entry that has been written holds a value of the history. -/
theorem Recent.mem (recent : Recent size table history) {entry : Nat} (below : entry < size)
    (written : entry < history.length) : table entry ∈ history := by
  -- the last position that went into the entry
  have rounds : size * ((history.length - 1 - entry) / size) +
      (history.length - 1 - entry) % size = history.length - 1 - entry := Nat.div_add_mod _ _
  have rest : (history.length - 1 - entry) % size < size := Nat.mod_lt _ (by omega)
  generalize turns : (history.length - 1 - entry) / size = turn at rounds
  have inside : entry + size * turn < history.length := by omega
  have found := List.getElem?_eq_getElem inside
  have held := recent (entry + size * turn) _ found (by omega)
  rw [Nat.add_mul_mod_self_left, Nat.mod_eq_of_lt below] at held
  rw [held]
  exact List.getElem_mem inside

end Foundation
