import Mathlib.Data.Nat.ModEq
import Mathlib.Logic.Function.Basic

/-! # Shared rings with free-running 32-bit indices

Producer and consumer own one index each. Both indices run freely modulo `2 ^ 32`
and a position is turned into a cell by masking it. `window` reads the occupied
cells in queue order. With a power-of-two number of cells, filling the cell at
the tail appends to the window and moving the head drops its first entries, for
every position of the indices, wrapped or not.
-/

namespace Foundation

/-- The number of occupied cells. -/
def occupied (head tail : UInt32) : Nat := (tail - head).toNat

/-- The cell of a position. -/
def cell (mask position : UInt32) : Nat := (position &&& mask).toNat

/-- The entries between head and tail, oldest first. -/
def window {α : Type} (cells : Nat → α) (mask head tail : UInt32) : List α :=
  (List.range (occupied head tail)).map fun index => cells (cell mask (head + UInt32.ofNat index))

/-- A ring has a power-of-two number of cells and the mask that belongs to it. -/
structure RingGeometry (entries mask : UInt32) : Prop where
  exists_order : ∃ order < 32, entries.toNat = 2 ^ order ∧ mask.toNat = 2 ^ order - 1

/-- One more is occupied. -/
theorem occupied_push {head tail entries : UInt32} (room : occupied head tail < entries.toNat) :
    occupied head (tail + 1) = occupied head tail + 1 := by
  have bounded := entries.toNat_lt
  unfold occupied at room ⊢
  have moved : tail + 1 - head = (tail - head) + 1 := by
    rw [UInt32.sub_eq_add_neg, UInt32.sub_eq_add_neg, UInt32.add_assoc, UInt32.add_comm 1,
      ← UInt32.add_assoc]
  rw [moved, UInt32.toNat_add, UInt32.toNat_one, Nat.mod_eq_of_lt (by omega)]

/-- One more entry, also when the counters wrap around. -/
theorem occupied_succ_le (head tail : UInt32) :
    occupied head (tail + 1) ≤ occupied head tail + 1 := by
  unfold occupied
  have moved : tail + 1 - head = (tail - head) + 1 := by
    rw [UInt32.sub_eq_add_neg, UInt32.sub_eq_add_neg, UInt32.add_assoc, UInt32.add_comm 1,
      ← UInt32.add_assoc]
  rw [moved, UInt32.toNat_add, UInt32.toNat_one]
  exact Nat.mod_le _ _

/-- So many fewer are occupied. -/
theorem occupied_pop {head tail : UInt32} {count : Nat} (within : count ≤ occupied head tail) :
    occupied (head + UInt32.ofNat count) tail = occupied head tail - count := by
  have bounded := (tail - head).toNat_lt
  unfold occupied at within ⊢
  have small : (UInt32.ofNat count).toNat = count := by
    rw [UInt32.toNat_ofNat', Nat.mod_eq_of_lt (by omega)]
  have moved : tail - (head + UInt32.ofNat count) = (tail - head) - UInt32.ofNat count := by
    rw [UInt32.sub_eq_add_neg, UInt32.sub_eq_add_neg, UInt32.sub_eq_add_neg, UInt32.neg_add,
      UInt32.sub_eq_add_neg, UInt32.add_assoc]
  rw [moved, UInt32.toNat_sub_of_le _ _ (by rw [UInt32.le_iff_toNat_le, small]; exact within),
    small]

/-- The window is as long as the ring is full. -/
@[simp] theorem length_window {α : Type} (cells : Nat → α) (mask head tail : UInt32) :
    (window cells mask head tail).length = occupied head tail := by
  simp only [window, List.length_map, List.length_range]

/-- The window reads the occupied cells only. -/
theorem window_congr {α : Type} {left right : Nat → α} {mask head tail : UInt32}
    (same : ∀ index < occupied head tail,
      left (cell mask (head + UInt32.ofNat index)) =
        right (cell mask (head + UInt32.ofNat index))) :
    window left mask head tail = window right mask head tail :=
  List.map_congr_left fun index member => same index (List.mem_range.mp member)

namespace RingGeometry

variable {entries mask : UInt32}

/-- Masking is reduction modulo the number of cells. -/
theorem cell_eq_mod (geometry : RingGeometry entries mask) (position : UInt32) :
    cell mask position = position.toNat % entries.toNat := by
  obtain ⟨order, _, size, low⟩ := geometry.exists_order
  rw [cell, UInt32.toNat_and, low, size, Nat.and_two_pow_sub_one_eq_mod]

/-- The number of entries divides the range of the counters. -/
theorem entries_dvd (geometry : RingGeometry entries mask) : entries.toNat ∣ 2 ^ 32 := by
  obtain ⟨order, below, size, _⟩ := geometry.exists_order
  rw [size]
  exact Nat.pow_dvd_pow 2 (by omega)

/-- Where an entry lies, also behind the wrap. -/
theorem cell_add (geometry : RingGeometry entries mask) (head : UInt32) (index : Nat) :
    cell mask (head + UInt32.ofNat index) = (head.toNat + index) % entries.toNat := by
  rw [geometry.cell_eq_mod, UInt32.toNat_add, UInt32.toNat_ofNat',
    Nat.mod_mod_of_dvd _ geometry.entries_dvd, Nat.add_mod,
    Nat.mod_mod_of_dvd _ geometry.entries_dvd, ← Nat.add_mod]

/-- Positions less than a ring apart have different cells. -/
theorem cell_ne (geometry : RingGeometry entries mask) (head : UInt32) {first second : Nat}
    (firstBelow : first < entries.toNat) (secondBelow : second < entries.toNat)
    (different : first ≠ second) :
    cell mask (head + UInt32.ofNat first) ≠ cell mask (head + UInt32.ofNat second) := by
  rw [geometry.cell_add, geometry.cell_add]
  intro same
  have congruent : first ≡ second [MOD entries.toNat] := Nat.ModEq.add_left_cancel' head.toNat same
  exact different (Nat.ModEq.eq_of_lt_of_lt congruent firstBelow secondBelow)

/-- The cell the next entry goes to. -/
theorem tail_cell (mask head tail : UInt32) :
    cell mask tail = cell mask (head + UInt32.ofNat (occupied head tail)) := by
  have position : head + UInt32.ofNat (occupied head tail) = tail := by
    rw [occupied, UInt32.ofNat_toNat, UInt32.add_comm, UInt32.sub_add_cancel]
  rw [position]

/-- Filling the cell at the tail appends to the window. -/
theorem window_push {α : Type} (geometry : RingGeometry entries mask) (cells : Nat → α)
    {head tail : UInt32} (entry : α) (room : occupied head tail < entries.toNat) :
    window (Function.update cells (cell mask tail) entry) mask head (tail + 1) =
      window cells mask head tail ++ [entry] := by
  unfold window
  rw [occupied_push room, List.range_succ, List.map_append, List.map_cons, List.map_nil]
  congr 1
  · apply List.map_congr_left
    intro index member
    have below := List.mem_range.mp member
    rw [tail_cell mask head tail]
    exact Function.update_of_ne
      (geometry.cell_ne head (by omega) room (Nat.ne_of_lt below)) entry cells
  · rw [← tail_cell, Function.update_self]

end RingGeometry

/-- Moving the head drops the oldest entries. -/
theorem window_pop {α : Type} (cells : Nat → α) (mask : UInt32) {head tail : UInt32} {count : Nat}
    (within : count ≤ occupied head tail) :
    window cells mask (head + UInt32.ofNat count) tail =
      (window cells mask head tail).drop count := by
  unfold window
  rw [occupied_pop within, ← List.map_drop]
  obtain ⟨rest, total⟩ := Nat.exists_eq_add_of_le within
  rw [total, Nat.add_sub_cancel_left, List.range_add, List.drop_left' List.length_range,
    List.map_map]
  apply List.map_congr_left
  intro index _
  have position : head + UInt32.ofNat count + UInt32.ofNat index =
      head + UInt32.ofNat (count + index) := by
    rw [UInt32.add_assoc, ← UInt32.ofNat_add]
  simp only [Function.comp_apply, position]

/-- A ring whose counters differ is not empty. -/
theorem occupied_pos {head tail : UInt32} (apart : head ≠ tail) : 1 ≤ occupied head tail := by
  unfold occupied
  by_contra none
  have zero : tail - head = 0 := UInt32.toNat_inj.mp (by rw [UInt32.toNat_zero]; omega)
  have same : tail - head + head = 0 + head := by rw [zero]
  rw [UInt32.sub_add_cancel, UInt32.zero_add] at same
  exact apart same.symm

/-- The oldest entry is in the cell of the head. -/
theorem window_eq_cons {α : Type} (cells : Nat → α) (mask : UInt32) {head tail : UInt32}
    (apart : head ≠ tail) :
    window cells mask head tail =
      cells (cell mask head) :: window cells mask (head + 1) tail := by
  have positive := occupied_pos apart
  have popped : window cells mask (head + UInt32.ofNat 1) tail =
      (window cells mask head tail).drop 1 := window_pop cells mask positive
  change _ = _ :: window cells mask (head + UInt32.ofNat 1) tail
  rw [popped]
  obtain ⟨more, count⟩ := Nat.exists_eq_add_of_le positive
  have start : head + UInt32.ofNat 0 = head := UInt32.add_zero head
  unfold window
  rw [count, Nat.add_comm, List.range_succ_eq_map, List.map_cons, List.drop_succ_cons,
    List.drop_zero, start]

end Foundation
