import Mathlib.Data.List.Nodup
import Mathlib.Data.Nat.Find

/-! # Scans that move their origin

A loop over the places of a ring starts at a cursor, computes each place from the cursor and
its own counter, and moves the cursor past every place it takes. The counter is not set back,
so behind a place taken in turn `t` the scan leaves out `t + 1` places. It takes every wanted
place exactly when these can be reached in longer and longer strides.
-/

namespace Foundation

/-- How far a place lies ahead of a cursor, counting round the ring. -/
def ahead (size cursor place : Nat) : Nat :=
  (place + (size - cursor % size)) % size

theorem ahead_lt {size place : Nat} (cursor : Nat) (below : place < size) :
    ahead size cursor place < size :=
  Nat.mod_lt _ (Nat.zero_lt_of_lt below)

/-- Counting on from the cursor by the distance arrives at the place. -/
theorem add_ahead {size place : Nat} (cursor : Nat) (below : place < size) :
    (cursor + ahead size cursor place) % size = place := by
  have start : cursor % size < size := Nat.mod_lt cursor (Nat.zero_lt_of_lt below)
  have round : cursor % size + (place + (size - cursor % size)) = place + size := by omega
  rw [ahead, Nat.add_mod_mod, ← Nat.mod_add_mod, round, Nat.add_mod_right,
    Nat.mod_eq_of_lt below]

/-- The place at a distance lies ahead by it. -/
theorem ahead_add {size cursor turn : Nat} (inside : turn < size) :
    ahead size cursor ((cursor + turn) % size) = turn := by
  have start : cursor % size < size := Nat.mod_lt cursor (Nat.zero_lt_of_lt inside)
  have round : cursor % size + turn + (size - cursor % size) = turn + size := by omega
  rw [ahead, Nat.mod_add_mod, Nat.add_assoc, ← Nat.mod_add_mod, ← Nat.add_assoc, round,
    Nat.add_mod_right,
    Nat.mod_eq_of_lt inside]

/-- Counting round a table from any position, every entry comes once. -/
theorem exists_turn {count cursor index : Nat} (below : index < count) :
    ∃ later < count, (cursor + later) % count = index :=
  ⟨ahead count cursor index, ahead_lt cursor below, add_ahead cursor below⟩

/-- It comes for the first time at some turn. -/
theorem exists_first_turn {size place : Nat} (cursor : Nat) (below : place < size) :
    ∃ turn < size, (cursor + turn) % size = place ∧
      ∀ earlier < turn, (cursor + earlier) % size ≠ place := by
  have comes : ∃ turn, turn < size ∧ (cursor + turn) % size = place := exists_turn below
  obtain ⟨inside, arrives⟩ := Nat.find_spec comes
  refine ⟨Nat.find comes, inside, arrives, ?_⟩
  intro earlier before again
  exact Nat.find_min comes before ⟨by omega, again⟩

/-- The places of a list are reached from a cursor in longer and longer strides: each lies at
least `reach` ahead of where the one before left the cursor, is the nearest such place of those
still to come, and the next has to lie farther ahead of it than it lay itself. -/
def Strides (size : Nat) : Nat → Nat → List Nat → Prop
  | _, _, [] => True
  | cursor, reach, place :: rest =>
      reach ≤ ahead size cursor place ∧
        (∀ other ∈ rest, ahead size cursor other < reach ∨
          ahead size cursor place ≤ ahead size cursor other) ∧
        Strides size (place + 1) (ahead size cursor place + 1) rest

/-- A distance at which no place lies makes no difference. -/
theorem strides_succ_iff {size cursor reach : Nat} {order : List Nat}
    (apart : ∀ place ∈ order, ahead size cursor place ≠ reach) :
    Strides size cursor (reach + 1) order ↔ Strides size cursor reach order := by
  cases order with
  | nil => exact Iff.rfl
  | cons place rest =>
      have first := apart place List.mem_cons_self
      have others := fun other member => apart other (List.mem_cons_of_mem place member)
      constructor
      · rintro ⟨far, nearest, on⟩
        refine ⟨by omega, ?_, on⟩
        intro other member
        have differs := others other member
        have choice := nearest other member
        omega
      · rintro ⟨far, nearest, on⟩
        refine ⟨by omega, ?_, on⟩
        intro other member
        have choice := nearest other member
        omega

/-- A list of the wanted places, each once, in strides from the cursor. -/
structure Spaces (size cursor : Nat) (wanted : Nat → Bool) (order : List Nat) : Prop where
  once : order.Nodup
  listed : ∀ place, place ∈ order ↔ place < size ∧ wanted place = true
  strides : Strides size cursor 0 order

/-- The cursor that a list of places leaves: behind the last of them. -/
def cursorBehind (size cursor : Nat) (order : List Nat) : Nat :=
  match order.getLast? with
  | some last => (last + 1) % size
  | none => cursor

@[simp]
theorem cursorBehind_concat (size cursor place : Nat) (order : List Nat) :
    cursorBehind size cursor (order ++ [place]) = (place + 1) % size := by
  rw [cursorBehind, List.getLast?_concat]

/-- Where a scan stands, not yet reduced to a place, and what it has taken, in order. -/
structure Scan where
  position : Nat
  taken : List Nat
  deriving DecidableEq, Repr

namespace Scan

/-- One turn: the place is taken when it is wanted and was not taken before. -/
def advance (size : Nat) (wanted : Nat → Bool) (turn : Nat) (scan : Scan) : Scan :=
  if wanted (scan.position % size) && !scan.taken.contains (scan.position % size) then
    ⟨scan.position + turn + 2, scan.taken ++ [scan.position % size]⟩
  else ⟨scan.position + 1, scan.taken⟩

/-- The cursor that a scan leaves. -/
def cursorAfter (size cursor : Nat) (scan : Scan) : Nat :=
  cursorBehind size cursor scan.taken

/-- The scan after a number of turns. -/
def after (size cursor : Nat) (wanted : Nat → Bool) : Nat → Scan
  | 0 => ⟨cursor, []⟩
  | turn + 1 => (after size cursor wanted turn).advance size wanted turn

section Turns

variable {size cursor turn place : Nat} {wanted : Nat → Bool} {scan : Scan}

theorem advance_of_hit (hit : wanted (scan.position % size) = true)
    (fresh : scan.position % size ∉ scan.taken) :
    scan.advance size wanted turn =
      ⟨scan.position + turn + 2, scan.taken ++ [scan.position % size]⟩ := by
  have missing : scan.taken.contains (scan.position % size) = false := by
    simpa using fresh
  simp only [advance, hit, missing, Bool.not_false, Bool.and_self, ↓reduceIte]

theorem advance_of_miss
    (miss : wanted (scan.position % size) = false ∨ scan.position % size ∈ scan.taken) :
    scan.advance size wanted turn = ⟨scan.position + 1, scan.taken⟩ := by
  rcases miss with unwanted | member
  · simp only [advance, unwanted, Bool.false_and, Bool.false_eq_true, ↓reduceIte]
  · have present : scan.taken.contains (scan.position % size) = true := by
      simpa using member
    simp only [advance, present, Bool.not_true, Bool.and_false, Bool.false_eq_true, ↓reduceIte]

/-- A turn takes the place it is at or nothing. -/
theorem advance_cases (size : Nat) (wanted : Nat → Bool) (turn : Nat) (scan : Scan) :
    (wanted (scan.position % size) = true ∧ scan.position % size ∉ scan.taken ∧
      scan.advance size wanted turn =
        ⟨scan.position + turn + 2, scan.taken ++ [scan.position % size]⟩) ∨
    ((wanted (scan.position % size) = false ∨ scan.position % size ∈ scan.taken) ∧
      scan.advance size wanted turn = ⟨scan.position + 1, scan.taken⟩) := by
  by_cases member : scan.position % size ∈ scan.taken
  · exact .inr ⟨.inr member, advance_of_miss (.inr member)⟩
  · cases hit : wanted (scan.position % size) with
    | false => exact .inr ⟨.inl rfl, advance_of_miss (.inl hit)⟩
    | true => exact .inl ⟨rfl, member, advance_of_hit hit member⟩

/-- No place is taken twice, and only wanted ones. -/
theorem after_taken (size cursor : Nat) (wanted : Nat → Bool) (turn : Nat) :
    (after size cursor wanted turn).taken.Nodup ∧
      ∀ place ∈ (after size cursor wanted turn).taken, wanted place = true := by
  induction turn with
  | zero => exact ⟨List.nodup_nil, nofun⟩
  | succ turn ih =>
      rw [after]
      rcases advance_cases size wanted turn (after size cursor wanted turn) with
        ⟨hit, fresh, next⟩ | ⟨-, next⟩
      · rw [next]
        refine ⟨?_, ?_⟩
        · rw [List.nodup_append]
          refine ⟨ih.1, List.pairwise_singleton _ _, ?_⟩
          intro left before right now same
          rw [List.mem_singleton] at now
          rw [← now, ← same] at fresh
          exact fresh before
        · intro place member
          rcases List.mem_append.mp member with before | now
          · exact ih.2 place before
          · rw [List.mem_singleton.mp now]
            exact hit
      · rw [next]
        exact ih

/-- What was taken stays taken. -/
theorem after_mono {later : Nat} (before : turn ≤ later)
    (member : place ∈ (after size cursor wanted turn).taken) :
    place ∈ (after size cursor wanted later).taken := by
  induction before with
  | refl => exact member
  | @step later _ ih =>
      rw [after]
      rcases advance_cases size wanted later (after size cursor wanted later) with
        ⟨-, -, next⟩ | ⟨-, next⟩
      · rw [next]
        exact List.mem_append_left _ ih
      · rw [next]
        exact ih

/-- Up to the first wanted place a scan goes place by place. -/
theorem after_of_unwanted (none : ∀ earlier < turn, wanted ((cursor + earlier) % size) = false) :
    after size cursor wanted turn = ⟨cursor + turn, []⟩ := by
  induction turn with
  | zero => rfl
  | succ turn ih =>
      rw [after, ih fun earlier before => none earlier (by omega)]
      exact advance_of_miss (.inl (none turn (by omega)))

end Turns

section Whole

variable {size cursor : Nat} {wanted : Nat → Bool}

/-- Only places of the ring are taken. -/
theorem after_below {turn : Nat} (inside : turn ≤ size) :
    ∀ place ∈ (after size cursor wanted turn).taken, place < size := by
  induction turn with
  | zero =>
      intro place member
      cases member
  | succ turn ih =>
      rw [after]
      rcases advance_cases size wanted turn (after size cursor wanted turn) with
        ⟨-, -, next⟩ | ⟨-, next⟩
      · rw [next]
        intro place member
        rcases List.mem_append.mp member with before | now
        · exact ih (by omega) place before
        · rw [List.mem_singleton.mp now]
          exact Nat.mod_lt _ (by omega)
      · rw [next]
        exact ih (by omega)

/-- What a scan takes from a turn on lies in strides from its cursor at that turn. -/
theorem after_strides (remaining : Nat) : ∀ turn origin, turn + remaining = size →
    (origin + turn) % size = (after size cursor wanted turn).position % size →
    ∃ rest, (after size cursor wanted size).taken =
      (after size cursor wanted turn).taken ++ rest ∧ Strides size origin turn rest := by
  induction remaining with
  | zero =>
      intro turn origin whole _
      rw [Nat.add_zero] at whole
      rw [whole]
      exact ⟨[], (List.append_nil _).symm, trivial⟩
  | succ remaining ih =>
      intro turn origin whole stands
      have inside : turn < size := by omega
      have place := @ahead_add size origin turn inside
      rw [stands] at place
      have next := ih (turn + 1)
      rw [after] at next
      rcases advance_cases size wanted turn (after size cursor wanted turn) with
        ⟨-, -, moved⟩ | ⟨miss, moved⟩
      · rw [moved] at next
        obtain ⟨rest, listed, strides⟩ :=
          next ((after size cursor wanted turn).position % size + 1) (by omega) (by
            dsimp only
            rw [Nat.add_assoc, Nat.mod_add_mod]
            congr 1
            omega)
        refine ⟨(after size cursor wanted turn).position % size :: rest, ?_, ?_⟩
        · rw [listed, List.append_assoc]
          rfl
        · rw [Strides, place]
          exact ⟨le_refl turn, fun _ _ => Nat.lt_or_ge _ _, strides⟩
      · rw [moved] at next
        obtain ⟨rest, listed, strides⟩ := next origin (by omega) (by
          rw [← Nat.add_assoc, ← Nat.mod_add_mod, stands, Nat.mod_add_mod])
        refine ⟨rest, listed, (strides_succ_iff ?_).mp strides⟩
        -- a place at this distance was not wanted or taken before, so it is not among the rest
        intro other member distance
        have final : other ∈ (after size cursor wanted size).taken := by
          rw [listed]
          exact List.mem_append_right _ member
        have same : other = (after size cursor wanted turn).position % size := by
          rw [← stands, ← distance]
          exact (add_ahead origin (after_below (le_refl size) other final)).symm
        have facts := after_taken size cursor wanted size
        rcases miss with unwanted | before
        · rw [← same, facts.2 other final] at unwanted
          cases unwanted
        · rw [listed, List.nodup_append] at facts
          exact facts.1.2.2 other (same ▸ before) other member rfl

/-- A scan takes the places that lie in strides from its cursor, in that order, when these are
all the wanted ones. -/
theorem after_of_strides (remaining : Nat) : ∀ turn origin rest, turn + remaining = size →
    (origin + turn) % size = (after size cursor wanted turn).position % size →
    rest.Nodup →
    (∀ place, place ∈ rest ↔ place < size ∧ wanted place = true ∧
      place ∉ (after size cursor wanted turn).taken) →
    Strides size origin turn rest →
    (after size cursor wanted size).taken = (after size cursor wanted turn).taken ++ rest := by
  induction remaining with
  | zero =>
      intro turn origin rest whole _ _ lists strides
      rw [Nat.add_zero] at whole
      subst whole
      cases rest with
      | nil => exact (List.append_nil _).symm
      | cons place rest =>
          have below := ((lists place).mp List.mem_cons_self).1
          exact absurd (ahead_lt origin below) (Nat.not_lt.mpr strides.1)
  | succ remaining ih =>
      intro turn origin rest whole stands nodup lists strides
      have inside : turn < size := by omega
      have place := @ahead_add size origin turn inside
      rw [stands] at place
      have next := ih (turn + 1)
      rw [after] at next
      rcases advance_cases size wanted turn (after size cursor wanted turn) with
        ⟨hit, fresh, moved⟩ | ⟨miss, moved⟩
      · rw [moved] at next
        have member := (lists _).mpr ⟨Nat.mod_lt _ (by omega), hit, fresh⟩
        cases rest with
        | nil => cases member
        | cons first rest =>
            rw [List.nodup_cons] at nodup
            have leads : first = (after size cursor wanted turn).position % size := by
              rcases List.mem_cons.mp member with same | later
              · exact same.symm
              · have nearest := strides.2.1 _ later
                have far := strides.1
                have below := ((lists first).mp List.mem_cons_self).1
                rw [← stands, ← add_ahead origin below]
                congr 2
                omega
            subst leads
            have strides := strides.2.2
            rw [place] at strides
            rw [next _ rest (by omega) _ nodup.2 _ strides, List.append_assoc]
            · rfl
            · dsimp only
              rw [Nat.add_assoc, Nat.mod_add_mod]
              congr 1
              omega
            · intro other
              rw [List.mem_append, List.mem_singleton, not_or]
              constructor
              · intro later
                obtain ⟨below, wants, untaken⟩ := (lists other).mp (List.mem_cons_of_mem _ later)
                exact ⟨below, wants, untaken, fun same => nodup.1 (same ▸ later)⟩
              · rintro ⟨below, wants, untaken, differs⟩
                exact (List.mem_cons.mp ((lists other).mpr ⟨below, wants, untaken⟩)).resolve_left
                  differs
      · rw [moved] at next
        refine next origin rest (by omega) ?_ nodup lists ((strides_succ_iff ?_).mpr strides)
        · rw [← Nat.add_assoc, ← Nat.mod_add_mod, stands, Nat.mod_add_mod]
        · intro other member distance
          obtain ⟨below, wants, untaken⟩ := (lists other).mp member
          have same : other = (after size cursor wanted turn).position % size := by
            rw [← stands, ← distance]
            exact (add_ahead origin below).symm
          rcases miss with unwanted | before
          · rw [← same, wants] at unwanted
            cases unwanted
          · exact untaken (same ▸ before)

/-- There is only one such list, the one the scan takes. -/
theorem taken_of_spaces {order : List Nat} (spaces : Spaces size cursor wanted order) :
    (after size cursor wanted size).taken = order := by
  refine after_of_strides size 0 cursor order (by omega) rfl spaces.once ?_ spaces.strides
  intro place
  rw [spaces.listed]
  exact ⟨fun both => ⟨both.1, both.2, List.not_mem_nil⟩, fun all => ⟨all.1, all.2.1⟩⟩

/-- A scan takes every wanted place exactly when these lie in strides from the cursor. -/
theorem takes_all_iff :
    (∀ place < size, wanted place = true → place ∈ (after size cursor wanted size).taken) ↔
      Spaces size cursor wanted (after size cursor wanted size).taken := by
  have facts := after_taken size cursor wanted size
  constructor
  · intro all
    obtain ⟨rest, listed, strides⟩ := @after_strides size cursor wanted size 0 cursor (by omega) rfl
    refine ⟨facts.1, ?_, ?_⟩
    · intro place
      exact ⟨fun member => ⟨after_below (le_refl size) place member, facts.2 place member⟩,
        fun both => all place both.1 both.2⟩
    · rw [listed]
      exact strides
  · intro spaces place below wants
    exact (spaces.listed place).mpr ⟨below, wants⟩

end Whole

/-- A place is taken when it is the only wanted one. -/
theorem mem_after_of_single {size cursor place : Nat} {wanted : Nat → Bool}
    (below : place < size) (hit : wanted place = true)
    (single : ∀ other < size, wanted other = true → other = place) :
    place ∈ (after size cursor wanted size).taken := by
  obtain ⟨turn, inside, arrives, apart⟩ := exists_first_turn cursor below
  have walked : after size cursor wanted turn = ⟨cursor + turn, []⟩ := by
    apply after_of_unwanted
    intro earlier before
    rw [← Bool.not_eq_true]
    intro other
    exact apart earlier before (single _ (Nat.mod_lt _ (by omega)) other)
  apply after_mono inside
  rw [after, walked, advance_of_hit]
  · rw [arrives]
    exact List.mem_append_right _ (List.mem_singleton.mpr rfl)
  · rw [arrives]
    exact hit
  · exact List.not_mem_nil

end Scan

end Foundation
