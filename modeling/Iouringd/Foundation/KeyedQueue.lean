import Mathlib.Data.List.Basic

/-! # Queues shared by several keys

One list holds the entries of many queues; an entry is taken by walking the list to the
first entry of a key and unlinking it. The queue of a key is the list filtered by it.
-/

namespace Foundation

variable {α : Type*}

/-- Unlink the first entry that passes the test. -/
def takeFirst (test : α → Bool) : List α → Option (α × List α)
  | [] => none
  | item :: rest =>
      if test item then some (item, rest)
      else (takeFirst test rest).map fun found => (found.1, item :: found.2)

section TakeFirst

variable {test other : α → Bool} {items rest : List α} {item : α}

/-- Nothing is found when no entry passes. -/
theorem takeFirst_eq_none : takeFirst test items = none ↔ items.filter test = [] := by
  induction items with
  | nil => exact ⟨fun _ => rfl, fun _ => rfl⟩
  | cons first tail ih =>
      unfold takeFirst
      by_cases passes : test first = true
      · rw [if_pos passes, List.filter_cons_of_pos passes]
        exact ⟨nofun, nofun⟩
      · rw [if_neg passes, List.filter_cons_of_neg passes, Option.map_eq_none_iff]
        exact ih

/-- The entry taken is the head of its queue. -/
theorem takeFirst_filter (found : takeFirst test items = some (item, rest)) :
    items.filter test = item :: rest.filter test := by
  induction items generalizing rest with
  | nil => cases found
  | cons first tail ih =>
      unfold takeFirst at found
      by_cases passes : test first = true
      · rw [if_pos passes] at found
        cases found
        exact List.filter_cons_of_pos passes
      · rw [if_neg passes, Option.map_eq_some_iff] at found
        obtain ⟨⟨taken, left⟩, later, same⟩ := found
        cases same
        rw [List.filter_cons_of_neg passes, List.filter_cons_of_neg passes]
        exact ih later

/-- The entry passes the test, and with those that are left it makes up the list. -/
theorem takeFirst_some (found : takeFirst test items = some (item, rest)) :
    test item = true ∧ item ∈ items ∧ rest.Sublist items := by
  induction items generalizing rest with
  | nil => cases found
  | cons first tail ih =>
      unfold takeFirst at found
      by_cases passes : test first = true
      · rw [if_pos passes] at found
        cases found
        exact ⟨passes, List.mem_cons_self, List.sublist_cons_self _ _⟩
      · rw [if_neg passes, Option.map_eq_some_iff] at found
        obtain ⟨⟨taken, left⟩, later, same⟩ := found
        cases same
        obtain ⟨tested, member, shorter⟩ := ih later
        exact ⟨tested, List.mem_cons_of_mem _ member, shorter.cons_cons first⟩

/-- The queues the entry is not in stay as they are. -/
theorem takeFirst_filter_other (found : takeFirst test items = some (item, rest))
    (apart : ∀ item, test item = true → other item = false) :
    rest.filter other = items.filter other := by
  induction items generalizing rest with
  | nil => cases found
  | cons first tail ih =>
      unfold takeFirst at found
      by_cases passes : test first = true
      · rw [if_pos passes] at found
        cases found
        rw [List.filter_cons_of_neg]
        rw [apart _ passes]
        exact Bool.false_ne_true
      · rw [if_neg passes, Option.map_eq_some_iff] at found
        obtain ⟨⟨taken, left⟩, later, same⟩ := found
        cases same
        rw [List.filter_cons, List.filter_cons, ih later]

end TakeFirst

end Foundation
