import Mathlib.Data.Multiset.AddSub
import Iouringd.Foundation.Transition

/-! # Resources taken and given back

A log of resources that a program takes and gives back. Replaying it fails at the first
resource that is given back without being held, so a log that replays to nothing neither leaks
a resource nor releases one twice.
-/

namespace Foundation

variable {ρ : Type}

/-- An entry of the log. -/
inductive Lease (ρ : Type) where
  | take (resource : ρ)
  | give (resource : ρ)
  deriving DecidableEq, Repr

/-- What is held after an entry. -/
def Lease.replay [DecidableEq ρ] (held : Multiset ρ) : Lease ρ → Except ρ (Multiset ρ)
  | .take resource => .ok (resource ::ₘ held)
  | .give resource => if resource ∈ held then .ok (held.erase resource) else .error resource

/-- The log leads from what is held before it to what is held after it. -/
def Leaves [DecidableEq ρ] (log : List (Lease ρ)) (before after : Multiset ρ) : Prop :=
  run Lease.replay before log = .ok after

instance [DecidableEq ρ] (log : List (Lease ρ)) (before after : Multiset ρ) :
    Decidable (Leaves log before after) :=
  inferInstanceAs (Decidable (_ = _))

section Rules

variable [DecidableEq ρ] {log more : List (Lease ρ)} {before middle after : Multiset ρ}
  {resource : ρ}

theorem Leaves.nil (held : Multiset ρ) : Leaves [] held held := rfl

theorem Leaves.append (first : Leaves log before middle) (second : Leaves more middle after) :
    Leaves (log ++ more) before after := by
  unfold Leaves at first second ⊢
  rw [run_append, first]
  exact second

theorem Leaves.take (resource : ρ) (held : Multiset ρ) :
    Leaves [.take resource] held (resource ::ₘ held) := rfl

theorem Leaves.give (resource : ρ) (held : Multiset ρ) :
    Leaves [.give resource] (resource ::ₘ held) held := by
  unfold Leaves
  rw [run_cons, Lease.replay, if_pos (Multiset.mem_cons_self resource held),
    Multiset.erase_cons_head]
  rfl

/-- One more resource is taken. -/
theorem Leaves.take_cons {more held : List ρ} (holds : more = resource :: held) :
    Leaves [.take resource] ↑held ↑more := by
  rw [holds, ← Multiset.cons_coe]
  exact .take resource _

/-- Taking comes first. -/
theorem Leaves.after_take (rest : Leaves log (resource ::ₘ before) after) :
    Leaves (.take resource :: log) before after :=
  (Leaves.take resource before).append rest

/-- Giving back comes first. -/
theorem Leaves.after_give (rest : Leaves log before after) :
    Leaves (.give resource :: log) (resource ::ₘ before) after :=
  (Leaves.give resource before).append rest

/-- Everything held can be given back, one after the other. -/
theorem Leaves.give_all (resources : List ρ) (held : Multiset ρ) :
    Leaves (resources.map .give) (↑resources + held) held := by
  induction resources with
  | nil =>
      rw [Multiset.coe_nil, Multiset.zero_add]
      exact .nil held
  | cons resource rest ih =>
      rw [← Multiset.cons_coe, Multiset.cons_add]
      exact Leaves.after_give ih

end Rules

end Foundation
