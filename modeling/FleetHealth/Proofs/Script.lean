import FleetHealth.Script

/-!
# Proofs — Script

The answers of a script one after another: the first so many, the script that is left after them, and what all of them have in common.
-/

namespace FleetHealth.Script

variable {α : Type} {p : α → Prop} {s : Script α}

/-- The first answers of a script. -/
def first : Script α → Nat → List α
  | _, 0     => []
  | s, k + 1 => s.next.1 :: first s.next.2 k

/-- The script after its first answers. -/
def after : Script α → Nat → Script α
  | s, 0     => s
  | s, k + 1 => after s.next.2 k

theorem first_succ (s : Script α) (k : Nat) : s.first (k + 1) = s.first k ++ [(s.after k).next.1] := by
  induction k generalizing s with
  | zero => rfl
  | succ k ih => exact congrArg (s.next.1 :: ·) (ih s.next.2)

theorem after_succ (s : Script α) (k : Nat) : s.after (k + 1) = (s.after k).next.2 := by
  induction k generalizing s with
  | zero => rfl
  | succ k ih => exact ih s.next.2

theorem length_first (s : Script α) (k : Nat) : (s.first k).length = k := by
  induction k generalizing s with
  | zero => rfl
  | succ k ih => exact congrArg (· + 1) (ih s.next.2)

/-- Whether all answers of a script have a property. -/
def All (p : α → Prop) (s : Script α) : Prop := (∀ a ∈ s.queue, p a) ∧ p s.rest

theorem All.next (h : s.All p) : p s.next.1 ∧ s.next.2.All p := by
  obtain ⟨queue, rest⟩ := s
  cases queue with
  | nil => exact ⟨h.2, h⟩
  | cons a as =>
      obtain ⟨ha, has⟩ := List.forall_mem_cons.mp h.1
      exact ⟨ha, has, h.2⟩

theorem All.after (h : s.All p) (k : Nat) : (s.after k).All p := by
  induction k generalizing s with
  | zero => exact h
  | succ k ih => exact ih h.next.2

end FleetHealth.Script
