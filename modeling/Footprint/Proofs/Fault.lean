import Footprint.Fault
import Mathlib.Data.List.Basic

/-! # When computations that can stop give a result -/
namespace Footprint

theorem bind_eq_ok_iff {ε α β : Type} {x : Except ε α} {f : α → Except ε β} {b : β} :
    x >>= f = .ok b ↔ ∃ a, x = .ok a ∧ f a = .ok b := by
  cases x <;> simp [bind, Except.bind]

theorem mapError_eq_ok_iff {ε ε' α : Type} {x : Except ε α} {f : ε → ε'} {a : α} :
    x.mapError f = .ok a ↔ x = .ok a := by
  cases x <;> simp [Except.mapError]

theorem addWord_eq_ok_iff {ε : Type} {a b s : Nat} :
    addWord a b = (.ok s : Except (Stop ε) Nat) ↔ a + b < wordLimit ∧ s = a + b := by
  rw [addWord]
  split
  · next h => simp [h, eq_comm]
  · next h => simp [h]

theorem mulWord_eq_ok_iff {ε : Type} {a b s : Nat} :
    mulWord a b = (.ok s : Except (Stop ε) Nat) ↔ a * b < wordLimit ∧ s = a * b := by
  rw [mulWord]
  split
  · next h => simp [h, eq_comm]
  · next h => simp [h]

end Footprint
