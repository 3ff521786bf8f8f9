/-! # Association lists in which each key stands once, in the order of first insertion -/
namespace Footprint

abbrev Assoc (α β : Type) := List (α × β)

namespace Assoc

variable {α β : Type} [DecidableEq α]

def keys (m : Assoc α β) : List α := m.map (·.1)

def find? (k : α) : Assoc α β → Option β
  | [] => none
  | (j, v) :: m => if j = k then some v else find? k m

def contains (k : α) (m : Assoc α β) : Bool := (m.find? k).isSome

/-- Replaces the value of `k`, or adds it at the end. -/
def insert (k : α) (v : β) : Assoc α β → Assoc α β
  | [] => [(k, v)]
  | (j, w) :: m => if j = k then (k, v) :: m else (j, w) :: insert k v m

/-- As many entries, and equal values under every key. -/
def same (eq : β → β → Bool) (m n : Assoc α β) : Bool :=
  m.length = n.length && m.all fun (k, v) => match n.find? k with
    | some w => eq v w
    | none => false

theorem find?_insert_self (k : α) (v : β) (m : Assoc α β) : (m.insert k v).find? k = some v := by
  induction m with
  | nil => simp [insert, find?]
  | cons e m ih =>
    obtain ⟨j, w⟩ := e
    by_cases h : j = k
    · simp [insert, find?, h]
    · simp [insert, find?, h, ih]

theorem find?_insert_ne {k l : α} (h : k ≠ l) (v : β) (m : Assoc α β) :
    (m.insert k v).find? l = m.find? l := by
  induction m with
  | nil => simp [insert, find?, h]
  | cons e m ih =>
    obtain ⟨j, w⟩ := e
    by_cases hj : j = k
    · subst hj
      simp [insert, find?, h]
    · simp [insert, find?, hj, ih]

end Assoc
end Footprint
