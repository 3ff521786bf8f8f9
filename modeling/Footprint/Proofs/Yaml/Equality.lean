import Footprint.Yaml.Node

/-! # Equal documents can be told apart from different ones -/
namespace Footprint.Yaml

namespace Node

mutual

def same : Node → Node → Bool
  | .scalar tag style text, .scalar tag' style' text' =>
    tag = tag' && style = style' && text = text'
  | .sequence items, .sequence items' => sameItems items items'
  | .mapping entries, .mapping entries' => sameEntries entries entries'
  | .alias n, .alias n' => n = n'
  | _, _ => false

def sameItems : List Node → List Node → Bool
  | [], [] => true
  | item :: rest, item' :: rest' => item.same item' && sameItems rest rest'
  | _, _ => false

def sameEntries : List (Node × Node) → List (Node × Node) → Bool
  | [], [] => true
  | (key, value) :: rest, (key', value') :: rest' =>
    key.same key' && value.same value' && sameEntries rest rest'
  | _, _ => false

end

mutual

theorem same_iff (a b : Node) : a.same b = true ↔ a = b := by
  cases a <;> cases b <;> simp [same, sameItems_iff, sameEntries_iff, and_assoc]

theorem sameItems_iff (xs ys : List Node) : sameItems xs ys = true ↔ xs = ys := by
  cases xs with
  | nil => cases ys <;> simp [sameItems]
  | cons x xs => cases ys <;> simp [sameItems, same_iff, sameItems_iff]

theorem sameEntries_iff (xs ys : List (Node × Node)) : sameEntries xs ys = true ↔ xs = ys := by
  cases xs with
  | nil => cases ys <;> simp [sameEntries]
  | cons x xs =>
    obtain ⟨key, value⟩ := x
    cases ys <;> simp [sameEntries, same_iff, sameEntries_iff, Prod.ext_iff]

end

instance : DecidableEq Node := fun a b => decidable_of_iff (a.same b = true) (same_iff a b)

end Node

deriving instance DecidableEq for Document

end Footprint.Yaml
