import Footprint.Config.Validation
import Footprint.Proofs.Fault

/-!
# What an accepted configuration has

The checks come one after the other, and all of them must pass.
-/
namespace Footprint.Config

theorem require_eq_ok_iff {holds : Bool} {reason : Invalid} {u : Unit} :
    require holds reason = .ok u ↔ holds = true := by
  cases holds <;> simp [require]

/-- The panels and those of them in use can be counted, and there are enough. -/
def Fits (c : Config) : Prop :=
  let panels := c.figure.rows.toNat * c.figure.cols.toNat
  let used := c.figure.reservedPanels.toNat + c.workloads.length
  panels < wordLimit ∧ used < wordLimit ∧ used ≤ panels

theorem checkGrid_eq_ok_iff {c : Config} {u : Unit} : c.checkGrid = .ok u ↔ c.Fits := by
  simp only [checkGrid, Fits, bind_eq_ok_iff, mulWord_eq_ok_iff, addWord_eq_ok_iff,
    require_eq_ok_iff, decide_eq_true_eq]
  constructor
  · rintro ⟨_, ⟨hpanels, rfl⟩, _, ⟨hused, rfl⟩, hle⟩
    exact ⟨hpanels, hused, hle⟩
  · rintro ⟨hpanels, hused, hle⟩
    exact ⟨_, ⟨hpanels, rfl⟩, _, ⟨hused, rfl⟩, hle⟩

theorem validate_eq_ok_iff {c : Config} {u : Unit} :
    c.validate = .ok u ↔ c.tasks ≠ [] ∧ c.indexes ≠ [] ∧ c.workloads ≠ [] ∧ c.Fits ∧
      0.0 < c.figure.barWidth ∧ c.figure.colors ≠ [] := by
  simp only [validate, bind_eq_ok_iff, require_eq_ok_iff, checkGrid_eq_ok_iff, exists_const,
    Bool.not_eq_true', List.isEmpty_eq_false_iff, decide_eq_true_eq]

end Footprint.Config
