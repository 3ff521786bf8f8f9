import Footprint.Proofs.Fault
import Footprint.Proofs.Report.Outcome
import Footprint.Report.Run

/-!
# Configurations read from a file

Reading a configuration looks at one file and changes nothing. It ends with a configuration when the
file can be read, is text, describes a configuration and that is a valid one.
-/
namespace Footprint.Report

open Run

/-- The configuration that a path leads to, or why there is none. -/
def configAt (fs : FileSystem) (path : String) : Except Failure Config :=
  (outcome (readConfig path) ⟨fs, []⟩).1

theorem readConfig_reads (fs : FileSystem) (path : String) :
    Reads fs (readConfig path) (configAt fs path) [] := by
  intro world hworld
  subst hworld
  cases hbs : world.files.contents path with
  | error e => simp [configAt, readConfig, outcome_bind, hbs, Except.mapError]
  | ok bs =>
    cases htext : Text.ofBytes? bs with
    | none => simp [configAt, readConfig, outcome_bind, hbs, htext, Except.mapError]
    | some text =>
      cases hread : Config.read text with
      | error e => simp [configAt, readConfig, outcome_bind, hbs, htext, hread, Except.mapError]
      | ok c =>
        cases hvalid : c.validate with
        | error s =>
          simp [configAt, readConfig, outcome_bind, hbs, htext, hread, outcome_ofStop, hvalid,
            Except.mapError]
        | ok _ =>
          simp [configAt, readConfig, outcome_bind, hbs, htext, hread, outcome_ofStop, hvalid,
            Except.mapError]

/-- A configuration is one that the file's text describes and that is valid. -/
theorem configAt_eq_ok_iff {fs : FileSystem} {path : String} {c : Config} :
    configAt fs path = .ok c ↔ ∃ bs text, fs.contents path = .ok bs ∧
      Text.ofBytes? bs = some text ∧ Config.read text = .ok c ∧ c.validate = .ok () := by
  constructor
  · intro hc
    have hrun : outcome (readConfig path) ⟨fs, []⟩ = (.ok c, ⟨fs, []⟩) := by
      rw [readConfig_reads fs path _ rfl, hc, World.note_nil]
    rw [readConfig, outcome_bind, outcome_files] at hrun
    obtain ⟨bs, world, hbs, hrun⟩ := outcome_bind_ok.mp hrun
    rw [outcome_ofOs, Prod.mk.injEq, mapError_eq_ok_iff] at hbs
    split at hrun
    · cases hrun
    · next text htext =>
      split at hrun
      · cases hrun
      · next c' hread =>
        obtain ⟨u, world', hvalid, hrun⟩ := outcome_bind_ok.mp hrun
        rw [outcome_ofStop, Prod.mk.injEq, mapError_eq_ok_iff] at hvalid
        cases hrun
        exact ⟨bs, text, hbs.1, htext, hread, hvalid.1⟩
  · rintro ⟨bs, text, hbs, htext, hread, hvalid⟩
    simp [configAt, readConfig, outcome_bind, hbs, htext, hread, outcome_ofStop, hvalid,
      Except.mapError, Except.map]

end Footprint.Report
