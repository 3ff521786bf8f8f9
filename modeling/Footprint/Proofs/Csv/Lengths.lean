import Footprint.Proofs.Csv.RoundTrip
import Mathlib.Tactic.SplitIfs

/-!
# How many fields the records of a document have

A completed record has at least one field. In a uniform document each record has as many fields as
the header, or else is reported as having another number of them.
-/
namespace Footprint.Csv

theorem Pending.completed_ne_nil (p : Pending) : p.completed ≠ [] := by
  simp [completed]

theorem Pending.eq_completed_of_outside {p q : Pending} {b : UInt8} {fields : Fields}
    (h : p.outside b = (q, some fields)) : fields = p.completed := by
  rw [outside] at h
  split_ifs at h <;> cases h
  rfl

theorem Pending.eq_completed_of_step {p q : Pending} {b : UInt8} {fields : Fields}
    (h : p.step b = (q, some fields)) : fields = p.completed := by
  cases hm : p.mode <;> simp only [step, hm] at h
  case recordStart =>
    split_ifs at h
    · cases h
    · cases h
    · exact eq_completed_of_outside h
  case quoted => split_ifs at h <;> cases h
  case plain => exact eq_completed_of_outside h
  all_goals
    split_ifs at h
    · cases h
    · exact eq_completed_of_outside h

theorem ne_nil_of_mem_recordsFrom {p : Pending} {bs : Bytes} {fields : Fields}
    (h : fields ∈ recordsFrom p bs) : fields ≠ [] := by
  induction bs generalizing p with
  | nil =>
    rw [recordsFrom, Pending.finish] at h
    split at h
    · cases h
    · obtain rfl := List.mem_singleton.mp h
      exact p.completed_ne_nil
  | cons b bs ih =>
    rw [recordsFrom] at h
    split at h
    · exact ih h
    · next q first hstep =>
      rcases List.mem_cons.mp h with rfl | h
      · exact Pending.eq_completed_of_step hstep ▸ p.completed_ne_nil
      · exact ih h

theorem fields_ne_nil {bs : Bytes} {r : Row} (h : r ∈ rows bs) : r.fields ≠ [] := by
  have hmem : ∀ {start here : Place} {bs : Bytes}, r ∈ rowsFrom start here .start bs →
      r.fields ≠ [] := by
    intro start here bs hr
    apply ne_nil_of_mem_recordsFrom
    rw [← map_fields_rowsFrom start here]
    exact List.mem_map_of_mem hr
  unfold rows at h
  split at h <;> exact hmem h

/-! ## Readable records -/

theorem length_of_recordText {field : ℕ} {fields : Fields} {record : Record}
    (h : recordText field fields = .ok record) : record.length = fields.length := by
  induction fields generalizing field record with
  | nil => cases h; rfl
  | cons f fields ih =>
    rw [recordText] at h
    split at h
    · next s _ =>
      cases hrest : recordText (field + 1) fields with
      | error e => rw [hrest] at h; cases h
      | ok rest =>
        rw [hrest] at h
        cases h
        rw [List.length_cons, List.length_cons, ih hrest]
    · cases h

theorem Row.length_of_read {width : Option ℕ} {n : ℕ} {row : Row} {record : Record}
    (h : row.read width n = .ok record) :
    record.length = row.fields.length ∧ ∀ k ∈ width, row.fields.length = k := by
  simp only [Row.read] at h
  cases htext : recordText 0 row.fields with
  | error e =>
    rw [htext] at h
    split at h
    · split at h <;> cases h
    · cases h
  | ok text =>
    rw [htext] at h
    have hlength := length_of_recordText htext
    split at h
    · next k =>
      split at h
      · next hk =>
        cases h
        exact ⟨hlength, fun j hj => Option.some.inj hj ▸ hk⟩
      · cases h
    · cases h
      exact ⟨hlength, by simp⟩

theorem Row.error_of_read {k n : ℕ} {row : Row} {cause : Error}
    (h : row.read (some k) n = .error cause) :
    (∃ field offset, cause = .invalidText n row.place field offset) ∨
      row.fields.length ≠ k ∧ cause = .unequalLengths n row.place row.fields.length k := by
  simp only [Row.read] at h
  split at h
  · split at h
    · cases h
    · cases h
      exact .inl ⟨_, _, rfl⟩
  · next hk =>
    cases h
    exact .inr ⟨hk, rfl⟩

/-! ## Uniform documents -/

/-- Every record that can be read is as long as the header, and neither is empty. Any other record is
no text, or has another number of fields. -/
theorem Document.of_mem_records {bs : Bytes} {header : Record}
    (hheader : (Document.read true bs).header = .ok header) {record : Except Error Record}
    (hrecord : record ∈ (Document.read true bs).records) :
    (∀ r, record = .ok r → r ≠ [] ∧ r.length = header.length) ∧
      ∀ cause, record = .error cause →
        (∃ n place field offset, cause = .invalidText n place field offset) ∨
          ∃ n place found, found ≠ header.length ∧
            cause = .unequalLengths n place found header.length := by
  rw [Document.read] at hheader hrecord
  cases hrows : rows bs with
  | nil => simp [hrows] at hrecord
  | cons row rest =>
    rw [hrows] at hheader hrecord
    simp only [if_true] at hheader hrecord
    have hlength := (Row.length_of_read hheader).1
    rw [← hlength, List.mem_mapIdx] at hrecord
    obtain ⟨i, hi, rfl⟩ := hrecord
    constructor
    · intro r hr
      obtain ⟨hr, hwidth⟩ := Row.length_of_read hr
      rw [hwidth header.length rfl] at hr
      refine ⟨?_, hr⟩
      rw [← List.length_pos_iff, hr, hlength, List.length_pos_iff]
      exact fields_ne_nil (hrows ▸ List.mem_cons_self)
    · intro cause hcause
      rcases Row.error_of_read hcause with ⟨field, offset, rfl⟩ | ⟨hne, rfl⟩
      · exact .inl ⟨_, _, _, _, rfl⟩
      · exact .inr ⟨_, _, _, hne, rfl⟩

end Footprint.Csv
