import Footprint.Csv.Document
import Footprint.Csv.Encoding
import Mathlib.Data.Nat.Notation
import Mathlib.Tactic.ByContra
import Mathlib.Tactic.Tauto

/-!
# What is written as comma-separated text reads back

The reader is followed through one written field, then through one record and then through all of
them. Places in the text play no part, so the records are first read without them. A byte order
mark in front would be lost; records of one empty field are kept because they are quoted.
-/
namespace Footprint.Csv

/-- The records that complete `p` and follow it, without their places. -/
def recordsFrom (p : Pending) : Bytes → List Fields
  | [] => p.finish.toList
  | b :: bs => match p.step b with
    | (p, none) => recordsFrom p bs
    | (p, some fields) => fields :: recordsFrom p bs

theorem map_fields_rowsFrom (start here : Place) (p : Pending) (bs : Bytes) :
    (rowsFrom start here p bs).map Row.fields = recordsFrom p bs := by
  induction bs generalizing start here p with
  | nil => cases h : p.finish <;> simp [rowsFrom, recordsFrom, h]
  | cons b bs ih =>
    rcases h : p.step b with ⟨q, _ | fields⟩ <;> simp [rowsFrom, recordsFrom, h, ih]

theorem recordsFrom_step {p q : Pending} {b : UInt8} (h : p.step b = (q, none)) (bs : Bytes) :
    recordsFrom p (b :: bs) = recordsFrom q bs := by
  simp [recordsFrom, h]

theorem recordsFrom_complete {p q : Pending} {b : UInt8} {fields : Fields}
    (h : p.step b = (q, some fields)) (bs : Bytes) :
    recordsFrom p (b :: bs) = fields :: recordsFrom q bs := by
  simp [recordsFrom, h]

/-! ## One field -/

/-- The state in which a field `f` is complete, after the fields `before` in reverse: a comma or the
end of a line may follow. -/
structure Pending.HasRead (p : Pending) (f : Bytes) (before : Fields) : Prop where
  field : p.field = f.reverse
  fields : p.fields = before
  outside : ∀ b, b ≠ quote → (p.mode = .recordStart → isLineEnd b = false) → p.step b = p.outside b

theorem Pending.HasRead.step_comma {p : Pending} {f : Bytes} {before : Fields}
    (h : p.HasRead f before) : p.step comma = (⟨.fieldStart, [], f :: before⟩, none) := by
  rw [h.outside _ (by decide) (fun _ => by decide)]
  simp [Pending.outside, Pending.nextField, h.field, h.fields]

theorem Pending.HasRead.step_lineFeed {p : Pending} {f : Bytes} {before : Fields}
    (h : p.HasRead f before) (hm : p.mode ≠ .recordStart) :
    p.step lineFeed = (.start, some (f :: before).reverse) := by
  rw [h.outside _ (by decide) (fun hs => absurd hs hm)]
  have hc : lineFeed ≠ comma := by decide
  have hl : isLineEnd lineFeed = true := by decide
  simp [Pending.outside, Pending.completed, hc, hl, h.field, h.fields]

private theorem plain_run (f : Bytes) (h : needsQuotes f = false) (m : Mode) (hm : m ≠ .quoted)
    (hm' : m ≠ .quoteSeen) (before : Fields) (acc : Bytes) :
    ∃ q : Pending, (∀ rest, recordsFrom ⟨m, acc, before⟩ (f ++ rest) = recordsFrom q rest) ∧
      q.HasRead (acc.reverse ++ f) before ∧ (q.mode = .plain ∨ q.mode = m ∧ f = []) := by
  induction f generalizing m acc with
  | nil =>
    refine ⟨⟨m, acc, before⟩, fun rest => rfl, ⟨by simp, rfl, ?_⟩, Or.inr ⟨rfl, rfl⟩⟩
    intro b hb hr
    cases m <;> simp_all [Pending.step]
  | cons b f ih =>
    simp only [needsQuotes, List.any_cons, Bool.or_eq_false_iff, decide_eq_false_iff_not] at h
    obtain ⟨⟨⟨hcomma, hquote⟩, hline⟩, hf⟩ := h
    have hstep : (⟨m, acc, before⟩ : Pending).step b = (⟨.plain, b :: acc, before⟩, none) := by
      cases m <;> simp_all [Pending.step, Pending.outside, Pending.push]
    obtain ⟨q, hrun, hread, hmode⟩ := ih hf .plain (by decide) (by decide) (b :: acc)
    refine ⟨q, fun rest => ?_, by simpa using hread, Or.inl ?_⟩
    · rw [List.cons_append, recordsFrom_step hstep, hrun]
    · exact hmode.elim id (·.1)

private theorem quoted_run (f acc : Bytes) (before : Fields) (rest : Bytes) :
    recordsFrom ⟨.quoted, acc, before⟩ (doubleQuotes f ++ quote :: rest) =
      recordsFrom ⟨.quoteSeen, f.reverse ++ acc, before⟩ rest := by
  induction f generalizing acc with
  | nil => exact recordsFrom_step (by simp [Pending.step]) _
  | cons b f ih =>
    by_cases hb : b = quote
    · subst hb
      simp only [doubleQuotes, List.flatMap_cons, if_true, List.cons_append, List.nil_append]
      rw [recordsFrom_step (q := ⟨.quoteSeen, acc, before⟩) (by simp [Pending.step]),
        recordsFrom_step (q := ⟨.quoted, quote :: acc, before⟩)
          (by simp [Pending.step, Pending.push])]
      simpa [doubleQuotes] using ih (quote :: acc)
    · simp only [doubleQuotes, List.flatMap_cons, if_neg hb, List.cons_append, List.nil_append]
      rw [recordsFrom_step (q := ⟨.quoted, b :: acc, before⟩)
        (by simp [Pending.step, Pending.push, hb])]
      simpa [doubleQuotes] using ih (b :: acc)

private theorem quoteField_run (f : Bytes) (m : Mode) (hm : m = .recordStart ∨ m = .fieldStart)
    (before : Fields) (rest : Bytes) :
    recordsFrom ⟨m, [], before⟩ (quoteField f ++ rest) =
      recordsFrom ⟨.quoteSeen, f.reverse, before⟩ rest := by
  have hstep : (⟨m, [], before⟩ : Pending).step quote = (⟨.quoted, [], before⟩, none) := by
    have hl : isLineEnd quote = false := by decide
    rcases hm with rfl | rfl <;> simp [Pending.step, hl]
  simp only [quoteField, List.cons_append, List.append_assoc, List.nil_append]
  rw [recordsFrom_step hstep, quoted_run, List.append_nil]

private theorem hasRead_quoteSeen (f : Bytes) (before : Fields) :
    (⟨.quoteSeen, f.reverse, before⟩ : Pending).HasRead f before :=
  ⟨rfl, rfl, fun b hb _ => by simp [Pending.step, hb]⟩

/-- After a written field the reader has read it; only an empty field without quotes leaves it where
it has been. -/
theorem encodeField_run (f : Bytes) (m : Mode) (hm : m = .recordStart ∨ m = .fieldStart)
    (before : Fields) :
    ∃ q : Pending, (∀ rest, recordsFrom ⟨m, [], before⟩ (encodeField f ++ rest) =
      recordsFrom q rest) ∧ q.HasRead f before ∧ (q.mode = .recordStart → m = .recordStart ∧ f = []) := by
  rw [encodeField]
  split
  · exact ⟨_, quoteField_run f m hm before, hasRead_quoteSeen f before, by simp⟩
  · next h =>
    obtain ⟨q, hrun, hread, hmode⟩ := plain_run f (by simpa using h) m
      (by rintro rfl; simp at hm) (by rintro rfl; simp at hm) before []
    refine ⟨q, hrun, hread, fun hq => ?_⟩
    rcases hmode with h1 | ⟨h1, h2⟩
    · simp [h1] at hq
    · exact ⟨h1 ▸ hq, h2⟩

/-! ## One record -/

private theorem fields_run (f : Bytes) (fs : Fields) (m : Mode)
    (hm : m = .fieldStart ∨ m = .recordStart ∧ (f ≠ [] ∨ fs ≠ [])) (before : Fields) (rest : Bytes) :
    recordsFrom ⟨m, [], before⟩
      (List.intercalate [comma] ((f :: fs).map encodeField) ++ lineFeed :: rest) =
      (before.reverse ++ f :: fs) :: recordsFrom .start rest := by
  induction fs generalizing f m before with
  | nil =>
    obtain ⟨q, hrun, hread, hstart⟩ := encodeField_run f m (by tauto) before
    have hq : q.mode ≠ .recordStart := by
      intro h
      obtain ⟨hs, hf⟩ := hstart h
      simp_all
    rw [List.map_singleton, List.intercalate_singleton, hrun,
      recordsFrom_complete (hread.step_lineFeed hq)]
    simp
  | cons g fs ih =>
    obtain ⟨q, hrun, hread, -⟩ := encodeField_run f m (by tauto) before
    rw [List.map_cons, List.map_cons, List.intercalate_cons_cons, List.append_assoc,
      List.append_assoc, hrun, List.singleton_append, recordsFrom_step hread.step_comma,
      ← List.map_cons, ih g .fieldStart (Or.inl rfl) (f :: before)]
    simp

theorem encodeRecord_run {fs : Fields} (h : fs ≠ []) (rest : Bytes) :
    recordsFrom .start (encodeRecord fs ++ rest) = fs :: recordsFrom .start rest := by
  obtain ⟨f, fs, rfl⟩ := List.exists_cons_of_ne_nil h
  rw [encodeRecord]
  split
  · next hempty =>
    rw [List.append_assoc, Pending.start, quoteField_run [] _ (Or.inl rfl), List.singleton_append,
      recordsFrom_complete ((hasRead_quoteSeen [] []).step_lineFeed (by decide)), hempty]
    rfl
  · next hne =>
    rw [List.append_assoc, Pending.start, List.singleton_append,
      fields_run f fs .recordStart (Or.inr ⟨rfl, ?_⟩) []]
    · rfl
    · by_contra hcon
      simp_all

/-! ## All records -/

theorem recordsFrom_encode {records : List Fields} (h : ∀ fs ∈ records, fs ≠ []) :
    recordsFrom .start (encode records) = records := by
  induction records with
  | nil => rfl
  | cons fs records ih =>
    have hfs : fs ≠ [] := h fs (by simp)
    have ih' := ih fun fs hm => h fs (List.mem_cons_of_mem _ hm)
    rw [encode, List.flatMap_cons, encodeRecord_run hfs]
    exact congrArg (fs :: ·) ih'

theorem rows_eq {bs : Bytes} (h : bs.head? ≠ some 0xEF) :
    rows bs = rowsFrom ⟨1, 0⟩ ⟨1, 0⟩ .start bs := by
  unfold rows
  split
  · simp at h
  · rfl

@[simp] theorem recordText_bytes (field : ℕ) (r : Record) :
    recordText field (r.map Text.bytes) = .ok r := by
  induction r generalizing field with
  | nil => rfl
  | cons s r ih => simp [recordText, Text.ofBytes?_bytes, ih, Except.map]

/-- A written record is read as it was, where its length is the one asked for. -/
theorem Row.read_bytes {width : Option ℕ} (n : ℕ) {row : Row} {r : Record}
    (hr : row.fields = r.map Text.bytes) (hw : ∀ k ∈ width, r.length = k) :
    row.read width n = .ok r := by
  simp only [Row.read, hr, recordText_bytes, List.length_map]
  cases width with
  | none => rfl
  | some k => simp [hw k rfl]

/-- Written records are read back, all of them and in their order. -/
theorem Document.read_encodeText (uniform : Bool) {header : Record} {records : List Record}
    (hne : header ≠ []) (hlen : ∀ r ∈ records, r.length = header.length)
    (hmark : (encodeText (header :: records)).head? ≠ some 0xEF) :
    Document.read uniform (encodeText (header :: records)) = ⟨.ok header, records.map .ok⟩ := by
  have hpos : ∀ r ∈ header :: records, r ≠ [] := by
    intro r hr
    rcases List.mem_cons.mp hr with rfl | hr
    · exact hne
    · rw [← List.length_pos_iff, hlen r hr]
      exact List.length_pos_iff.mpr hne
  have hfields : (rows (encodeText (header :: records))).map Row.fields =
      (header :: records).map (·.map Text.bytes) := by
    rw [rows_eq hmark, map_fields_rowsFrom, encodeText, recordsFrom_encode]
    intro fs hfs
    obtain ⟨r, hr, rfl⟩ := List.mem_map.mp hfs
    simpa using hpos r hr
  rw [List.map_cons] at hfields
  obtain ⟨row, rs, hrows, hrow, hrs⟩ := List.map_eq_cons_iff.mp hfields
  simp only [Document.read, hrows]
  have hheader : row.read none 0 = .ok header := Row.read_bytes 0 hrow (by simp)
  have hwidth : row.fields.length = header.length := by rw [hrow, List.length_map]
  rw [hheader, Document.mk.injEq]
  refine ⟨rfl, List.ext_getElem? fun i => ?_⟩
  have hi := congrArg (·[i]?) hrs
  simp only [List.getElem?_map] at hi
  rw [List.getElem?_mapIdx, List.getElem?_map]
  cases hri : records[i]? with
  | none => simp_all
  | some r =>
    rw [hri] at hi
    obtain ⟨row', hrow', hr'⟩ := Option.map_eq_some_iff.mp hi
    have hr : r.length = header.length := hlen r (List.mem_of_getElem? hri)
    rw [hrow', Option.map_some, Option.map_some, Row.read_bytes (i + 1) hr']
    intro k hk
    cases uniform <;> simp_all

end Footprint.Csv
