import Footprint.Proofs.Results.Table
import Footprint.Results.Mean

/-!
# Sizes that are no numbers

A blank cell is told by its text and a number by the reader of numbers. The two disagree about a
single word: the reader takes `nan` with a sign in front, which the text of a blank cell never is.
Such a cell, and no other, becomes a size that is not a number.
-/
namespace Footprint.Results
open Number (IsSignedNaN)

theorem IsBlank.not_isSignedNaN {cell : String} (h : IsBlank cell) : ¬IsSignedNaN cell.toList := by
  intro hsigned
  rcases h with rfl | hlower
  · obtain ⟨sign, word, hcell, -⟩ := hsigned
    cases hcell
  · exact hsigned.lower_ne hlower

theorem HoldsSize.isNaN_iff {cell : String} {size : Option Float} (h : HoldsSize cell size) :
    (∃ v, size = some v ∧ v.isNaN = true) ↔ IsSignedNaN cell.toList := by
  cases h with
  | blank hblank =>
    refine iff_of_false ?_ hblank.not_isSignedNaN
    rintro ⟨v, hv, -⟩
    cases hv
  | number hblank hread =>
    have hlower : ¬Number.lower cell.toList = ['n', 'a', 'n'] := fun h => hblank (.inr h)
    have hnan := (Number.isNaN_of_read hread).trans (or_iff_right hlower)
    rw [← hnan]
    exact ⟨fun ⟨_, hv, hnan⟩ => Option.some.inj hv ▸ hnan, fun hnan => ⟨_, rfl, hnan⟩⟩

/-- A cell that is read as no number counts as blank unless it has a sign. -/
theorem HoldsSize.eq_none_iff {cell : String} {size : Option Float} (h : HoldsSize cell size)
    {v : Float} (hread : Number.read cell = .ok v) (hv : v.isNaN = true) :
    size = none ↔ ¬IsSignedNaN cell.toList := by
  rw [← h.isNaN_iff]
  cases h with
  | blank hblank =>
    refine iff_of_true rfl ?_
    rintro ⟨v, hv, -⟩
    cases hv
  | number hblank hread' =>
    obtain rfl := Except.ok.inj (hread.symm.trans hread')
    exact iff_of_false (Option.some_ne_none v) (not_not_intro ⟨v, rfl, hv⟩)

/-! ## The rows of a table -/

/-- Where every record gives a row, all records are readable. -/
theorem readable_of_gives {nameAt sizeAt : Nat} {records : List (Except Csv.Error Csv.Record)}
    {rows : List Row} (h : List.Forall₂ (Gives nameAt sizeAt) records rows) :
    ∃ readable : List Csv.Record, records = readable.map .ok ∧
      List.Forall₂ (fun record r => Gives nameAt sizeAt (.ok record) r) readable rows := by
  induction h with
  | nil => exact ⟨[], rfl, .nil⟩
  | cons hrow _ ih =>
    obtain ⟨readable, rfl, hrows⟩ := ih
    cases hrow with
    | @row record name cell size hname hcell hsize =>
      exact ⟨record :: readable, rfl, .cons (.row hname hcell hsize) hrows⟩

theorem Table.exists_records {path : String} {bs : Bytes} {t : Table}
    (h : Table.read path bs = .ok t) :
    ∃ (header : Csv.Record) (records : List Csv.Record) (nameAt sizeAt : Nat),
      Csv.Document.read false bs = ⟨.ok header, records.map .ok⟩ ∧
      IsColumn nameColumn header nameAt ∧ IsColumn sizeColumn header sizeAt ∧
      List.Forall₂ (fun record r => Gives nameAt sizeAt (.ok record) r) records t.rows := by
  have hreads := Table.read_eq_iff.mp h
  generalize hresult : Except.ok t = result at hreads
  cases hreads with
  | unreadable => cases hresult
  | noName => cases hresult
  | noSize => cases hresult
  | @records header nameAt sizeAt outcome hheader hname hsize hrecords =>
    cases hrecords with
    | spoiled => cases hresult
    | rows hrows =>
      cases hresult
      obtain ⟨readable, hreadable, hgives⟩ := readable_of_gives hrows
      refine ⟨header, readable, nameAt, sizeAt, ?_, hname, hsize, hgives⟩
      rw [← hheader, ← hreadable]

/-- All sizes are numbers exactly when no cell has a sign in front of `nan`. -/
theorem sizes_are_numbers_of_gives {nameAt sizeAt : Nat} {records : List Csv.Record}
    {rows : List Row}
    (h : List.Forall₂ (fun record r => Gives nameAt sizeAt (.ok record) r) records rows) :
    (∀ r ∈ rows, ∀ v, r.size = some v → v.isNaN = false) ↔
      ∀ record ∈ records, ¬IsSignedNaN (cellAt record sizeAt).toList := by
  induction h with
  | nil => simp
  | cons hrow _ ih =>
    cases hrow with
    | row _ hcell hsize =>
      rw [List.forall_mem_cons, List.forall_mem_cons, ih, hasCell_iff.mp hcell, ← hsize.isNaN_iff]
      simp only [not_exists, not_and, Bool.not_eq_true]

/-- In a table that has been read, the rows whose size is not a number are those whose cell is `nan`
with a sign in front, in any letter case. A cell that the reader of numbers takes for no number is
blank in every other spelling. So the table holds numbers only exactly when no size cell has that
sign. -/
theorem Table.sizes_are_numbers_iff {path : String} {bs : Bytes} {t : Table}
    (h : Table.read path bs = .ok t) :
    ∃ (header : Csv.Record) (records : List Csv.Record) (sizeAt : Nat),
      Csv.Document.read false bs = ⟨.ok header, records.map .ok⟩ ∧
      IsColumn sizeColumn header sizeAt ∧
      ((∀ r ∈ t.rows, ∀ v, r.size = some v → v.isNaN = false) ↔
        ∀ record ∈ records, ¬IsSignedNaN (cellAt record sizeAt).toList) ∧
      List.Forall₂ (fun record r =>
        ((∃ v, r.size = some v ∧ v.isNaN = true) ↔ IsSignedNaN (cellAt record sizeAt).toList) ∧
        ∀ v, Number.read (cellAt record sizeAt) = .ok v → v.isNaN = true →
          (r.size = none ↔ ¬IsSignedNaN (cellAt record sizeAt).toList)) records t.rows := by
  obtain ⟨header, records, nameAt, sizeAt, hd, -, hsize, hgives⟩ := Table.exists_records h
  refine ⟨header, records, sizeAt, hd, hsize, sizes_are_numbers_of_gives hgives, ?_⟩
  refine hgives.imp fun record r hrow => ?_
  cases hrow with
  | row _ hcell hsize =>
    rw [hasCell_iff.mp hcell]
    exact ⟨hsize.isNaN_iff, fun v hread hv => hsize.eq_none_iff hread hv⟩

theorem Table.sizes_are_numbers_iff_mixed : ∃ t,
    Table.read "t" (Text.bytes "index_size_bytes,index_name\nnAn,LIPP\n,LIPP\n +nAN ,LIPP\n") =
      .ok t ∧ ∃ (header : Csv.Record) (records : List Csv.Record) (sizeAt : Nat),
        Csv.Document.read false
          (Text.bytes "index_size_bytes,index_name\nnAn,LIPP\n,LIPP\n +nAN ,LIPP\n") =
          ⟨.ok header, records.map .ok⟩ ∧ IsColumn sizeColumn header sizeAt ∧
        ∃ record ∈ records, IsSignedNaN (cellAt record sizeAt).toList := by
  have hread : Table.read "t"
      (Text.bytes "index_size_bytes,index_name\nnAn,LIPP\n,LIPP\n +nAN ,LIPP\n") =
      .ok ⟨"t", [⟨"LIPP", none⟩, ⟨"LIPP", none⟩, ⟨"LIPP", some Number.notANumber⟩]⟩ := by
    rfl
  obtain ⟨header, records, sizeAt, hd, hsize, hiff, -⟩ := Table.sizes_are_numbers_iff hread
  refine ⟨_, hread, header, records, sizeAt, hd, hsize, ?_⟩
  by_contra hnone
  push Not at hnone
  have hlast := hiff.mpr hnone ⟨"LIPP", some Number.notANumber⟩ (by simp) _ rfl
  rw [Number.isNaN_notANumber] at hlast
  cases hlast

/-- A blank size with a sign is averaged, and the mean is no number either. -/
theorem Table.read_signed_nan : ∃ t,
    Table.read "t" (Text.bytes "index_name,index_size_bytes\nBTree,-nan\n") = .ok t ∧
      (∃ r ∈ t.rows, ∃ v, r.size = some v ∧ v.isNaN = true) ∧
        ∃ m, t.meanSize "BTree" = .ok m ∧ m.isNaN = true := by
  refine ⟨⟨"t", [⟨"BTree", some Number.notANumber⟩]⟩, by rfl, ?_, ?_⟩
  · exact ⟨_, List.mem_cons_self, _, rfl, Number.isNaN_notANumber⟩
  · exact ⟨Number.notANumber, by rfl, Number.isNaN_notANumber⟩

end Footprint.Results
