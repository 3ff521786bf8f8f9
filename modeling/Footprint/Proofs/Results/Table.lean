import Footprint.Proofs.Number.Classes
import Footprint.Proofs.Text.Trim
import Footprint.Results.Table
import Mathlib.Data.List.Forall2

/-!
# What a text is read as when it holds measured sizes

The header decides which columns are read, and then the first record in order that cannot be read
decides the outcome, whatever follows it. Otherwise there is one row for each record. Of the cells
that are not blank but read as no number, only those with a sign in front of the word are left: they
come through as sizes.
-/
namespace Footprint.Results
open Text (Trims)

/-- The first column of that name. -/
structure IsColumn (column : String) (header : Csv.Record) (i : Nat) : Prop where
  named : ∃ cell, header[i]? = some cell ∧ Trims cell column
  first : ∀ j < i, ∀ cell, header[j]? = some cell → ¬Trims cell column

/-- The text in that column of a record, without the white space around it. -/
inductive HasCell (record : Csv.Record) (column : Nat) : String → Prop
  | present {cell text : String} (h : record[column]? = some cell) (htrims : Trims cell text) :
    HasCell record column text
  | missing (h : record.length ≤ column) : HasCell record column ""

/-- Nothing, or `nan` in any letter case. -/
def IsBlank (cell : String) : Prop := cell = "" ∨ Number.lower cell.toList = ['n', 'a', 'n']

instance (cell : String) : Decidable (IsBlank cell) := inferInstanceAs (Decidable (_ ∨ _))

/-- The size that a cell holds. -/
inductive HoldsSize (cell : String) : Option Float → Prop
  | blank (h : IsBlank cell) : HoldsSize cell none
  | number {v : Float} (h : ¬IsBlank cell) (hread : Number.read cell = .ok v) :
    HoldsSize cell (some v)

section Records

variable (nameAt sizeAt : Nat)

/-- The row that a record gives. -/
inductive Gives : Except Csv.Error Csv.Record → Row → Prop
  | row {record : Csv.Record} {name cell : String} {size : Option Float}
    (hname : HasCell record nameAt name) (hcell : HasCell record sizeAt cell)
    (hsize : HoldsSize cell size) : Gives (.ok record) ⟨name, size⟩

/-- What is wrong with the record of the given number. -/
inductive Spoils (row : Nat) : Except Csv.Error Csv.Record → Error → Prop
  | unreadable (cause : Csv.Error) : Spoils row (.error cause) (.unreadable cause)
  | size {record : Csv.Record} {cell : String} (hcell : HasCell record sizeAt cell)
    (h : ¬IsBlank cell) (hread : ∀ v, Number.read cell ≠ .ok v) :
    Spoils row (.ok record) (.invalidSize row cell)

/-- The outcome of all records, the first of them having the given number. -/
inductive Yields (row : Nat) (records : List (Except Csv.Error Csv.Record)) :
    Except Error (List Row) → Prop
  | spoiled {before after : List (Except Csv.Error Csv.Record)}
    {record : Except Csv.Error Csv.Record} {e : Error} (hsplit : records = before ++ record :: after)
    (hbefore : ∀ r ∈ before, ∃ row, Gives nameAt sizeAt r row)
    (hrecord : Spoils sizeAt (row + before.length) record e) : Yields row records (.error e)
  | rows {rows : List Row} (h : List.Forall₂ (Gives nameAt sizeAt) records rows) :
    Yields row records (.ok rows)

end Records

/-- The outcome of a whole document. -/
inductive Reads (path : String) (d : Csv.Document) : Except Error Table → Prop
  | unreadable {cause : Csv.Error} (h : d.header = .error cause) :
    Reads path d (.error (.unreadable cause))
  | noName {header : Csv.Record} (h : d.header = .ok header)
    (hname : ∀ cell ∈ header, ¬Trims cell nameColumn) :
    Reads path d (.error (.missingColumn nameColumn))
  | noSize {header : Csv.Record} {nameAt : Nat} (h : d.header = .ok header)
    (hname : IsColumn nameColumn header nameAt)
    (hsize : ∀ cell ∈ header, ¬Trims cell sizeColumn) :
    Reads path d (.error (.missingColumn sizeColumn))
  | records {header : Csv.Record} {nameAt sizeAt : Nat} {outcome : Except Error (List Row)}
    (h : d.header = .ok header) (hname : IsColumn nameColumn header nameAt)
    (hsize : IsColumn sizeColumn header sizeAt) (hrecords : Yields nameAt sizeAt 1 d.records outcome) :
    Reads path d (outcome.map fun rows => ⟨path, rows⟩)

/-! ## Columns -/

theorem columnOf_eq_ok_iff {column : String} {header : Csv.Record} {i : Nat} :
    columnOf column header = .ok i ↔ IsColumn column header i := by
  have hfind : columnOf column header = .ok i ↔
      header.findIdx? (fun cell => Text.trim cell = column) = some i := by
    rw [columnOf]
    cases header.findIdx? fun cell => Text.trim cell = column <;> simp
  rw [hfind, List.findIdx?_eq_some_iff_getElem]
  constructor
  · rintro ⟨hi, hnamed, hfirst⟩
    refine ⟨⟨header[i], List.getElem?_eq_getElem hi, ?_⟩, fun j hj cell hcell => ?_⟩
    · exact Text.trims_iff.mpr (by simpa using hnamed)
    · obtain ⟨hlt, rfl⟩ := List.getElem?_eq_some_iff.mp hcell
      rw [Text.trims_iff]
      simpa using hfirst j hj
  · rintro ⟨⟨cell, hcell, hnamed⟩, hfirst⟩
    obtain ⟨hi, rfl⟩ := List.getElem?_eq_some_iff.mp hcell
    refine ⟨hi, by simpa using hnamed.eq, fun j hj => ?_⟩
    have hother := hfirst j hj header[j] (List.getElem?_eq_getElem _)
    rw [Text.trims_iff] at hother
    simpa using hother

theorem columnOf_eq_error_iff {column : String} {header : Csv.Record} {e : Error} :
    columnOf column header = .error e ↔
      (∀ cell ∈ header, ¬Trims cell column) ∧ e = .missingColumn column := by
  have hnone : header.findIdx? (fun cell => Text.trim cell = column) = none ↔
      ∀ cell ∈ header, ¬Trims cell column := by
    simp only [List.findIdx?_eq_none_iff, decide_eq_false_iff_not, Text.trims_iff]
  rw [columnOf, ← hnone]
  cases header.findIdx? fun cell => Text.trim cell = column <;> simp [eq_comm]

/-! ## Cells -/

theorem hasCell_iff {record : Csv.Record} {column : Nat} {text : String} :
    HasCell record column text ↔ cellAt record column = text := by
  constructor
  · intro h
    cases h with
    | present h htrims => rw [cellAt, h, Option.getD_some, htrims.eq]
    | missing h =>
      rw [cellAt, List.getElem?_eq_none h]
      rfl
  · rintro rfl
    rw [cellAt]
    cases hcell : record[column]? with
    | none => exact .missing (List.getElem?_eq_none_iff.mp hcell)
    | some cell => exact .present hcell (Text.trims_trim cell)

theorem hasCell_cellAt (record : Csv.Record) (column : Nat) :
    HasCell record column (cellAt record column) := hasCell_iff.mpr rfl

theorem readSize_of_blank {cell : String} (h : IsBlank cell) : readSize cell = .ok none := if_pos h

theorem readSize_of_not_blank {cell : String} (h : ¬IsBlank cell) :
    readSize cell = (Number.read cell).map some := if_neg h

theorem readSize_eq_ok_iff {cell : String} {size : Option Float} :
    readSize cell = .ok size ↔ HoldsSize cell size := by
  constructor
  · intro h
    by_cases hblank : IsBlank cell
    · rw [readSize_of_blank hblank] at h
      cases h
      exact .blank hblank
    · rw [readSize_of_not_blank hblank] at h
      cases hread : Number.read cell with
      | error cause =>
        rw [hread] at h
        cases h
      | ok v =>
        rw [hread] at h
        cases h
        exact .number hblank hread
  · intro h
    cases h with
    | blank hblank => exact readSize_of_blank hblank
    | number hblank hread => rw [readSize_of_not_blank hblank, hread]; rfl

theorem exists_readSize_eq_error_iff {cell : String} :
    (∃ cause, readSize cell = .error cause) ↔ ¬IsBlank cell ∧ ∀ v, Number.read cell ≠ .ok v := by
  by_cases hblank : IsBlank cell
  · simp [readSize_of_blank hblank, hblank]
  · rw [readSize_of_not_blank hblank]
    cases Number.read cell <;> simp [Except.map, hblank]

theorem readRow_eq_ok_iff {nameAt sizeAt row : Nat} {record : Except Csv.Error Csv.Record}
    {r : Row} : readRow nameAt sizeAt row record = .ok r ↔ Gives nameAt sizeAt record r := by
  constructor
  · intro h
    cases record with
    | error cause => cases h
    | ok record =>
      rw [readRow] at h
      split at h
      · next size hsize =>
        cases h
        exact .row (hasCell_cellAt ..) (hasCell_cellAt ..) (readSize_eq_ok_iff.mp hsize)
      · cases h
  · intro h
    cases h with
    | row hname hcell hsize =>
      rw [readRow, hasCell_iff.mp hname, hasCell_iff.mp hcell, readSize_eq_ok_iff.mpr hsize]

theorem readRow_eq_error_iff {nameAt sizeAt row : Nat} {record : Except Csv.Error Csv.Record}
    {e : Error} : readRow nameAt sizeAt row record = .error e ↔ Spoils sizeAt row record e := by
  constructor
  · intro h
    cases record with
    | error cause =>
      cases h
      exact .unreadable cause
    | ok record =>
      rw [readRow] at h
      split at h
      · cases h
      · next cause hsize =>
        cases h
        obtain ⟨hblank, hread⟩ := exists_readSize_eq_error_iff.mp ⟨cause, hsize⟩
        exact .size (hasCell_cellAt ..) hblank hread
  · intro h
    cases h with
    | unreadable cause => rfl
    | size hcell hblank hread =>
      obtain ⟨cause, hsize⟩ := exists_readSize_eq_error_iff.mpr ⟨hblank, hread⟩
      rw [readRow, hasCell_iff.mp hcell, hsize]

/-! ## Records -/

theorem Yields.cons {nameAt sizeAt row : Nat} {record : Except Csv.Error Csv.Record} {r : Row}
    {rest : List (Except Csv.Error Csv.Record)} {outcome : Except Error (List Row)}
    (hrecord : Gives nameAt sizeAt record r) (hrest : Yields nameAt sizeAt (row + 1) rest outcome) :
    Yields nameAt sizeAt row (record :: rest) (outcome.map (r :: ·)) := by
  cases hrest with
  | @spoiled before after bad e hsplit hbefore hbad =>
    have hcons : record :: rest = (record :: before) ++ bad :: after := congrArg (record :: ·) hsplit
    refine .spoiled hcons ?_ ?_
    · rintro s (_ | ⟨_, hs⟩)
      · exact ⟨r, hrecord⟩
      · exact hbefore s hs
    · rwa [List.length_cons, Nat.add_comm before.length, ← Nat.add_assoc]
  | rows h => exact .rows (.cons hrecord h)

theorem yields_readRows (nameAt sizeAt row : Nat) (records : List (Except Csv.Error Csv.Record)) :
    Yields nameAt sizeAt row records (readRows nameAt sizeAt row records) := by
  induction records generalizing row with
  | nil => exact .rows .nil
  | cons record rest ih =>
    rw [readRows]
    cases hrecord : readRow nameAt sizeAt row record with
    | error e =>
      have hfirst : record :: rest = [] ++ record :: rest := rfl
      exact .spoiled hfirst (by simp) (readRow_eq_error_iff.mp hrecord)
    | ok r => exact (ih (row + 1)).cons (readRow_eq_ok_iff.mp hrecord)

theorem Yields.eq {nameAt sizeAt row : Nat} {records : List (Except Csv.Error Csv.Record)}
    {outcome : Except Error (List Row)} (h : Yields nameAt sizeAt row records outcome) :
    readRows nameAt sizeAt row records = outcome := by
  cases h with
  | @spoiled before after record e hsplit hbefore hrecord =>
    subst hsplit
    induction before generalizing row with
    | nil =>
      have hfirst : readRow nameAt sizeAt row record = .error e := readRow_eq_error_iff.mpr hrecord
      rw [List.nil_append, readRows, hfirst]
    | cons first before ih =>
      obtain ⟨r, hr⟩ := hbefore first List.mem_cons_self
      have hrest : readRows nameAt sizeAt (row + 1) (before ++ record :: after) = .error e :=
        ih (fun s hs => hbefore s (List.mem_cons_of_mem _ hs))
          (by rwa [List.length_cons, Nat.add_comm before.length, ← Nat.add_assoc] at hrecord)
      rw [List.cons_append, readRows, readRow_eq_ok_iff.mpr hr, hrest]
      rfl
  | rows h =>
    induction h generalizing row with
    | nil => rfl
    | cons hr _ ih =>
      rw [readRows, readRow_eq_ok_iff.mpr hr, ih]
      rfl

/-! ## Documents -/

theorem Reads.eq {path : String} {d : Csv.Document} {result : Except Error Table}
    (h : Reads path d result) : (ofDocument d).map (fun rows => ⟨path, rows⟩) = result := by
  cases h with
  | unreadable h => rw [ofDocument, h]; rfl
  | noName h hname =>
    rw [ofDocument, h]
    simp only [columnOf_eq_error_iff.mpr ⟨hname, rfl⟩]
    rfl
  | noSize h hname hsize =>
    rw [ofDocument, h]
    simp only [columnOf_eq_ok_iff.mpr hname, columnOf_eq_error_iff.mpr ⟨hsize, rfl⟩]
    rfl
  | records h hname hsize hrecords =>
    rw [ofDocument, h]
    simp only [columnOf_eq_ok_iff.mpr hname, columnOf_eq_ok_iff.mpr hsize]
    exact congrArg _ hrecords.eq

theorem exists_reads (path : String) (d : Csv.Document) : ∃ result, Reads path d result := by
  cases hheader : d.header with
  | error cause => exact ⟨_, .unreadable hheader⟩
  | ok header =>
    cases hname : columnOf nameColumn header with
    | error e => exact ⟨_, .noName hheader (columnOf_eq_error_iff.mp hname).1⟩
    | ok nameAt =>
      have hnamed := columnOf_eq_ok_iff.mp hname
      cases hsize : columnOf sizeColumn header with
      | error e => exact ⟨_, .noSize hheader hnamed (columnOf_eq_error_iff.mp hsize).1⟩
      | ok sizeAt =>
        exact ⟨_, .records hheader hnamed (columnOf_eq_ok_iff.mp hsize)
          (yields_readRows nameAt sizeAt 1 d.records)⟩

theorem Table.read_eq_iff {path : String} {bs : Bytes} {result : Except Error Table} :
    Table.read path bs = result ↔ Reads path (Csv.Document.read false bs) result := by
  constructor
  · intro h
    obtain ⟨r, hr⟩ := exists_reads path (Csv.Document.read false bs)
    rwa [← h, Table.read, hr.eq]
  · exact Reads.eq

/-! ## What the outcome depends on -/

/-- The two cells of a record that count. -/
structure HasCells (nameAt sizeAt : Nat) (record : Csv.Record) (cells : String × String) : Prop where
  name : HasCell record nameAt cells.1
  size : HasCell record sizeAt cells.2

/-- The text has both columns and readable records only, with these cells. -/
def HoldsCells (bs : Bytes) (cells : List (String × String)) : Prop :=
  ∃ (header : Csv.Record) (records : List Csv.Record) (nameAt sizeAt : Nat),
    Csv.Document.read false bs = ⟨.ok header, records.map .ok⟩ ∧
      IsColumn nameColumn header nameAt ∧ IsColumn sizeColumn header sizeAt ∧
      List.Forall₂ (HasCells nameAt sizeAt) records cells

/-- The rows for the given cells, the first of them having the given number. -/
def rowsOf (row : Nat) : List (String × String) → Except Error (List Row)
  | [] => .ok []
  | (name, cell) :: rest => match readSize cell with
    | .error _ => .error (.invalidSize row cell)
    | .ok size => (rowsOf (row + 1) rest).map (⟨name, size⟩ :: ·)

theorem readRows_eq_rowsOf {nameAt sizeAt : Nat} {records : List Csv.Record}
    {cells : List (String × String)} (h : List.Forall₂ (HasCells nameAt sizeAt) records cells)
    (row : Nat) : readRows nameAt sizeAt row (records.map .ok) = rowsOf row cells := by
  induction h generalizing row with
  | nil => rfl
  | @cons record cell _ _ hcells _ ih =>
    rw [List.map_cons, readRows, readRow, hasCell_iff.mp hcells.name, hasCell_iff.mp hcells.size,
      rowsOf, ih (row + 1)]
    cases readSize cell.2 <;> rfl

theorem HoldsCells.read_eq {bs : Bytes} {cells : List (String × String)} (h : HoldsCells bs cells)
    (path : String) : Table.read path bs = (rowsOf 1 cells).map fun rows => ⟨path, rows⟩ := by
  obtain ⟨header, records, nameAt, sizeAt, hd, hname, hsize, hcells⟩ := h
  rw [Table.read, ofDocument, hd]
  simp only [columnOf_eq_ok_iff.mpr hname, columnOf_eq_ok_iff.mpr hsize, bind, Except.bind,
    readRows_eq_rowsOf hcells 1]

/-- Every text has exactly the outcome that its header and the first record that cannot be read
decide, or else its rows. Hence nothing but the cells of the two columns counts when all records are
readable: not their place, the other columns, or the white space and quotes around them. -/
theorem Table.read_spec (path : String) (bs : Bytes) :
    (∀ result, Table.read path bs = result ↔ Reads path (.read false bs) result) ∧
      ∀ (bs' : Bytes) (cells : List (String × String)), HoldsCells bs cells → HoldsCells bs' cells →
        Table.read path bs = Table.read path bs' :=
  ⟨fun _ => Table.read_eq_iff, fun _ _ h h' => (h.read_eq path).trans (h'.read_eq path).symm⟩

private def plainText : Bytes := Text.bytes "index_name,index_size_bytes\nBTree, 7\n,\n"

/-- The same cells in other columns, the last two of them missing. -/
private def mixedText : Bytes :=
  Text.bytes "note, index_size_bytes ,index_name\r\nx,\"7\",BTree \r\ny\r\n"

private def spoiledText : Bytes :=
  Text.bytes "index_size_bytes,index_name\n nAn ,LIPP\n 12x ,LIPP\nworse,LIPP\n"

/-- A name and a size without the spaces around them, a record without either cell, and the first of
two sizes that are no numbers. -/
theorem Table.read_spec_columns :
    (∃ cells, HoldsCells plainText cells ∧ HoldsCells mixedText cells ∧
      Table.read "t" plainText = Table.read "t" mixedText) ∧
    Table.read "t" mixedText = .ok ⟨"t", [⟨"BTree", some 7⟩, ⟨"", none⟩]⟩ ∧
    Table.read "t" spoiledText = .error (.invalidSize 2 "12x") := by
  have hplain : HoldsCells plainText [("BTree", "7"), ("", "")] :=
    ⟨["index_name", "index_size_bytes"], [["BTree", " 7"], ["", ""]], 0, 1, rfl,
      columnOf_eq_ok_iff.mp rfl, columnOf_eq_ok_iff.mp rfl,
      .cons ⟨hasCell_iff.mpr rfl, hasCell_iff.mpr rfl⟩
        (.cons ⟨hasCell_iff.mpr rfl, hasCell_iff.mpr rfl⟩ .nil)⟩
  have hdoc : Csv.Document.read false mixedText =
      ⟨.ok ["note", " index_size_bytes ", "index_name"],
        [["x", "7", "BTree "], ["y"]].map .ok⟩ := rfl
  have hmixed : HoldsCells mixedText [("BTree", "7"), ("", "")] :=
    ⟨_, _, 2, 1, hdoc,
      columnOf_eq_ok_iff.mp rfl, columnOf_eq_ok_iff.mp rfl,
      .cons ⟨hasCell_iff.mpr rfl, hasCell_iff.mpr rfl⟩
        (.cons ⟨.missing (by decide), .missing (by decide)⟩ .nil)⟩
  have hseven : Number.read "7" = .ok 7 := by decide +kernel
  have hrows : Yields 2 1 1 [.ok ["x", "7", "BTree "], .ok ["y"]]
      (.ok [⟨"BTree", some 7⟩, ⟨"", none⟩]) :=
    .rows (.cons (.row (hasCell_iff.mpr rfl) (hasCell_iff.mpr rfl) (.number (by decide +kernel) hseven))
      (.cons (.row (.missing (by decide)) (.missing (by decide)) (.blank (.inl rfl))) .nil))
  have hspoiled : Yields 1 0 1
      [.ok [" nAn ", "LIPP"], .ok [" 12x ", "LIPP"], .ok ["worse", "LIPP"]]
      (.error (.invalidSize 2 "12x")) := by
    refine @Yields.spoiled _ _ _ _ [.ok [" nAn ", "LIPP"]] _ _ _ rfl ?_
      (.size (hasCell_iff.mpr rfl) (by decide +kernel) ?_)
    · simp only [List.mem_singleton, forall_eq]
      exact ⟨_, .row (hasCell_iff.mpr rfl) (hasCell_iff.mpr rfl) (.blank (.inr rfl))⟩
    · intro v h
      cases h
  refine ⟨⟨_, hplain, hmixed, (Table.read_spec "t" plainText).2 _ _ hplain hmixed⟩,
    ((Table.read_spec "t" mixedText).1 _).mpr ?_, ((Table.read_spec "t" spoiledText).1 _).mpr ?_⟩
  · rw [hdoc]
    exact @Reads.records "t" ⟨_, _⟩ _ 2 1 _ rfl (columnOf_eq_ok_iff.mp rfl)
      (columnOf_eq_ok_iff.mp rfl) hrows
  · have hdoc : Csv.Document.read false spoiledText = ⟨.ok ["index_size_bytes", "index_name"],
        [.ok [" nAn ", "LIPP"], .ok [" 12x ", "LIPP"], .ok ["worse", "LIPP"]]⟩ := rfl
    rw [hdoc]
    exact @Reads.records "t" ⟨_, _⟩ _ 1 0 _ rfl (columnOf_eq_ok_iff.mp rfl)
      (columnOf_eq_ok_iff.mp rfl) hspoiled

end Footprint.Results
