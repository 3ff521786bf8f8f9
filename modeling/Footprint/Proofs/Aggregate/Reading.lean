import Footprint.Proofs.Aggregate.History
import Footprint.Proofs.Csv.Lengths

/-!
# What a text is read as when it holds an aggregate

Records are read in order and their cells from left to right. The first record that cannot be read,
or the first cell that is neither empty nor a number, decides the outcome. Otherwise the last value
of a pair is kept, wherever its task and its index stand again.
-/
namespace Footprint.Aggregate

/-- Empty, or a number. -/
def IsValue (cell : String) : Prop := cell = "" ∨ ∃ v, Number.read cell = .ok v

/-- The values among the cells of one task, from left to right; an empty cell holds none. -/
def cellValues (task : String) (cells : List (String × String)) : List (String × String × Float) :=
  cells.filterMap fun (index, cell) => (Number.read cell).toOption.map (index, task, ·)

/-- The values of a record: its first cell is the task, the others stand below the indexes. -/
def rowValues (indexes : List String) (record : Csv.Record) : List (String × String × Float) :=
  cellValues (record.headD "") (indexes.zip record.tail)

/-- What is wrong with a record: it cannot be read, or a cell is the first that holds no number. -/
inductive Spoils (indexes : List String) : Except Csv.Error Csv.Record → ReadError → Prop
  | unreadable (cause : Csv.Error) : Spoils indexes (.error cause) (.csv cause)
  | value {record : Csv.Record} {left right : List (String × String)} {index cell : String}
    {cause : Number.ReadError} (hsplit : indexes.zip record.tail = left ++ (index, cell) :: right)
    (hleft : ∀ c ∈ left, IsValue c.2) (hne : cell ≠ "") (hread : Number.read cell = .error cause) :
    Spoils indexes (.ok record) (.value index (record.headD "") cell cause)

/-- All cells but the task are empty or numbers. -/
def IsSound (record : Csv.Record) : Prop := ∀ cell ∈ record.tail, IsValue cell

/-- The first record that is not sound decides the outcome, whatever follows it. -/
inductive Fails (indexes : List String) (records : List (Except Csv.Error Csv.Record)) :
    ReadError → Prop
  | intro {before : List Csv.Record} {record : Except Csv.Error Csv.Record}
    {after : List (Except Csv.Error Csv.Record)} {e : ReadError}
    (hsplit : records = before.map .ok ++ record :: after) (hbefore : ∀ r ∈ before, IsSound r)
    (hrecord : Spoils indexes record e) : Fails indexes records e

/-! ## The cells of a row -/

theorem cellValues_of_empty (task index : String) (cells : List (String × String)) :
    cellValues task ((index, "") :: cells) = cellValues task cells := by
  have hread : Number.read "" = .error .empty := rfl
  simp [cellValues, hread, Except.toOption]

theorem cellValues_of_number {cell : String} {v : Float} (h : Number.read cell = .ok v)
    (task index : String) (cells : List (String × String)) :
    cellValues task ((index, cell) :: cells) = (index, task, v) :: cellValues task cells := by
  simp [cellValues, h, Except.toOption]

/-- Cells in front that hold values, or nothing, are passed. -/
theorem insertCells_append (task : String) (t : Aggregate) {left : List (String × String)}
    (h : ∀ c ∈ left, IsValue c.2) (right : List (String × String)) :
    insertCells task t (left ++ right) = insertCells task (t.insertAll (cellValues task left)) right := by
  induction left generalizing t with
  | nil => rfl
  | cons first left ih =>
    obtain ⟨index, cell⟩ := first
    have hleft : ∀ c ∈ left, IsValue c.2 := fun c hc => h c (List.mem_cons_of_mem _ hc)
    rw [List.cons_append, insertCells]
    split
    · next hempty => rw [ih t hleft, hempty, cellValues_of_empty]
    · next hne =>
      obtain ⟨v, hv⟩ := (h _ List.mem_cons_self).resolve_left hne
      rw [cellValues_of_number hv]
      simp only [hv]
      exact ih (t.insert index task v) hleft

theorem insertCells_of_values (task : String) (t : Aggregate) {cells : List (String × String)}
    (h : ∀ c ∈ cells, IsValue c.2) :
    insertCells task t cells = .ok (t.insertAll (cellValues task cells)) := by
  simpa [insertCells] using insertCells_append task t h []

theorem insertCells_of_split (task : String) (t : Aggregate) {left : List (String × String)}
    (hleft : ∀ c ∈ left, IsValue c.2) (right : List (String × String)) {index cell : String}
    (hne : cell ≠ "") {cause : Number.ReadError} (hread : Number.read cell = .error cause) :
    insertCells task t (left ++ (index, cell) :: right) = .error (.value index task cell cause) := by
  rw [insertCells_append task t hleft, insertCells, if_neg hne]
  simp only [hread]

/-- All cells hold values or nothing, or there is a first one that does not. -/
theorem values_or_split (cells : List (String × String)) : (∀ c ∈ cells, IsValue c.2) ∨
    ∃ left index cell right cause, cells = left ++ (index, cell) :: right ∧
      (∀ c ∈ left, IsValue c.2) ∧ cell ≠ "" ∧ Number.read cell = .error cause := by
  induction cells with
  | nil => exact .inl (by simp)
  | cons first rest ih =>
    by_cases hfirst : IsValue first.2
    · rcases ih with hrest | ⟨left, index, cell, right, cause, rfl, hleft, hne, hread⟩
      · exact .inl (List.forall_mem_cons.mpr ⟨hfirst, hrest⟩)
      · exact .inr ⟨first :: left, index, cell, right, cause, rfl,
          List.forall_mem_cons.mpr ⟨hfirst, hleft⟩, hne, hread⟩
    · have hne : first.2 ≠ "" := fun h => hfirst (.inl h)
      cases hread : Number.read first.2 with
      | ok v => exact absurd (.inr ⟨v, hread⟩) hfirst
      | error cause => exact .inr ⟨[], first.1, first.2, rest, cause, rfl, by simp, hne, hread⟩

/-! ## One record -/

/-- A record that fits has a task, and a cell for each index. -/
def Fits (indexes : List String) (record : Csv.Record) : Prop :=
  record ≠ [] ∧ record.tail.length = indexes.length

/-- The aggregate with a record added. -/
def addRecord (indexes : List String) (t : Aggregate) (record : Csv.Record) : Aggregate :=
  ({ t with tasks := appendNew (record.headD "") t.tasks } : Aggregate).insertAll
    (rowValues indexes record)

section Record

variable {indexes : List String} {record : Csv.Record}

theorem Fits.insertRecord_eq (h : Fits indexes record) (t : Aggregate) :
    insertRecord indexes t (.ok record) = insertCells (record.headD "")
      { t with tasks := appendNew (record.headD "") t.tasks } (indexes.zip record.tail) := by
  obtain ⟨hne, hlength⟩ := h
  obtain ⟨task, cells, rfl⟩ := List.exists_cons_of_ne_nil hne
  rw [insertRecord]
  exact if_pos hlength

theorem Fits.isSound_iff (h : Fits indexes record) :
    IsSound record ↔ ∀ c ∈ indexes.zip record.tail, IsValue c.2 := by
  -- No cell is left out, since there is an index for each of them.
  have hcells : (indexes.zip record.tail).map (·.2) = record.tail :=
    List.map_snd_zip (Nat.le_of_eq h.2)
  rw [IsSound, ← hcells, List.forall_mem_map, hcells]

theorem Fits.insertRecord_of_sound (h : Fits indexes record) (hsound : IsSound record)
    (t : Aggregate) : insertRecord indexes t (.ok record) = .ok (addRecord indexes t record) := by
  rw [h.insertRecord_eq, insertCells_of_values _ _ (h.isSound_iff.mp hsound)]
  rfl

end Record

theorem Spoils.insertRecord_eq {indexes : List String} {record : Except Csv.Error Csv.Record}
    {e : ReadError} (h : Spoils indexes record e) (hfits : ∀ r, record = .ok r → Fits indexes r)
    (t : Aggregate) : insertRecord indexes t record = .error e := by
  cases h with
  | unreadable cause => rfl
  | @value record left right index cell cause hsplit hleft hne hread =>
    rw [(hfits record rfl).insertRecord_eq, hsplit, insertCells_of_split _ _ hleft right hne hread]

theorem sound_or_spoils {indexes : List String} {record : Except Csv.Error Csv.Record}
    (hfits : ∀ r, record = .ok r → Fits indexes r) :
    (∃ r, record = .ok r ∧ IsSound r) ∨ ∃ e, Spoils indexes record e := by
  cases record with
  | error cause => exact .inr ⟨_, .unreadable cause⟩
  | ok r =>
    rcases values_or_split (indexes.zip r.tail) with
      hvalues | ⟨left, index, cell, right, cause, hsplit, hleft, hne, hread⟩
    · exact .inl ⟨r, rfl, (hfits r rfl).isSound_iff.mpr hvalues⟩
    · exact .inr ⟨_, .value hsplit hleft hne hread⟩

/-! ## All records -/

section Records

variable {indexes : List String}

theorem foldlM_of_sound {records : List Csv.Record} (hfits : ∀ r ∈ records, Fits indexes r)
    (hsound : ∀ r ∈ records, IsSound r) (t : Aggregate)
    (rest : List (Except Csv.Error Csv.Record)) :
    (records.map Except.ok ++ rest).foldlM (insertRecord indexes) t =
      rest.foldlM (insertRecord indexes) (records.foldl (addRecord indexes) t) := by
  induction records generalizing t with
  | nil => rfl
  | cons r records ih =>
    obtain ⟨hfit, hfits⟩ := List.forall_mem_cons.mp hfits
    obtain ⟨hr, hsound⟩ := List.forall_mem_cons.mp hsound
    rw [List.map_cons, List.cons_append, List.foldlM_cons, hfit.insertRecord_of_sound hr]
    exact ih hfits hsound (addRecord indexes t r)

theorem Fails.foldlM_eq {records : List (Except Csv.Error Csv.Record)} {e : ReadError}
    (h : Fails indexes records e) (hfits : ∀ r, Except.ok r ∈ records → Fits indexes r)
    (t : Aggregate) : records.foldlM (insertRecord indexes) t = .error e := by
  obtain ⟨rfl, hbefore, hrecord⟩ := h
  rw [foldlM_of_sound (fun r hr => hfits r (List.mem_append_left _ (List.mem_map_of_mem hr))) hbefore,
    List.foldlM_cons, hrecord.insertRecord_eq fun r hr => hfits r (by simp [hr])]
  rfl

theorem sound_or_fails {records : List (Except Csv.Error Csv.Record)}
    (hfits : ∀ r, Except.ok r ∈ records → Fits indexes r) :
    (∃ rs : List Csv.Record, records = rs.map .ok ∧ ∀ r ∈ rs, IsSound r) ∨
      ∃ e, Fails indexes records e := by
  induction records with
  | nil => exact .inl ⟨[], rfl, by simp⟩
  | cons record records ih =>
    have hrest : ∀ r, Except.ok r ∈ records → Fits indexes r := fun r hr =>
      hfits r (List.mem_cons_of_mem _ hr)
    have hfirst : ∀ r, record = .ok r → Fits indexes r := fun r hr =>
      hfits r (hr ▸ List.mem_cons_self)
    rcases sound_or_spoils hfirst with ⟨r, rfl, hr⟩ | ⟨e, hspoils⟩
    · rcases ih hrest with ⟨rs, rfl, hsound⟩ | ⟨e, hfails⟩
      · exact .inl ⟨r :: rs, rfl, List.forall_mem_cons.mpr ⟨hr, hsound⟩⟩
      · obtain ⟨rfl, hbefore, hspoils⟩ := hfails
        have hcons : ∀ s ∈ r :: _, IsSound s := List.forall_mem_cons.mpr ⟨hr, hbefore⟩
        exact .inr ⟨e, .intro rfl hcons hspoils⟩
    · have hnone : ∀ s ∈ ([] : List Csv.Record), IsSound s := by simp
      exact .inr ⟨e, .intro rfl hnone hspoils⟩

end Records

/-! ## The table -/

theorem lastValue_append (cells added : List (String × String × Float)) (index task : String) :
    lastValue (cells ++ added) index task =
      (lastValue added index task).or (lastValue cells index task) := by
  rw [lastValue, List.reverse_append, List.findSome?_append]
  rfl

/-- Values of listed pairs leave both lists as they are. -/
theorem lists_insertAll {t : Aggregate} {cells : List (String × String × Float)}
    (h : ∀ c ∈ cells, c.1 ∈ t.indexes ∧ c.2.1 ∈ t.tasks) :
    (t.insertAll cells).indexes = t.indexes ∧ (t.insertAll cells).tasks = t.tasks := by
  induction cells using List.reverseRecOn with
  | nil => exact ⟨rfl, rfl⟩
  | append_singleton cells cell ih =>
    obtain ⟨index, task, value⟩ := cell
    obtain ⟨hindexes, htasks⟩ := ih fun c hc => h c (List.mem_append_left _ hc)
    obtain ⟨hindex, htask⟩ := h (index, task, value) (by simp)
    rw [insertAll_concat]
    constructor
    · rw [insert, hindexes, appendNew_of_mem hindex]
    · rw [insert, htasks, appendNew_of_mem htask]

theorem mem_of_mem_rowValues {indexes : List String} {record : Csv.Record}
    {c : String × String × Float} (h : c ∈ rowValues indexes record) :
    c.1 ∈ indexes ∧ c.2.1 = record.headD "" := by
  obtain ⟨⟨index, cell⟩, hmem, hc⟩ := List.mem_filterMap.mp h
  obtain ⟨v, -, rfl⟩ := Option.map_eq_some_iff.mp hc
  exact ⟨(List.of_mem_zip hmem).1, rfl⟩

/-- What has been read after some records. -/
structure Holds (t : Aggregate) (workload : String) (indexes : List String)
    (records : List Csv.Record) : Prop where
  workload_eq : t.workload = workload
  indexes_eq : t.indexes = indexes
  tasks_eq : t.tasks = (records.map (·.headD "")).eraseDups
  get?_eq : ∀ index task,
    t.get? index task = lastValue (records.flatMap (rowValues indexes)) index task

theorem Holds.addRecord {t : Aggregate} {workload : String} {indexes : List String}
    {records : List Csv.Record} (h : t.Holds workload indexes records) (record : Csv.Record) :
    (addRecord indexes t record).Holds workload indexes (records ++ [record]) := by
  let s : Aggregate := { t with tasks := appendNew (record.headD "") t.tasks }
  have hlisted : ∀ c ∈ rowValues indexes record, c.1 ∈ s.indexes ∧ c.2.1 ∈ s.tasks := by
    intro c hc
    obtain ⟨hindex, htask⟩ := mem_of_mem_rowValues hc
    exact ⟨h.indexes_eq ▸ hindex, mem_appendNew.mpr (.inl htask)⟩
  obtain ⟨hindexes, htasks⟩ := lists_insertAll hlisted
  refine ⟨(workload_insertAll s _).trans h.workload_eq, hindexes.trans h.indexes_eq, ?_, ?_⟩
  · rw [List.map_append, List.map_singleton, eraseDups_concat, ← h.tasks_eq]
    exact htasks
  · intro index task
    rw [List.flatMap_append, List.flatMap_singleton, lastValue_append, ← h.get?_eq]
    exact get?_insertAll s (rowValues indexes record) index task

theorem holds_foldl (workload : String) (indexes : List String) (records : List Csv.Record) :
    (records.foldl (addRecord indexes) (new workload indexes [])).Holds workload indexes records := by
  induction records using List.reverseRecOn with
  | nil => exact ⟨rfl, rfl, rfl, fun index task => get?_new _ _ _ _ _⟩
  | append_singleton records record ih =>
    rw [List.foldl_append]
    exact ih.addRecord record

/-! ## Any text -/

theorem fits_of_mem_records {bs : Bytes} {header record : Csv.Record}
    (hheader : (Csv.Document.read true bs).header = .ok header)
    (hrecord : .ok record ∈ (Csv.Document.read true bs).records) : Fits header.tail record := by
  obtain ⟨hne, hlength⟩ := (Csv.Document.of_mem_records hheader hrecord).1 record rfl
  exact ⟨hne, by rw [List.length_tail, List.length_tail, hlength]⟩

section Text

variable {workload : String} {bs : Bytes} {header : Csv.Record}

theorem ofCsv_of_unreadable {cause : Csv.Error}
    (h : (Csv.Document.read true bs).header = .error cause) :
    ofCsv workload bs = .error (.csv cause) := by
  simp only [ofCsv, h]

theorem ofCsv_of_header (h : (Csv.Document.read true bs).header = .ok header) :
    ofCsv workload bs = (Csv.Document.read true bs).records.foldlM (insertRecord header.tail)
      (new workload header.tail []) := by
  simp only [ofCsv, h]

theorem ofCsv_of_fails (h : (Csv.Document.read true bs).header = .ok header) {e : ReadError}
    (hfails : Fails header.tail (Csv.Document.read true bs).records e) :
    ofCsv workload bs = .error e := by
  rw [ofCsv_of_header h]
  exact hfails.foldlM_eq (fun _ hr => fits_of_mem_records h hr) _

theorem ofCsv_of_sound {records : List Csv.Record}
    (h : Csv.Document.read true bs = ⟨.ok header, records.map .ok⟩)
    (hsound : ∀ r ∈ records, IsSound r) : ofCsv workload bs =
      .ok (records.foldl (addRecord header.tail) (new workload header.tail [])) := by
  have hheader : (Csv.Document.read true bs).header = .ok header := by rw [h]
  have hfits : ∀ r ∈ records, Fits header.tail r := fun r hr =>
    fits_of_mem_records hheader (by rw [h]; exact List.mem_map_of_mem hr)
  have hread := foldlM_of_sound hfits hsound (new workload header.tail []) []
  rw [List.append_nil] at hread
  rw [ofCsv_of_header hheader, h]
  exact hread

end Text

/-- Either a record is to blame or all of them are sound. -/
theorem unreadable_or_fails_or_sound (bs : Bytes) :
    (∃ cause, (Csv.Document.read true bs).header = .error cause) ∨
      ∃ header, (Csv.Document.read true bs).header = .ok header ∧
        ((∃ e, Fails header.tail (Csv.Document.read true bs).records e) ∨
          ∃ records : List Csv.Record,
            Csv.Document.read true bs = ⟨.ok header, records.map .ok⟩ ∧
              ∀ r ∈ records, IsSound r) := by
  cases hheader : (Csv.Document.read true bs).header with
  | error cause => exact .inl ⟨cause, rfl⟩
  | ok header =>
    refine .inr ⟨header, rfl, ?_⟩
    rcases sound_or_fails fun _ hr => fits_of_mem_records hheader hr with
      ⟨records, hrecords, hsound⟩ | hfails
    · exact .inr ⟨records, by rw [← hheader, ← hrecords], hsound⟩
    · exact .inl hfails

theorem ofCsv_eq_error_iff {workload : String} {bs : Bytes} {e : ReadError} :
    ofCsv workload bs = .error e ↔
      (∃ cause, (Csv.Document.read true bs).header = .error cause ∧ e = .csv cause) ∨
        ∃ header, (Csv.Document.read true bs).header = .ok header ∧
          Fails header.tail (Csv.Document.read true bs).records e := by
  constructor
  · intro h
    rcases unreadable_or_fails_or_sound bs with
      ⟨cause, hheader⟩ | ⟨header, hheader, ⟨e', hfails⟩ | ⟨records, hd, hsound⟩⟩
    · rw [ofCsv_of_unreadable hheader] at h
      exact .inl ⟨cause, hheader, (Except.error.inj h).symm⟩
    · rw [ofCsv_of_fails hheader hfails] at h
      exact .inr ⟨header, hheader, Except.error.inj h ▸ hfails⟩
    · rw [ofCsv_of_sound hd hsound] at h
      cases h
  · rintro (⟨cause, hheader, rfl⟩ | ⟨header, hheader, hfails⟩)
    · exact ofCsv_of_unreadable hheader
    · exact ofCsv_of_fails hheader hfails

theorem sound_of_ofCsv {workload : String} {bs : Bytes} {t : Aggregate}
    (h : ofCsv workload bs = .ok t) : ∃ (header : Csv.Record) (records : List Csv.Record),
      Csv.Document.read true bs = ⟨.ok header, records.map .ok⟩ ∧ (∀ r ∈ records, IsSound r) ∧
        t.Holds workload header.tail records := by
  rcases unreadable_or_fails_or_sound bs with
    ⟨cause, hheader⟩ | ⟨header, hheader, ⟨e, hfails⟩ | ⟨records, hd, hsound⟩⟩
  · rw [ofCsv_of_unreadable hheader] at h
    cases h
  · rw [ofCsv_of_fails hheader hfails] at h
    cases h
  · rw [ofCsv_of_sound hd hsound] at h
    cases h
    exact ⟨header, records, hd, hsound, holds_foldl workload header.tail records⟩

/-- Any text is refused for its header, or for the first record that is not sound, and for nothing
else; a record that can be read is never too short, too long or without a task. A text with sound
records only is read. Its indexes are the header without its first cell and its tasks are the first
cells, each listed once. A pair holds its last value, row by row and from left to right. -/
theorem ofCsv_spec (workload : String) (bs : Bytes) :
    let d := Csv.Document.read true bs
    (∀ e, ofCsv workload bs = .error e ↔ (∃ cause, d.header = .error cause ∧ e = .csv cause) ∨
      ∃ header, d.header = .ok header ∧ Fails header.tail d.records e) ∧
    (∀ header, d.header = .ok header → ∀ record ∈ d.records,
      (∀ r, record = .ok r → r ≠ [] ∧ r.length = header.length) ∧
        ∀ cause, record = .error cause →
          (∃ n place field offset, cause = .invalidText n place field offset) ∨
            ∃ n place found, found ≠ header.length ∧
              cause = .unequalLengths n place found header.length) ∧
    (ofCsv workload bs ≠ .error .missingTask ∧
      ∀ task found expected, ofCsv workload bs ≠ .error (.width task found expected)) ∧
    ((∃ t, ofCsv workload bs = .ok t) ↔ ∃ (header : Csv.Record) (records : List Csv.Record),
      d = ⟨.ok header, records.map .ok⟩ ∧ ∀ r ∈ records, IsSound r) ∧
    ∀ t, ofCsv workload bs = .ok t → ∃ (header : Csv.Record) (records : List Csv.Record),
      d = ⟨.ok header, records.map .ok⟩ ∧ t.workload = workload ∧ t.indexes = header.tail ∧
        t.tasks = (records.map (·.headD "")).eraseDups ∧ ∀ index task,
          t.get? index task = lastValue (records.flatMap (rowValues header.tail)) index task := by
  intro d
  -- Only two of the four kinds of error occur, as the reader of records keeps to one width.
  have herror : ∀ e, ofCsv workload bs = .error e →
      (∃ cause, e = .csv cause) ∨ ∃ index task cell cause, e = .value index task cell cause := by
    intro e h
    rcases ofCsv_eq_error_iff.mp h with ⟨cause, -, rfl⟩ | ⟨header, -, -, -, hrecord⟩
    · exact .inl ⟨cause, rfl⟩
    · cases hrecord with
      | unreadable cause => exact .inl ⟨cause, rfl⟩
      | value hsplit hleft hne hread => exact .inr ⟨_, _, _, _, rfl⟩
  refine ⟨fun e => ofCsv_eq_error_iff, fun header hheader record hrecord =>
    Csv.Document.of_mem_records hheader hrecord, ⟨?_, ?_⟩, ⟨?_, ?_⟩, ?_⟩
  · intro h
    simpa using herror _ h
  · intro task found expected h
    simpa using herror _ h
  · rintro ⟨t, h⟩
    obtain ⟨header, records, hd, hsound, -⟩ := sound_of_ofCsv h
    exact ⟨header, records, hd, hsound⟩
  · rintro ⟨header, records, hd, hsound⟩
    exact ⟨_, ofCsv_of_sound hd hsound⟩
  · intro t h
    obtain ⟨header, records, hd, -, hholds⟩ := sound_of_ofCsv h
    exact ⟨header, records, hd, hholds.workload_eq, hholds.indexes_eq, hholds.tasks_eq,
      hholds.get?_eq⟩

theorem ofCsv_spec_repeated : ∃ t,
    ofCsv "mix" (Text.bytes ",a,b,a\nx,nan,,inf\ny,,,\nx,,nan,\n") = .ok t ∧
      t.tasks = ["x", "y"] ∧
        t.get? "a" "x" = some (Number.ofMagnitude false Number.infinityBits) ∧
          t.get? "b" "y" = none := by
  let text := Text.bytes ",a,b,a\nx,nan,,inf\ny,,,\nx,,nan,\n"
  let rows : List Csv.Record := [["x", "nan", "", "inf"], ["y", "", "", ""], ["x", "", "nan", ""]]
  have hdoc : Csv.Document.read true text = ⟨.ok ["", "a", "b", "a"], rows.map .ok⟩ := rfl
  have hread : ∃ t, ofCsv "mix" text = .ok t := ⟨_, rfl⟩
  obtain ⟨t, h⟩ := hread
  obtain ⟨-, -, -, -, hspec⟩ := ofCsv_spec "mix" text
  obtain ⟨header, records, hd, -, -, htasks, hget⟩ := hspec t h
  obtain ⟨hheader, hrecords⟩ := Csv.Document.mk.inj (hdoc.symm.trans hd)
  obtain rfl : ["", "a", "b", "a"] = header := Except.ok.inj hheader
  obtain rfl : rows = records :=
    (List.map_injective_iff.mpr fun _ _ h => Except.ok.inj h) hrecords
  exact ⟨t, h, htasks, hget "a" "x", hget "b" "y"⟩

end Footprint.Aggregate
