import Footprint.Proofs.Aggregate.History
import Footprint.Proofs.Csv.Quoting
import Footprint.Proofs.Number.Classes
import Footprint.Proofs.Number.Whole

/-!
# The text of a value in a cell

No character of a printed number means anything to a reader of comma-separated text, so a cell is
the text of its value and nothing else. Reading it gives the value back, bit for bit. A whole number
is written out up to sixteen digits, with a zero behind the point; beyond that an exponent takes the
place of both.
-/
namespace Footprint

/-! ## The characters of a number -/

namespace Number

/-- The characters that numbers are written with, in every style. -/
def isNumberChar (c : Char) : Bool :=
  isDigit c || ['-', '+', '.', 'e', 'N', 'a', 'i', 'n', 'f'].contains c

section Characters

variable {ds : List Char}

theorem isNumberChar_of_digits (hds : ∀ c ∈ ds, isDigit c = true) :
    ∀ c ∈ ds, isNumberChar c = true := fun c hc => by
  rw [isNumberChar, hds c hc, Bool.true_or]

theorem isNumberChar_positionalText (pointed : Bool) (hds : ∀ c ∈ ds, isDigit c = true) (p : ℤ) :
    ∀ c ∈ positionalText pointed ds p, isNumberChar c = true := by
  have hall := isNumberChar_of_digits hds
  have hzeros (n : ℕ) := isNumberChar_of_digits (isDigit_zeros n)
  have htake (n : ℕ) : ∀ c ∈ ds.take n, isNumberChar c = true := fun c hc =>
    hall c (List.mem_of_mem_take hc)
  have hdrop (n : ℕ) : ∀ c ∈ ds.drop n, isNumberChar c = true := fun c hc =>
    hall c (List.mem_of_mem_drop hc)
  have hpoint : isNumberChar '.' = true := rfl
  have hzero : isNumberChar '0' = true := rfl
  by_cases hp : p < 0
  · simp only [positionalText, if_pos hp, List.forall_mem_append, List.forall_mem_cons]
    exact ⟨⟨hzero, hpoint, hzeros _⟩, hall⟩
  · simp only [positionalText, if_neg hp]
    split_ifs
    all_goals simp only [List.forall_mem_append, List.forall_mem_cons]
    · exact ⟨⟨hall, hzeros _⟩, hpoint, hzero, List.forall_mem_nil _⟩
    · exact ⟨⟨hall, hzeros _⟩, List.forall_mem_nil _⟩
    · exact ⟨htake _, hpoint, hdrop _⟩

theorem isNumberChar_exponentText (plus : Bool) (p : ℤ) :
    ∀ c ∈ exponentText plus p, isNumberChar c = true := by
  have hdigits := isNumberChar_of_digits (isDigit_toDigits p.natAbs)
  have he : isNumberChar 'e' = true := rfl
  rw [exponentText]
  split_ifs
  all_goals simp only [List.forall_mem_append, List.forall_mem_cons]
  · exact ⟨⟨he, rfl, List.forall_mem_nil _⟩, hdigits⟩
  · exact ⟨⟨he, rfl, List.forall_mem_nil _⟩, hdigits⟩
  · exact ⟨⟨he, List.forall_mem_nil _⟩, hdigits⟩

theorem isNumberChar_scientificText (plus : Bool) (hds : ∀ c ∈ ds, isDigit c = true) (p : ℤ) :
    ∀ c ∈ scientificText plus ds p, isNumberChar c = true := by
  have hall := isNumberChar_of_digits hds
  have htake : ∀ c ∈ ds.take 1, isNumberChar c = true := fun c hc =>
    hall c (List.mem_of_mem_take hc)
  have hdrop : ∀ c ∈ ds.drop 1, isNumberChar c = true := fun c hc =>
    hall c (List.mem_of_mem_drop hc)
  rw [scientificText]
  split_ifs
  all_goals simp only [List.forall_mem_append, List.forall_mem_cons]
  · exact ⟨⟨htake, List.forall_mem_nil _⟩, isNumberChar_exponentText plus p⟩
  · exact ⟨⟨htake, rfl, hdrop⟩, isNumberChar_exponentText plus p⟩

end Characters

theorem isNumberChar_signed (negative : Bool) {cs : List Char}
    (h : ∀ c ∈ cs, isNumberChar c = true) : ∀ c ∈ signed negative cs, isNumberChar c = true := by
  cases negative with
  | false => exact h
  | true => exact List.forall_mem_cons.mpr ⟨rfl, h⟩

theorem Style.isNumberChar_chars (s : Style) (v : Float) :
    ∀ c ∈ s.chars v, isNumberChar c = true := by
  have hnan : ∀ c ∈ ['N', 'a', 'N'], isNumberChar c = true := by simp [isNumberChar]
  have hinf : ∀ c ∈ ['i', 'n', 'f'], isNumberChar c = true := by simp [isNumberChar]
  simp only [Style.chars]
  split_ifs
  · exact hnan
  · exact isNumberChar_signed _ hinf
  · refine isNumberChar_signed _ ?_
    rw [Style.decimalText]
    split_ifs
    · exact isNumberChar_positionalText s.pointed (Decimal.isDigit_digits _) _
    · exact isNumberChar_scientificText s.plus (Decimal.isDigit_digits _) _

end Number

namespace Aggregate

/-! ## Cells -/

theorem cellText_plain (v : Float) :
    ∀ c ∈ (cellText v).toList, c ≠ ',' ∧ c ≠ '"' ∧ c ≠ '\n' ∧ c ≠ '\r' := by
  intro c hc
  rw [cellText, Number.Style.text, String.toList_ofList] at hc
  have hnumber := Number.Style.isNumberChar_chars _ v c hc
  refine ⟨?_, ?_, ?_, ?_⟩ <;> rintro rfl <;> cases hnumber

theorem insertCells_cellText (t : Aggregate) (index task : String) (v : Float) :
    insertCells task t [(index, cellText v)] = .ok (t.insert index task v) := by
  simp only [insertCells, if_neg (cellText_ne_empty v), read_cellText]

theorem cellText_inj {v w : Float} : cellText v = cellText w ↔ v = w := by
  refine ⟨fun h => ?_, congrArg cellText⟩
  have hread := read_cellText v
  rw [h, read_cellText w] at hread
  exact (Except.ok.inj hread).symm

/-- Every word of 64 bits as a value. Its text is not empty and needs no quotes; reading the text as
a cell gives the very word back, or what is not a number for a word that is none. So two words that
are numbers have texts of their own. -/
theorem cellText_lossless (w : UInt64) :
    ((Float.ofBits w).isNaN = true ↔ Number.infinityBits < w.toNat % 2 ^ 63) ∧
    cellText (Float.ofBits w) ≠ "" ∧
    (∀ c ∈ (cellText (Float.ofBits w)).toList, c ≠ ',' ∧ c ≠ '"' ∧ c ≠ '\n' ∧ c ≠ '\r') ∧
    (∃ u, Number.read (cellText (Float.ofBits w)) = .ok u ∧
      (∀ (t : Aggregate) (index task : String),
        insertCells task t [(index, cellText (Float.ofBits w))] = .ok (t.insert index task u)) ∧
      ((Float.ofBits w).isNaN = true → u.isNaN = true) ∧
      ((Float.ofBits w).isNaN = false → u.toBits = w)) ∧
    ∀ w', (Float.ofBits w).isNaN = false → (Float.ofBits w').isNaN = false →
      cellText (Float.ofBits w') = cellText (Float.ofBits w) → w' = w := by
  have hkept : ∀ x, (Float.ofBits x).isNaN = false → (Float.ofBits x).toBits = x := by
    intro x hx
    refine Number.toBits_ofBits_of_le (Nat.not_lt.mp fun hlt => ?_)
    rw [(Number.isNaN_ofBits_iff x).mpr hlt] at hx
    cases hx
  refine ⟨Number.isNaN_ofBits_iff w, cellText_ne_empty _, cellText_plain _,
    ⟨Float.ofBits w, read_cellText _, fun t index task => insertCells_cellText t index task _, id,
      hkept w⟩, ?_⟩
  intro w' hw hw' htext
  rw [← hkept w' hw', cellText_inj.mp htext, hkept w hw]

theorem cellText_lossless_edges :
    (∃ u, Number.read "-0.0" = .ok u ∧ u.toBits = 0x8000000000000000) ∧
    (∃ u, Number.read "5e-324" = .ok u ∧ u.toBits = 1) ∧
    (∃ u, Number.read "1.7976931348623157e308" = .ok u ∧ u.toBits = 0x7FEFFFFFFFFFFFFF) ∧
    (∃ u, Number.read "-inf" = .ok u ∧ u.toBits = 0xFFF0000000000000) ∧
    (∃ u, Number.read "NaN" = .ok u ∧ u.isNaN = true) ∧
    cellText (Float.ofBits 0x8000000000000000) ≠ cellText (Float.ofBits 0) := by
  have key (w : UInt64) (cell : String) (hcell : cellText (Float.ofBits w) = cell)
      (hnumber : (Float.ofBits w).isNaN = false) :
      ∃ u, Number.read cell = .ok u ∧ u.toBits = w := by
    obtain ⟨-, -, -, ⟨u, hread, -, -, hbits⟩, -⟩ := cellText_lossless w
    exact ⟨u, hcell ▸ hread, hbits hnumber⟩
  refine ⟨key _ _ (by decide +kernel) (by decide +kernel),
    key _ _ (by decide +kernel) (by decide +kernel),
    key _ _ (by decide +kernel) (by decide +kernel),
    key _ _ (by decide +kernel) (by decide +kernel), ?_, fun h => ?_⟩
  · obtain ⟨-, -, -, ⟨u, hread, -, hnan, -⟩, -⟩ := cellText_lossless 0xFFF0000000000001
    have hcell : cellText (Float.ofBits 0xFFF0000000000001) = "NaN" := by decide +kernel
    exact ⟨u, hcell ▸ hread, hnan (by decide +kernel)⟩
  · obtain ⟨-, -, -, -, hinj⟩ := cellText_lossless 0
    exact absurd (hinj _ (by decide +kernel) (by decide +kernel) h) (by decide)

/-! ## Cells of whole numbers -/

/-- What is written for `t` is read as rows of which one is that of `task`; each such row holds
`cell` in the columns of `index`, and `cell` is written there as it stands. -/
structure Shows (t : Aggregate) (index task cell : String) : Prop where
  rows : Csv.Document.read true t.toCsv = ⟨.ok ("" :: t.indexes), t.records.tail.map .ok⟩
  column : index ∈ t.indexes
  row : ∃ row ∈ t.records.tail, row.head? = some task
  cells : ∀ row ∈ t.records.tail, row.head? = some task → ∀ j : ℕ, t.indexes[j]? = some index →
    row.tail[j]? = some cell
  plain : Csv.encodeField (Text.bytes cell) = Text.bytes cell

theorem WellFormed.shows {t : Aggregate} (h : t.WellFormed) {index task : String} {v : Float}
    (hv : t.get? index task = some v) : t.Shows index task (cellText v) := by
  obtain ⟨hcolumn, hrow, hcell⟩ := h.cell_of_value hv
  refine ⟨?_, hcolumn, hrow, hcell, Csv.encodeField_of_plain (cellText_plain v)⟩
  rw [t.read_toCsv]
  simp [records]

theorem toList_cellText (v : Float) : (cellText v).toList = Number.Style.cell.chars v :=
  String.toList_ofList

/-- A whole number is written as its decimal digits with a point and a zero behind them, and a minus
in front if it is negative, exactly when it has at most sixteen digits. From `10 ^ 16` on, the text
is a digit, perhaps a point with more digits, and an exponent. In either case it is what stands in
the cells of the value, in the text of any aggregate that insertions have built. -/
theorem writtenWhole_cellText_iff {v : Float} {n : ℕ} (h : Number.IsWhole v n) :
    (Number.WrittenWhole (cellText v).toList ↔ n < 10 ^ 16) ∧
    (n < 10 ^ 16 → (cellText v).toList =
      Number.signed (Number.isNegative v) (Nat.toDigits 10 n ++ ['.', '0'])) ∧
    (10 ^ 16 ≤ n → ∃ (d : Char) (ds : List Char) (p : ℕ),
      (∀ c ∈ d :: ds, Number.isDigit c = true) ∧ 16 ≤ p ∧ (cellText v).toList =
        Number.signed (Number.isNegative v)
          (d :: ((if ds = [] then [] else '.' :: ds) ++ 'e' :: Nat.toDigits 10 p))) ∧
    ∀ s : Aggregate, Initial s → ∀ cells index task,
      (s.insertAll cells).get? index task = some v →
        (s.insertAll cells).Shows index task (cellText v) := by
  rw [toList_cellText]
  refine ⟨⟨fun hwritten => Nat.not_le.mp fun hn => ?_, fun hn => ?_⟩,
    fun hn => Number.Style.cell_chars_of_lt h hn, fun hn => Number.Style.cell_chars_of_ge h hn,
    fun s hs cells index task hv => (hs.wellFormed.insertAll cells).shows hv⟩
  · obtain ⟨d, ds, p, -, -, hchars⟩ := Number.Style.cell_chars_of_ge h hn
    rw [hchars] at hwritten
    refine hwritten.not_mem ?_
    cases Number.isNegative v <;> simp [Number.signed]
  · rw [Number.Style.cell_chars_of_lt h hn]
    exact Number.writtenWhole_toDigits _ n

/-- The largest whole number with sixteen digits, and the next one. -/
theorem writtenWhole_cellText_iff_sixteen :
    Number.IsWhole (-9999999999999998) 9999999999999998 ∧
    cellText (-9999999999999998) = "-9999999999999998.0" ∧
    ((new "mix" ["a"] []).insert "a" "x" (-9999999999999998)).Shows "a" "x"
      "-9999999999999998.0" ∧
    ¬Number.WrittenWhole (cellText 1e16).toList := by
  have hwhole : Number.IsWhole (-9999999999999998) 9999999999999998 := by decide +kernel
  have hten : Number.IsWhole 1e16 (10 ^ 16) := by decide +kernel
  obtain ⟨-, htext, -, hshows⟩ := writtenWhole_cellText_iff hwhole
  have hcell : cellText (-9999999999999998) = "-9999999999999998.0" := by
    rw [← String.toList_inj, htext (by decide)]
    decide +kernel
  refine ⟨hwhole, hcell, ?_, ?_⟩
  · rw [← hcell]
    exact hshows _ (.new "mix" ["a"] []) [("a", "x", -9999999999999998)] "a" "x" rfl
  · rw [(writtenWhole_cellText_iff hten).1]
    exact Nat.lt_irrefl _

/-- Ten to the sixteenth is whole, and its cell has an exponent in place of a point and a zero. -/
theorem cellText_ten_pow_sixteen :
    Number.IsWhole 1e16 (10 ^ 16) ∧ ¬Number.WrittenWhole (cellText 1e16).toList ∧
      ((new "mix" ["BTree"] ["fb"]).insert "BTree" "fb" 1e16).toCsv =
        Text.bytes ",BTree\nfb,1e16\n" := by
  have hcell : cellText 1e16 = "1e16" := by decide +kernel
  refine ⟨by decide +kernel, fun h => h.not_mem ?_, by decide +kernel⟩
  rw [hcell]
  decide

end Aggregate
end Footprint
