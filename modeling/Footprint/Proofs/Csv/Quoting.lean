import Footprint.Csv.Encoding
import Mathlib.Data.Nat.Notation
import Mathlib.Tactic.SplitIfs

/-!
# Which texts are quoted

A byte below 128 stands for the character of its number and for nothing else. So a text is written
with quotes exactly when it has one of the four characters that mean something to the reader.
-/
namespace Footprint

theorem Text.bytes_eq_flatMap (s : String) : bytes s = s.toList.flatMap String.utf8EncodeChar := by
  rw [bytes, String.toUTF8_eq_toByteArray]
  conv => lhs; rw [← String.ofList_toList (s := s)]
  rw [String.toByteArray_ofList, List.utf8Encode, List.data_toByteArray]

/-- Only the characters below 128 are written in bytes below 128. -/
theorem Text.mem_utf8EncodeChar {b : UInt8} (hb : b.toNat < 128) {c : Char} :
    b ∈ String.utf8EncodeChar c ↔ c.toNat = b.toNat := by
  have hval : c.toNat = c.val.toNat := rfl
  have hhigh : ∀ n : ℕ, 128 ≤ n % 256 → b ≠ UInt8.ofNat n := by
    rintro n hn rfl
    rw [UInt8.toNat_ofNat'] at hb
    omega
  simp only [String.utf8EncodeChar, hval]
  split_ifs
  · rw [List.mem_singleton, ← UInt8.toNat_inj, UInt8.toNat_ofNat']
    omega
  -- Every byte of a longer character has its first bit set.
  all_goals
    refine iff_of_false (fun hmem => ?_) (by omega)
    simp only [List.mem_cons, List.not_mem_nil, or_false] at hmem
  · rcases hmem with h | h <;> exact hhigh _ (by omega) h
  · rcases hmem with h | h | h <;> exact hhigh _ (by omega) h
  · rcases hmem with h | h | h | h <;> exact hhigh _ (by omega) h

theorem Text.mem_bytes {b : UInt8} (hb : b.toNat < 128) {s : String} :
    b ∈ bytes s ↔ ∃ c ∈ s.toList, c.toNat = b.toNat := by
  simp only [bytes_eq_flatMap, List.mem_flatMap, mem_utf8EncodeChar hb]

namespace Csv

theorem needsQuotes_iff {f : Bytes} : needsQuotes f = true ↔
    comma ∈ f ∨ quote ∈ f ∨ lineFeed ∈ f ∨ carriageReturn ∈ f := by
  simp only [needsQuotes, isLineEnd, List.any_eq_true, Bool.or_eq_true, decide_eq_true_eq]
  constructor
  · rintro ⟨b, hb, (rfl | rfl) | rfl | rfl⟩ <;> simp [hb]
  · rintro (h | h | h | h)
    all_goals exact ⟨_, h, by simp⟩

/-- A text is quoted for a comma, a quote or the end of a line. -/
theorem needsQuotes_bytes_iff {s : String} : needsQuotes (Text.bytes s) = true ↔
    ∃ c ∈ s.toList, c = ',' ∨ c = '"' ∨ c = '\n' ∨ c = '\r' := by
  have hmem (b : UInt8) (c : Char) (hb : b.toNat < 128) (hc : c.toNat = b.toNat) :
      b ∈ Text.bytes s ↔ c ∈ s.toList := by
    rw [Text.mem_bytes hb]
    constructor
    · rintro ⟨c', hc', h⟩
      rwa [← Char.toNat_inj.mp (h.trans hc.symm)]
    · exact fun h => ⟨c, h, hc⟩
  rw [needsQuotes_iff, hmem comma ',' (by decide) rfl, hmem quote '"' (by decide) rfl,
    hmem lineFeed '\n' (by decide) rfl, hmem carriageReturn '\r' (by decide) rfl]
  constructor
  · rintro (h | h | h | h)
    all_goals exact ⟨_, h, by simp⟩
  · rintro ⟨c, hc, rfl | rfl | rfl | rfl⟩ <;> simp [hc]

theorem encodeField_of_plain {s : String}
    (h : ∀ c ∈ s.toList, c ≠ ',' ∧ c ≠ '"' ∧ c ≠ '\n' ∧ c ≠ '\r') :
    encodeField (Text.bytes s) = Text.bytes s := by
  refine if_neg fun hquotes => ?_
  obtain ⟨c, hc, hspecial⟩ := needsQuotes_bytes_iff.mp hquotes
  obtain ⟨h1, h2, h3, h4⟩ := h c hc
  exact hspecial.elim h1 fun hspecial => hspecial.elim h2 fun hspecial => hspecial.elim h3 h4

end Csv
end Footprint
