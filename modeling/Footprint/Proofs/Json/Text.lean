import Footprint.Json.Printer
import Mathlib.Data.Nat.Notation
import Mathlib.Tactic.SplitIfs

/-! # Text of plot data, read back character for character -/
namespace Footprint.Json.Reader

open Printer (escapeChar)

theorem hexValue?_digitChar : ∀ d < 16, hexValue? (Nat.digitChar d) = some d := by decide

/-- A control character is written as the two low digits of its number, behind two zeros. -/
theorem unicodeEscape_control {c : Char} (hc : c.toNat < 0x20) (rest : List Char) :
    unicodeEscape ('0' :: '0' :: Nat.digitChar (c.toNat / 16) :: Nat.digitChar (c.toNat % 16) ::
      rest) = .ok (c, rest) := by
  have hhigh := hexValue?_digitChar (c.toNat / 16) (by omega)
  have hlow := hexValue?_digitChar (c.toNat % 16) (by omega)
  have hzero : hexValue? '0' = some 0 := rfl
  have hsize : ∀ d : Char, 1 ≤ d.utf8Size := Char.utf8Size_pos
  have hlong : ¬(('0' :: '0' :: Nat.digitChar (c.toNat / 16) :: Nat.digitChar (c.toNat % 16) ::
      rest).map Char.utf8Size).foldr (· + ·) 0 < 4 := by
    have hd := hsize (Nat.digitChar (c.toNat / 16))
    have he := hsize (Nat.digitChar (c.toNat % 16))
    have hz := hsize '0'
    simp only [List.map_cons, List.foldr_cons]
    omega
  have hvalue : ((0 * 16 + 0) * 16 + c.toNat / 16) * 16 + c.toNat % 16 = c.toNat := by omega
  have hescape : hexEscape ('0' :: '0' :: Nat.digitChar (c.toNat / 16) ::
      Nat.digitChar (c.toNat % 16) :: rest) = .ok (c.toNat, rest) := by
    simp only [hexEscape, if_neg hlong, List.take_succ_cons, List.take_zero, List.mapM_cons,
      List.mapM_nil, hzero, hhigh, hlow, bind, Option.bind, pure, hvalue, List.drop_succ_cons,
      List.drop_zero]
  have hlower : ¬(0xDC00 ≤ c.toNat ∧ c.toNat ≤ 0xDFFF) := by omega
  have hupper : ¬(0xD800 ≤ c.toNat ∧ c.toNat ≤ 0xDBFF) := by omega
  simp only [unicodeEscape, hescape, bind, Except.bind, if_neg hlower, if_neg hupper,
    Char.ofNat_toNat]

theorem textBody_escapeChar (c : Char) (fuel : ℕ) (rest : List Char) :
    textBody (fuel + 1) (escapeChar c ++ rest) =
      (textBody fuel rest).map fun p => (c :: p.1, p.2) := by
  have hmap : ∀ r : Except Error (List Char × List Char),
      (r >>= fun p => .ok (c :: p.1, p.2)) = r.map fun p => (c :: p.1, p.2) := by
    intro r
    cases r <;> rfl
  -- Whatever the escape, it is read as `c` and the rest goes on.
  have hescape : ∀ cs, escape cs = .ok (c, rest) → textBody (fuel + 1) ('\\' :: cs) =
      (textBody fuel rest).map fun p => (c :: p.1, p.2) := by
    intro cs h
    have hstep : textBody (fuel + 1) ('\\' :: cs) = (escape cs >>= fun p =>
        textBody fuel p.2 >>= fun q => .ok (p.1 :: q.1, q.2)) := rfl
    rw [hstep, h]
    exact hmap _
  rw [escapeChar]
  split_ifs with hquote hb hf hn hr ht hcontrol
  · refine hescape (c :: rest) ?_
    rcases hquote with rfl | rfl <;> rfl
  · exact hescape ('b' :: rest) (by rw [hb]; rfl)
  · exact hescape ('f' :: rest) (by rw [hf]; rfl)
  · exact hescape ('n' :: rest) (by rw [hn]; rfl)
  · exact hescape ('r' :: rest) (by rw [hr]; rfl)
  · exact hescape ('t' :: rest) (by rw [ht]; rfl)
  · exact hescape ('u' :: _) (unicodeEscape_control hcontrol rest)
  · rw [not_or] at hquote
    have hstep : textBody (fuel + 1) (c :: rest) =
        (textBody fuel rest >>= fun p => .ok (c :: p.1, p.2)) := by
      simp only [textBody, if_neg hquote.1, if_neg hquote.2, if_neg hcontrol]
    exact hstep.trans (hmap _)

theorem escapeChar_ne_nil (c : Char) : escapeChar c ≠ [] := by
  rw [escapeChar]
  split_ifs <;> simp

theorem textBody_escaped (cs rest : List Char) {fuel : ℕ} (hfuel : cs.length < fuel) :
    textBody fuel (cs.flatMap escapeChar ++ '"' :: rest) = .ok (cs, rest) := by
  induction cs generalizing fuel with
  | nil =>
    obtain ⟨fuel, rfl⟩ : ∃ f, fuel = f + 1 := ⟨fuel - 1, by simp at hfuel; omega⟩
    rfl
  | cons c cs ih =>
    obtain ⟨fuel, rfl⟩ : ∃ f, fuel = f + 1 := ⟨fuel - 1, by simp at hfuel; omega⟩
    have hrest : cs.length < fuel := by simpa using hfuel
    rw [List.flatMap_cons, List.append_assoc, textBody_escapeChar, ih hrest]
    rfl

theorem length_le_escaped (cs : List Char) : cs.length ≤ (cs.flatMap escapeChar).length := by
  induction cs with
  | nil => simp
  | cons c cs ih =>
    have hc := List.length_pos_iff.mpr (escapeChar_ne_nil c)
    rw [List.flatMap_cons, List.length_append, List.length_cons]
    omega

/-- Printed text after its opening quote. -/
theorem closeText_escaped (s : String) (rest : List Char) :
    closeText (s.toList.flatMap escapeChar ++ '"' :: rest) = .ok (s, rest) := by
  have hfuel : s.toList.length < (s.toList.flatMap escapeChar ++ '"' :: rest).length + 1 := by
    have h := length_le_escaped s.toList
    rw [List.length_append]
    omega
  simp only [closeText, textBody_escaped s.toList rest hfuel, bind, Except.bind, String.ofList_toList]

theorem text_append (s : String) (rest : List Char) :
    text (Printer.text s ++ rest) = .ok (s, rest) := by
  have hprint : Printer.text s ++ rest = '"' :: (s.toList.flatMap escapeChar ++ '"' :: rest) := by
    simp [Printer.text]
  have hread : text ('"' :: (s.toList.flatMap escapeChar ++ '"' :: rest)) =
      closeText (s.toList.flatMap escapeChar ++ '"' :: rest) := rfl
  rw [hprint, hread, closeText_escaped]

end Footprint.Json.Reader
