import Footprint.Number.Reader
import Footprint.Number.Style
import Footprint.Proofs.Number.Bits
import Footprint.Proofs.Number.Nearest

/-!
# Every printed number reads back

The shortest digits of a magnitude are searched for by reading candidates back, and where no
candidate of seventeen digits will do the exact value is taken. So they have that magnitude. Each of
the notations writes a decimal of the same value, and so every style can be read back, with the
sign, the infinities and the value that is not a number.
-/
namespace Footprint.Number

/-! ## Shortest digits -/

theorem Shortest.onGrid_magnitude {tie : Tie} {b : ℕ} {k : ℤ} {d : Decimal}
    (h : onGrid tie b k = some d) : d.magnitude = b := by
  rw [onGrid] at h
  simp only at h
  split at h
  · cases h
  · next hb _ => cases h; simpa using hb
  · next _ ha => cases h; simpa using ha
  · next hb ha =>
    rw [decide_eq_true_eq] at hb ha
    split_ifs at h <;> cases h <;> assumption

/-- The exact value of a magnitude: a binary place is five decimal ones, moved by one place. -/
theorem Shortest.exact_magnitude {b : ℕ} (hpos : 0 < b) (h : b < infinityBits) :
    (exact b).magnitude = b := by
  have hu := units_pos hpos
  have hc : (exact b).coefficient = units b * 5 ^ unitExponent := by
    rw [exact, Nat.pow_eq]
  have he : (exact b).exponent = -(unitExponent : ℤ) := rfl
  have hne : (exact b).coefficient ≠ 0 := by
    rw [hc]
    positivity
  rw [Decimal.magnitude_eq_nearest hne]
  refine Eq.trans (nearest_congr (by positivity) (by positivity) ?_) (nearest_units h)
  have hten : (10 : ℕ) ^ unitExponent = 2 ^ unitExponent * 5 ^ unitExponent := by
    rw [← Nat.mul_pow]
  rw [hc, he, neg_neg, Int.toNat_natCast, hten, show (-(unitExponent : ℤ)).toNat = 0 by omega,
    pow_zero, Nat.mul_one, Nat.mul_comm (2 ^ unitExponent), ← Nat.mul_assoc]

theorem shortest_magnitude (tie : Tie) {b : ℕ} (h : b < infinityBits) :
    (shortest tie b).magnitude = b := by
  by_cases hb : b = 0
  · simp [shortest, hb, Decimal.magnitude]
  · simp only [shortest, if_neg hb, Decimal.reduce_magnitude]
    cases hs : (List.range 17).findSome? fun n : ℕ =>
        Shortest.onGrid tie b (Shortest.leading (units b) - n) with
    | none => exact Shortest.exact_magnitude (by omega) h
    | some d =>
      obtain ⟨n, -, hn⟩ := List.exists_of_findSome?_eq_some hs
      exact Shortest.onGrid_magnitude hn

/-! ## Digits -/

theorem isDigit_toDigits (n : ℕ) : ∀ c ∈ Nat.toDigits 10 n, isDigit c = true := fun _ h =>
  Nat.isDigit_of_mem_toDigits (by norm_num) (by norm_num) h

theorem isDigit_zeros (n : ℕ) : ∀ c ∈ zeros n, isDigit c = true := by
  intro c h
  rw [List.eq_of_mem_replicate h]
  rfl

theorem ofDigits_eq (cs : List Char) : ofDigits cs = Nat.ofDigitChars 10 cs 0 := rfl

@[simp] theorem ofDigits_toDigits (n : ℕ) : ofDigits (Nat.toDigits 10 n) = n :=
  Nat.ofDigitChars_ten_toDigits

@[simp] theorem ofDigits_append_zeros (cs : List Char) (n : ℕ) :
    ofDigits (cs ++ zeros n) = ofDigits cs * 10 ^ n := by
  rw [ofDigits_eq, Nat.ofDigitChars_append, zeros, Nat.ofDigitChars_replicate_zero, Nat.mul_comm,
    ofDigits_eq]

@[simp] theorem ofDigits_zeros_append (cs : List Char) (n : ℕ) :
    ofDigits (zeros n ++ cs) = ofDigits cs := by
  rw [ofDigits_eq, Nat.ofDigitChars_append, zeros, Nat.ofDigitChars_replicate_zero, Nat.mul_zero,
    ofDigits_eq]

/-! ## The parts of a decimal text -/

/-- What ends the digits of a text: its end, or an exponent. -/
def EndsDigits (tail : List Char) : Prop := tail = [] ∨ tail.head? = some 'e'

theorem EndsDigits.takeWhile {tail : List Char} (h : EndsDigits tail) {cs : List Char}
    (hcs : ∀ c ∈ cs, isDigit c = true) : (cs ++ tail).takeWhile isDigit = cs := by
  rw [List.takeWhile_append_of_pos hcs]
  rcases h with rfl | h
  · simp
  · obtain ⟨r, rfl⟩ := List.head?_eq_some_iff.mp h
    simp [isDigit]

theorem EndsDigits.dropWhile {tail : List Char} (h : EndsDigits tail) {cs : List Char}
    (hcs : ∀ c ∈ cs, isDigit c = true) : (cs ++ tail).dropWhile isDigit = tail := by
  rw [List.dropWhile_append_of_pos hcs]
  rcases h with rfl | h
  · simp
  · obtain ⟨r, rfl⟩ := List.head?_eq_some_iff.mp h
    simp [isDigit]

theorem decimal?_whole {whole tail : List Char} {e : ℤ} (hw : ∀ c ∈ whole, isDigit c = true)
    (hne : whole ≠ []) (ht : EndsDigits tail) (he : exponent? tail = some e) :
    decimal? (whole ++ tail) = some ⟨ofDigits whole, e⟩ := by
  simp only [decimal?, ht.takeWhile hw, ht.dropWhile hw]
  split
  · rcases ht with h | h <;> simp at h
  · simp [hne, he]

theorem decimal?_pointed {whole frac tail : List Char} {e : ℤ}
    (hw : ∀ c ∈ whole, isDigit c = true) (hne : whole ≠ []) (hf : ∀ c ∈ frac, isDigit c = true)
    (ht : EndsDigits tail) (he : exponent? tail = some e) :
    decimal? (whole ++ '.' :: (frac ++ tail)) =
      some ⟨ofDigits (whole ++ frac), e - frac.length⟩ := by
  have htake : (whole ++ '.' :: (frac ++ tail)).takeWhile isDigit = whole := by
    rw [List.takeWhile_append_of_pos hw]
    simp [isDigit]
  have hdrop : (whole ++ '.' :: (frac ++ tail)).dropWhile isDigit = '.' :: (frac ++ tail) := by
    rw [List.dropWhile_append_of_pos hw]
    simp [isDigit]
  simp [decimal?, htake, hdrop, ht.takeWhile hf, ht.dropWhile hf, hne, he]

theorem splitSign_of_digits {cs : List Char} (hne : cs ≠ []) (h : ∀ c ∈ cs, isDigit c = true)
    (tail : List Char) : splitSign (cs ++ tail) = (false, cs ++ tail) := by
  obtain ⟨c, cs, rfl⟩ := List.exists_cons_of_ne_nil hne
  have hc := h c (by simp)
  rw [List.cons_append]
  unfold splitSign
  split
  · next heq => cases heq; simp [isDigit] at hc
  · next heq => cases heq; simp [isDigit] at hc
  · rfl

theorem exponent?_of_split {cs ds : List Char} {negative : Bool}
    (hs : splitSign cs = (negative, ds)) (hne : ds ≠ []) (hds : ∀ c ∈ ds, isDigit c = true) :
    exponent? ('e' :: cs) = some (if negative then -(ofDigits ds : ℤ) else ofDigits ds) := by
  have hall : ds.all isDigit = true := List.all_eq_true.mpr hds
  simp [exponent?, hs, hne, hall]

theorem exponent?_exponentText (plus : Bool) (p : ℤ) : exponent? (exponentText plus p) = some p := by
  have hne : Nat.toDigits 10 p.natAbs ≠ [] := Nat.toDigits_ne_nil
  have hds := isDigit_toDigits p.natAbs
  have hsplit := splitSign_of_digits hne hds []
  rw [List.append_nil] at hsplit
  by_cases hp : p < 0
  · have he : exponentText plus p = 'e' :: '-' :: Nat.toDigits 10 p.natAbs := by
      simp [exponentText, hp]
    have hs : splitSign ('-' :: Nat.toDigits 10 p.natAbs) = (true, Nat.toDigits 10 p.natAbs) := rfl
    rw [he, exponent?_of_split hs hne hds, ofDigits_toDigits, if_pos rfl]
    congr 1
    omega
  · have hvalue : (if false = true then -(p.natAbs : ℤ) else p.natAbs) = p := by
      rw [if_neg Bool.false_ne_true]
      omega
    cases plus with
    | false =>
      have he : exponentText false p = 'e' :: Nat.toDigits 10 p.natAbs := by
        simp [exponentText, hp]
      rw [he, exponent?_of_split hsplit hne hds, ofDigits_toDigits, hvalue]
    | true =>
      have he : exponentText true p = 'e' :: '+' :: Nat.toDigits 10 p.natAbs := by
        simp [exponentText, hp]
      have hs : splitSign ('+' :: Nat.toDigits 10 p.natAbs) =
        (false, Nat.toDigits 10 p.natAbs) := rfl
      rw [he, exponent?_of_split hs hne hds, ofDigits_toDigits, hvalue]

theorem endsDigits_exponentText (plus : Bool) (p : ℤ) : EndsDigits (exponentText plus p) := by
  right
  simp [exponentText]

/-! ## Each notation writes a decimal of the same magnitude -/

namespace Decimal

theorem digits_ne_nil (d : Decimal) : d.digits ≠ [] := Nat.toDigits_ne_nil

theorem length_digits_pos (d : Decimal) : 0 < d.digits.length :=
  List.length_pos_iff.mpr d.digits_ne_nil

theorem isDigit_digits (d : Decimal) : ∀ c ∈ d.digits, isDigit c = true := isDigit_toDigits _

@[simp] theorem ofDigits_digits (d : Decimal) : ofDigits d.digits = d.coefficient :=
  ofDigits_toDigits _

theorem magnitude_mul_pow (d : Decimal) (k j : ℕ) (e : ℤ) (he : d.exponent = e + k) :
    (⟨d.coefficient * 10 ^ (k + j), e - j⟩ : Decimal).magnitude = d.magnitude := by
  rw [← magnitude_shift d.coefficient d.exponent (k + j), he]
  congr 2
  push_cast
  omega

end Decimal

theorem decimal?_positional (pointed : Bool) (d : Decimal) :
    ∃ d', decimal? (positionalText pointed d.digits d.leading) = some d' ∧
      d'.magnitude = d.magnitude := by
  have hds := d.isDigit_digits
  have hlen := d.length_digits_pos
  have hend : EndsDigits [] := Or.inl rfl
  have hlead : d.leading = d.exponent + d.digits.length - 1 := rfl
  by_cases hp : d.leading < 0
  · -- Zeros stand between the point and the digits.
    have hz : ∀ c ∈ zeros (-d.leading - 1).toNat ++ d.digits, isDigit c = true := fun c hc =>
      (List.mem_append.mp hc).elim (isDigit_zeros _ c) (hds c)
    have hw : ∀ c ∈ ['0'], isDigit c = true := isDigit_zeros 1
    have h := decimal?_pointed (e := 0) hw (by simp) hz hend rfl
    rw [List.append_nil] at h
    have htext : positionalText pointed d.digits d.leading =
        ['0'] ++ '.' :: (zeros (-d.leading - 1).toNat ++ d.digits) := by
      simp [positionalText, hp]
    refine ⟨_, by rw [htext, h], ?_⟩
    have hc : ofDigits (['0'] ++ (zeros (-d.leading - 1).toNat ++ d.digits)) = d.coefficient := by
      rw [show ['0'] = zeros 1 from rfl, ofDigits_zeros_append, ofDigits_zeros_append,
        d.ofDigits_digits]
    rw [hc]
    congr 2
    simp [zeros]
    omega
  · simp only [positionalText, if_neg hp]
    split_ifs with hle hpt
    · -- A whole number with a point and a zero behind it.
      have hw : ∀ c ∈ d.digits ++ zeros (d.leading.toNat + 1 - d.digits.length),
          isDigit c = true := fun c hc =>
        (List.mem_append.mp hc).elim (hds c) (isDigit_zeros _ c)
      have h := decimal?_pointed (e := 0) hw (by simp [d.digits_ne_nil]) (isDigit_zeros 1) hend rfl
      refine ⟨_, h, ?_⟩
      rw [ofDigits_append_zeros, ofDigits_append_zeros, d.ofDigits_digits, Nat.mul_assoc, ← pow_add]
      exact d.magnitude_mul_pow _ 1 0 (by omega)
    · have hw : ∀ c ∈ d.digits ++ zeros (d.leading.toNat + 1 - d.digits.length),
          isDigit c = true := fun c hc =>
        (List.mem_append.mp hc).elim (hds c) (isDigit_zeros _ c)
      have h := decimal?_whole (e := 0) hw (by simp [d.digits_ne_nil]) hend rfl
      refine ⟨_, h, ?_⟩
      rw [ofDigits_append_zeros, d.ofDigits_digits]
      simpa using d.magnitude_mul_pow (d.leading.toNat + 1 - d.digits.length) 0 0 (by omega)
    · have hw : ∀ c ∈ d.digits.take (d.leading.toNat + 1), isDigit c = true := fun c hc =>
        hds c (List.mem_of_mem_take hc)
      have hf : ∀ c ∈ d.digits.drop (d.leading.toNat + 1), isDigit c = true := fun c hc =>
        hds c (List.mem_of_mem_drop hc)
      have h := decimal?_pointed (e := 0) hw (by simp [d.digits_ne_nil]) hf hend rfl
      rw [List.append_nil] at h
      refine ⟨_, h, ?_⟩
      rw [List.take_append_drop, d.ofDigits_digits]
      congr 2
      simp
      omega

theorem decimal?_scientific (plus : Bool) (d : Decimal) :
    decimal? (scientificText plus d.digits d.leading) = some d := by
  have hds := d.isDigit_digits
  have hlen := d.length_digits_pos
  have hend := endsDigits_exponentText plus d.leading
  have hexp := exponent?_exponentText plus d.leading
  have hlead : d.leading = d.exponent + d.digits.length - 1 := rfl
  have hw : ∀ c ∈ d.digits.take 1, isDigit c = true := fun c hc => hds c (List.mem_of_mem_take hc)
  have hne : d.digits.take 1 ≠ [] := by simp [d.digits_ne_nil]
  rw [scientificText]
  split_ifs with h1
  · rw [List.append_nil, decimal?_whole hw hne hend hexp, List.take_of_length_le h1,
      d.ofDigits_digits]
    congr 2
    omega
  · have hf : ∀ c ∈ d.digits.drop 1, isDigit c = true := fun c hc => hds c (List.mem_of_mem_drop hc)
    rw [List.append_assoc, List.cons_append, decimal?_pointed hw hne hf hend hexp,
      List.take_append_drop, d.ofDigits_digits, List.length_drop]
    congr 2
    omega

theorem Style.decimal?_decimalText (s : Style) (d : Decimal) :
    ∃ d', decimal? (s.decimalText d) = some d' ∧ d'.magnitude = d.magnitude := by
  rw [Style.decimalText]
  split_ifs
  · exact decimal?_positional s.pointed d
  · exact ⟨d, decimal?_scientific s.plus d, rfl⟩

/-! ## Reading back -/

theorem Style.chars_of_finite (s : Style) {v : Float} (h : magnitude v < infinityBits) :
    s.chars v = signed (isNegative v) (s.decimalText (shortest s.tie (magnitude v))) := by
  simp only [Style.chars, if_neg (Nat.not_lt.mpr (Nat.le_of_lt h)), if_neg (Nat.ne_of_lt h)]

theorem Style.head_decimalText (s : Style) (d : Decimal) :
    ∃ c r, s.decimalText d = c :: r ∧ isDigit c = true := by
  obtain ⟨c, cs, hd⟩ := List.exists_cons_of_ne_nil d.digits_ne_nil
  have hc : isDigit c = true := d.isDigit_digits c (by simp [hd])
  rw [Style.decimalText, positionalText, scientificText]
  simp only [hd, List.cons_append, List.take_succ_cons]
  split_ifs
  all_goals first | exact ⟨_, _, rfl, hc⟩ | exact ⟨'0', _, rfl, rfl⟩

theorem unsigned?_chars (s : Style) (negative : Bool) {b : ℕ} (h : b < infinityBits) :
    unsigned? negative (s.decimalText (shortest s.tie b)) = some (ofMagnitude negative b) := by
  obtain ⟨d, hd, hm⟩ := s.decimal?_decimalText (shortest s.tie b)
  simp only [unsigned?, hd]
  rw [hm, shortest_magnitude s.tie h]

theorem readChars_signed {cs : List Char} {c : Char} {r : List Char} (negative : Bool) {v : Float}
    (hcs : cs = c :: r) (hc : isSign c = false) (h : unsigned? negative cs = some v) :
    readChars (signed negative cs) = .ok v := by
  have hne : cs ≠ [] := by simp [hcs]
  cases negative with
  | true => simp [readChars, signed, splitSign, h]
  | false =>
    have hs : splitSign cs = (false, cs) := by
      subst hcs
      unfold splitSign
      split
      · next heq => cases heq; simp [isSign] at hc
      · next heq => cases heq; simp [isSign] at hc
      · rfl
    simp [readChars, signed, hs, h, hne]

/-- Reading inverts printing, in every style and for every value. -/
theorem Style.readChars_chars (s : Style) (v : Float) : readChars (s.chars v) = .ok v := by
  unfold Style.chars
  simp only
  split_ifs with hnan hinf
  · rw [eq_notANumber hnan]
    rfl
  · refine readChars_signed _ rfl rfl ?_
    have hd : decimal? ['i', 'n', 'f'] = none := rfl
    have hl : String.ofList (lower ['i', 'n', 'f']) = "inf" := rfl
    simp only [unsigned?, hd, hl, true_or, if_true]
    rw [← hinf, ofMagnitude_magnitude]
  · obtain ⟨c, r, hcs, hc⟩ := s.head_decimalText (shortest s.tie (magnitude v))
    refine readChars_signed _ hcs ?_ ?_
    · simp only [isSign, Bool.or_eq_false_iff, decide_eq_false_iff_not]
      constructor <;> rintro rfl <;> simp [isDigit] at hc
    · rw [unsigned?_chars s _ (by omega), ofMagnitude_magnitude]

theorem Style.read_text (s : Style) (v : Float) : read (s.text v) = .ok v := by
  rw [read, Style.text, String.toList_ofList, s.readChars_chars]

end Footprint.Number
