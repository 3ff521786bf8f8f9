import Footprint.Proofs.Json.RoundTrip
import Footprint.Proofs.Number.Rounding

/-!
# Every printed number is read

The digits of a printed number decode to a significand and a power of ten whose product is no larger
than the number that was printed, since digits that do not fit are dropped. Both factors are rounded
and so is their product, which stays finite: a number four steps below the largest leaves room for
the three roundings, and the last three numbers are tried.

A value is then read back exactly when all of its numbers are finite. One that is not is printed as
the absent value, which is no number.
-/
namespace Footprint.Json

theorem isOk_iff {ε α : Type} {r : Except ε α} : r.isOk = true ↔ ∃ a, r = .ok a := by
  cases r <;> simp [Except.isOk, Except.toBool]

namespace Reader

open Footprint.Number (Decimal Style infinityBits isNegative magnitude nearest safeBound shortest
  positionalText scientificText exponentText zeros)

/-! ## Powers of ten -/

theorem pow_lt_safeBound : 10 ^ largestPower < safeBound := by decide +kernel

theorem safeBound_lt_pow : safeBound < 10 ^ (largestPower + 1) := by decide +kernel

theorem word_lt_safeBound {n : ℕ} (h : n < 2 ^ 64) : n < safeBound := by
  have hpow : 2 ^ 64 ≤ 10 ^ largestPower :=
    (Nat.pow_le_pow_left (by decide) 64).trans (Nat.pow_le_pow_right (by decide) (by decide))
  exact (Nat.lt_of_lt_of_le h hpow).trans pow_lt_safeBound

theorem magnitude_powerOfTen (e : ℕ) : magnitude (powerOfTen e) = nearest (10 ^ e) 1 := by
  have hone : (1 : ℕ) ≠ 0 := by decide
  rw [powerOfTen, Footprint.Number.magnitude_ofMagnitude (Decimal.magnitude_le _),
    Decimal.magnitude_eq_nearest hone]
  simp

theorem isInf_eq_false {n e : ℕ} (he : e ≤ largestPower) (h : n * 10 ^ e < safeBound) :
    (n.toFloat * powerOfTen e).isInf = false := by
  have hn : n < safeBound :=
    (Nat.le_mul_of_pos_right n (Nat.pow_pos (by decide))).trans_lt h
  have hten : 10 ^ e < safeBound := (Nat.pow_le_pow_right (by decide) he).trans_lt pow_lt_safeBound
  have hlt := Footprint.Number.magnitude_mul_lt hn hten h (Footprint.Number.magnitude_toFloat n)
    (magnitude_powerOfTen e)
  rw [Bool.eq_false_iff, Ne, Footprint.Number.isInf_iff]
  exact hlt.ne

/-- Scaling fails for no product below the bound. -/
theorem exists_scale {n : ℕ} {e : ℤ} (h : 0 ≤ e → n * 10 ^ e.toNat < safeBound) :
    ∃ v, scale n e = .ok v := by
  rw [scale]
  simp only
  split_ifs with hneg hsmall hinf hzero
  · exact ⟨_, rfl⟩
  · rw [isInf_eq_false (by omega) (h (by omega))] at hinf
    cases hinf
  · exact ⟨_, rfl⟩
  · exact ⟨_, rfl⟩
  · have hn : n ≠ 0 := by
      rintro rfl
      exact hzero rfl
    have hpow : 10 ^ (largestPower + 1) ≤ n * 10 ^ e.toNat :=
      (Nat.pow_le_pow_right (by decide) (by omega)).trans (Nat.le_mul_of_pos_left _ (by omega))
    exact absurd (h (by omega)) (Nat.not_lt.mpr (safeBound_lt_pow.le.trans hpow))

theorem exists_realOf (negative : Bool) {n : ℕ} {e : ℤ} (h : 0 ≤ e → n * 10 ^ e.toNat < safeBound) :
    ∃ v, realOf negative n e = .ok v := by
  obtain ⟨v, hv⟩ := exists_scale h
  rw [realOf, hv]
  exact ⟨_, rfl⟩

/-! ## Exponents -/

theorem exponentDigits_value (e : ℕ) {ds : List Char} (hds : ∀ c ∈ ds, isDigit c = true)
    (hlimit : Nat.ofDigitChars 10 ds e < exponentLimit) :
    exponentDigits e ds = (some (Nat.ofDigitChars 10 ds e), []) := by
  induction ds generalizing e with
  | nil => rfl
  | cons d ds ih =>
    have hd := hds d List.mem_cons_self
    have hnext : 10 * e + (d.toNat - '0'.toNat) = e * 10 + digitValue d :=
      congrArg (· + _) (Nat.mul_comm 10 e)
    rw [Nat.ofDigitChars_cons, hnext] at hlimit ⊢
    have hfits : e * 10 + digitValue d < exponentLimit := (le_ofDigitChars ds _).trans_lt hlimit
    simp only [exponentDigits, hd, hfits, if_true]
    exact ih _ (fun c hc => hds c (List.mem_cons_of_mem d hc)) hlimit

section Exponent

variable (negative : Bool) {significand : ℕ} {start p : ℤ}

/-- A negative exponent is accepted however large it is. -/
theorem exists_negative_exponent (hword : significand < 2 ^ 64) (hstart : start ≤ 0) (hp : p < 0) :
    ∃ r, afterDigits negative significand start (exponentText true p) = .ok r := by
  obtain ⟨d, ds, hdigits, hall, -⟩ := toDigits_eq_cons p.natAbs
  have hd := hall d List.mem_cons_self
  have hds := fun c hc => hall c (List.mem_cons_of_mem d hc)
  have htext : exponentText true p = 'e' :: '-' :: d :: ds := by simp [exponentText, hdigits, hp]
  have hexponent : afterDigits negative significand start (exponentText true p) =
      exponent negative significand start ('-' :: d :: ds) := by
    rw [htext]
    rfl
  have hend : EndsDigits [] := EndsValue.endsDigits (.inl rfl)
  rw [hexponent]
  rcases exponentDigits_append (digitValue d) hds with ⟨n, hn⟩ | ⟨left, hleft, hn⟩
  · obtain ⟨v, hv⟩ := exists_realOf negative (n := significand) (e := start - (n : ℕ)) fun h => by
      rw [show (start - (n : ℕ)).toNat = 0 by omega, pow_zero, Nat.mul_one]
      exact word_lt_safeBound hword
    have hdigits := hn [] hend
    rw [List.append_nil] at hdigits
    simp only [exponent, hd, hdigits, if_true, hv]
    exact ⟨_, rfl⟩
  · have hdigits := hn [] hend
    have hdrop := hend.dropWhile hleft
    rw [List.append_nil] at hdigits
    simp only [exponent, hd, hdigits, if_true, hdrop, Bool.not_true, Bool.false_eq_true, and_false,
      if_false]
    exact ⟨_, rfl⟩

theorem exists_positive_exponent (hp : 0 ≤ p) (hlimit : p < exponentLimit)
    (h : 0 ≤ start + p → significand * 10 ^ (start + p).toNat < safeBound) :
    ∃ r, afterDigits negative significand start (exponentText true p) = .ok r := by
  obtain ⟨d, ds, hdigits, hall, -⟩ := toDigits_eq_cons p.natAbs
  have hd := hall d List.mem_cons_self
  have htext : exponentText true p = 'e' :: '+' :: d :: ds := by
    simp [exponentText, hdigits, Int.not_lt.mpr hp]
  have hvalue : Nat.ofDigitChars 10 ds (digitValue d) = p.natAbs := by
    have hself := Nat.ofDigitChars_ten_toDigits (n := p.natAbs)
    rwa [hdigits, Nat.ofDigitChars_cons, Nat.mul_zero, Nat.zero_add] at hself
  have hread : exponentDigits (digitValue d) ds = (some p.natAbs, []) := by
    rw [← hvalue]
    refine exponentDigits_value _ (fun c hc => hall c (List.mem_cons_of_mem d hc)) ?_
    rw [hvalue]
    omega
  have hexponent : afterDigits negative significand start (exponentText true p) =
      exponent negative significand start ('+' :: d :: ds) := by
    rw [htext]
    rfl
  obtain ⟨v, hv⟩ := exists_realOf negative h
  have hsum : start + (p.natAbs : ℤ) = start + p := by omega
  rw [hexponent]
  simp only [exponent, hd, hread, if_true, Bool.false_eq_true, if_false, hsum, hv]
  exact ⟨_, rfl⟩

end Exponent

/-! ## Digits with a point -/

theorem digitValue_lt {c : Char} (hc : isDigit c = true) : digitValue c < 10 := by
  simp only [isDigit, Bool.and_eq_true, decide_eq_true_eq, Char.le_def,
    UInt32.le_iff_toNat_le] at hc
  have hnine : c.toNat ≤ 57 := hc.2
  rw [digitValue]
  omega

theorem digitValue_pos {c : Char} (hc : isDigit c = true) (hzero : c ≠ '0') : 0 < digitValue c := by
  simp only [isDigit, Bool.and_eq_true, decide_eq_true_eq, Char.le_def,
    UInt32.le_iff_toNat_le] at hc
  have hge : 48 ≤ c.toNat := hc.1
  have hne : c.toNat ≠ 48 := fun h => hzero (Char.toNat_inj.mp h)
  rw [digitValue]
  omega

theorem ofDigitChars_lt (n : ℕ) {ds : List Char} (hds : ∀ c ∈ ds, isDigit c = true) :
    Nat.ofDigitChars 10 ds n < (n + 1) * 10 ^ ds.length := by
  induction ds generalizing n with
  | nil => simp
  | cons d ds ih =>
    have hd : d.toNat - '0'.toNat < 10 := digitValue_lt (hds d List.mem_cons_self)
    have hrest := ih (10 * n + (d.toNat - '0'.toNat)) fun c hc => hds c (List.mem_cons_of_mem d hc)
    rw [Nat.ofDigitChars_cons]
    refine hrest.trans_le ?_
    rw [List.length_cons, Nat.pow_succ', ← Nat.mul_assoc]
    exact Nat.mul_le_mul_right _ (by omega)

/-- A whole part that fits a word is followed by its fraction. -/
theorem unsigned_pointed (negative : Bool) {d : Char} {ds frac tail : List Char}
    (hds : ∀ c ∈ d :: ds, isDigit c = true) (hzero : d = '0' → ds = [])
    (hfits : Nat.ofDigitChars 10 (d :: ds) 0 < 2 ^ 64) (hfrac : ∀ c ∈ frac, isDigit c = true)
    (hne : frac ≠ []) (htail : EndsDigits tail) :
    ∃ n k, k ≤ frac.length ∧ n * 10 ^ (frac.length - k) ≤ Nat.ofDigitChars 10 (d :: ds ++ frac) 0 ∧
      n < 2 ^ 64 ∧ unsigned negative (d :: ds ++ '.' :: (frac ++ tail)) =
        afterDigits negative n (0 - (k : ℕ)) tail := by
  have hpoint : EndsDigits ('.' :: (frac ++ tail)) := fun c r h => by
    cases h
    rfl
  obtain ⟨n, k, hk, hvalue, hword, hrest⟩ :=
    fraction_append negative (Nat.ofDigitChars 10 (d :: ds) 0) 0 hfrac hne
  refine ⟨n, k, hk, by rwa [Nat.ofDigitChars_append], hword hfits, ?_⟩
  rw [unsigned_append negative hds hzero hfits hpoint, ← hrest tail htail]
  rfl

/-- Nothing follows, so the exponent is not positive. -/
theorem exists_plain (negative : Bool) {n : ℕ} (hword : n < 2 ^ 64) (k : ℕ) :
    ∃ r, afterDigits negative n (0 - (k : ℕ)) [] = .ok r := by
  obtain ⟨v, hv⟩ := exists_realOf negative (n := n) (e := 0 - (k : ℕ)) fun h => by
    rw [show (0 - (k : ℤ)).toNat = 0 by omega, pow_zero, Nat.mul_one]
    exact word_lt_safeBound hword
  rw [afterDigits, hv]
  exact ⟨_, rfl⟩

section Notations

variable (negative : Bool) {d : Char} {ds : List Char} {p : ℤ}

theorem exists_pointed {frac : List Char} (hds : ∀ c ∈ d :: ds, isDigit c = true)
    (hzero : d = '0' → ds = []) (hlength : ds.length < 16) (hfrac : ∀ c ∈ frac, isDigit c = true)
    (hne : frac ≠ []) : ∃ r, unsigned negative (d :: ds ++ '.' :: frac) = .ok r := by
  have hfits : Nat.ofDigitChars 10 (d :: ds) 0 < 2 ^ 64 := by
    refine (ofDigitChars_lt 0 hds).trans_le ?_
    rw [Nat.zero_add, Nat.one_mul]
    exact (Nat.pow_le_pow_right (by decide) (show (d :: ds).length ≤ 16 from hlength)).trans
      (by decide)
  have hend : EndsDigits [] := EndsValue.endsDigits (.inl rfl)
  obtain ⟨n, k, -, -, hword, hread⟩ := unsigned_pointed negative hds hzero hfits hfrac hne hend
  rw [List.append_nil] at hread
  rw [hread]
  exact exists_plain negative hword k

/-- In positional notation the whole part has at most 16 digits. -/
theorem exists_positional (hds : ∀ c ∈ d :: ds, isDigit c = true) (hd : d ≠ '0') (hp : p < 16) :
    ∃ r, unsigned negative (positionalText true (d :: ds) p) = .ok r := by
  have hzeros : ∀ n, ∀ c ∈ zeros n, isDigit c = true := Footprint.Number.isDigit_zeros
  by_cases hneg : p < 0
  · have hfrac : ∀ c ∈ zeros (-p - 1).toNat ++ d :: ds, isDigit c = true := fun c hc =>
      (List.mem_append.mp hc).elim (hzeros _ c) (hds c)
    have h := exists_pointed negative (hzeros 1) (fun _ => rfl) (by decide) hfrac (by simp)
    simpa [positionalText, hneg, zeros] using h
  · simp only [positionalText, if_neg hneg, if_true]
    split_ifs with hle
    · have hwhole : ∀ c ∈ d :: (ds ++ zeros (p.toNat + 1 - (d :: ds).length)), isDigit c = true :=
        fun c hc => (List.mem_append.mp (List.cons_append ▸ hc)).elim (hds c) (hzeros _ c)
      have hlength : (ds ++ zeros (p.toNat + 1 - (d :: ds).length)).length < 16 := by
        rw [List.length_append, zeros, List.length_replicate]
        rw [List.length_cons] at hle ⊢
        omega
      exact exists_pointed negative hwhole (fun h => absurd h hd) hlength (hzeros 1) (by simp)
    · rw [List.take_succ_cons, List.drop_succ_cons]
      have hwhole : ∀ c ∈ d :: ds.take p.toNat, isDigit c = true := fun c hc =>
        hds c (List.mem_of_mem_take (List.take_succ_cons ▸ hc : c ∈ (d :: ds).take (p.toNat + 1)))
      refine exists_pointed negative hwhole (fun h => absurd h hd) ?_
        (fun c hc => hds c (List.mem_cons_of_mem d (List.mem_of_mem_drop hc))) ?_
      · rw [List.length_take]
        omega
      · rw [List.length_cons] at hle
        rw [Ne, List.drop_eq_nil_iff]
        omega

/-- What has been read when the exponent begins is a part of the digits, and no larger. -/
theorem unsigned_scientific (hds : ∀ c ∈ d :: ds, isDigit c = true) :
    ∃ n k, k ≤ ds.length ∧ n * 10 ^ (ds.length - k) ≤ Nat.ofDigitChars 10 (d :: ds) 0 ∧
      n < 2 ^ 64 ∧ unsigned negative (scientificText true (d :: ds) p) =
        afterDigits negative n (0 - (k : ℕ)) (exponentText true p) := by
  have hone : ∀ c ∈ [d], isDigit c = true := by simpa using hds d List.mem_cons_self
  have hrest : ∀ c ∈ ds, isDigit c = true := fun c hc => hds c (List.mem_cons_of_mem d hc)
  have hfits : Nat.ofDigitChars 10 [d] 0 < 2 ^ 64 := by
    have hlt := ofDigitChars_lt 0 hone
    rw [List.length_singleton] at hlt
    omega
  have hexp : EndsDigits (exponentText true p) := fun c r h => by
    rw [exponentText, List.cons_append, List.cons.injEq] at h
    rw [← h.1]
    rfl
  cases ds with
  | nil =>
    refine ⟨Nat.ofDigitChars 10 [d] 0, 0, le_refl _, by simp, hfits, ?_⟩
    have happend := unsigned_append negative hone (fun _ => rfl) hfits hexp
    have htext : scientificText true [d] p = [d] ++ exponentText true p := by simp [scientificText]
    rw [htext, happend]
    rfl
  | cons d' ds =>
    have htext : scientificText true (d :: d' :: ds) p =
        [d] ++ '.' :: (d' :: ds ++ exponentText true p) := by simp [scientificText]
    rw [htext]
    exact unsigned_pointed negative hone (fun _ => rfl) hfits hrest (List.cons_ne_nil _ _) hexp

/-- In scientific notation the exponent itself is no power of ten beyond the value. -/
theorem exists_scientific (hds : ∀ c ∈ d :: ds, isDigit c = true) (hd : d ≠ '0')
    (hvalue : 0 ≤ p → Nat.ofDigitChars 10 (d :: ds) 0 * 10 ^ (p - (ds.length : ℕ)).toNat <
      safeBound * 10 ^ (-(p - (ds.length : ℕ))).toNat) :
    ∃ r, unsigned negative (scientificText true (d :: ds) p) = .ok r := by
  obtain ⟨n, k, hk, hn, hword, hread⟩ := unsigned_scientific negative hds (p := p)
  rw [hread]
  rcases lt_or_ge p 0 with hneg | hpos
  · exact exists_negative_exponent negative hword (by omega) hneg
  · -- A part of the value with fewer digits is no larger.
    have hsafe {m j : ℕ} (hj : j ≤ ds.length) (hjp : (j : ℤ) ≤ p)
        (hm : m * 10 ^ (ds.length - j) ≤ Nat.ofDigitChars 10 (d :: ds) 0) :
        m * 10 ^ (p - (j : ℕ)).toNat < safeBound := by
      have hexponents : (p - (j : ℕ)).toNat + (-(p - (ds.length : ℕ))).toNat =
        ds.length - j + (p - (ds.length : ℕ)).toNat := by omega
      have hlt : m * 10 ^ (p - (j : ℕ)).toNat * 10 ^ (-(p - (ds.length : ℕ))).toNat <
          safeBound * 10 ^ (-(p - (ds.length : ℕ))).toNat := by
        rw [Nat.mul_assoc, ← Nat.pow_add, hexponents, Nat.pow_add, ← Nat.mul_assoc]
        exact (Nat.mul_le_mul_right _ hm).trans_lt (hvalue hpos)
      exact Nat.lt_of_mul_lt_mul_right hlt
    have hfirst : 1 * 10 ^ (ds.length - 0) ≤ Nat.ofDigitChars 10 (d :: ds) 0 := by
      have hpositive : 0 < digitValue d := digitValue_pos (hds d List.mem_cons_self) hd
      rw [Nat.one_mul, Nat.sub_zero, Nat.ofDigitChars_cons, Nat.mul_zero, Nat.zero_add,
        Nat.ofDigitChars_eq_ofDigitChars_zero]
      exact Nat.le_add_right_of_le (Nat.le_mul_of_pos_right _ hpositive)
    have hlimit : 10 ^ p.toNat < 10 ^ (largestPower + 1) := by
      have h := hsafe (Nat.zero_le _) hpos hfirst
      rw [Nat.one_mul, Nat.cast_zero, Int.sub_zero] at h
      exact h.trans safeBound_lt_pow
    have hp : p.toNat < largestPower + 1 := (Nat.pow_lt_pow_iff_right (by decide)).mp hlimit
    have hlarge : largestPower + 1 < exponentLimit := by decide
    refine exists_positive_exponent negative hpos (by omega) fun hge => ?_
    rw [show 0 - (k : ℤ) + p = p - (k : ℤ) by omega]
    exact hsafe hk (by omega) hn

end Notations

/-! ## Printed numbers -/

theorem exists_decimalText_of_lt (negative : Bool) {b : ℕ} (h : b < infinityBits - 3) : ∃ r,
    unsigned negative (Style.plotData.decimalText (shortest Style.plotData.tie b)) = .ok r := by
  rcases Nat.eq_zero_or_pos b with rfl | hpos
  · exact ⟨_, rfl⟩
  have hmagnitude := Footprint.Number.shortest_magnitude Style.plotData.tie
    (h.trans_le (Nat.sub_le infinityBits 3))
  generalize shortest Style.plotData.tie b = D at hmagnitude ⊢
  have hcoefficient : D.coefficient ≠ 0 := by
    intro hzero
    rw [Decimal.magnitude, if_pos hzero] at hmagnitude
    omega
  obtain ⟨d, ds, hdigits, hd⟩ := head_toDigits (Nat.pos_of_ne_zero hcoefficient)
  have hlist : D.digits = d :: ds := hdigits
  have hall : ∀ c ∈ d :: ds, isDigit c = true := hlist ▸ D.isDigit_digits
  rw [Style.decimalText, hlist]
  split_ifs with hpositional
  · have hp : -5 ≤ D.leading ∧ D.leading < 16 := by simpa [Style.plotData] using hpositional
    exact exists_positional negative hall hd hp.2
  · have hexponent : D.leading - (ds.length : ℕ) = D.exponent := by
      rw [Decimal.leading, hlist, List.length_cons]
      omega
    have hvalue : Nat.ofDigitChars 10 (d :: ds) 0 = D.coefficient :=
      hdigits ▸ Nat.ofDigitChars_ten_toDigits
    rw [Decimal.magnitude_eq_nearest hcoefficient] at hmagnitude
    refine exists_scientific negative hall hd fun _ => ?_
    rw [hexponent, hvalue]
    exact Footprint.Number.lt_safeBound_of_nearest (Nat.pow_pos (by decide)) (hmagnitude ▸ h)

/-- The last three magnitudes leave too little room for the roundings, and are tried. -/
theorem isOk_last : ∀ i < 3, ∀ negative, (unsigned negative (Style.plotData.decimalText
    (shortest Style.plotData.tie (infinityBits - 1 - i)))).isOk = true := by
  decide +kernel

theorem exists_decimalText (negative : Bool) {b : ℕ} (h : b < infinityBits) : ∃ r,
    unsigned negative (Style.plotData.decimalText (shortest Style.plotData.tie b)) = .ok r := by
  rcases Nat.lt_or_ge b (infinityBits - 3) with hlt | hlast
  · exact exists_decimalText_of_lt negative hlt
  · have hok := isOk_last (infinityBits - 1 - b) (by omega) negative
    rw [show infinityBits - 1 - (infinityBits - 1 - b) = b by omega] at hok
    exact isOk_iff.mp hok

/-- Every finite number is read back from its own text, as some number. -/
theorem exists_reread {v : Float} (h : magnitude v < infinityBits) : ∃ w, reread v = .ok w := by
  obtain ⟨c, r, hcs, hc⟩ := Style.plotData.head_decimalText
    (shortest Style.plotData.tie (magnitude v))
  obtain ⟨value, hvalue⟩ := exists_decimalText (isNegative v) h
  have hreal := real_signed (isNegative v) hcs hc []
  rw [List.append_nil, List.append_nil, hvalue] at hreal
  rw [reread, Printer.real, if_pos h, Style.chars_of_finite _ h, hreal]
  exact ⟨_, rfl⟩

end Reader

/-! ## Printed values -/

/-- What comes of reading a text with these numbers in it: a value when all of them are finite, and
else the fault that one of them has no digits. -/
inductive Settles {α : Type} (xs : List Float) : Except Error α → Prop
  | value (hfinite : ∀ x ∈ xs, x.isFinite = true) (w : α) : Settles xs (.ok w)
  | absent {x : Float} (hx : x ∈ xs) (hfinite : x.isFinite = false) :
    Settles xs (.error (.invalidType .null "f64"))

section Settles

variable {α β : Type} {xs ys : List Float}

theorem Settles.ok (w : α) : Settles [] (.ok w) := .value (by simp) w

theorem Settles.exists_iff {r : Except Error α} (h : Settles xs r) :
    (∃ w, r = .ok w) ↔ ∀ x ∈ xs, x.isFinite = true := by
  cases h with
  | value hfinite w => exact iff_of_true ⟨w, rfl⟩ hfinite
  | @absent x hx hnot =>
    refine iff_of_false (by simp) fun hfinite => ?_
    rw [hfinite x hx] at hnot
    cases hnot

theorem Settles.eq_error {r : Except Error α} {x : Float} (h : Settles xs r) (hx : x ∈ xs)
    (hnot : x.isFinite = false) : r = .error (.invalidType .null "f64") := by
  cases h with
  | absent => rfl
  | value hfinite =>
    rw [hfinite x hx] at hnot
    cases hnot

theorem Settles.bind {r : Except Error α} {f : α → Except Error β} (h : Settles xs r)
    (hf : ∀ w, Settles ys (f w)) : Settles (xs ++ ys) (r >>= f) := by
  cases h with
  | absent hx hnot => exact .absent (List.mem_append_left ys hx) hnot
  | value hfinite w =>
    have hw := hf w
    change Settles (xs ++ ys) (f w)
    generalize f w = t at hw ⊢
    cases hw with
    | value hfinite' u => exact .value (List.forall_mem_append.mpr ⟨hfinite, hfinite'⟩) u
    | absent hx hnot => exact .absent (List.mem_append_right xs hx) hnot

theorem Settles.map {r : Except Error α} (h : Settles xs r) (f : α → β) : Settles xs (r.map f) := by
  cases h with
  | value hfinite w => exact .value hfinite (f w)
  | absent hx hnot => exact .absent hx hnot

theorem Settles.bind_ok {r : Except Error α} (h : Settles xs r) (f : α → β) :
    Settles xs (r >>= fun w => .ok (f w)) :=
  List.append_nil xs ▸ h.bind fun w => .ok (f w)

theorem Settles.mapM {reals : α → List Float} {f : α → Except Error β}
    (h : ∀ v, Settles (reals v) (f v)) (vs : List α) :
    Settles (vs.flatMap reals) (vs.mapM f) := by
  induction vs with
  | nil => exact .ok []
  | cons v vs ih =>
    rw [List.mapM_cons, List.flatMap_cons]
    exact (h v).bind fun u => ih.bind_ok (u :: ·)

end Settles

theorem settles_reread (x : Float) : Settles [x] (Reader.reread x) := by
  by_cases hfinite : x.isFinite = true
  · obtain ⟨w, hw⟩ := Reader.exists_reread ((Footprint.Number.isFinite_iff x).mp hfinite)
    rw [hw]
    exact .value (by simpa using hfinite) w
  · rw [Reader.reread_of_not_finite fun h => hfinite ((Footprint.Number.isFinite_iff x).mpr h)]
    exact .absent List.mem_cons_self (Bool.not_eq_true _ ▸ hfinite)

mutual

theorem Shape.settles : (s : Shape) → (v : s.Value) → Settles (s.reals v) (s.reread v)
  | .real, (v : Float) => settles_reread v
  | .word32, n => .ok n
  | .word64, n => .ok n
  | .text, s => .ok s
  | .list item, vs => Settles.mapM item.settles vs
  | .quad item, (⟨a, b, c, d⟩ : Quad item.Value) => by
    have h := (item.settles a).bind fun a => (item.settles b).bind fun b =>
      (item.settles c).bind fun c => (item.settles d).bind_ok (Quad.mk a b c)
    simp only [← List.append_assoc] at h
    exact h
  | .optional _, none => .ok none
  | .optional item, some v => (item.settles v).map some
  | .record _ fields, vs => fields.settles vs

theorem Fields.settles : (fs : Fields) → (vs : fs.Value) → Settles (fs.reals vs) (fs.reread vs)
  | .nil, () => .ok ()
  | .cons _ shape rest, (v, vs) =>
    (shape.settles v).bind fun u => (rest.settles vs).bind_ok fun us => (u, us)

end

end Footprint.Json
