import Footprint.Json.Printer
import Footprint.Proofs.Number.RoundTrip

/-!
# Numbers of plot data, read back

A printed number is read to the same value whatever follows it in a text. Whole numbers come back
as they were. What a real number comes back as is the reader's business: its digits are gathered
into a word and scaled by a power of ten, which need not give the nearest value.
-/
namespace Footprint.Json.Reader

open Footprint.Number (Decimal Style infinityBits isNegative magnitude shortest signed
  positionalText scientificText exponentText zeros)

/-- What follows a value in a printed text: nothing, a comma, or the end of a line. -/
def EndsValue (rest : List Char) : Prop := rest = [] ∨ ∃ c r, rest = c :: r ∧ (c = ',' ∨ c = '\n')

/-- What follows the digits of a number. -/
def EndsDigits (rest : List Char) : Prop := ∀ c r, rest = c :: r → isDigit c = false

theorem EndsValue.endsDigits {rest : List Char} (h : EndsValue rest) : EndsDigits rest := by
  rintro c r rfl
  rcases h with h | ⟨c', r', h, rfl | rfl⟩
  · cases h
  all_goals cases h; rfl

/-- From these characters the same is read, whatever follows them. -/
def Local {α : Type} (read : Reader α) (cs : List Char) : Prop :=
  ∃ r : Except Error α, ∀ rest, EndsValue rest → read (cs ++ rest) = r.map (·, rest)

section Digits

variable {ds rest : List Char}

theorem EndsDigits.dropWhile (h : EndsDigits rest) (hds : ∀ c ∈ ds, isDigit c = true) :
    (ds ++ rest).dropWhile isDigit = rest := by
  rw [List.dropWhile_append_of_pos hds]
  cases rest with
  | nil => rfl
  | cons c r => simp [h c r rfl]

theorem EndsDigits.takeWhile (h : EndsDigits rest) (hds : ∀ c ∈ ds, isDigit c = true) :
    (ds ++ rest).takeWhile isDigit = ds := by
  rw [List.takeWhile_append_of_pos hds]
  cases rest with
  | nil => simp
  | cons c r => simp [h c r rfl]

end Digits

theorem head_toDigits {n : ℕ} (hn : 0 < n) : ∃ c cs, Nat.toDigits 10 n = c :: cs ∧ c ≠ '0' := by
  induction n using Nat.strongRecOn with
  | ind n ih =>
    by_cases hlt : n < 10
    · have hchar : ∀ m < 10, 0 < m → Nat.digitChar m ≠ '0' := by decide
      exact ⟨_, _, Nat.toDigits_of_lt_base hlt, hchar n hlt hn⟩
    · obtain ⟨c, cs, hcs, hc⟩ := ih (n / 10) (by omega) (by omega)
      refine ⟨c, cs ++ [Nat.digitChar (n % 10)], ?_, hc⟩
      rw [Nat.toDigits_of_base_le (by omega) (by omega), hcs, List.cons_append]

theorem toDigits_eq_cons (n : ℕ) : ∃ d ds, Nat.toDigits 10 n = d :: ds ∧
    (∀ c ∈ d :: ds, isDigit c = true) ∧ (d = '0' → ds = []) := by
  have hall := Footprint.Number.isDigit_toDigits n
  rcases Nat.eq_zero_or_pos n with rfl | hn
  · exact ⟨'0', [], Nat.toDigits_zero 10, hall, fun _ => rfl⟩
  · obtain ⟨d, ds, hdigits, hd⟩ := head_toDigits hn
    exact ⟨d, ds, hdigits, hdigits ▸ hall, fun h => absurd h hd⟩

/-! ## Exponents -/

theorem exponentDigits_append (e : ℕ) {ds : List Char} (hds : ∀ c ∈ ds, isDigit c = true) :
    (∃ n, ∀ rest, EndsDigits rest → exponentDigits e (ds ++ rest) = (some n, rest)) ∨
      ∃ left, (∀ c ∈ left, isDigit c = true) ∧
        ∀ rest, EndsDigits rest → exponentDigits e (ds ++ rest) = (none, left ++ rest) := by
  induction ds generalizing e with
  | nil =>
    refine .inl ⟨e, fun rest h => ?_⟩
    cases rest with
    | nil => rfl
    | cons c r => simp [exponentDigits, h c r rfl]
  | cons d ds ih =>
    have hd := hds d List.mem_cons_self
    have hrest := fun c hc => hds c (List.mem_cons_of_mem d hc)
    by_cases hlimit : e * 10 + digitValue d < exponentLimit
    · simp only [List.cons_append, exponentDigits, hd, if_true, hlimit]
      exact ih _ hrest
    · exact .inr ⟨ds, hrest, fun rest _ => by simp [exponentDigits, hd, hlimit]⟩

private theorem local_signed_exponent (negative minus : Bool) (significand : ℕ) (start : ℤ) {d : Char}
    {ds : List Char} (hd : isDigit d = true) (hds : ∀ c ∈ ds, isDigit c = true) :
    Local (exponent negative significand start) ((if minus then '-' else '+') :: d :: ds) := by
  rcases exponentDigits_append (digitValue d) hds with ⟨n, hn⟩ | ⟨left, hleft, hn⟩
  · refine ⟨realOf negative significand (if minus then start - n else start + n), fun rest h => ?_⟩
    have hdigits := hn rest h.endsDigits
    cases minus <;> simp only [List.cons_append, exponent, hd, hdigits, if_true, Bool.false_eq_true,
      if_false] <;> cases realOf negative significand _ <;> rfl
  · refine ⟨if significand ≠ 0 ∧ !minus then fail .numberRange
      else .ok (.real (if negative then -0.0 else 0.0)), fun rest h => ?_⟩
    have hdigits := hn rest h.endsDigits
    have hdrop := h.endsDigits.dropWhile hleft
    cases minus <;> simp only [List.cons_append, exponent, hd, hdigits, hdrop, if_true,
      Bool.false_eq_true, if_false] <;> split_ifs <;> rfl

theorem local_exponentText (negative : Bool) (significand : ℕ) (start p : ℤ) :
    Local (afterDigits negative significand start) (exponentText true p) := by
  obtain ⟨d, ds, hdigits, hall, -⟩ := toDigits_eq_cons p.natAbs
  have htext : exponentText true p = 'e' :: (if decide (p < 0) then '-' else '+') :: d :: ds := by
    by_cases hp : p < 0 <;> simp [exponentText, hdigits, hp]
  rw [htext]
  exact local_signed_exponent negative (decide (p < 0)) significand start
    (hall d List.mem_cons_self) fun c hc => hall c (List.mem_cons_of_mem d hc)

theorem local_nil (negative : Bool) (significand : ℕ) (start : ℤ) :
    Local (afterDigits negative significand start) [] := by
  refine ⟨realOf negative significand start, fun rest h => ?_⟩
  rw [List.nil_append]
  rcases h with rfl | ⟨c, r, rfl, rfl | rfl⟩ <;> simp only [afterDigits] <;>
    cases realOf negative significand start <;> rfl

/-! ## Fractions -/

/-- Digits that do not fit the word are dropped, which only lowers the value, and those that fit
lower the exponent. -/
theorem fractionDigits_append (significand taken : ℕ) {ds : List Char}
    (hds : ∀ c ∈ ds, isDigit c = true) :
    ∃ n k left, (∀ c ∈ left, isDigit c = true) ∧ k + left.length = taken + ds.length ∧
      n * 10 ^ left.length ≤ Nat.ofDigitChars 10 ds significand ∧
      (significand < 2 ^ 64 → n < 2 ^ 64) ∧ ∀ rest, EndsDigits rest →
        fractionDigits significand taken (ds ++ rest) = (n, k, left ++ rest) := by
  induction ds generalizing significand taken with
  | nil =>
    refine ⟨significand, taken, [], by simp, rfl, by simp, id, fun rest h => ?_⟩
    cases rest with
    | nil => rfl
    | cons c r => simp [fractionDigits, h c r rfl]
  | cons d ds ih =>
    have hd := hds d List.mem_cons_self
    by_cases hfits : fits significand d = true
    · obtain ⟨n, k, left, hleft, hlen, hvalue, hword, hrest⟩ :=
        ih (significand * 10 + digitValue d) (taken + 1)
          fun c hc => hds c (List.mem_cons_of_mem d hc)
      refine ⟨n, k, left, hleft, by rw [hlen, List.length_cons]; omega, ?_,
        fun _ => hword (of_decide_eq_true hfits), fun rest h => ?_⟩
      · rwa [Nat.ofDigitChars_cons, Nat.mul_comm 10 significand]
      · simp only [List.cons_append, fractionDigits, hd, hfits, Bool.and_self, if_true]
        exact hrest rest h
    · refine ⟨significand, taken, d :: ds, hds, rfl, ?_, id, fun rest _ => by
        simp [fractionDigits, hfits]⟩
      rw [Nat.ofDigitChars_eq_ofDigitChars_zero, Nat.mul_comm]
      exact Nat.le_add_right _ _

theorem fraction_append (negative : Bool) (significand : ℕ) (start : ℤ) {ds : List Char}
    (hds : ∀ c ∈ ds, isDigit c = true) (hne : ds ≠ []) :
    ∃ n k, k ≤ ds.length ∧ n * 10 ^ (ds.length - k) ≤ Nat.ofDigitChars 10 ds significand ∧
      (significand < 2 ^ 64 → n < 2 ^ 64) ∧ ∀ rest, EndsDigits rest →
        fraction negative significand start (ds ++ rest) =
          afterDigits negative n (start - (k : ℕ)) rest := by
  obtain ⟨n, k, left, hleft, hlen, hvalue, hword, hrest⟩ := fractionDigits_append significand 0 hds
  rw [Nat.zero_add] at hlen
  have hpos := List.length_pos_iff.mpr hne
  refine ⟨n, k, by omega, ?_, hword, fun rest h => ?_⟩
  · rwa [← hlen, Nat.add_sub_cancel_left]
  simp only [fraction, hrest rest h]
  cases left with
  | cons c left =>
    have hc := hleft c List.mem_cons_self
    simp only [List.cons_append, hc, if_true]
    rw [← List.cons_append, h.dropWhile hleft]
  | nil =>
    have hk : k ≠ 0 := by
      simp only [List.length_nil] at hlen
      omega
    cases rest with
    | nil => simp [hk]
    | cons c r => simp [hk, h c r rfl]

/-! ## Digits in front -/

/-- After its first digits a number goes on as a fraction or with an exponent, with some significand
and exponent, unless it cannot begin with these digits. -/
def Begins (read : Reader Number) (negative : Bool) (ds : List Char) : Prop :=
  (∃ n e, (∀ r, read (ds ++ '.' :: r) = fraction negative n e r) ∧
    ∀ r, read (ds ++ 'e' :: r) = afterDigits negative n e ('e' :: r)) ∨
  ∃ e, ∀ r, read (ds ++ r) = .error e

theorem moreDigits_begins (negative : Bool) (significand : ℕ) {ds : List Char}
    (hds : ∀ c ∈ ds, isDigit c = true) : Begins (moreDigits negative significand) negative ds := by
  induction ds generalizing significand with
  | nil => exact .inl ⟨significand, 0, fun _ => rfl, fun _ => rfl⟩
  | cons d ds ih =>
    have hd := hds d List.mem_cons_self
    have hrest := fun c hc => hds c (List.mem_cons_of_mem d hc)
    by_cases hfits : fits significand d = true
    · simp only [Begins, List.cons_append, moreDigits, hd, hfits, if_true]
      exact ih _ hrest
    · -- From here on every digit counts as a power of ten.
      have hlong : ∀ c r, isDigit c = false → (d :: ds ++ c :: r).takeWhile isDigit = d :: ds ∧
          (d :: ds ++ c :: r).dropWhile isDigit = c :: r := fun c r hc =>
        have hends : EndsDigits (c :: r) := fun _ _ h => by cases h; exact hc
        ⟨hends.takeWhile hds, hends.dropWhile hds⟩
      have hmore : ∀ r, moreDigits negative significand (d :: ds ++ r) =
          longInteger negative significand (d :: ds ++ r) := fun r => by
        simp [moreDigits, hd, hfits]
      refine .inl ⟨significand, (d :: ds).length, fun r => ?_, fun r => ?_⟩
      · obtain ⟨htake, hdrop⟩ := hlong '.' r rfl
        rw [hmore, longInteger, htake, hdrop]
        rfl
      · obtain ⟨htake, hdrop⟩ := hlong 'e' r rfl
        rw [hmore, longInteger, htake, hdrop]
        rfl

theorem unsigned_begins (negative : Bool) {ds : List Char} (hds : ∀ c ∈ ds, isDigit c = true)
    (hne : ds ≠ []) : Begins (unsigned negative) negative ds := by
  obtain ⟨d, ds, rfl⟩ := List.exists_cons_of_ne_nil hne
  have hd := hds d List.mem_cons_self
  have hrest := fun c hc => hds c (List.mem_cons_of_mem d hc)
  by_cases hzero : d = '0'
  · subst hzero
    cases ds with
    | nil => exact .inl ⟨0, 0, fun _ => rfl, fun _ => rfl⟩
    | cons c ds =>
      have hc := hrest c List.mem_cons_self
      exact .inr ⟨.malformed .badNumber, fun r => by simp [unsigned, hc, fail]⟩
  · simp only [Begins, List.cons_append, unsigned, hzero, hd, if_false, if_true]
    exact moreDigits_begins negative (digitValue d) hrest

/-! ## Whole numbers -/

theorem isSpace_of_isDigit {c : Char} (hc : isDigit c = true) : isSpace c = false := by
  by_contra h
  simp only [isSpace, Bool.not_eq_false, Bool.or_eq_true, decide_eq_true_eq] at h
  rcases h with ((rfl | rfl) | rfl) | rfl <;> cases hc

theorem skipSpace_of_isDigit {c : Char} (hc : isDigit c = true) (r : List Char) :
    skipSpace (c :: r) = c :: r := by
  rw [skipSpace, List.dropWhile_cons, isSpace_of_isDigit hc, if_neg Bool.false_ne_true]

theorem number?_of_isDigit {c : Char} (hc : isDigit c = true) (r : List Char) :
    number? (c :: r) = some (unsigned false (c :: r)) := by
  unfold number?
  split
  · next heq => cases heq; cases hc
  · next heq => cases heq; rw [if_pos hc]
  · next heq => cases heq

theorem le_ofDigitChars (cs : List Char) (n : ℕ) : n ≤ Nat.ofDigitChars 10 cs n := by
  rw [Nat.ofDigitChars_eq_ofDigitChars_zero]
  exact Nat.le_add_right_of_le (Nat.le_mul_of_pos_left n (Nat.pow_pos (by decide)))

/-- Digits that fit a word are all gathered. -/
theorem moreDigits_append (negative : Bool) (significand : ℕ) {ds : List Char}
    (hds : ∀ c ∈ ds, isDigit c = true) (hfits : Nat.ofDigitChars 10 ds significand < 2 ^ 64)
    {rest : List Char} (h : EndsDigits rest) : moreDigits negative significand (ds ++ rest) =
      integer negative (Nat.ofDigitChars 10 ds significand) rest := by
  induction ds generalizing significand with
  | nil =>
    rw [Nat.ofDigitChars_nil, List.nil_append]
    cases rest with
    | nil => rfl
    | cons c r => simp [moreDigits, h c r rfl]
  | cons d ds ih =>
    have hd := hds d List.mem_cons_self
    have hnext : 10 * significand + (d.toNat - '0'.toNat) = significand * 10 + digitValue d :=
      congrArg (· + _) (Nat.mul_comm 10 significand)
    rw [Nat.ofDigitChars_cons, hnext] at hfits ⊢
    have hword : fits significand d = true :=
      decide_eq_true (Nat.lt_of_le_of_lt (le_ofDigitChars ds _) hfits)
    simp only [List.cons_append, moreDigits, hd, hword, if_true]
    exact ih _ (fun c hc => hds c (List.mem_cons_of_mem d hc)) hfits

/-- The digits of a whole number that fits a word, without a zero in front unless it is zero. -/
theorem unsigned_append (negative : Bool) {d : Char} {ds : List Char}
    (hds : ∀ c ∈ d :: ds, isDigit c = true) (hzero : d = '0' → ds = [])
    (hfits : Nat.ofDigitChars 10 (d :: ds) 0 < 2 ^ 64) {rest : List Char} (h : EndsDigits rest) :
    unsigned negative (d :: ds ++ rest) =
      integer negative (Nat.ofDigitChars 10 (d :: ds) 0) rest := by
  by_cases hd : d = '0'
  · obtain rfl := hzero hd
    subst hd
    cases rest with
    | nil => rfl
    | cons c r => simp [unsigned, h c r rfl, Nat.ofDigitChars_cons]
  · rw [Nat.ofDigitChars_cons, Nat.mul_zero, Nat.zero_add] at hfits ⊢
    simp only [List.cons_append, unsigned, if_neg hd, hds d List.mem_cons_self, if_true]
    exact moreDigits_append negative _ (fun c hc => hds c (List.mem_cons_of_mem d hc)) hfits h

theorem integer_append {n : ℕ} {rest : List Char} (h : EndsValue rest) :
    integer false n rest = .ok (.natural n, rest) := by
  rcases h with rfl | ⟨c, r, rfl, rfl | rfl⟩ <;> rfl

theorem unsigned_toDigits {n : ℕ} (hn : n < 2 ^ 64) {rest : List Char} (h : EndsValue rest) :
    unsigned false (Nat.toDigits 10 n ++ rest) = .ok (.natural n, rest) := by
  obtain ⟨d, ds, hdigits, hall, hzero⟩ := toDigits_eq_cons n
  have hvalue : Nat.ofDigitChars 10 (d :: ds) 0 = n := hdigits ▸ Nat.ofDigitChars_ten_toDigits
  have hread := unsigned_append false hall hzero (hvalue.symm ▸ hn) h.endsDigits
  rw [hdigits, hread, hvalue, integer_append h]

theorem word_append {n limit : ℕ} (hn : n < limit) (hlimit : limit ≤ 2 ^ 64) (expected : String)
    {rest : List Char} (h : EndsValue rest) :
    word limit expected (Nat.toDigits 10 n ++ rest) = .ok (n, rest) := by
  have hread := unsigned_toDigits (Nat.lt_of_lt_of_le hn hlimit) h
  obtain ⟨d, ds, hdigits, hall, -⟩ := toDigits_eq_cons n
  have hd := hall d List.mem_cons_self
  rw [hdigits, List.cons_append] at hread ⊢
  rw [word, skipSpace_of_isDigit hd]
  simp only [number?_of_isDigit hd, hread, bind, Except.bind, if_pos hn]

/-! ## Printed numbers -/

/-- The end of a printed number that is not a whole one: nothing, or an exponent. -/
def IsTail (tail : List Char) : Prop := tail = [] ∨ ∃ p, tail = exponentText true p

theorem IsTail.endsDigits {tail rest : List Char} (h : IsTail tail) (hrest : EndsValue rest) :
    EndsDigits (tail ++ rest) := by
  rcases h with rfl | ⟨p, rfl⟩
  · exact hrest.endsDigits
  · intro c r hcr
    simp only [exponentText, List.cons_append, List.cons.injEq] at hcr
    rw [← hcr.1]
    rfl

theorem IsTail.local {tail : List Char} (h : IsTail tail) (negative : Bool) (significand : ℕ)
    (start : ℤ) : Local (afterDigits negative significand start) tail := by
  rcases h with rfl | ⟨p, rfl⟩
  · exact local_nil negative significand start
  · exact local_exponentText negative significand start p

theorem local_pointed (negative : Bool) {whole frac tail : List Char}
    (hwhole : ∀ c ∈ whole, isDigit c = true) (hw : whole ≠ []) (hfrac : ∀ c ∈ frac, isDigit c = true)
    (hf : frac ≠ []) (htail : IsTail tail) :
    Local (unsigned negative) (whole ++ '.' :: (frac ++ tail)) := by
  rcases unsigned_begins negative hwhole hw with ⟨n, e, hpoint, -⟩ | ⟨e, he⟩
  · obtain ⟨n', k, -, -, -, hfraction⟩ := fraction_append negative n e hfrac hf
    obtain ⟨r, hr⟩ := htail.local negative n' (e - k)
    refine ⟨r, fun rest h => ?_⟩
    rw [List.append_assoc, List.cons_append, hpoint, List.append_assoc,
      hfraction _ (htail.endsDigits h), hr rest h]
  · exact ⟨.error e, fun rest _ => by rw [List.append_assoc, he]; rfl⟩

theorem local_whole (negative : Bool) {whole : List Char} (hwhole : ∀ c ∈ whole, isDigit c = true)
    (hw : whole ≠ []) (p : ℤ) : Local (unsigned negative) (whole ++ exponentText true p) := by
  rcases unsigned_begins negative hwhole hw with ⟨n, e, -, hexponent⟩ | ⟨e, he⟩
  · obtain ⟨r, hr⟩ := local_exponentText negative n e p
    refine ⟨r, fun rest h => ?_⟩
    rw [← hr rest h, List.append_assoc]
    exact hexponent _
  · exact ⟨.error e, fun rest _ => by rw [List.append_assoc, he]; rfl⟩

theorem local_positional (negative : Bool) {ds : List Char} (hds : ∀ c ∈ ds, isDigit c = true)
    (hne : ds ≠ []) (p : ℤ) : Local (unsigned negative) (positionalText true ds p) := by
  have hzeros : ∀ n, ∀ c ∈ zeros n, isDigit c = true := Footprint.Number.isDigit_zeros
  have hend : IsTail [] := .inl rfl
  by_cases hp : p < 0
  · have hfrac : ∀ c ∈ zeros (-p - 1).toNat ++ ds, isDigit c = true := fun c hc =>
      (List.mem_append.mp hc).elim (hzeros _ c) (hds c)
    have h := local_pointed negative (hzeros 1) (by simp [zeros]) hfrac (by simp [hne]) hend
    simpa [positionalText, hp, zeros] using h
  · simp only [positionalText, if_neg hp, if_true]
    split_ifs with hle
    · have hwhole : ∀ c ∈ ds ++ zeros (p.toNat + 1 - ds.length), isDigit c = true := fun c hc =>
        (List.mem_append.mp hc).elim (hds c) (hzeros _ c)
      exact local_pointed negative hwhole (by simp [hne]) (hzeros 1) (by simp [zeros]) hend
    · have hwhole : ∀ c ∈ ds.take (p.toNat + 1), isDigit c = true := fun c hc =>
        hds c (List.mem_of_mem_take hc)
      have h := local_pointed negative hwhole (by simp [hne])
        (fun c hc => hds c (List.mem_of_mem_drop hc)) (List.drop_eq_nil_iff.not.mpr hle) hend
      rwa [List.append_nil] at h

theorem local_scientific (negative : Bool) {ds : List Char} (hds : ∀ c ∈ ds, isDigit c = true)
    (hne : ds ≠ []) (p : ℤ) : Local (unsigned negative) (scientificText true ds p) := by
  have hfirst : ∀ c ∈ ds.take 1, isDigit c = true := fun c hc => hds c (List.mem_of_mem_take hc)
  have hfirstne : ds.take 1 ≠ [] := by simp [hne]
  rw [scientificText]
  split_ifs with hlen
  · rw [List.append_nil]
    exact local_whole negative hfirst hfirstne p
  · rw [List.append_assoc, List.cons_append]
    exact local_pointed negative hfirst hfirstne (fun c hc => hds c (List.mem_of_mem_drop hc))
      (List.drop_eq_nil_iff.not.mpr hlen) (.inr ⟨p, rfl⟩)

theorem local_decimalText (negative : Bool) (d : Decimal) :
    Local (unsigned negative) (Style.plotData.decimalText d) := by
  rw [Style.decimalText]
  split_ifs
  · exact local_positional negative d.isDigit_digits d.digits_ne_nil _
  · exact local_scientific negative d.isDigit_digits d.digits_ne_nil _

/-- The value of any number that stands where a real one is asked for. -/
def Number.value : Number → Float
  | .natural n => n.toFloat
  | .negative n => -n.toFloat
  | .real v => v

theorem real_signed (negative : Bool) {cs : List Char} {c : Char} {r : List Char} (hcs : cs = c :: r)
    (hc : isDigit c = true) (rest : List Char) :
    real (signed negative cs ++ rest) =
      (unsigned negative (cs ++ rest)).map fun p => (p.1.value, p.2) := by
  subst hcs
  have hreal : real (signed negative (c :: r) ++ rest) =
      (unsigned negative (c :: r ++ rest) >>= fun p => .ok (p.1.value, p.2)) := by
    cases negative with
    | true => rfl
    | false =>
      have hsigned : signed false (c :: r) ++ rest = c :: (r ++ rest) := rfl
      rw [hsigned, real, skipSpace_of_isDigit hc]
      simp only [number?_of_isDigit hc]
      rfl
  rw [hreal]
  cases unsigned negative (c :: r ++ rest) <;> rfl

/-- A printed number is read in the same way whatever follows it. -/
theorem local_real (v : Float) : Local real (Printer.real v) := by
  rw [Printer.real]
  split_ifs with hfinite
  · rw [Style.chars_of_finite _ hfinite]
    obtain ⟨c, r, hcs, hc⟩ := Style.plotData.head_decimalText
      (shortest Style.plotData.tie (magnitude v))
    obtain ⟨value, hvalue⟩ := local_decimalText (isNegative v)
      (shortest Style.plotData.tie (magnitude v))
    refine ⟨value.map Number.value, fun rest h => ?_⟩
    rw [real_signed _ hcs hc, hvalue rest h]
    cases value <;> rfl
  · exact ⟨.error (.invalidType .null "f64"), fun rest _ => rfl⟩

/-- What a value is read back as from its own text. -/
def reread (v : Float) : Except Error Float := (real (Printer.real v)).map (·.1)

theorem real_append (v : Float) {rest : List Char} (h : EndsValue rest) :
    real (Printer.real v ++ rest) = (reread v).map (·, rest) := by
  obtain ⟨r, hr⟩ := local_real v
  have hself := hr [] (.inl rfl)
  rw [List.append_nil] at hself
  rw [hr rest h, reread, hself]
  cases r <;> rfl

theorem reread_of_not_finite {v : Float} (h : ¬magnitude v < infinityBits) :
    reread v = .error (.invalidType .null "f64") := by
  rw [reread, Printer.real, if_neg h]
  rfl

end Footprint.Json.Reader
