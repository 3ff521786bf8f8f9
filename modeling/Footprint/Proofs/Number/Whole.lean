import Footprint.Proofs.Number.Bounds
import Footprint.Proofs.Number.RoundTrip

/-!
# Whole numbers in shortest digits

Numbers of at most 53 bits, with zeros behind them, are values of magnitudes, and so are the
multiples of ten up to `10 ^ 16`. Below that bound a whole number is thus told from every multiple
of ten beside it, and its shortest digits are its own. From the bound on, the shortest digits begin
where those of the number do.
-/
namespace Footprint.Number

/-- `v` is the whole number `n` or `-n`. -/
def IsWhole (v : Float) (n : ℕ) : Prop :=
  magnitude v < infinityBits ∧ units (magnitude v) = n * Shortest.unit

instance (v : Float) (n : ℕ) : Decidable (IsWhole v n) := inferInstanceAs (Decidable (_ ∧ _))

/-! ## Values of few bits -/

/-- A number of at most 53 bits, with zeros behind them, is the value of a finite magnitude. -/
theorem exists_units_eq {r t : ℕ} (hr : r < 2 ^ 53) (ht : t ≤ 900) :
    ∃ b < infinityBits, units b = r * 2 ^ t * 2 ^ unitExponent := by
  rcases Nat.eq_zero_or_pos r with rfl | hpos
  · exact ⟨0, by decide, by simp [units]⟩
  have hu : unitExponent = 1074 := rfl
  have hi : infinityBits = 2047 * 2 ^ 52 := rfl
  have hlog : r.log2 < 53 := (Nat.log2_lt hpos.ne').mpr hr
  obtain ⟨m, hm⟩ : ∃ m, r * 2 ^ (52 - r.log2) = m := ⟨_, rfl⟩
  have hlow : 2 ^ 52 ≤ m := by
    calc 2 ^ 52 = 2 ^ r.log2 * 2 ^ (52 - r.log2) := by
          rw [← Nat.pow_add, Nat.add_sub_cancel' (by omega)]
      _ ≤ m := hm ▸ Nat.mul_le_mul_right _ (Nat.log2_self_le hpos.ne')
  have hhigh : m < 2 ^ 53 := by
    calc m < 2 ^ (r.log2 + 1) * 2 ^ (52 - r.log2) :=
          hm ▸ Nat.mul_lt_mul_of_pos_right Nat.lt_log2_self (Nat.two_pow_pos _)
      _ = 2 ^ 53 := by
          rw [← Nat.pow_add, show r.log2 + 1 + (52 - r.log2) = 53 by omega]
  refine ⟨(t + unitExponent - (52 - r.log2)) * 2 ^ 52 + m, by omega, ?_⟩
  rw [units_of_mantissa hlow hhigh.le, ← hm, Nat.mul_assoc, ← Nat.pow_add, Nat.mul_assoc,
    ← Nat.pow_add,
    show 52 - r.log2 + (t + unitExponent - (52 - r.log2)) = t + unitExponent by omega]

namespace Decimal

theorem magnitude_of_nonneg {c : ℕ} (hc : c ≠ 0) (k : ℕ) :
    (⟨c, k⟩ : Decimal).magnitude = nearest (c * 10 ^ k) 1 := by
  rw [magnitude_eq_nearest hc, Int.toNat_natCast, show (-(k : ℤ)).toNat = 0 by omega, pow_zero]

/-- A decimal without places has the magnitude with its value, if there is one. -/
theorem magnitude_of_units_eq {b c : ℕ} (hb : b < infinityBits) (hc : c ≠ 0) {k : ℕ}
    (h : units b = c * 10 ^ k * 2 ^ unitExponent) : (⟨c, k⟩ : Decimal).magnitude = b := by
  rw [magnitude_of_nonneg hc]
  refine (nearest_congr Nat.one_pos (Nat.two_pow_pos _) ?_).trans (nearest_units hb)
  rw [h, Nat.mul_one]

/-- Multiples of ten up to `10 ^ 16` are even and so are values of magnitudes. -/
theorem units_magnitude_of_le {c k : ℕ} (hc : c ≠ 0) (hk : 0 < k) (h : c * 10 ^ k ≤ 10 ^ 16) :
    units (⟨c, k⟩ : Decimal).magnitude = c * 10 ^ k * 2 ^ unitExponent := by
  have heven : c * 10 ^ k / 2 * 2 ^ 1 = c * 10 ^ k :=
    Nat.div_mul_cancel (Dvd.dvd.mul_left (dvd_pow (by decide) hk.ne') c)
  obtain ⟨b, hb, hunits⟩ := exists_units_eq (r := c * 10 ^ k / 2) (t := 1) (by omega) (by omega)
  rw [heven] at hunits
  rw [magnitude_of_units_eq hb hc hunits, hunits]

end Decimal

/-! ## Digits and their number -/

theorem toDigits_mul_pow {c : ℕ} (hc : 0 < c) (k : ℕ) :
    Nat.toDigits 10 (c * 10 ^ k) = Nat.toDigits 10 c ++ zeros k := by
  induction k with
  | zero => simp [zeros]
  | succ k ih =>
    have hzero : Nat.toDigits 10 0 = ['0'] := Nat.toDigits_zero 10
    have hten : c * 10 ^ (k + 1) = 10 * (c * 10 ^ k) + 0 := by ring
    rw [hten, ← Nat.toDigits_append_toDigits (by decide) (by positivity) (by decide), ih, hzero,
      List.append_assoc, zeros, zeros, ← List.replicate_succ']

/-- The number of digits tells the powers of ten beside a number. -/
theorem pow_le_of_length_toDigits {n : ℕ} (hn : 0 < n) :
    10 ^ ((Nat.toDigits 10 n).length - 1) ≤ n ∧ n < 10 ^ (Nat.toDigits 10 n).length := by
  have hpos : 0 < (Nat.toDigits 10 n).length := Nat.length_toDigits_pos
  refine ⟨?_, (Nat.length_toDigits_le_iff (by decide) hpos).mp (Nat.le_refl _)⟩
  rcases Nat.eq_zero_or_pos ((Nat.toDigits 10 n).length - 1) with hzero | hlen
  · rw [hzero]
    exact hn
  · refine Nat.not_lt.mp fun hlt => ?_
    have := (Nat.length_toDigits_le_iff (by decide) hlen).mpr hlt
    omega

namespace Decimal

theorem leading_lt_iff {c : ℕ} (hc : 0 < c) (k m : ℕ) :
    (⟨c, k⟩ : Decimal).leading < m ↔ c * 10 ^ k < 10 ^ m := by
  have hlen : 0 < (Nat.toDigits 10 c).length := Nat.length_toDigits_pos
  have hlead : (⟨c, k⟩ : Decimal).leading = k + (Nat.toDigits 10 c).length - 1 := rfl
  rw [hlead]
  rcases Nat.lt_or_ge k m with hlt | hge
  · obtain ⟨j, rfl⟩ := Nat.exists_eq_add_of_le hlt.le
    rw [Nat.add_comm k j, Nat.pow_add, Nat.mul_lt_mul_right (by positivity),
      ← Nat.length_toDigits_le_iff (by decide) (by omega)]
    omega
  · have hpow : 10 ^ m ≤ c * 10 ^ k :=
      (Nat.pow_le_pow_right (by decide) hge).trans (Nat.le_mul_of_pos_left _ hc)
    omega

theorem leading_dropZeros (c : ℕ) (e : ℤ) :
    (dropZeros c e).leading = (⟨c, e⟩ : Decimal).leading := by
  induction c, e using dropZeros.induct with
  | case1 c e h ih =>
    have hdigits := Nat.toDigits_of_base_le (b := 10) (n := c) (by decide) (by omega)
    rw [dropZeros, dif_pos h, ih]
    simp only [leading, digits, hdigits, List.length_append, List.length_singleton]
    push_cast
    omega
  | case2 c e h => rw [dropZeros, dif_neg h]

@[simp] theorem leading_reduce (d : Decimal) : d.reduce.leading = d.leading := leading_dropZeros _ _

/-- Dropped zeros are counted by the exponent. -/
theorem dropZeros_eq (c : ℕ) (e : ℤ) :
    ∃ c' j : ℕ, dropZeros c e = ⟨c', e + j⟩ ∧ c' * 10 ^ j = c := by
  induction c, e using dropZeros.induct with
  | case1 c e h ih =>
    obtain ⟨c', j, heq, hc⟩ := ih
    refine ⟨c', j + 1, ?_, ?_⟩
    · rw [dropZeros, dif_pos h, heq]
      congr 1
      push_cast
      ring
    · rw [Nat.pow_succ, ← Nat.mul_assoc, hc]
      omega
  | case2 c e h => exact ⟨c, 0, by rw [dropZeros, dif_neg h]; simp, by simp⟩

end Decimal

/-! ## The grids of a whole number -/

namespace Shortest

theorem unit_eq : unit = 2 ^ unitExponent := by
  unfold unit
  rw [Nat.pow_eq]

theorem unit_pos : 0 < unit := by
  rw [unit_eq]
  exact Nat.two_pow_pos _

section Whole

variable {b n k : ℕ} {tie : Tie} {d : Decimal}

theorem leading_of_whole (h : units b = n * unit) (hn : 0 < n) :
    leading (units b) = ((Nat.toDigits 10 n).length - 1 : ℕ) := by
  have hpos : 0 < (Nat.toDigits 10 n).length := Nat.length_toDigits_pos
  rw [h, leading, if_pos (Nat.le_mul_of_pos_left _ hn), Nat.mul_div_cancel _ unit_pos]
  omega

theorem ratio_of_whole (h : units b = n * unit) (k : ℕ) :
    ratio (units b) k = (n * unit, unit * 10 ^ k) := by
  rw [ratio, if_pos (Int.natCast_nonneg k), h, Int.toNat_natCast, Nat.pow_eq]

theorem whole_div (n k : ℕ) : n * unit / (unit * 10 ^ k) = n / 10 ^ k := by
  rw [Nat.mul_comm n, Nat.mul_div_mul_left _ _ unit_pos]

theorem onGrid_of_whole (h : units b = n * unit) (hd : onGrid tie b k = some d) :
    d = ⟨n / 10 ^ k, k⟩ ∨ d = ⟨n / 10 ^ k + 1, k⟩ := by
  simp only [onGrid, ratio_of_whole h, whole_div] at hd
  split at hd
  · cases hd
  · cases hd; exact .inl rfl
  · cases hd; exact .inr rfl
  · split_ifs at hd <;> cases hd <;> simp

/-- A whole number that is on the grid is taken, also when a neighbour would do. -/
theorem onGrid_of_dvd (tie : Tie) (hb : b < infinityBits) (h : units b = n * unit) (hn : 0 < n)
    (hdvd : 10 ^ k ∣ n) : onGrid tie b k = some ⟨n / 10 ^ k, k⟩ := by
  have hexact : n / 10 ^ k * 10 ^ k = n := Nat.div_mul_cancel hdvd
  have hbelow : (⟨n / 10 ^ k, k⟩ : Decimal).magnitude = b := by
    refine Decimal.magnitude_of_units_eq hb (fun hzero => ?_) ?_
    · rw [hzero, Nat.zero_mul] at hexact
      omega
    · rw [hexact, h, unit_eq]
  have hrest : n * unit % (unit * 10 ^ k) = 0 := by
    rw [Nat.mul_comm n, Nat.mul_mod_mul_left, Nat.mod_eq_zero_of_dvd hdvd, Nat.mul_zero]
  have hden : 0 < unit * 10 ^ k := Nat.mul_pos unit_pos (by positivity)
  simp only [onGrid, ratio_of_whole h, whole_div, hbelow, hrest, decide_true]
  split <;> simp_all

/-- Below `10 ^ 16` the grids of tens hold no neighbour that reads back. -/
theorem onGrid_exact (hb : b < infinityBits) (h : units b = n * unit) (hlt : n < 10 ^ 16)
    (hk : 10 ^ k ≤ n) (hd : onGrid tie b k = some d) : ∃ c, d = ⟨c, k⟩ ∧ c * 10 ^ k = n := by
  have hpow : 0 < 10 ^ k := by positivity
  rcases Nat.eq_zero_or_pos k with rfl | hpos
  · rw [onGrid_of_dvd tie hb h (by omega) (by simp)] at hd
    exact ⟨n / 10 ^ 0, (Option.some.inj hd).symm, by simp⟩
  obtain ⟨c, rfl, hc, hle⟩ : ∃ c, d = ⟨c, k⟩ ∧ c ≠ 0 ∧ c ≤ n / 10 ^ k + 1 := by
    have hge : 0 < n / 10 ^ k := Nat.div_pos hk hpow
    rcases onGrid_of_whole h hd with rfl | rfl
    · exact ⟨_, rfl, hge.ne', Nat.le_succ _⟩
    · exact ⟨_, rfl, Nat.succ_ne_zero _, Nat.le_refl _⟩
  refine ⟨c, rfl, ?_⟩
  have hbound : c * 10 ^ k ≤ 10 ^ 16 := by
    have hk16 : k ≤ 16 := by
      have := hk.trans_lt hlt
      exact (Nat.pow_lt_pow_iff_right (by decide)).mp this |>.le
    have hsplit : 10 ^ 16 = 10 ^ (16 - k) * 10 ^ k := by
      rw [← Nat.pow_add, Nat.sub_add_cancel hk16]
    have hdiv : n / 10 ^ k < 10 ^ (16 - k) := by
      rwa [Nat.div_lt_iff_lt_mul hpow, ← hsplit]
    rw [hsplit]
    exact Nat.mul_le_mul_right _ (by omega)
  have hvalue := Decimal.units_magnitude_of_le hc hpos hbound
  rw [onGrid_magnitude hd, h, unit_eq] at hvalue
  exact (Nat.eq_of_mul_eq_mul_right (Nat.two_pow_pos _) hvalue).symm

end Whole
end Shortest

/-! ## Shortest digits of a whole number -/

theorem findSome?_range {α : Type} {f : ℕ → Option α} {m : ℕ} {x : α}
    (h : (List.range m).findSome? f = some x) : ∃ j < m, f j = some x ∧ ∀ i < j, f i = none := by
  induction m with
  | zero => simp at h
  | succ m ih =>
    rw [List.range_succ, List.findSome?_append] at h
    cases hm : (List.range m).findSome? f with
    | some y =>
      rw [hm, Option.some_or] at h
      obtain ⟨j, hj, hfound, hnone⟩ := ih (hm.trans h)
      exact ⟨j, Nat.lt_succ_of_lt hj, hfound, hnone⟩
    | none =>
      have hlast : f m = some x := by simpa [hm] using h
      exact ⟨m, Nat.lt_succ_self m, hlast, fun i hi =>
        List.findSome?_eq_none_iff.mp hm i (List.mem_range.mpr hi)⟩

/-- What the search for shortest digits finds on the grid of `j + 1` digits. -/
def Shortest.attempt (tie : Tie) (b j : ℕ) : Option Decimal := onGrid tie b (leading (units b) - j)

/-- The search ends at the first of seventeen grids that holds a decimal, or takes the exact
value. -/
theorem shortest_cases (tie : Tie) {b : ℕ} (hb : b ≠ 0) :
    (∃ j < 17, ∃ d, Shortest.attempt tie b j = some d ∧
      (∀ i < j, Shortest.attempt tie b i = none) ∧ shortest tie b = d.reduce) ∨
    (∀ j < 17, Shortest.attempt tie b j = none) ∧ shortest tie b = (Shortest.exact b).reduce := by
  have hdef : shortest tie b = (((List.range 17).findSome? (Shortest.attempt tie b)).getD
      (Shortest.exact b)).reduce := if_neg hb
  cases hs : (List.range 17).findSome? (Shortest.attempt tie b) with
  | some d =>
    obtain ⟨j, hj, hfound, hnone⟩ := findSome?_range hs
    exact .inl ⟨j, hj, d, hfound, hnone, by rw [hdef, hs, Option.getD_some]⟩
  | none =>
    refine .inr ⟨fun j hj => ?_, by rw [hdef, hs, Option.getD_none]⟩
    exact List.findSome?_eq_none_iff.mp hs j (List.mem_range.mpr hj)

section Whole

variable {b n : ℕ}

theorem pos_of_units_eq (h : units b = n * Shortest.unit) : 0 < b ↔ 0 < n := by
  constructor
  · intro hb
    have hunits := units_pos hb
    rw [h] at hunits
    exact Nat.pos_of_mul_pos_right hunits
  · intro hn
    have hunits : 0 < units b := h ▸ Nat.mul_pos hn Shortest.unit_pos
    exact Nat.pos_of_ne_zero fun hzero => absurd hunits (by rw [hzero]; decide)

/-- The grids of a whole number, from that of its first digit down to that of ones. -/
theorem Shortest.attempt_of_whole (h : units b = n * unit) (hn : 0 < n) : ∃ p, 10 ^ p ≤ n ∧
    n < 10 ^ (p + 1) ∧ ∀ tie, ∀ j ≤ p, attempt tie b j = onGrid tie b ((p - j : ℕ) : ℤ) := by
  obtain ⟨hlow, hhigh⟩ := pow_le_of_length_toDigits hn
  have hlen : 0 < (Nat.toDigits 10 n).length := Nat.length_toDigits_pos
  refine ⟨_, hlow, ?_, fun tie j hj => ?_⟩
  · rwa [Nat.sub_add_cancel hlen]
  · rw [attempt, leading_of_whole h hn, Nat.cast_sub hj]

/-- Below `10 ^ 16` the shortest digits are those of the number, with zeros behind them. -/
theorem shortest_of_whole (tie : Tie) (hb : b < infinityBits) (h : units b = n * Shortest.unit)
    (hn : 0 < n) (hlt : n < 10 ^ 16) :
    ∃ c e : ℕ, shortest tie b = ⟨c, e⟩ ∧ 0 < c ∧ c * 10 ^ e = n := by
  have hb0 : b ≠ 0 := ((pos_of_units_eq h).mpr hn).ne'
  obtain ⟨p, hlow, -, hgrid⟩ := Shortest.attempt_of_whole h hn
  have hp : p < 16 := (Nat.pow_lt_pow_iff_right (by decide)).mp (hlow.trans_lt hlt)
  -- The grid of ones holds the number, so the search ends there or before.
  have hlast : Shortest.attempt tie b p ≠ none := by
    rw [hgrid tie p (Nat.le_refl p), Nat.sub_self, Shortest.onGrid_of_dvd tie hb h hn (by simp)]
    nofun
  rcases shortest_cases tie hb0 with ⟨j, -, d, hd, hnone, hshortest⟩ | ⟨hnone, -⟩
  · have hjp : j ≤ p := Nat.not_lt.mp fun hpj => hlast (hnone p hpj)
    rw [hgrid tie j hjp] at hd
    obtain ⟨c, rfl, hc⟩ := Shortest.onGrid_exact hb h hlt
      ((Nat.pow_le_pow_right (by decide) (Nat.sub_le p j)).trans hlow) hd
    obtain ⟨c', i, hreduce, hc'⟩ := Decimal.dropZeros_eq c ((p - j : ℕ) : ℤ)
    have hvalue : c' * 10 ^ (p - j + i) = n := by
      rw [Nat.add_comm, Nat.pow_add, ← Nat.mul_assoc, hc', hc]
    refine ⟨c', p - j + i, ?_, Nat.pos_of_mul_pos_right (hvalue ▸ hn), hvalue⟩
    rw [hshortest, Decimal.reduce, hreduce, Nat.cast_add]
  · exact absurd (hnone p (by omega)) hlast

/-- The first digit keeps its place on a grid that has it, or moves up by one. -/
theorem Shortest.le_leading_of_onGrid {tie : Tie} {p k : ℕ} {d : Decimal}
    (h : units b = n * unit) (hp : 10 ^ p ≤ n) (hk : k ≤ p) (hd : onGrid tie b k = some d) :
    p ≤ d.leading := by
  have hsplit : 10 ^ p = 10 ^ (p - k) * 10 ^ k := by rw [← Nat.pow_add, Nat.sub_add_cancel hk]
  have hdiv : 10 ^ (p - k) ≤ n / 10 ^ k := by
    rwa [Nat.le_div_iff_mul_le (by positivity), ← hsplit]
  obtain ⟨c, rfl, hc⟩ : ∃ c, d = ⟨c, k⟩ ∧ 10 ^ (p - k) ≤ c := by
    rcases onGrid_of_whole h hd with rfl | rfl
    · exact ⟨_, rfl, hdiv⟩
    · exact ⟨_, rfl, hdiv.trans (Nat.le_succ _)⟩
  have hvalue : 10 ^ p ≤ c * 10 ^ k := hsplit ▸ Nat.mul_le_mul_right _ hc
  have hpos : 0 < c := (show 0 < 10 ^ (p - k) by positivity).trans_le hc
  exact Int.not_lt.mp fun hlt => absurd ((Decimal.leading_lt_iff hpos k p).mp hlt) hvalue.not_gt

theorem Shortest.le_leading_exact {p : ℕ} (h : units b = n * unit) (hp : 10 ^ p ≤ n) :
    p ≤ (exact b).leading := by
  have hten : units b * 5 ^ unitExponent = n * 10 ^ unitExponent := by
    rw [h, unit_eq, Nat.mul_assoc, ← Nat.mul_pow]
  have hvalue : 10 ^ (p + unitExponent) ≤ n * 10 ^ unitExponent := by
    rw [Nat.pow_add]
    exact Nat.mul_le_mul_right _ hp
  have hpos : 0 < n * 10 ^ unitExponent :=
    (show 0 < 10 ^ (p + unitExponent) by positivity).trans_le hvalue
  have hplaces := Decimal.leading_lt_iff hpos 0 (p + unitExponent)
  rw [Nat.pow_zero, Nat.mul_one] at hplaces
  have hlead : (exact b).leading =
      (⟨n * 10 ^ unitExponent, (0 : ℕ)⟩ : Decimal).leading - unitExponent := by
    simp only [exact, Nat.pow_eq, hten, Decimal.leading, Decimal.digits]
    omega
  omega

/-- From `10 ^ 16` on, all seventeen grids hold whole numbers, whose first digit stands where that
of the number does or one place above. -/
theorem le_leading_shortest (tie : Tie) (h : units b = n * Shortest.unit) (hn : 10 ^ 16 ≤ n) :
    16 ≤ (shortest tie b).leading := by
  have hpos : 0 < n := (show 0 < 10 ^ 16 by positivity).trans_le hn
  obtain ⟨p, hlow, hhigh, hgrid⟩ := Shortest.attempt_of_whole h hpos
  have hp : 16 ≤ p := by
    have := (Nat.pow_lt_pow_iff_right (by decide)).mp (hn.trans_lt hhigh)
    omega
  rcases shortest_cases tie ((pos_of_units_eq h).mpr hpos).ne' with ⟨j, hj, d, hd, -, hs⟩ | ⟨-, hs⟩
  · rw [hgrid tie j (by omega)] at hd
    have hlead := Shortest.le_leading_of_onGrid h hlow (Nat.sub_le p j) hd
    rw [hs, Decimal.leading_reduce]
    omega
  · have hlead := Shortest.le_leading_exact h hlow
    rw [hs, Decimal.leading_reduce]
    omega

end Whole

/-! ## How a whole number is written -/

/-- Decimal digits with a point and a zero behind them, and perhaps a minus in front. -/
def WrittenWhole (cs : List Char) : Prop :=
  ∃ negative ds, ds ≠ [] ∧ (∀ c ∈ ds, isDigit c = true) ∧ cs = signed negative (ds ++ ['.', '0'])

theorem writtenWhole_toDigits (negative : Bool) (n : ℕ) :
    WrittenWhole (signed negative (Nat.toDigits 10 n ++ ['.', '0'])) :=
  ⟨negative, _, Nat.toDigits_ne_nil, isDigit_toDigits n, rfl⟩

/-- No exponent follows the digits. -/
theorem WrittenWhole.not_mem {cs : List Char} (h : WrittenWhole cs) : 'e' ∉ cs := by
  obtain ⟨negative, ds, -, hds, rfl⟩ := h
  have he : 'e' ∉ ds := fun hmem => absurd (hds _ hmem) (by decide)
  cases negative <;> simp [signed, he]

theorem Style.decimalText_of_positional {s : Style} {d : Decimal}
    (h : s.positional d.leading = true) :
    s.decimalText d = positionalText s.pointed d.digits d.leading := if_pos h

/-- A whole number in positional notation is its digits, with a point and a zero. -/
theorem positionalText_of_whole {c : ℕ} (hc : 0 < c) (e : ℕ) :
    let d : Decimal := ⟨c, e⟩
    positionalText true d.digits d.leading = Nat.toDigits 10 (c * 10 ^ e) ++ ['.', '0'] := by
  intro d
  have hlen : 0 < d.digits.length := d.length_digits_pos
  have hlead : d.leading = e + d.digits.length - 1 := rfl
  have hn : d.leading.toNat + 1 = e + d.digits.length := by omega
  rw [positionalText, if_neg (by omega)]
  simp only [hn]
  rw [if_pos (Nat.le_add_left _ _), Nat.add_sub_cancel, toDigits_mul_pow hc]
  rfl

theorem Style.cell_chars_of_lt {v : Float} {n : ℕ} (h : IsWhole v n) (hlt : n < 10 ^ 16) :
    Style.cell.chars v = signed (isNegative v) (Nat.toDigits 10 n ++ ['.', '0']) := by
  obtain ⟨hfinite, hunits⟩ := h
  rw [Style.chars_of_finite _ hfinite]
  congr 1
  rcases Nat.eq_zero_or_pos n with rfl | hn
  · have hzero : magnitude v = 0 := Nat.eq_zero_of_not_pos fun hpos =>
      Nat.lt_irrefl 0 ((pos_of_units_eq hunits).mp hpos)
    rw [hzero]
    rfl
  · obtain ⟨c, e, hs, hc, hvalue⟩ := shortest_of_whole Style.cell.tie hfinite hunits hn hlt
    have hlow : 0 ≤ (⟨c, e⟩ : Decimal).leading :=
      Int.not_lt.mp fun hneg => absurd ((Decimal.leading_lt_iff hc e 0).mp hneg) (by omega)
    have hhigh : (⟨c, e⟩ : Decimal).leading < 16 :=
      (Decimal.leading_lt_iff hc e 16).mpr (hvalue ▸ hlt)
    have hpositional : Style.cell.positional (⟨c, e⟩ : Decimal).leading = true := by
      simp only [Style.cell, Bool.and_eq_true, decide_eq_true_eq]
      omega
    rw [hs, Style.decimalText_of_positional hpositional, ← hvalue]
    exact positionalText_of_whole hc e

/-- From `10 ^ 16` on, one digit stands before the point, and an exponent behind the digits. -/
theorem Style.cell_chars_of_ge {v : Float} {n : ℕ} (h : IsWhole v n) (hn : 10 ^ 16 ≤ n) :
    ∃ (d : Char) (ds : List Char) (p : ℕ), (∀ c ∈ d :: ds, isDigit c = true) ∧ 16 ≤ p ∧
      Style.cell.chars v = signed (isNegative v)
        (d :: ((if ds = [] then [] else '.' :: ds) ++ 'e' :: Nat.toDigits 10 p)) := by
  obtain ⟨hfinite, hunits⟩ := h
  obtain ⟨x, hx⟩ : ∃ x, shortest Style.cell.tie (magnitude v) = x := ⟨_, rfl⟩
  obtain ⟨d, ds, hdigits⟩ := List.exists_cons_of_ne_nil x.digits_ne_nil
  have hlead : 16 ≤ x.leading := hx ▸ le_leading_shortest _ hunits hn
  refine ⟨d, ds, x.leading.toNat, hdigits ▸ x.isDigit_digits, by omega, ?_⟩
  have hscientific : Style.cell.positional x.leading = false := by
    simp only [Style.cell, Bool.and_eq_false_iff, decide_eq_false_iff_not]
    omega
  have hexponent : exponentText false x.leading = 'e' :: Nat.toDigits 10 x.leading.toNat := by
    rw [exponentText, if_neg (by omega), if_neg Bool.false_ne_true, List.singleton_append,
      show x.leading.natAbs = x.leading.toNat by omega]
  rw [Style.chars_of_finite _ hfinite, hx, Style.decimalText, hscientific,
    if_neg Bool.false_ne_true, scientificText, hdigits]
  change signed _ (_ ++ _ ++ exponentText false x.leading) = _
  rw [hexponent]
  cases ds <;> simp

end Footprint.Number
