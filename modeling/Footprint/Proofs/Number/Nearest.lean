import Footprint.Number.Decimal
import Mathlib.Tactic.NormNum
import Mathlib.Tactic.Positivity
import Mathlib.Tactic.Ring

/-!
# The magnitude nearest to a fraction

Rounding depends on the value of a fraction and not on how it is written. Hence a decimal may be
written with zeros behind its digits, and the two tests on its exponent only save work: beyond
them rounding gives infinity and zero by itself. Every finite magnitude is rounded to itself.
-/
namespace Footprint.Number

/-- The value of a magnitude below infinity has one more bit than its shift and the 52 bits below
the leading one; a small magnitude is its own value. -/
theorem units_eq {b : ℕ} (h : 2 ^ 52 ≤ b) :
    units b = (2 ^ 52 + b % 2 ^ 52) * 2 ^ (b / 2 ^ 52 - 1) := by
  simp only [units, Nat.pow_eq]
  rw [if_neg (by omega)]

theorem units_of_lt {b : ℕ} (h : b < 2 ^ 52) : units b = b := if_pos h

theorem units_pos {b : ℕ} (h : 0 < b) : 0 < units b := by
  by_cases hb : b < 2 ^ 52
  · rwa [units_of_lt hb]
  · rw [units_eq (by omega)]
    positivity

theorem nearest_mul_right (num den : ℕ) {k : ℕ} (hk : 0 < k) :
    nearest (num * k) (den * k) = nearest num den := by
  have hs : num * k * 2 ^ unitExponent = num * 2 ^ unitExponent * k := by ring
  have hstep (s : ℕ) : den * k * 2 ^ s = den * 2 ^ s * k := by ring
  have hup (s r : ℕ) : (s * k < 2 * (r * k) ∨ 2 * (r * k) = s * k ∧
      num * 2 ^ unitExponent / s % 2 = 1) ↔
      (s < 2 * r ∨ 2 * r = s ∧ num * 2 ^ unitExponent / s % 2 = 1) := by
    rw [← Nat.mul_assoc, Nat.mul_lt_mul_right hk, Nat.mul_left_inj hk.ne']
  simp only [nearest, Nat.pow_eq, hs, Nat.mul_div_mul_right _ _ hk, hstep, Nat.mul_mod_mul_right, hup]

/-- Equal fractions have the same nearest magnitude. -/
theorem nearest_congr {num den num' den' : ℕ} (hd : 0 < den) (hd' : 0 < den')
    (h : num * den' = num' * den) : nearest num den = nearest num' den' := by
  rw [← nearest_mul_right num den hd', ← nearest_mul_right num' den' hd, h, Nat.mul_comm den]

/-- The integer part, shifted so that 53 bits are left, is not below the least of them. -/
private theorem pow_le_shifted {q : ℕ} (h : 52 ≤ q.log2) : 2 ^ 52 ≤ q / 2 ^ (q.log2 - 52) := by
  rw [Nat.le_div_iff_mul_le (by positivity), ← pow_add, Nat.add_sub_cancel' h]
  exact Nat.log2_self_le (by rintro rfl; simp at h)

theorem nearest_of_large {num den : ℕ} (hd : 0 < den) (h : 2 ^ 1024 * den ≤ num) :
    nearest num den = infinityBits := by
  obtain ⟨q, hdef⟩ : ∃ q, num * 2 ^ unitExponent / den = q := ⟨_, rfl⟩
  have hq : 2 ^ (1024 + unitExponent) ≤ q := by
    rw [← hdef, Nat.le_div_iff_mul_le hd]
    calc 2 ^ (1024 + unitExponent) * den = 2 ^ 1024 * den * 2 ^ unitExponent := by
          rw [pow_add, Nat.mul_right_comm]
      _ ≤ num * 2 ^ unitExponent := Nat.mul_le_mul_right _ h
  have hpos : 0 < 2 ^ (1024 + unitExponent) := by positivity
  have hlog : 1024 + unitExponent ≤ q.log2 := (Nat.le_log2 (hpos.trans_le hq).ne').mpr hq
  have hu : unitExponent = 1074 := rfl
  have hlower : 2 ^ 52 ≤ num * 2 ^ unitExponent / (den * 2 ^ (q.log2 - 52)) := by
    rw [← Nat.div_div_eq_div_mul, hdef]
    exact pow_le_shifted (by omega)
  have hshift : 2046 * 2 ^ 52 ≤ (q.log2 - 52) * 2 ^ 52 := Nat.mul_le_mul_right _ (by omega)
  simp only [nearest, infinityBits, Nat.pow_eq, hdef]
  rw [min_eq_left]
  omega

theorem nearest_of_small {num den : ℕ} (h : 2 * (num * 2 ^ unitExponent) < den) :
    nearest num den = 0 := by
  have hq : num * 2 ^ unitExponent / den = 0 := Nat.div_eq_of_lt (by omega)
  have hr : num * 2 ^ unitExponent % den = num * 2 ^ unitExponent := Nat.mod_eq_of_lt (by omega)
  have hup : ¬ (den < 2 * (num * 2 ^ unitExponent) ∨
      2 * (num * 2 ^ unitExponent) = den ∧ 0 % 2 = 1) := by omega
  simp only [nearest, Nat.pow_eq, hq, Nat.log2_zero, Nat.zero_sub, pow_zero, Nat.mul_one, hr,
    if_neg hup, Nat.zero_mul, Nat.add_zero, Nat.min_zero]

theorem log2_units {b : ℕ} (h : 2 ^ 52 ≤ b) : (units b).log2 = 52 + (b / 2 ^ 52 - 1) := by
  have hm : b % 2 ^ 52 < 2 ^ 52 := Nat.mod_lt _ (by positivity)
  rw [units_eq h, Nat.log2_eq_iff (by positivity), Nat.pow_add,
    show 52 + (b / 2 ^ 52 - 1) + 1 = 53 + (b / 2 ^ 52 - 1) by omega, Nat.pow_add]
  exact ⟨Nat.mul_le_mul_right _ (by omega), Nat.mul_lt_mul_of_pos_right (by omega) (by positivity)⟩

/-- A finite magnitude is the nearest one to its own value. -/
theorem nearest_units {b : ℕ} (h : b < infinityBits) : nearest (units b) (2 ^ unitExponent) = b := by
  have hp : 0 < 2 ^ unitExponent := by positivity
  -- The bits that the shift drops are zero, so nothing is rounded.
  have key (s m : ℕ) (hm : units b = m * 2 ^ s) (hs : (units b).log2 - 52 = s)
      (hb : s * 2 ^ 52 + m = b) : nearest (units b) (2 ^ unitExponent) = b := by
    have hstep : units b * 2 ^ unitExponent = m * (2 ^ unitExponent * 2 ^ s) := by rw [hm]; ring
    have hpos : 0 < 2 ^ unitExponent * 2 ^ s := by positivity
    have hup : ¬ (2 ^ unitExponent * 2 ^ s < 2 * 0 ∨
        2 * 0 = 2 ^ unitExponent * 2 ^ s ∧ m % 2 = 1) := by omega
    simp only [nearest, Nat.pow_eq, Nat.mul_div_cancel _ hp, hs]
    rw [hstep, Nat.mul_div_cancel _ hpos, Nat.mul_mod_left, if_neg hup, Nat.add_zero, hb]
    exact min_eq_right h.le
  by_cases hb : b < 2 ^ 52
  · have hu := units_of_lt hb
    refine key 0 b (by simp [hu]) ?_ (by simp)
    have : b.log2 ≤ 52 := by
      by_cases h0 : b = 0
      · simp [h0]
      · exact ((Nat.log2_lt h0).mpr hb).le
    rw [hu]
    omega
  · have h52 : 2 ^ 52 ≤ b := by omega
    refine key (b / 2 ^ 52 - 1) (2 ^ 52 + b % 2 ^ 52) (units_eq h52) ?_ ?_
    · rw [log2_units h52]
      omega
    · have hd := Nat.div_add_mod b (2 ^ 52)
      have h1 : 1 ≤ b / 2 ^ 52 := (Nat.le_div_iff_mul_le (by positivity)).mpr (by omega)
      have hs : (b / 2 ^ 52 - 1) * 2 ^ 52 + 2 ^ 52 = b / 2 ^ 52 * 2 ^ 52 := by
        rw [← Nat.succ_mul, Nat.succ_eq_add_one, Nat.sub_add_cancel h1]
      omega

namespace Decimal

private theorem two_pow_le_ten_pow (n : ℕ) : 2 ^ (3 * n) ≤ 10 ^ n := by
  rw [pow_mul]
  exact Nat.pow_le_pow_left (by norm_num) n

/-- The tests on the exponent decide nothing that rounding would not decide. -/
theorem magnitude_eq_nearest {d : Decimal} (h : d.coefficient ≠ 0) :
    d.magnitude = nearest (d.coefficient * 10 ^ d.exponent.toNat) (10 ^ (-d.exponent).toNat) := by
  obtain ⟨c, e⟩ := d
  have hu : unitExponent = 1074 := rfl
  simp only [magnitude, Nat.pow_eq] at h ⊢
  rw [if_neg h]
  split_ifs with hlarge hsmall hpos
  · rw [show (-e).toNat = 0 by omega, nearest_of_large (by norm_num)]
    calc 2 ^ 1024 * 10 ^ 0 = 2 ^ 1024 := Nat.mul_one _
      _ ≤ 2 ^ (3 * e.toNat) := Nat.pow_le_pow_right (by norm_num) (by omega)
      _ ≤ 10 ^ e.toNat := two_pow_le_ten_pow _
      _ ≤ c * 10 ^ e.toNat := Nat.le_mul_of_pos_left _ (Nat.pos_of_ne_zero h)
  · rw [show e.toNat = 0 by omega, pow_zero, Nat.mul_one, nearest_of_small]
    calc 2 * (c * 2 ^ unitExponent) < 2 * (2 ^ (c.log2 + 1) * 2 ^ unitExponent) := by
          have hc := Nat.lt_log2_self (n := c)
          have hp : 0 < 2 ^ unitExponent := by positivity
          have := Nat.mul_lt_mul_of_pos_right hc hp
          omega
      _ = 2 ^ (c.log2 + unitExponent + 2) := by ring
      _ ≤ 2 ^ (3 * (401 + c.log2)) := Nat.pow_le_pow_right (by norm_num) (by omega)
      _ ≤ 10 ^ (401 + c.log2) := two_pow_le_ten_pow _
      _ ≤ 10 ^ (-e).toNat := Nat.pow_le_pow_right (by norm_num) (by omega)
  · rw [show (-e).toNat = 0 by omega, pow_zero]
  · rw [show e.toNat = 0 by omega, pow_zero, Nat.mul_one]

/-- Zeros behind the digits do not change the magnitude. -/
theorem magnitude_shift (c : ℕ) (e : ℤ) (k : ℕ) :
    (⟨c * 10 ^ k, e - k⟩ : Decimal).magnitude = (⟨c, e⟩ : Decimal).magnitude := by
  by_cases hc : c = 0
  · simp [magnitude, hc]
  rw [magnitude_eq_nearest (by positivity), magnitude_eq_nearest hc]
  apply nearest_congr (by positivity) (by positivity)
  simp only [Nat.mul_assoc, ← pow_add]
  congr 2
  omega

theorem dropZeros_magnitude (c : ℕ) (e : ℤ) :
    (dropZeros c e).magnitude = (⟨c, e⟩ : Decimal).magnitude := by
  induction c, e using dropZeros.induct with
  | case1 c e h ih =>
    rw [dropZeros, dif_pos h, ih, ← magnitude_shift (c / 10) (e + 1) 1]
    congr 2
    · omega
    · simp
  | case2 c e h => rw [dropZeros, dif_neg h]

@[simp] theorem reduce_magnitude (d : Decimal) : d.reduce.magnitude = d.magnitude :=
  dropZeros_magnitude _ _

end Decimal
end Footprint.Number
