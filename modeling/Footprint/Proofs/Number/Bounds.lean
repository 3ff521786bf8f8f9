import Footprint.Proofs.Number.Nearest
import Footprint.Number.Style

/-!
# How far a fraction is from the magnitude nearest to it

Rounding goes up by at most half a step, and a step is one part in `2 ^ 52` of the value or less
unless the value is small. No representable value between a fraction and its nearest magnitude is
passed over. From these follow the bounds below which a fraction stays finite.
-/
namespace Footprint.Number

/-! ## Halves to the even neighbour -/

theorem roundHalfEven_mul_right (num den : ℕ) {k : ℕ} (hk : 0 < k) :
    roundHalfEven (num * k) (den * k) = roundHalfEven num den := by
  have hup (r : ℕ) : (den * k < 2 * (r * k) ∨ 2 * (r * k) = den * k ∧ num / den % 2 = 1) ↔
      (den < 2 * r ∨ 2 * r = den ∧ num / den % 2 = 1) := by
    rw [← Nat.mul_assoc, Nat.mul_lt_mul_right hk, Nat.mul_left_inj hk.ne']
  simp only [roundHalfEven, Nat.mul_div_mul_right _ _ hk, Nat.mul_mod_mul_right, hup]

theorem div_le_roundHalfEven (num den : ℕ) : num / den ≤ roundHalfEven num den := by
  simp only [roundHalfEven]
  split_ifs <;> omega

theorem roundHalfEven_le (num den : ℕ) : roundHalfEven num den ≤ num / den + 1 := by
  simp only [roundHalfEven]
  split_ifs <;> omega

/-- Rounding adds at most a half. -/
theorem two_mul_roundHalfEven_le (num : ℕ) {den : ℕ} (hd : 0 < den) :
    2 * (roundHalfEven num den * den) ≤ 2 * num + den := by
  have hdiv : num / den * den + num % den = num := Nat.div_add_mod' num den
  have hlt := Nat.mod_lt num hd
  simp only [roundHalfEven]
  split_ifs with hup
  · rw [Nat.add_mul, Nat.one_mul]
    omega
  · omega

/-- A number more than a half below `n` is not rounded up to it. -/
theorem roundHalfEven_lt {num den n : ℕ} (hd : 0 < den) (h : 2 * num + den < 2 * (n * den)) :
    roundHalfEven num den < n := by
  have hle := two_mul_roundHalfEven_le num hd
  have hmul : roundHalfEven num den * den < n * den := by omega
  exact Nat.lt_of_mul_lt_mul_right hmul

/-! ## The binade of a fraction -/

theorem nearest_eq_roundHalfEven (num den : ℕ) :
    let shift := (num * 2 ^ unitExponent / den).log2 - 52
    nearest num den = min infinityBits
      (shift * 2 ^ 52 + roundHalfEven (num * 2 ^ unitExponent) (den * 2 ^ shift)) := by
  have hsum (x d : ℕ) : roundHalfEven x d =
      x / d + if d < 2 * (x % d) ∨ 2 * (x % d) = d ∧ x / d % 2 = 1 then 1 else 0 := by
    simp only [roundHalfEven]
    split_ifs <;> rfl
  simp only [nearest, hsum, Nat.pow_eq, Nat.add_assoc]

/-- The value of a magnitude that has been put together from a shift and a mantissa. -/
theorem units_of_mantissa {s r : ℕ} (hlow : 2 ^ 52 ≤ r) (hhigh : r ≤ 2 ^ 53) :
    units (s * 2 ^ 52 + r) = r * 2 ^ s := by
  rw [units_eq (by omega)]
  rcases Nat.lt_or_ge r (2 ^ 53) with hlt | hge
  · rw [show (s * 2 ^ 52 + r) / 2 ^ 52 - 1 = s by omega,
      show 2 ^ 52 + (s * 2 ^ 52 + r) % 2 ^ 52 = r by omega]
  · obtain rfl : r = 2 ^ 53 := by omega
    rw [show (s * 2 ^ 52 + 2 ^ 53) / 2 ^ 52 - 1 = s + 1 by omega,
      show 2 ^ 52 + (s * 2 ^ 52 + 2 ^ 53) % 2 ^ 52 = 2 ^ 52 by omega, Nat.pow_succ]
    ring

/-- With the bits behind its first 53 dropped, a quotient has at most 53 bits, and no fewer if any
has been dropped. -/
theorem quotient_bounds (q : ℕ) : q / 2 ^ (q.log2 - 52) < 2 ^ 53 ∧
    (2 ^ 52 ≤ q → 2 ^ 52 ≤ q / 2 ^ (q.log2 - 52)) := by
  have hp : 0 < 2 ^ (q.log2 - 52) := Nat.two_pow_pos _
  constructor
  · rw [Nat.div_lt_iff_lt_mul hp, ← Nat.pow_add]
    exact Nat.lt_of_lt_of_le Nat.lt_log2_self (Nat.pow_le_pow_right (by decide) (by omega))
  · intro h
    have hq : q ≠ 0 := by omega
    have hlog : 52 ≤ q.log2 := (Nat.le_log2 hq).mpr h
    rw [Nat.le_div_iff_mul_le hp, ← Nat.pow_add, Nat.add_sub_cancel' hlog]
    exact Nat.log2_self_le hq

/-- A magnitude of no larger value than a fraction does not exceed the magnitude nearest to it. -/
theorem le_nearest {num den c : ℕ} (hd : 0 < den) (hc : c ≤ infinityBits)
    (h : units c * den ≤ num * 2 ^ unitExponent) : c ≤ nearest num den := by
  obtain ⟨q, hdef⟩ : ∃ q, num * 2 ^ unitExponent / den = q := ⟨_, rfl⟩
  have hq : units c ≤ q := by
    rw [← hdef, Nat.le_div_iff_mul_le hd]
    exact h
  have hround := div_le_roundHalfEven (num * 2 ^ unitExponent) (den * 2 ^ (q.log2 - 52))
  rw [← Nat.div_div_eq_div_mul, hdef] at hround
  rw [nearest_eq_roundHalfEven]
  simp only [hdef]
  refine le_min hc (Nat.le_trans ?_ (Nat.add_le_add_left hround _))
  obtain ⟨-, hnormal⟩ := quotient_bounds q
  rcases Nat.lt_or_ge c (2 ^ 52) with hsmall | hlarge
  · rw [units_of_lt hsmall] at hq
    rcases Nat.eq_zero_or_pos (q.log2 - 52) with hzero | hshift
    · rw [hzero, pow_zero, Nat.div_one, Nat.zero_mul, Nat.zero_add]
      exact hq
    · have hmul : 2 ^ 52 ≤ (q.log2 - 52) * 2 ^ 52 := Nat.le_mul_of_pos_left _ hshift
      exact Nat.le_add_right_of_le (hsmall.le.trans hmul)
  · -- The quotient has no fewer bits than the value, and more of them are dropped if it has more.
    have hlog := log2_units hlarge
    have hunits := units_eq hlarge
    have hpos := units_pos (show 0 < c by omega)
    have hle : 52 + (c / 2 ^ 52 - 1) ≤ q.log2 := by
      rw [← hlog, Nat.le_log2 (by omega)]
      exact (Nat.log2_self_le (by omega)).trans hq
    have h52 : 2 ^ 52 ≤ q := by
      have hq0 : q ≠ 0 := by omega
      exact (Nat.le_log2 hq0).mp (by omega)
    have hmantissa := hnormal h52
    rcases Nat.eq_or_lt_of_le (show c / 2 ^ 52 - 1 ≤ q.log2 - 52 by omega) with heq | hlt
    · rw [← heq]
      have hdiv : 2 ^ 52 + c % 2 ^ 52 ≤ q / 2 ^ (c / 2 ^ 52 - 1) := by
        rw [Nat.le_div_iff_mul_le (Nat.two_pow_pos _), ← hunits]
        exact hq
      omega
    · have hmul : (c / 2 ^ 52 - 1 + 1) * 2 ^ 52 ≤ (q.log2 - 52) * 2 ^ 52 :=
        Nat.mul_le_mul_right _ hlt
      omega

/-- A fraction that is not too small exceeds its value by at most one part in `2 ^ 53`. -/
theorem units_nearest_le {num den : ℕ} (hd : 0 < den) (h : 2 ^ 52 * den ≤ num * 2 ^ unitExponent)
    (hfinite : nearest num den < infinityBits) :
    2 ^ 53 * (units (nearest num den) * den) ≤ (2 ^ 53 + 1) * (num * 2 ^ unitExponent) := by
  obtain ⟨x, hx⟩ : ∃ x, num * 2 ^ unitExponent = x := ⟨_, rfl⟩
  obtain ⟨q, hdef⟩ : ∃ q, x / den = q := ⟨_, rfl⟩
  have hq : 2 ^ 52 ≤ q := by
    rw [← hdef, ← hx, Nat.le_div_iff_mul_le hd]
    exact h
  obtain ⟨hhigh, hlow⟩ := quotient_bounds q
  have hlow := hlow hq
  have hstep : 0 < den * 2 ^ (q.log2 - 52) := by positivity
  have hdiv : x / (den * 2 ^ (q.log2 - 52)) = q / 2 ^ (q.log2 - 52) := by
    rw [← Nat.div_div_eq_div_mul, hdef]
  have hge := div_le_roundHalfEven x (den * 2 ^ (q.log2 - 52))
  have hle := roundHalfEven_le x (den * 2 ^ (q.log2 - 52))
  have herror := two_mul_roundHalfEven_le x hstep
  have hbelow : 2 ^ 52 * (den * 2 ^ (q.log2 - 52)) ≤ x := by
    rw [← Nat.le_div_iff_mul_le hstep, hdiv]
    exact hlow
  rw [nearest_eq_roundHalfEven] at hfinite ⊢
  simp only [hx, hdef] at hfinite ⊢
  rw [min_lt_iff, or_iff_right (lt_irrefl _)] at hfinite
  rw [hdiv] at hge hle
  rw [min_eq_right hfinite.le, units_of_mantissa (by omega) (by omega)]
  have hmul : roundHalfEven x (den * 2 ^ (q.log2 - 52)) * 2 ^ (q.log2 - 52) * den =
      roundHalfEven x (den * 2 ^ (q.log2 - 52)) * (den * 2 ^ (q.log2 - 52)) := by ring
  rw [hmul]
  omega

/-- A fraction is rounded to a finite magnitude if it is more than half a step below the first value
that is not finite. -/
theorem nearest_lt_infinityBits {num den : ℕ} (hd : 0 < den)
    (h : num < (2 ^ 54 - 1) * 2 ^ 970 * den) : nearest num den < infinityBits := by
  have hu : unitExponent = 1074 := rfl
  have hinf : infinityBits = 2047 * 2 ^ 52 := rfl
  obtain ⟨x, hx⟩ : ∃ x, num * 2 ^ unitExponent = x := ⟨_, rfl⟩
  obtain ⟨q, hdef⟩ : ∃ q, x / den = q := ⟨_, rfl⟩
  -- The bound in units is half a step below `2 ^ 53` steps of the last binade.
  obtain ⟨e, he⟩ : ∃ e, 970 = e := ⟨_, rfl⟩
  obtain ⟨k, hk⟩ : ∃ k, e + unitExponent = k := ⟨_, rfl⟩
  rw [he] at h
  have hlt : x < (2 ^ 54 - 1) * 2 ^ k * den := by
    rw [← hx, ← hk, Nat.pow_add, ← Nat.mul_assoc, Nat.mul_right_comm _ _ den]
    exact Nat.mul_lt_mul_of_pos_right h (Nat.two_pow_pos _)
  have hbound : (2 ^ 54 - 1) * 2 ^ k ≤ 2 ^ (54 + k) := by
    rw [Nat.pow_add]
    exact Nat.mul_le_mul_right _ (by decide)
  have hq : q < 2 ^ (54 + k) := by
    rw [← hdef, Nat.div_lt_iff_lt_mul hd]
    exact Nat.lt_of_lt_of_le hlt (Nat.mul_le_mul_right den hbound)
  have hlog : q.log2 < 54 + k := by
    rcases Nat.eq_zero_or_pos q with rfl | hpos
    · simp
    · exact (Nat.log2_lt hpos.ne').mpr hq
  have hle := roundHalfEven_le x (den * 2 ^ (q.log2 - 52))
  have hdiv : x / (den * 2 ^ (q.log2 - 52)) = q / 2 ^ (q.log2 - 52) := by
    rw [← Nat.div_div_eq_div_mul, hdef]
  obtain ⟨hbits, -⟩ := quotient_bounds q
  rw [hdiv] at hle
  rw [nearest_eq_roundHalfEven]
  simp only [hx, hdef]
  refine min_lt_iff.mpr (.inr ?_)
  rcases Nat.lt_or_ge (q.log2 - 52) (k + 1) with hsmall | htop
  · omega
  · -- In the last binade the greatest mantissa is not rounded up.
    have hshift : q.log2 - 52 = k + 1 := by omega
    rw [hshift]
    have hround : roundHalfEven x (den * 2 ^ (k + 1)) < 2 ^ 53 := by
      refine roundHalfEven_lt (by positivity) ?_
      have hstep : den * 2 ^ (k + 1) = 2 * (2 ^ k * den) := by rw [Nat.pow_succ]; ring
      rw [Nat.mul_assoc] at hlt
      rw [hstep]
      omega
    omega

/-- The value of the magnitude three steps below infinity. -/
def safeBound : ℕ := (2 ^ 54 - 6) * 2 ^ 970

theorem units_safe : units (infinityBits - 3) = safeBound * 2 ^ unitExponent := by
  obtain ⟨e, he⟩ : ∃ e, 970 = e := ⟨_, rfl⟩
  have hshift : 2045 = e + unitExponent + 1 := by
    rw [← he]
    rfl
  rw [show infinityBits - 3 = 2045 * 2 ^ 52 + (2 ^ 53 - 3) from rfl,
    units_of_mantissa (by decide) (by decide), safeBound, he, hshift, Nat.pow_succ, Nat.pow_add]
  ring

theorem lt_safeBound_of_nearest {num den : ℕ} (hd : 0 < den)
    (h : nearest num den < infinityBits - 3) : num < safeBound * den := by
  by_contra hge
  have hle : infinityBits - 3 ≤ nearest num den := by
    refine le_nearest hd (Nat.sub_le _ _) ?_
    rw [units_safe, Nat.mul_right_comm]
    exact Nat.mul_le_mul_right _ (Nat.not_lt.mp hge)
  omega

theorem nearest_lt_of_lt_safeBound {n : ℕ} (h : n < safeBound) : nearest n 1 < infinityBits := by
  refine nearest_lt_infinityBits Nat.one_pos (Nat.lt_of_lt_of_le h ?_)
  rw [safeBound, Nat.mul_one]
  exact Nat.mul_le_mul_right _ (by decide)

end Footprint.Number
