import Footprint.Proofs.Number.Bounds
import Footprint.Proofs.Number.Classes

/-!
# Multiplication and conversion give the nearest number

A float operation computes an exact mantissa and exponent, shifts the mantissa to at most 53 bits,
rounds it by two more bits that the shift keeps, and packs what is left. All of this amounts to the
magnitude nearest to the exact result: of a product, and of a whole number.
-/
namespace Footprint.Number
open Float.Model Float.Model.UnpackedFloat

/-! ## A mantissa loses its last bits -/

/-- `em` stands for `m / d`: the quotient, and how the rest compares with half of `d`. -/
structure Represents (em : ExtendedMantissa) (m d : ℕ) : Prop where
  mantissa : em.mantissa = m / d
  roundBit : em.roundBit = true ↔ d ≤ 2 * (m % d)
  stickyBit : em.stickyBit = true ↔ 2 * (m % d) ≠ 0 ∧ 2 * (m % d) ≠ d

theorem Represents.shiftRightOne {em : ExtendedMantissa} {m d : ℕ} (hd : 0 < d)
    (h : Represents em m d) : Represents em.shiftRightOne m (d * 2) := by
  obtain ⟨hm, hr, hs⟩ := h
  have hrest : m % (d * 2) = m % d + d * (m / d % 2) := Nat.mod_mul
  have hbit : m / d % 2 = 0 ∨ m / d % 2 = 1 := Nat.mod_two_eq_zero_or_one _
  have hlt : m % d < d := Nat.mod_lt m hd
  refine ⟨?_, ?_, ?_⟩
  · simp only [ExtendedMantissa.shiftRightOne, hm, Nat.div_div_eq_div_mul]
  · simp only [ExtendedMantissa.shiftRightOne, hm, bne_iff_ne, hrest]
    rcases hbit with hbit | hbit <;> rw [hbit] <;> omega
  · simp only [ExtendedMantissa.shiftRightOne, Bool.or_eq_true, hr, hs, hrest]
    rcases hbit with hbit | hbit <;> rw [hbit] <;> omega

theorem represents_shiftRight (m k : ℕ) :
    Represents (ExtendedMantissa.ofMantissaAndAccuracy m .exact >>> k) m (2 ^ k) := by
  induction k with
  | zero =>
    refine ⟨(Nat.div_one m).symm, ?_, ?_⟩
    · rw [pow_zero, Nat.mod_one]
      exact iff_of_false Bool.false_ne_true (by omega)
    · rw [pow_zero, Nat.mod_one]
      exact iff_of_false Bool.false_ne_true (by omega)
  | succ k ih => exact Represents.shiftRightOne (Nat.two_pow_pos k) ih

theorem Represents.roundedMantissa {em : ExtendedMantissa} {m d : ℕ} (h : Represents em m d) :
    em.roundedMantissa = roundHalfEven m d := by
  obtain ⟨hm, hr, hs⟩ := h
  obtain ⟨q, round, sticky⟩ := em
  simp only at hm hr hs
  subst hm
  have hparity : m / d % 2 = 0 ∨ m / d % 2 = 1 := Nat.mod_two_eq_zero_or_one _
  simp only [ExtendedMantissa.roundedMantissa, roundHalfEven]
  cases round <;> cases sticky <;>
    simp only [ExtendedMantissa.accuracy, Accuracy.roundToNearestEven, Bool.false_eq_true, false_iff,
      true_iff] at hr hs ⊢ <;> split_ifs <;> omega

/-! ## Packed bits without their sign -/

/-- The magnitude that a float is packed with. -/
def packedMagnitude (u : UnpackedFloat) : ℕ := (UnpackedFloat.pack Format.binary64 u).toNat % 2 ^ 63

theorem toNat_packComponents_mod (s : Sign) (e : BitVec Format.binary64.exponentBits)
    (m : BitVec Format.binary64.mantissaBitsWithoutImplicit) :
    (packComponents Format.binary64 s e m).toNat % 2 ^ 63 = e.toNat * 2 ^ 52 + m.toNat := by
  have he : e.toNat < 2 ^ 11 := e.isLt
  have hm : m.toNat < 2 ^ 52 := m.isLt
  rw [toNat_packComponents]
  omega

theorem packedMagnitude_zero (s : Sign) : packedMagnitude (.zero s) = 0 := by
  cases s <;> rfl

theorem packedMagnitude_normal (s : Sign) {m : ℕ} {e : ℤ} (h : 0 < m) (hm : 2 ^ 52 ≤ m)
    (hlt : m < 2 ^ 53) (he : -1074 ≤ e) :
    packedMagnitude (.finite s m e h) = min infinityBits ((e + 1074).toNat * 2 ^ 52 + m) := by
  have hlog : m.log2 = 52 := (Nat.log2_eq_iff h.ne').mpr ⟨hm, hlt⟩
  have hbias : (e + Format.binary64.exponentBias + (52 : ℕ)).toNat = (e + 1074).toNat + 1 := by
    change (e + (1023 : ℕ) + (52 : ℕ)).toNat = _
    omega
  have hinf : infinityBits = 2047 * 2 ^ 52 := rfl
  rw [packedMagnitude, pack_finite, hbias, hlog]
  dsimp only
  split_ifs with hlarge hbits
  · change 2048 ≤ _ at hlarge
    rw [packedInfinity, toNat_packComponents_mod]
    change 2047 * 2 ^ 52 + 0 = _
    omega
  · change ¬ 2048 ≤ _ at hlarge
    rw [toNat_packComponents_mod, BitVec.toNat_ofNat, BitVec.toNat_ofNat]
    change ((e + 1074).toNat + 1) % 2 ^ 11 * 2 ^ 52 + m % 2 ^ 52 = _
    omega
  · exact absurd rfl hbits

theorem packedMagnitude_small (s : Sign) {m : ℕ} (h : 0 < m) (hlt : m < 2 ^ 52) :
    packedMagnitude (.finite s m (-1074) h) = m := by
  have hlog : m.log2 < 52 := (Nat.log2_lt h.ne').mpr hlt
  rw [packedMagnitude, pack_finite]
  dsimp only
  rw [if_neg (by decide), if_neg (by change ¬ m.log2 + 1 = 53; omega), toNat_packComponents_mod]
  change 0 * 2 ^ 52 + (BitVec.ofNat 52 m).toNat = m
  rw [BitVec.toNat_ofNat]
  omega

/-! ## Rounding -/

theorem targetExponent_eq (t : ℤ) : Format.binary64.targetExponent t = max (t - 53) (-1074) := rfl

/-- The last shift, after rounding, is for a mantissa that has grown by one bit. -/
theorem shiftToTargetExponent_rounded {r : ℕ} {e : ℤ} (hr : r ≤ 2 ^ 53) (he : -1074 ≤ e) :
    shiftToTargetExponent Format.binary64 r e .exact =
      if r = 2 ^ 53 then (.ofMantissaAndAccuracy (2 ^ 52) .exact, e + 1)
      else (.ofMantissaAndAccuracy r .exact, e) := by
  split_ifs with htop
  · have hlog : (2 ^ 53 : ℕ).log2 = 53 := Nat.log2_two_pow
    have hshift : (Format.binary64.targetExponent (totalExponent (2 ^ 53) e) - e).toNat = 1 := by
      rw [targetExponent_eq, totalExponent, hlog]
      omega
    subst htop
    simp only [shiftToTargetExponent, shiftToExponent, hshift]
    rfl
  · have hlog : r.log2 ≤ 52 := by
      rcases Nat.eq_zero_or_pos r with rfl | hpos
      · simp
      · have h := (Nat.log2_lt hpos.ne').mpr (show r < 2 ^ 53 by omega)
        omega
    have hshift : (Format.binary64.targetExponent (totalExponent r e) - e).toNat = 0 := by
      rw [targetExponent_eq, totalExponent]
      omega
    simp only [shiftToTargetExponent, shiftToExponent, hshift]
    exact congrArg (Prod.mk _) (Int.add_zero e)

/-- The exponent that a number `m * 2 ^ e` is rounded to. -/
def roundedExponent (m : ℕ) (e : ℤ) : ℤ := Format.binary64.targetExponent (totalExponent m e)

theorem roundedExponent_eq (m : ℕ) (e : ℤ) :
    roundedExponent m e = max ((m.log2 : ℤ) + 1 + e - 53) (-1074) := rfl

/-- At its rounded exponent a number has at most 53 bits, and not fewer unless it is small. -/
theorem roundedExponent_bounds {m : ℕ} {e : ℤ} (hm : 0 < m) (he : e ≤ roundedExponent m e) :
    m / 2 ^ (roundedExponent m e - e).toNat < 2 ^ 53 ∧
      (2 ^ 52 ≤ m / 2 ^ (roundedExponent m e - e).toNat ∨ roundedExponent m e = -1074) := by
  have hlow : 2 ^ m.log2 ≤ m := Nat.log2_self_le hm.ne'
  have hhigh : m < 2 ^ (m.log2 + 1) := Nat.lt_log2_self
  have hexp := roundedExponent_eq m e
  obtain ⟨k, hk⟩ : ∃ k, (roundedExponent m e - e).toNat = k := ⟨_, rfl⟩
  rw [hk]
  have hp : 0 < 2 ^ k := Nat.two_pow_pos k
  constructor
  · rw [Nat.div_lt_iff_lt_mul hp, ← Nat.pow_add]
    exact Nat.lt_of_lt_of_le hhigh (Nat.pow_le_pow_right (by decide) (by omega))
  · rcases le_or_gt (roundedExponent m e) (-1074) with hsmall | hlarge
    · right
      omega
    · left
      rw [Nat.le_div_iff_mul_le hp, ← Nat.pow_add]
      exact Nat.le_trans (Nat.pow_le_pow_right (by decide) (by omega)) hlow

/-- A float with that mantissa, which may be zero. -/
def finiteOrZero (s : Sign) (m : ℕ) (e : ℤ) : UnpackedFloat :=
  if h : m = 0 then .zero s else .finite s m e (Nat.pos_of_ne_zero h)

theorem packedMagnitude_finiteOrZero (s : Sign) {m : ℕ} {e : ℤ} (hm : m < 2 ^ 53) (he : -1074 ≤ e)
    (hnormal : 2 ^ 52 ≤ m ∨ e = -1074) :
    packedMagnitude (finiteOrZero s m e) = min infinityBits ((e + 1074).toNat * 2 ^ 52 + m) := by
  have hinf : infinityBits = 2047 * 2 ^ 52 := rfl
  rw [finiteOrZero]
  rcases Nat.lt_or_ge m (2 ^ 52) with hlt | hge
  · obtain rfl : e = -1074 := hnormal.resolve_left (by omega)
    have hsmall : min infinityBits ((-1074 + 1074 : ℤ).toNat * 2 ^ 52 + m) = m := by
      rw [Int.add_left_neg]
      omega
    rw [hsmall]
    by_cases hzero : m = 0
    · rw [dif_pos hzero, packedMagnitude_zero, hzero]
    · rw [dif_neg hzero]
      exact packedMagnitude_small s _ hlt
  · rw [dif_neg (by omega)]
    exact packedMagnitude_normal s _ hge hm he

theorem packedMagnitude_rounded (s : Sign) {r : ℕ} {t : ℤ} (hr : r ≤ 2 ^ 53) (ht : -1074 ≤ t)
    (hnormal : 2 ^ 52 ≤ r ∨ t = -1074) :
    let p := shiftToTargetExponent Format.binary64 r t .exact
    packedMagnitude (finiteOrZero s p.1.mantissa p.2) =
      min infinityBits ((t + 1074).toNat * 2 ^ 52 + r) := by
  intro p
  have hp : p = _ := shiftToTargetExponent_rounded hr ht
  by_cases htop : r = 2 ^ 53
  · rw [if_pos htop] at hp
    have hcarry : (t + 1074).toNat * 2 ^ 52 + 2 ^ 53 =
      (t + 1 + 1074).toNat * 2 ^ 52 + 2 ^ 52 := by omega
    rw [hp, htop, hcarry]
    exact packedMagnitude_finiteOrZero s (show 2 ^ 52 < 2 ^ 53 by decide) (by omega)
      (.inl (le_refl _))
  · rw [if_neg htop] at hp
    rw [hp]
    exact packedMagnitude_finiteOrZero s (show r < 2 ^ 53 by omega) ht hnormal

theorem packedMagnitude_roundWithAccuracy (s : Sign) {m : ℕ} {e : ℤ} (hm : 0 < m)
    (he : e ≤ roundedExponent m e) :
    packedMagnitude (roundWithAccuracy Format.binary64 s m e .exact) = min infinityBits
      ((roundedExponent m e + 1074).toNat * 2 ^ 52 +
        roundHalfEven m (2 ^ (roundedExponent m e - e).toNat)) := by
  obtain ⟨hbits, hnormal⟩ := roundedExponent_bounds hm he
  have hlower := div_le_roundHalfEven m (2 ^ (roundedExponent m e - e).toNat)
  have hupper := roundHalfEven_le m (2 ^ (roundedExponent m e - e).toNat)
  have hexp : e + ((roundedExponent m e - e).toNat : ℤ) = roundedExponent m e := by omega
  have hround : roundWithAccuracy Format.binary64 s m e .exact =
      let p := shiftToTargetExponent Format.binary64
        (ExtendedMantissa.ofMantissaAndAccuracy m .exact >>>
          (roundedExponent m e - e).toNat).roundedMantissa
        (e + ((roundedExponent m e - e).toNat : ℤ)) .exact
      finiteOrZero s p.1.mantissa p.2 := rfl
  rw [hround, hexp, (represents_shiftRight m _).roundedMantissa]
  refine packedMagnitude_rounded s (by omega) ?_ (hnormal.imp_left fun h => h.trans hlower)
  rw [roundedExponent_eq]
  omega

/-! ## Rounding gives the nearest magnitude -/

theorem log2_mul_two_pow {m : ℕ} (hm : 0 < m) (k : ℕ) : (m * 2 ^ k).log2 = m.log2 + k := by
  rw [Nat.log2_eq_iff (by positivity), Nat.pow_add, Nat.add_right_comm, Nat.pow_add]
  exact ⟨Nat.mul_le_mul_right _ (Nat.log2_self_le hm.ne'),
    Nat.mul_lt_mul_of_pos_right Nat.lt_log2_self (by positivity)⟩

theorem log2_div_two_pow (m k : ℕ) : (m / 2 ^ k).log2 = m.log2 - k := by
  rcases Nat.lt_or_ge m (2 ^ k) with hlt | hge
  · rw [Nat.div_eq_of_lt hlt, Nat.log2_zero]
    rcases Nat.eq_zero_or_pos m with rfl | hpos
    · simp
    · have h := (Nat.log2_lt hpos.ne').mpr hlt
      omega
  · have hm : m ≠ 0 := fun h => by
      have hp := Nat.two_pow_pos k
      omega
    have hk : k ≤ m.log2 := (Nat.le_log2 hm).mpr hge
    have hp := Nat.two_pow_pos k
    have hq : m / 2 ^ k ≠ 0 := (Nat.div_pos hge hp).ne'
    rw [Nat.log2_eq_iff hq, Nat.le_div_iff_mul_le hp, Nat.div_lt_iff_lt_mul hp, ← Nat.pow_add,
      ← Nat.pow_add]
    constructor
    · rw [Nat.sub_add_cancel hk]
      exact Nat.log2_self_le hm
    · rw [show m.log2 - k + 1 + k = m.log2 + 1 by omega]
      exact Nat.lt_log2_self

/-- The magnitude nearest to `m * 2 ^ e`, by its rounded exponent. -/
theorem nearest_dyadic {m : ℕ} {e : ℤ} (hm : 0 < m) (he : e ≤ roundedExponent m e) :
    nearest (m * 2 ^ e.toNat) (2 ^ (-e).toNat) = min infinityBits
      ((roundedExponent m e + 1074).toNat * 2 ^ 52 +
        roundHalfEven m (2 ^ (roundedExponent m e - e).toNat)) := by
  have hu : unitExponent = 1074 := rfl
  -- In units the number is `m * 2 ^ a / 2 ^ c`, where `a` or `c` is zero.
  obtain ⟨a, ha⟩ : ∃ a, (e + 1074).toNat = a := ⟨_, rfl⟩
  obtain ⟨c, hc⟩ : ∃ c, (-e - 1074).toNat = c := ⟨_, rfl⟩
  obtain ⟨z, hz⟩ : ∃ z, (-e).toNat = c + z := ⟨(-e).toNat - c, by omega⟩
  have hexp := roundedExponent_eq m e
  have hscaled : m * 2 ^ e.toNat * 2 ^ unitExponent = m * 2 ^ a * 2 ^ z := by
    have hsum : e.toNat + unitExponent = a + z := by omega
    rw [Nat.mul_assoc, Nat.mul_assoc, ← Nat.pow_add, ← Nat.pow_add, hsum]
  have hquotient : m * 2 ^ a * 2 ^ z / 2 ^ (c + z) = m * 2 ^ a / 2 ^ c := by
    rw [Nat.pow_add, Nat.mul_div_mul_right _ _ (Nat.two_pow_pos z)]
  have hshift : (m * 2 ^ a / 2 ^ c).log2 - 52 = (roundedExponent m e + 1074).toNat := by
    rw [log2_div_two_pow, log2_mul_two_pow hm]
    omega
  have hstep : 2 ^ (c + z) * 2 ^ (roundedExponent m e + 1074).toNat =
      2 ^ (roundedExponent m e - e).toNat * (2 ^ a * 2 ^ z) := by
    rw [← Nat.pow_add, ← Nat.pow_add, ← Nat.pow_add]
    exact congrArg (Nat.pow 2) (by omega)
  rw [nearest_eq_roundHalfEven]
  simp only [hscaled, hz, hquotient, hshift, hstep]
  rw [Nat.mul_assoc, roundHalfEven_mul_right _ _ (by positivity)]

/-- Rounding a number with enough bits gives its nearest magnitude. -/
theorem packedMagnitude_eq_nearest (s : Sign) {m : ℕ} {e : ℤ} (hm : 0 < m)
    (he : 52 ≤ m.log2 ∨ e ≤ -1074) :
    packedMagnitude (roundWithAccuracy Format.binary64 s m e .exact) =
      nearest (m * 2 ^ e.toNat) (2 ^ (-e).toNat) := by
  have hle : e ≤ roundedExponent m e := by
    rw [roundedExponent_eq]
    omega
  rw [packedMagnitude_roundWithAccuracy s hm hle, nearest_dyadic hm hle]

/-- With too few bits, zeros are added at the end first. -/
theorem packedMagnitude_round (s : Sign) {m : ℕ} (e : ℤ) (hm : 0 < m) :
    packedMagnitude (UnpackedFloat.round Format.binary64 s m e) =
      nearest (m * 2 ^ e.toNat) (2 ^ (-e).toNat) := by
  obtain ⟨k, hk⟩ : ∃ k, (e - roundedExponent m e).toNat = k := ⟨_, rfl⟩
  have hexp := roundedExponent_eq m e
  have hround : UnpackedFloat.round Format.binary64 s m e =
      roundWithAccuracy Format.binary64 s (m <<< (e - roundedExponent m e).toNat)
        (e - ((e - roundedExponent m e).toNat : ℤ)) .exact := rfl
  have hbits : 52 ≤ (m * 2 ^ k).log2 ∨ e - (k : ℤ) ≤ -1074 := by
    rw [log2_mul_two_pow hm]
    omega
  rw [hround, hk, Nat.shiftLeft_eq, packedMagnitude_eq_nearest s (by positivity) hbits]
  refine nearest_congr (by positivity) (by positivity) ?_
  have hpow : k + (e - (k : ℤ)).toNat + (-e).toNat = e.toNat + (-(e - (k : ℤ))).toNat := by omega
  rw [Nat.mul_assoc, Nat.mul_assoc, Nat.mul_assoc, ← Nat.pow_add, ← Nat.pow_add, ← Nat.pow_add,
    ← Nat.add_assoc, hpow]

/-! ## Products -/

theorem magnitude_eq_parts (v : Float) : magnitude v =
    (unpackExponent (wordOf v)).toNat * 2 ^ 52 + (unpackMantissa (wordOf v)).toNat := by
  rw [toNat_unpackExponent, toNat_unpackMantissa]
  change (wordOf v).toNat % 2 ^ 63 = _
  omega

theorem unpack_of_magnitude_eq_zero {v : Float} (h : magnitude v = 0) :
    ∃ s, v.toModel.unpack = .zero s := by
  obtain ⟨hexp, hmant⟩ := (magnitude_eq_zero_iff v).mp h
  have hones : (0#11 : BitVec 11) ≠ -1#11 := by decide
  have hunpacks := unpacks (wordOf v)
  change ∃ s, UnpackedFloat.unpack Format.binary64 (wordOf v) = .zero s
  generalize UnpackedFloat.unpack Format.binary64 (wordOf v) = f at hunpacks ⊢
  cases hunpacks with
  | infinity hinf _ => exact absurd (hexp.symm.trans hinf) hones
  | notANumber hinf _ => exact absurd (hexp.symm.trans hinf) hones
  | zero _ _ => exact ⟨_, rfl⟩
  | small _ hm _ => exact absurd hmant hm
  | normal _ he _ => exact absurd hexp he

/-- A finite number but zero is a mantissa of at most 53 bits, fewer at the least exponent only. -/
theorem unpack_of_finite {v : Float} (hpos : magnitude v ≠ 0) (h : magnitude v < infinityBits) :
    ∃ s m e hm, v.toModel.unpack = .finite s m e hm ∧ -1074 ≤ e ∧
      units (magnitude v) = m * 2 ^ (e + 1074).toNat ∧ (2 ^ 52 ≤ m ∨ e = -1074) := by
  have hfinite := (magnitude_lt_infinityBits_iff v).mp h
  have hnonzero := (magnitude_eq_zero_iff v).not.mp hpos
  have hmant : (unpackMantissa (wordOf v)).toNat < 2 ^ 52 := (unpackMantissa (wordOf v)).isLt
  have hparts := magnitude_eq_parts v
  have hunpacks := unpacks (wordOf v)
  change ∃ s m e hm, UnpackedFloat.unpack Format.binary64 (wordOf v) = .finite s m e hm ∧ _
  generalize UnpackedFloat.unpack Format.binary64 (wordOf v) = f at hunpacks ⊢
  cases hunpacks with
  | infinity hinf _ => exact absurd hinf hfinite
  | notANumber hinf _ => exact absurd hinf hfinite
  | zero hexp hnil => exact absurd ⟨hexp, hnil⟩ hnonzero
  | small hnil _ hm =>
    have hexp : (unpackExponent (wordOf v)).toNat = 0 := by
      rw [hnil]
      rfl
    have hexponent : ((unpackExponent (wordOf v)).toNat : ℤ) - ((1023 : ℕ) + (52 : ℕ)) + 1 =
        -1074 := by
      rw [hexp]
      rfl
    rw [hexp, Nat.zero_mul, Nat.zero_add] at hparts
    refine ⟨_, _, _, hm, rfl, hexponent.ge, ?_, .inr hexponent⟩
    change _ = _ *
      2 ^ (((unpackExponent (wordOf v)).toNat : ℤ) - ((1023 : ℕ) + (52 : ℕ)) + 1 + 1074).toNat
    rw [hexponent, hparts, units_of_lt hmant, Int.add_left_neg, Int.toNat_zero, pow_zero,
      Nat.mul_one]
  | normal _ hnil hm =>
    have hexp : (unpackExponent (wordOf v)).toNat ≠ 0 := fun h0 => hnil (BitVec.eq_of_toNat_eq h0)
    have himplicit : (1#1 ++ unpackMantissa (wordOf v)).toNat =
        2 ^ 52 + (unpackMantissa (wordOf v)).toNat := toNat_implicit _
    have hexponent : -1074 ≤ ((unpackExponent (wordOf v)).toNat : ℤ) - ((1023 : ℕ) + (52 : ℕ)) := by
      omega
    refine ⟨_, _, _, hm, rfl, hexponent, ?_, .inl (himplicit ▸ Nat.le_add_right _ _)⟩
    change _ = _ *
      2 ^ (((unpackExponent (wordOf v)).toNat : ℤ) - ((1023 : ℕ) + (52 : ℕ)) + 1074).toNat
    rw [himplicit, hparts, units_eq (by omega)]
    congr 2
    · omega
    · omega

theorem mul_finite (s s' : Sign) {m m' : ℕ} (e e' : ℤ) (hm : 0 < m) (hm' : 0 < m') :
    UnpackedFloat.mul Format.binary64 (.finite s m e hm) (.finite s' m' e' hm') =
      roundWithAccuracy Format.binary64 (s * s') (m * m') (e + e') .exact := rfl

theorem nearest_zero {den : ℕ} (hd : 0 < den) : nearest 0 den = 0 := by
  apply nearest_of_small
  rwa [Nat.zero_mul]

/-- The product of finite numbers is the number nearest to the product of their values. -/
theorem magnitude_mul {v w : Float} (hv : magnitude v < infinityBits)
    (hw : magnitude w < infinityBits) : magnitude (v * w) =
      nearest (units (magnitude v) * units (magnitude w)) (2 ^ (unitExponent + unitExponent)) := by
  have hmul : magnitude (v * w) = packedMagnitude
    (UnpackedFloat.mul Format.binary64 v.toModel.unpack w.toModel.unpack) := rfl
  have hnearest : nearest 0 (2 ^ (unitExponent + unitExponent)) = 0 :=
    nearest_zero (Nat.two_pow_pos _)
  have hu : unitExponent = 1074 := rfl
  rw [hmul]
  by_cases hv0 : magnitude v = 0
  · obtain ⟨s, hs⟩ := unpack_of_magnitude_eq_zero hv0
    rw [hs, hv0, units_of_lt (by decide), Nat.zero_mul, hnearest]
    by_cases hw0 : magnitude w = 0
    · obtain ⟨s', hs'⟩ := unpack_of_magnitude_eq_zero hw0
      rw [hs']
      exact packedMagnitude_zero _
    · obtain ⟨s', m', e', hm', hs', -⟩ := unpack_of_finite hw0 hw
      rw [hs']
      exact packedMagnitude_zero _
  · obtain ⟨s, m, e, hm, hs, he, hunits, hbits⟩ := unpack_of_finite hv0 hv
    by_cases hw0 : magnitude w = 0
    · obtain ⟨s', hs'⟩ := unpack_of_magnitude_eq_zero hw0
      rw [hs, hs', hw0, units_of_lt (Nat.two_pow_pos 52), Nat.mul_zero, hnearest]
      exact packedMagnitude_zero _
    · obtain ⟨s', m', e', hm', hs', he', hunits', hbits'⟩ := unpack_of_finite hw0 hw
      have hmm : 0 < m * m' := Nat.mul_pos hm hm'
      have henough : 52 ≤ (m * m').log2 ∨ e + e' ≤ -1074 := by
        rw [Nat.le_log2 hmm.ne']
        rcases hbits with hbits | rfl
        · exact .inl (hbits.trans (Nat.le_mul_of_pos_right m hm'))
        · rcases hbits' with hbits' | rfl
          · exact .inl (hbits'.trans (Nat.le_mul_of_pos_left m' hm))
          · exact .inr (by decide)
      rw [hs, hs', mul_finite, packedMagnitude_eq_nearest _ hmm henough, hunits, hunits']
      refine nearest_congr (Nat.two_pow_pos _) (Nat.two_pow_pos _) ?_
      have hpow : (e + e').toNat + (unitExponent + unitExponent) =
        (e + 1074).toNat + (e' + 1074).toNat + (-(e + e')).toNat := by omega
      rw [Nat.mul_assoc, ← Nat.pow_add, hpow, Nat.pow_add, Nat.pow_add]
      ring

/-! ## Whole numbers -/

theorem packedMagnitude_ofNat (n : ℕ) :
    packedMagnitude (UnpackedFloat.ofNat Format.binary64 n) = nearest n 1 := by
  rcases Nat.eq_zero_or_pos n with rfl | hpos
  · rw [nearest_zero Nat.one_pos]
    exact packedMagnitude_zero _
  · have hround : UnpackedFloat.ofNat Format.binary64 n =
        UnpackedFloat.round Format.binary64 .positive n 0 := by
      have hcompare : compare (n : ℤ) 0 = .gt := by
        rw [Int.compare_eq_gt]
        omega
      rw [UnpackedFloat.ofNat, UnpackedFloat.ofInt, UnpackedFloat.normalize, hcompare]
      rfl
    rw [hround, packedMagnitude_round .positive 0 hpos, neg_zero, Int.toNat_zero, pow_zero,
      Nat.mul_one]

theorem magnitude_toFloat_of_lt {n : ℕ} (h : n < 2 ^ 53) : magnitude n.toFloat = nearest n 1 := by
  have hfloat : n.toFloat = n.toUInt64.toFloat * .ofBits 0x3FF0000000000000 :=
    dif_pos ⟨h, Nat.zero_le 22⟩
  have hword : n.toUInt64.toNat = n := by
    rw [Nat.toUInt64, UInt64.toNat_ofNat', Nat.mod_eq_of_lt (by omega)]
  have hn : magnitude n.toUInt64.toFloat = nearest n 1 := by
    rw [← hword, ← packedMagnitude_ofNat, hword]
    exact congrArg (fun k => packedMagnitude (UnpackedFloat.ofNat Format.binary64 k)) hword
  have hone : magnitude (.ofBits 0x3FF0000000000000) = 1023 * 2 ^ 52 := by decide
  have hunit : units (1023 * 2 ^ 52) = 2 ^ unitExponent := by
    have hu : unitExponent = 52 + 1022 := rfl
    rw [show 1023 * 2 ^ 52 = 1022 * 2 ^ 52 + 2 ^ 52 from rfl,
      units_of_mantissa (le_refl _) (by decide), hu, Nat.pow_add]
  have hbound : 2 ^ 53 ≤ (2 ^ 54 - 1) * 2 ^ 970 * 1 := by
    rw [Nat.mul_one]
    have hpos : 0 < 2 ^ 970 := by positivity
    exact Nat.le_trans (by decide) (Nat.le_mul_of_pos_right _ hpos)
  have hfinite : nearest n 1 < infinityBits :=
    nearest_lt_infinityBits Nat.one_pos (Nat.lt_of_lt_of_le h hbound)
  rw [hfloat, magnitude_mul (hn ▸ hfinite) (hone ▸ by decide), hn, hone, hunit, Nat.pow_add,
    nearest_mul_right _ _ (Nat.two_pow_pos _), nearest_units hfinite]

theorem magnitude_toFloat_of_ge {n : ℕ} (h : 2 ^ 53 ≤ n) : magnitude n.toFloat = nearest n 1 := by
  have hn : n ≠ 0 := by omega
  have hmodel : n.toFloat = .ofModel (Float.Model.ofScientific n 0) :=
    dif_neg fun hlt => Nat.not_lt.mpr h hlt.1
  have hround : UnpackedFloat.ofScientific Format.binary64 n 0 =
      roundWithAccuracy Format.binary64 .positive (n <<< 53 * 10 ^ 0) (-53 + 0) .exact := by
    have hlow : ¬ (0 : ℤ) < -(2 ^ Format.binary64.exponentBits + (n.log2 : ℤ)) := by
      change ¬ (0 : ℤ) < -(2048 + (n.log2 : ℤ))
      omega
    rw [UnpackedFloat.ofScientific, dif_neg hn, if_neg (by decide), if_neg hlow,
      if_pos (le_refl 0), mul_finite]
    rfl
  have hshift : n <<< 53 * 10 ^ 0 = n * 2 ^ 53 := by
    rw [pow_zero, Nat.mul_one, Nat.shiftLeft_eq]
  have hbits : 52 ≤ (n * 2 ^ 53).log2 := by
    rw [log2_mul_two_pow (by omega)]
    omega
  have hmagnitude : magnitude n.toFloat =
      packedMagnitude (UnpackedFloat.ofScientific Format.binary64 n 0) := by
    rw [hmodel]
    rfl
  have hnearest := nearest_mul_right n 1 (Nat.two_pow_pos 53)
  rw [Nat.one_mul] at hnearest
  rw [hmagnitude, hround, hshift, packedMagnitude_eq_nearest _ (by omega) (.inl hbits), ← hnearest]
  have hup : (-53 + 0 : ℤ).toNat = 0 := rfl
  have hdown : (-(-53 + 0) : ℤ).toNat = 53 := rfl
  rw [hup, hdown, pow_zero, Nat.mul_one]

/-- A whole number is converted to the number nearest to it. -/
theorem magnitude_toFloat (n : ℕ) : magnitude n.toFloat = nearest n 1 := by
  rcases Nat.lt_or_ge n (2 ^ 53) with h | h
  · exact magnitude_toFloat_of_lt h
  · exact magnitude_toFloat_of_ge h

/-! ## Products below infinity -/

theorem units_nearest_le_of_lt {n : ℕ} (h : n < safeBound) :
    2 ^ 53 * units (nearest n 1) ≤ (2 ^ 53 + 1) * (n * 2 ^ unitExponent) := by
  rcases Nat.eq_zero_or_pos n with rfl | hpos
  · rw [nearest_zero Nat.one_pos, units_of_lt (Nat.two_pow_pos 52), Nat.mul_zero]
    exact Nat.zero_le _
  · have hu : 2 ^ 52 ≤ 2 ^ unitExponent := Nat.pow_le_pow_right (by decide) (by decide)
    have hlarge : 2 ^ 52 * 1 ≤ n * 2 ^ unitExponent := by
      rw [Nat.mul_one]
      exact hu.trans (Nat.le_mul_of_pos_left _ hpos)
    have herror := units_nearest_le Nat.one_pos hlarge (nearest_lt_of_lt_safeBound h)
    rwa [Nat.mul_one] at herror

/-- Two whole numbers are rounded, and then their product is. The three errors together are less
than what is left between the bound and infinity. -/
theorem magnitude_mul_lt {a b : ℕ} {v w : Float} (ha : a < safeBound) (hb : b < safeBound)
    (hab : a * b < safeBound) (hv : magnitude v = nearest a 1) (hw : magnitude w = nearest b 1) :
    magnitude (v * w) < infinityBits := by
  have herrora := units_nearest_le_of_lt ha
  have herrorb := units_nearest_le_of_lt hb
  rw [magnitude_mul (hv ▸ nearest_lt_of_lt_safeBound ha) (hw ▸ nearest_lt_of_lt_safeBound hb), hv,
    hw]
  apply nearest_lt_infinityBits (Nat.two_pow_pos _)
  rw [Nat.pow_add]
  rw [safeBound] at hab
  generalize units (nearest a 1) = x at herrora ⊢
  generalize units (nearest b 1) = y at herrorb ⊢
  have hu : 0 < 2 ^ unitExponent := Nat.two_pow_pos _
  generalize 2 ^ unitExponent = u at hu herrora herrorb ⊢
  generalize 2 ^ 970 = p at hab ⊢
  have hexact : a * b * (u * u) < (2 ^ 54 - 6) * p * (u * u) :=
    Nat.mul_lt_mul_of_pos_right hab (Nat.mul_pos hu hu)
  have hproduct : 2 ^ 106 * (x * y) < 2 ^ 106 * ((2 ^ 54 - 1) * p * (u * u)) := by
    calc 2 ^ 106 * (x * y) = 2 ^ 53 * x * (2 ^ 53 * y) := by ring
      _ ≤ (2 ^ 53 + 1) * (a * u) * ((2 ^ 53 + 1) * (b * u)) := Nat.mul_le_mul herrora herrorb
      _ = (2 ^ 53 + 1) ^ 2 * (a * b * (u * u)) := by ring
      _ < (2 ^ 53 + 1) ^ 2 * ((2 ^ 54 - 6) * p * (u * u)) :=
        Nat.mul_lt_mul_of_pos_left hexact (by decide)
      _ = (2 ^ 53 + 1) ^ 2 * (2 ^ 54 - 6) * (p * (u * u)) := by ring
      _ ≤ 2 ^ 106 * (2 ^ 54 - 1) * (p * (u * u)) := Nat.mul_le_mul_right _ (by decide)
      _ = 2 ^ 106 * ((2 ^ 54 - 1) * p * (u * u)) := by ring
  exact Nat.lt_of_mul_lt_mul_left hproduct

end Footprint.Number
