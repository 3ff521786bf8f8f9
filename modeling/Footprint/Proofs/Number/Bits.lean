import Footprint.Number.Binary64
import Mathlib.Tactic.Ring

/-!
# The bits of a number

A number is its bits: sign and magnitude together give it back. Only one pattern of bits is not a
number, so all values that are none are equal.
-/
namespace Footprint.Number
open Float.Model Float.Model.UnpackedFloat

/-! ## The three parts of 64 bits -/

abbrev Word := BitVec Format.binary64.numBits

abbrev wordOf (v : Float) : Word := v.toModel.toBits.toBitVec

theorem toNat_unpackMantissa (b : Word) : (unpackMantissa b).toNat = b.toNat % 2 ^ 52 := by
  simp [unpackMantissa]

theorem toNat_unpackExponent (b : Word) :
    (unpackExponent b).toNat = b.toNat / 2 ^ 52 % 2 ^ 11 := by
  simp [unpackExponent, Nat.shiftRight_eq_div_pow]

theorem toNat_unpackSign (b : Word) : (unpackSign b).toNat = b.toNat / 2 ^ 63 := by
  have h := b.isLt
  change (BitVec.extractLsb 63 63 b).toNat = _
  rw [BitVec.extractLsb_toNat, Nat.shiftRight_eq_div_pow]
  change b.toNat / 2 ^ 63 % 2 ^ 1 = _
  change b.toNat < 2 ^ 64 at h
  omega

theorem toNat_packComponents (s : Sign) (e : BitVec Format.binary64.exponentBits)
    (m : BitVec Format.binary64.mantissaBitsWithoutImplicit) :
    (packComponents Format.binary64 s e m).toNat =
      s.toBitVec.toNat * 2 ^ 63 + e.toNat * 2 ^ 52 + m.toNat := by
  rw [packComponents, BitVec.toNat_append, BitVec.toNat_append,
    ← Nat.shiftLeft_add_eq_or_of_lt e.isLt, ← Nat.shiftLeft_add_eq_or_of_lt m.isLt,
    Nat.shiftLeft_eq, Nat.shiftLeft_eq]
  ring

private theorem toBitVec_ofBitVec (s : BitVec 1) : (Sign.ofBitVec s).toBitVec = s := by
  revert s
  decide

private theorem packComponents_unpack (b : Word) :
    packComponents Format.binary64 (Sign.ofBitVec (unpackSign b)) (unpackExponent b)
      (unpackMantissa b) = b := by
  apply BitVec.eq_of_toNat_eq
  rw [toNat_packComponents, toBitVec_ofBitVec, toNat_unpackMantissa, toNat_unpackExponent,
    toNat_unpackSign]
  omega

/-! ## Packing gives the bits back -/

private theorem exponent_lt {b : Word} (h : unpackExponent b ≠ -1#_) :
    (unpackExponent b).toNat < 2047 := by
  have hlt := (unpackExponent b).isLt
  by_contra hge
  apply h
  apply BitVec.eq_of_toNat_eq
  change _ = 2047
  change (unpackExponent b).toNat < 2048 at hlt
  omega

theorem toNat_implicit (m : BitVec 52) : (1#1 ++ m).toNat = 2 ^ 52 + m.toNat := by
  rw [BitVec.toNat_append, ← Nat.shiftLeft_add_eq_or_of_lt m.isLt]
  rfl

/-- A finite number is packed with the exponent that is put in front of its bias. -/
theorem pack_finite (s : Sign) (m : ℕ) (e : ℤ) (h : 0 < m) :
    UnpackedFloat.pack Format.binary64 (.finite s m e h) =
      let biased := (e + Format.binary64.exponentBias + (52 : ℕ)).toNat
      if 2 ^ Format.binary64.exponentBits ≤ biased + 1 then packedInfinity Format.binary64 s
      else if m.log2 + 1 = Format.binary64.mantissaBits then
        packComponents Format.binary64 s (.ofNat _ biased) (.ofNat 52 m)
      else packComponents Format.binary64 s 0#_ (.ofNat 52 m) := rfl

/-- What a word stands for, as its exponent and its mantissa say. -/
inductive Unpacks (b : Word) : UnpackedFloat → Prop
  | infinity (hexp : unpackExponent b = -1#_) (hmant : unpackMantissa b = 0#_) :
    Unpacks b (.infinity (.ofBitVec (unpackSign b)))
  | notANumber (hexp : unpackExponent b = -1#_) (hmant : unpackMantissa b ≠ 0#_) :
    Unpacks b .notANumber
  | zero (hexp : unpackExponent b = 0#_) (hmant : unpackMantissa b = 0#_) :
    Unpacks b (.zero (.ofBitVec (unpackSign b)))
  | small (hexp : unpackExponent b = 0#_) (hmant : unpackMantissa b ≠ 0#_)
    (hpos : 0 < (unpackMantissa b).toNat) :
    Unpacks b (.finite (.ofBitVec (unpackSign b)) (unpackMantissa b).toNat
      ((unpackExponent b).toNat - ((Format.binary64.exponentBias : ℤ) + (52 : ℕ)) + 1) hpos)
  | normal (hexp : unpackExponent b ≠ -1#_) (hnil : unpackExponent b ≠ 0#_)
    (hpos : 0 < (1#1 ++ unpackMantissa b).toNat) :
    Unpacks b (.finite (.ofBitVec (unpackSign b)) (1#1 ++ unpackMantissa b).toNat
      ((unpackExponent b).toNat - ((Format.binary64.exponentBias : ℤ) + (52 : ℕ))) hpos)

theorem unpacks (b : Word) : Unpacks b (UnpackedFloat.unpack Format.binary64 b) := by
  have hones : (0#11 : BitVec 11) ≠ -1#11 := by decide
  by_cases hexp : unpackExponent b = -1#_
  · by_cases hmant : unpackMantissa b = 0#_
    · have heq : UnpackedFloat.unpack Format.binary64 b = .infinity (.ofBitVec (unpackSign b)) :=
        (if_pos hexp).trans (if_pos hmant)
      rw [heq]
      exact .infinity hexp hmant
    · have heq : UnpackedFloat.unpack Format.binary64 b = .notANumber :=
        (if_pos hexp).trans (if_neg hmant)
      rw [heq]
      exact .notANumber hexp hmant
  · by_cases hnil : unpackExponent b = 0#_
    · by_cases hmant : unpackMantissa b = 0#_
      · have heq : UnpackedFloat.unpack Format.binary64 b = .zero (.ofBitVec (unpackSign b)) :=
          (if_neg hexp).trans ((if_pos hnil).trans (dif_pos hmant))
        rw [heq]
        exact .zero hnil hmant
      · have heq : UnpackedFloat.unpack Format.binary64 b = _ :=
          (if_neg hexp).trans ((if_pos hnil).trans (dif_neg hmant))
        rw [heq]
        exact .small hnil hmant _
    · have heq : UnpackedFloat.unpack Format.binary64 b = _ :=
        (if_neg hexp).trans (if_neg hnil)
      rw [heq]
      exact .normal hexp hnil _

/-- Packing undoes unpacking on every pattern in use. -/
theorem pack_unpack {b : Word} (h : Format.binary64.Valid b) :
    UnpackedFloat.pack Format.binary64 (UnpackedFloat.unpack Format.binary64 b) = b := by
  have hself := packComponents_unpack b
  have hm : (unpackMantissa b).toNat < 2 ^ 52 := (unpackMantissa b).isLt
  have hbias : (Format.binary64.exponentBias : ℤ) = 1023 := rfl
  have hunpacks := unpacks b
  generalize UnpackedFloat.unpack Format.binary64 b = f at hunpacks ⊢
  cases hunpacks with
  | infinity hexp hmant =>
    rw [hexp, hmant] at hself
    exact hself
  | notANumber hexp hmant => exact (h.eq_packedNaN hexp hmant).symm
  | zero hexp hmant =>
    rw [hexp, hmant] at hself
    exact hself
  | small hexp hmant hpos =>
    -- A small number: its mantissa has no implicit bit.
    have hlog : (unpackMantissa b).toNat.log2 + 1 ≠ Format.binary64.mantissaBits := by
      have := (Nat.log2_lt hpos.ne').mpr hm
      change _ ≠ 53
      omega
    have hone : ((unpackExponent b).toNat - ((Format.binary64.exponentBias : ℤ) + (52 : ℕ)) + 1 +
        Format.binary64.exponentBias + (52 : ℕ)).toNat = 1 := by
      rw [hexp, hbias]
      rfl
    rw [pack_finite, hone, if_neg (by decide), if_neg hlog, ← hexp, BitVec.ofNat_toNat,
      BitVec.setWidth_eq]
    exact hself
  | normal hexp hnil hpos =>
    have hlt := exponent_lt hexp
    have hlog : (1#1 ++ unpackMantissa b).toNat.log2 + 1 = Format.binary64.mantissaBits := by
      rw [toNat_implicit]
      change _ = 52 + 1
      rw [Nat.add_right_cancel_iff, Nat.log2_eq_iff (by omega)]
      constructor <;> omega
    have hbiased : ((unpackExponent b).toNat - ((Format.binary64.exponentBias : ℤ) + (52 : ℕ)) +
        Format.binary64.exponentBias + (52 : ℕ)).toNat = (unpackExponent b).toNat := by
      rw [hbias]
      omega
    have hmant : BitVec.ofNat 52 (1#1 ++ unpackMantissa b).toNat = unpackMantissa b := by
      apply BitVec.eq_of_toNat_eq
      rw [toNat_implicit, BitVec.toNat_ofNat]
      omega
    rw [pack_finite, hbiased, if_neg (by change ¬ 2048 ≤ _; omega), if_pos hlog,
      BitVec.ofNat_toNat, BitVec.setWidth_eq, hmant]
    exact hself

theorem ofBits_toBits (v : Float) : Float.ofBits v.toBits = v := by
  obtain ⟨bits, h⟩ := v
  have hsame (w : UInt64) (hw : Format.binary64.Valid w.toBitVec) (heq : w = bits) :
      Float.ofModel ⟨w, hw⟩ = .ofModel ⟨bits, h⟩ := by
    subst heq
    rfl
  exact hsame _ _ (UInt64.eq_of_toBitVec_eq (pack_unpack h))

/-- Sign and magnitude together are the whole number. -/
theorem ofMagnitude_magnitude (v : Float) : ofMagnitude (isNegative v) (magnitude v) = v := by
  have hlt : v.toBits.toNat < 2 ^ 64 := v.toBits.toNat_lt
  have hbits : (if isNegative v then Nat.pow 2 63 + magnitude v else magnitude v) =
      v.toBits.toNat := by
    simp only [isNegative, magnitude, Nat.pow_eq, decide_eq_true_eq]
    split <;> omega
  rw [ofMagnitude, hbits, UInt64.ofNat_toNat, ofBits_toBits]

/-! ## Infinities and what is not a number -/

/-- The exponent of infinity belongs to infinities and to what is not a number. -/
private theorem magnitude_parts (v : Float) :
    ∃ e m, magnitude v = e * 2 ^ 52 + m ∧ e ≤ 2047 ∧ m < 2 ^ 52 ∧
      (unpackExponent (wordOf v) = -1#_ ↔ e = 2047) ∧
      (unpackMantissa (wordOf v) = 0#_ ↔ m = 0) := by
  let b := wordOf v
  have he : (unpackExponent b).toNat < 2 ^ 11 := (unpackExponent b).isLt
  refine ⟨(unpackExponent b).toNat, (unpackMantissa b).toNat, ?_, by omega,
    (unpackMantissa b).isLt, ?_, ?_⟩
  · rw [toNat_unpackExponent, toNat_unpackMantissa]
    change b.toNat % 2 ^ 63 = _
    omega
  · exact ⟨fun h => congrArg BitVec.toNat h, fun h => BitVec.eq_of_toNat_eq h⟩
  · exact ⟨fun h => congrArg BitVec.toNat h, fun h => BitVec.eq_of_toNat_eq h⟩

theorem infinityBits_lt_magnitude_iff (v : Float) : infinityBits < magnitude v ↔
    unpackExponent (wordOf v) = -1#_ ∧
      unpackMantissa (wordOf v) ≠ 0#_ := by
  obtain ⟨e, m, hv, he, hm, hexp, hmant⟩ := magnitude_parts v
  have hi : infinityBits = 2047 * 2 ^ 52 := rfl
  rw [hexp, Ne, hmant, hv, hi]
  omega

theorem magnitude_lt_infinityBits_iff (v : Float) : magnitude v < infinityBits ↔
    unpackExponent (wordOf v) ≠ -1#_ := by
  obtain ⟨e, m, hv, he, hm, hexp, hmant⟩ := magnitude_parts v
  have hi : infinityBits = 2047 * 2 ^ 52 := rfl
  rw [Ne, hexp, hv, hi]
  omega

theorem isFinite_iff (v : Float) : v.isFinite = true ↔ magnitude v < infinityBits := by
  rw [magnitude_lt_infinityBits_iff]
  have hunpacks := unpacks (wordOf v)
  change (UnpackedFloat.unpack Format.binary64 (wordOf v)).isFinite = true ↔ _
  generalize UnpackedFloat.unpack Format.binary64 (wordOf v) = f at hunpacks ⊢
  have hones : (0#11 : BitVec 11) ≠ -1#11 := by decide
  cases hunpacks with
  | infinity hexp hmant => exact iff_of_false Bool.false_ne_true fun h => h hexp
  | notANumber hexp hmant => exact iff_of_false Bool.false_ne_true fun h => h hexp
  | zero hexp hmant => exact iff_of_true rfl (hexp ▸ hones)
  | small hexp hmant hpos => exact iff_of_true rfl (hexp ▸ hones)
  | normal hexp hnil hpos => exact iff_of_true rfl hexp

theorem eq_notANumber {v : Float} (h : infinityBits < magnitude v) : v = notANumber := by
  obtain ⟨hexp, hmant⟩ := (infinityBits_lt_magnitude_iff v).mp h
  have hbits : wordOf v = packedNaN Format.binary64 :=
    v.toModel.valid.eq_packedNaN hexp hmant
  have hnan : packedNaN Format.binary64 = notANumber.toBits.toBitVec := by decide
  rw [← ofBits_toBits v, ← ofBits_toBits notANumber]
  exact congrArg Float.ofBits (UInt64.eq_of_toBitVec_eq (hbits.trans hnan))

/-- A number equals itself under the numerical comparison unless it is none. -/
theorem beq_self (v : Float) : (v == v) = !v.isNaN := by
  change v.toModel.unpack.beq v.toModel.unpack = !v.toModel.unpack.isNaN
  cases v.toModel.unpack with
  | notANumber => rfl
  | infinity s => cases s <;> rfl
  | zero s => rfl
  | finite s m e h =>
    have hself : (compare e e).then (compare m m) = .eq := by
      rw [Std.ReflOrd.compare_self, Std.ReflOrd.compare_self]
      rfl
    cases s with
    | negative =>
      change (some ((compare e e).then (compare m m)).swap == some .eq) = true
      rw [hself]
      rfl
    | positive =>
      change (some ((compare e e).then (compare m m)) == some .eq) = true
      rw [hself]
      rfl

end Footprint.Number
