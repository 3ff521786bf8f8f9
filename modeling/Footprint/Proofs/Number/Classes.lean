import Footprint.Number.Reader
import Footprint.Proofs.Number.Bits
import Mathlib.Data.String.Basic

/-!
# Zero, infinities and what is not a number

The class of a number can be told from its sign and its magnitude: what is not a number lies beyond
infinity. A decimal fraction never gets there, so only the word for it is read as such.
-/
namespace Footprint.Number
open Float.Model Float.Model.UnpackedFloat

theorem isNaN_iff (v : Float) : v.isNaN = true ↔ infinityBits < magnitude v := by
  rw [infinityBits_lt_magnitude_iff]
  have hunpacks := unpacks (wordOf v)
  change (UnpackedFloat.unpack Format.binary64 (wordOf v)).isNaN = true ↔ _
  generalize UnpackedFloat.unpack Format.binary64 (wordOf v) = f at hunpacks ⊢
  cases hunpacks with
  | infinity hexp hmant => exact iff_of_false Bool.false_ne_true fun h => h.2 hmant
  | notANumber hexp hmant => exact iff_of_true rfl ⟨hexp, hmant⟩
  | zero hexp hmant => exact iff_of_false Bool.false_ne_true fun h => h.2 hmant
  | small hexp hmant hpos =>
    have hones : (0#11 : BitVec 11) ≠ -1#11 := by decide
    exact iff_of_false Bool.false_ne_true fun h => hones (hexp.symm.trans h.1)
  | normal hexp hnil hpos => exact iff_of_false Bool.false_ne_true fun h => hexp h.1

theorem isInf_iff (v : Float) : v.isInf = true ↔ magnitude v = infinityBits := by
  have hfinite := isFinite_iff v
  have hnan := isNaN_iff v
  have hclass : v.isInf = (!v.isFinite && !v.isNaN) := by
    change v.toModel.unpack.isInf = (!v.toModel.unpack.isFinite && !v.toModel.unpack.isNaN)
    cases v.toModel.unpack <;> rfl
  rw [hclass, Bool.and_eq_true, Bool.not_eq_true', Bool.not_eq_true', ← Bool.not_eq_true,
    ← Bool.not_eq_true, hfinite, hnan]
  omega

/-! ## Positive numbers -/

theorem magnitude_eq_zero_iff (v : Float) : magnitude v = 0 ↔
    unpackExponent (wordOf v) = 0#_ ∧ unpackMantissa (wordOf v) = 0#_ := by
  have hexp := toNat_unpackExponent (wordOf v)
  have hmant := toNat_unpackMantissa (wordOf v)
  have hv : magnitude v = (wordOf v).toNat % 2 ^ 63 := rfl
  constructor
  · intro h
    constructor <;> apply BitVec.eq_of_toNat_eq
    · change _ = 0
      omega
    · change _ = 0
      omega
  · rintro ⟨he, hm⟩
    rw [he, BitVec.toNat_ofNat, Nat.zero_mod] at hexp
    rw [hm, BitVec.toNat_ofNat, Nat.zero_mod] at hmant
    omega

theorem sign_wordOf (v : Float) :
    Sign.ofBitVec (unpackSign (wordOf v)) = if isNegative v then .negative else .positive := by
  have hlt : (wordOf v).toNat < 2 ^ 64 := (wordOf v).isLt
  have hsign := toNat_unpackSign (wordOf v)
  have hneg : isNegative v = decide (2 ^ 63 ≤ (wordOf v).toNat) := rfl
  by_cases h : 2 ^ 63 ≤ (wordOf v).toNat
  · have hone : unpackSign (wordOf v) = 1#1 := by
      apply BitVec.eq_of_toNat_eq
      change _ = 1
      omega
    rw [hneg, decide_eq_true h, hone]
    rfl
  · have hnil : unpackSign (wordOf v) = 0#1 := by
      apply BitVec.eq_of_toNat_eq
      change _ = 0
      omega
    rw [hneg, decide_eq_false h, hnil]
    rfl

theorem sign_eq_positive_iff (v : Float) :
    Sign.ofBitVec (unpackSign (wordOf v)) = .positive ↔ isNegative v = false := by
  rw [sign_wordOf]
  cases isNegative v <;> simp

theorem zero_lt_infinity_iff (s : Sign) :
    (UnpackedFloat.zero .positive).lt (.infinity s) = true ↔ s = .positive := by
  cases s with
  | negative => exact iff_of_false Bool.false_ne_true nofun
  | positive => exact iff_of_true rfl rfl

theorem zero_lt_finite_iff (s : Sign) (m : ℕ) (e : ℤ) (h : 0 < m) :
    (UnpackedFloat.zero .positive).lt (.finite s m e h) = true ↔ s = .positive := by
  cases s with
  | negative => exact iff_of_false Bool.false_ne_true nofun
  | positive => exact iff_of_true rfl rfl

/-- Infinity is positive; neither zero is, nor what is not a number. -/
theorem zero_lt_iff (v : Float) :
    0.0 < v ↔ isNegative v = false ∧ 0 < magnitude v ∧ magnitude v ≤ infinityBits := by
  have hzero : (0.0 : Float).toModel.unpack = .zero .positive := rfl
  have hlt : 0.0 < v ↔ (UnpackedFloat.zero .positive).lt v.toModel.unpack = true := by
    rw [← hzero]
    exact decide_eq_true_iff
  have hnan := infinityBits_lt_magnitude_iff v
  have hnil := magnitude_eq_zero_iff v
  rw [hlt, Nat.pos_iff_ne_zero, Ne, hnil, ← Nat.not_lt, hnan]
  have hones : (0#11 : BitVec 11) ≠ -1#11 := by decide
  have hunpacks := unpacks (wordOf v)
  change (UnpackedFloat.zero .positive).lt (UnpackedFloat.unpack Format.binary64 (wordOf v)) =
    true ↔ _
  generalize UnpackedFloat.unpack Format.binary64 (wordOf v) = f at hunpacks ⊢
  cases hunpacks with
  | infinity hexp hmant =>
    rw [zero_lt_infinity_iff, sign_eq_positive_iff]
    exact (and_iff_left ⟨fun h => hones (h.1.symm.trans hexp), fun h => h.2 hmant⟩).symm
  | notANumber hexp hmant =>
    exact iff_of_false Bool.false_ne_true fun h => h.2.2 ⟨hexp, hmant⟩
  | zero hexp hmant => exact iff_of_false Bool.false_ne_true fun h => h.2.1 ⟨hexp, hmant⟩
  | small hexp hmant hpos =>
    rw [zero_lt_finite_iff, sign_eq_positive_iff]
    exact (and_iff_left ⟨fun h => hmant h.2, fun h => hones (hexp.symm.trans h.1)⟩).symm
  | normal hexp hnil hpos =>
    rw [zero_lt_finite_iff, sign_eq_positive_iff]
    exact (and_iff_left ⟨fun h => hnil h.1, fun h => hexp h.1⟩).symm

/-! ## Bits that are put together -/

theorem toBits_ofBits {w : UInt64} (h : Format.binary64.Valid w.toBitVec) :
    (Float.ofBits w).toBits = w := UInt64.eq_of_toBitVec_eq (pack_unpack h)

theorem toBits_ofMagnitude {b : ℕ} (h : b ≤ infinityBits) (negative : Bool) :
    (ofMagnitude negative b).toBits = .ofNat (if negative then Nat.pow 2 63 + b else b) := by
  have hi : infinityBits = 2047 * 2 ^ 52 := rfl
  refine toBits_ofBits ⟨fun hexp hmant => absurd ?_ hmant⟩
  -- With the exponent of infinity no bit is left for the fraction.
  have hword : (UInt64.ofNat (if negative then Nat.pow 2 63 + b else b)).toBitVec.toNat =
      if negative then 2 ^ 63 + b else b := by
    rw [UInt64.toNat_toBitVec, UInt64.toNat_ofNat', Nat.mod_eq_of_lt]
    · rfl
    · rw [Nat.pow_eq]
      split <;> omega
  have hexp' : _ = 2047 := congrArg BitVec.toNat hexp
  apply BitVec.eq_of_toNat_eq
  rw [toNat_unpackExponent, hword] at hexp'
  rw [toNat_unpackMantissa, hword]
  change _ = 0
  split_ifs at hexp' ⊢ <;> omega

theorem magnitude_ofMagnitude {b : ℕ} (h : b ≤ infinityBits) (negative : Bool) :
    magnitude (ofMagnitude negative b) = b := by
  have hi : infinityBits < 2 ^ 63 := by decide
  rw [magnitude, toBits_ofMagnitude h, UInt64.toNat_ofNat', Nat.pow_eq]
  split <;> omega

/-- A word whose magnitude is not beyond infinity is kept. -/
theorem toBits_ofBits_of_le {w : UInt64} (h : w.toNat % 2 ^ 63 ≤ infinityBits) :
    (Float.ofBits w).toBits = w := by
  have hlt : w.toNat < 2 ^ 64 := w.toNat_lt
  have hword : w = .ofNat (if decide (2 ^ 63 ≤ w.toNat) then Nat.pow 2 63 + w.toNat % 2 ^ 63
      else w.toNat % 2 ^ 63) := by
    rw [← UInt64.toNat_inj, UInt64.toNat_ofNat', Nat.pow_eq]
    simp only [decide_eq_true_eq]
    split_ifs <;> omega
  have hbits := toBits_ofMagnitude h (decide (2 ^ 63 ≤ w.toNat))
  rwa [ofMagnitude, ← hword] at hbits

theorem isNaN_ofBits_iff (w : UInt64) :
    (Float.ofBits w).isNaN = true ↔ infinityBits < w.toNat % 2 ^ 63 := by
  constructor
  · intro hnan
    refine Nat.not_le.mp fun hle => ?_
    rw [isNaN_iff, magnitude, toBits_ofBits_of_le hle] at hnan
    exact absurd hnan hle.not_gt
  · intro h
    have hi : infinityBits = 2047 * 2 ^ 52 := rfl
    let b : Word := w.toBitVec
    have hexp : unpackExponent b = -1#_ := by
      apply BitVec.eq_of_toNat_eq
      rw [toNat_unpackExponent]
      change w.toNat / 2 ^ 52 % 2 ^ 11 = 2047
      omega
    have hmant : unpackMantissa b ≠ 0#_ := by
      intro hzero
      have hnil : _ = 0 := congrArg BitVec.toNat hzero
      rw [toNat_unpackMantissa] at hnil
      change w.toNat % 2 ^ 52 = 0 at hnil
      omega
    have hunpack : UnpackedFloat.unpack Format.binary64 b = .notANumber :=
      (if_pos hexp).trans (if_neg hmant)
    have hbits : Float.ofBits w = .ofModel (.pack (UnpackedFloat.unpack Format.binary64 b)) := rfl
    rw [hbits, hunpack]
    decide

/-! ## Numbers that are read -/

theorem Decimal.magnitude_le (d : Decimal) : d.magnitude ≤ infinityBits := by
  rw [Decimal.magnitude]
  split_ifs
  · exact Nat.zero_le _
  · exact Nat.le_refl _
  · exact Nat.zero_le _
  · exact Nat.min_le_left _ _
  · exact Nat.min_le_left _ _

theorem isNaN_ofMagnitude {b : ℕ} (h : b ≤ infinityBits) (negative : Bool) :
    (ofMagnitude negative b).isNaN = false := by
  rw [Bool.eq_false_iff, Ne, isNaN_iff, magnitude_ofMagnitude h]
  exact Nat.not_lt.mpr h

theorem isNaN_notANumber : notANumber.isNaN = true := by decide

/-- A decimal text begins with a digit or the point. -/
theorem decimal?_eq_none {c : Char} {cs : List Char} (hdigit : isDigit c = false) (hpoint : c ≠ '.') :
    decimal? (c :: cs) = none := by
  simp only [decimal?, List.takeWhile_cons, List.dropWhile_cons, hdigit, Bool.false_eq_true, if_false]
  split
  · next heq => exact absurd (List.cons.inj heq).1 hpoint
  · simp

theorem toLower_of_isDigit {c : Char} (h : isDigit c = true) : c.toLower = c := by
  simp only [isDigit, Bool.and_eq_true, decide_eq_true_eq] at h
  have hnine : c.val ≤ '9'.val := h.2
  refine dif_neg fun hupper => ?_
  exact absurd (UInt32.le_trans hupper.1 hnine) (by decide)

theorem decimal?_of_lower_eq_nan {cs : List Char} (h : lower cs = ['n', 'a', 'n']) :
    decimal? cs = none := by
  obtain ⟨c, r, rfl, hc, -⟩ := List.map_eq_cons_iff.mp h
  apply decimal?_eq_none
  · rw [Bool.eq_false_iff]
    intro hdigit
    rw [toLower_of_isDigit hdigit] at hc
    subst hc
    cases hdigit
  · rintro rfl
    cases hc

/-- Of the unsigned texts that are read, `nan` alone is read as no number. -/
theorem isNaN_of_unsigned? {negative : Bool} {cs : List Char} {v : Float}
    (h : unsigned? negative cs = some v) : v.isNaN = true ↔ lower cs = ['n', 'a', 'n'] := by
  rw [unsigned?] at h
  split at h
  · next d hd =>
    cases h
    rw [isNaN_ofMagnitude d.magnitude_le]
    refine iff_of_false Bool.false_ne_true fun hl => ?_
    rw [decimal?_of_lower_eq_nan hl] at hd
    cases hd
  · simp only [String.ofList_eq] at h
    split_ifs at h with hword hnan
    · cases h
      rw [isNaN_ofMagnitude (Nat.le_refl _)]
      refine iff_of_false Bool.false_ne_true fun hn => ?_
      rw [hn] at hword
      exact absurd hword (by decide)
    · cases h
      exact iff_of_true isNaN_notANumber hnan

/-- A sign and then `nan`, in any letter case. -/
def IsSignedNaN (cs : List Char) : Prop :=
  ∃ sign word, cs = sign :: word ∧ isSign sign = true ∧ lower word = ['n', 'a', 'n']

theorem splitSign_of_isSign {sign : Char} (h : isSign sign = true) (word : List Char) :
    (splitSign (sign :: word)).2 = word := by
  simp only [isSign, Bool.or_eq_true, decide_eq_true_eq] at h
  rcases h with rfl | rfl <;> rfl

theorem splitSign_of_not_isSign {sign : Char} (h : isSign sign = false) (word : List Char) :
    (splitSign (sign :: word)).2 = sign :: word := by
  unfold splitSign
  split
  · next heq => cases heq; cases h
  · next heq => cases heq; cases h
  · rfl

theorem lower_ne_of_isSign {sign : Char} (h : isSign sign = true) (word : List Char) :
    lower (sign :: word) ≠ ['n', 'a', 'n'] := by
  intro hlower
  have hn : sign.toLower = 'n' := (List.cons.inj hlower).1
  simp only [isSign, Bool.or_eq_true, decide_eq_true_eq] at h
  rcases h with rfl | rfl <;> cases hn

theorem IsSignedNaN.lower_ne {cs : List Char} (h : IsSignedNaN cs) : lower cs ≠ ['n', 'a', 'n'] := by
  obtain ⟨sign, word, rfl, hsign, -⟩ := h
  exact lower_ne_of_isSign hsign word

theorem lower_splitSign_iff (cs : List Char) : lower (splitSign cs).2 = ['n', 'a', 'n'] ↔
    lower cs = ['n', 'a', 'n'] ∨ IsSignedNaN cs := by
  cases cs with
  | nil => simp [splitSign, IsSignedNaN]
  | cons sign word =>
    cases hsign : isSign sign with
    | true =>
      have hlower : IsSignedNaN (sign :: word) ↔ lower word = ['n', 'a', 'n'] := by
        simp [IsSignedNaN, hsign]
      rw [splitSign_of_isSign hsign, ← hlower, or_iff_right (lower_ne_of_isSign hsign word)]
    | false =>
      rw [splitSign_of_not_isSign hsign, or_iff_left]
      simp [IsSignedNaN, hsign]

/-- Of the texts that are read, `nan` is read as no number, with or without a sign. -/
theorem isNaN_of_read {s : String} {v : Float} (h : read s = .ok v) :
    v.isNaN = true ↔ lower s.toList = ['n', 'a', 'n'] ∨ IsSignedNaN s.toList := by
  rw [read, readChars] at h
  rw [← lower_splitSign_iff]
  split at h
  · cases h
  · simp only at h
    split at h
    · next hv =>
      cases h
      exact isNaN_of_unsigned? hv
    · cases h

end Footprint.Number
