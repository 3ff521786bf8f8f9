import Footprint.Number.Binary64

/-! # Decimal fractions `coefficient * 10 ^ exponent` and the binary64 numbers nearest to them -/
namespace Footprint.Number

structure Decimal where
  coefficient : Nat
  exponent : Int
deriving Repr, DecidableEq

namespace Decimal

/-- The nearest magnitude. The first two tests keep `10 ^ exponent` small: such a value is beyond
every finite magnitude, or below half of the least positive one. -/
def magnitude (d : Decimal) : Nat :=
  if d.coefficient = 0 then 0
  else if 400 < d.exponent then infinityBits
  else if d.exponent < -(400 + d.coefficient.log2 : Int) then 0
  else if 0 ≤ d.exponent then nearest (d.coefficient * Nat.pow 10 d.exponent.toNat) 1
  else nearest d.coefficient (Nat.pow 10 (-d.exponent).toNat)

def dropZeros (coefficient : Nat) (exponent : Int) : Decimal :=
  if h : 0 < coefficient ∧ coefficient % 10 = 0 then dropZeros (coefficient / 10) (exponent + 1)
  else ⟨coefficient, exponent⟩
termination_by coefficient
decreasing_by omega

/-- The same value without trailing zeros in the coefficient. -/
def reduce (d : Decimal) : Decimal := dropZeros d.coefficient d.exponent

def digits (d : Decimal) : List Char := Nat.toDigits 10 d.coefficient

/-- The power of ten that the first digit counts. -/
def leading (d : Decimal) : Int := d.exponent + d.digits.length - 1

end Decimal

/-- The number that a run of decimal digits writes. -/
def ofDigits (cs : List Char) : Nat := cs.foldl (fun n c => 10 * n + (c.toNat - '0'.toNat)) 0

end Footprint.Number
