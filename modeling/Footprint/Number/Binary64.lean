/-! # Magnitudes of binary64 numbers, counted in units of the least positive one -/
namespace Footprint.Number

/-- Bits of positive infinity; the finite magnitudes are the numbers below. -/
def infinityBits : Nat := 0x7FF * Nat.pow 2 52

/-- The exponent of the least positive magnitude: one unit is `2 ^ -unitExponent`. -/
def unitExponent : Nat := 1074

/-- The value of a finite magnitude in units. -/
def units (b : Nat) : Nat :=
  if b < Nat.pow 2 52 then b
  else (Nat.pow 2 52 + b % Nat.pow 2 52) * Nat.pow 2 (b / Nat.pow 2 52 - 1)

/-- The magnitude nearest to `num / den`, a half going to the even neighbour.

With `shift` binary places dropped, the quotient has at most 53 bits, and the magnitudes of that
binade follow each other in steps of one. -/
def nearest (num den : Nat) : Nat :=
  let scaled := num * Nat.pow 2 unitExponent
  let shift := (scaled / den).log2 - 52
  let step := den * Nat.pow 2 shift
  let lower := scaled / step
  let rest := scaled % step
  let up := step < 2 * rest ∨ 2 * rest = step ∧ lower % 2 = 1
  min infinityBits (shift * Nat.pow 2 52 + lower + if up then 1 else 0)

def magnitude (v : Float) : Nat := v.toBits.toNat % Nat.pow 2 63

def isNegative (v : Float) : Bool := Nat.pow 2 63 ≤ v.toBits.toNat

def ofMagnitude (negative : Bool) (b : Nat) : Float :=
  .ofBits (.ofNat (if negative then Nat.pow 2 63 + b else b))

def notANumber : Float := ofMagnitude false (infinityBits + Nat.pow 2 51)

end Footprint.Number
