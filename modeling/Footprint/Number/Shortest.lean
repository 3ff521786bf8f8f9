import Footprint.Number.Decimal

/-! # The fewest decimal digits that read back as a given magnitude -/
namespace Footprint.Number

/-- Which of two equally near candidates is taken. -/
inductive Tie | up | even
deriving Repr, DecidableEq

namespace Shortest

def unit : Nat := Nat.pow 2 unitExponent

/-- The power of ten of the first digit of `u` units. -/
def leading (u : Nat) : Int :=
  if unit ≤ u then (Nat.toDigits 10 (u / unit)).length - 1
  else -(Nat.toDigits 10 ((unit - 1) / u)).length

/-- `u` units divided by `10 ^ k`, as a numerator and a denominator. -/
def ratio (u : Nat) (k : Int) : Nat × Nat :=
  if 0 ≤ k then (u, unit * Nat.pow 10 k.toNat) else (u * Nat.pow 10 (-k).toNat, unit)

/-- The multiple of `10 ^ k` next to `b` that reads back as `b`; of two, the nearer. -/
def onGrid (tie : Tie) (b : Nat) (k : Int) : Option Decimal :=
  let (num, den) := ratio (units b) k
  let below : Decimal := ⟨num / den, k⟩
  let above : Decimal := ⟨num / den + 1, k⟩
  let rest := 2 * (num % den)
  match decide (below.magnitude = b), decide (above.magnitude = b) with
  | false, false => none
  | true, false => some below
  | false, true => some above
  | true, true =>
    if rest < den then some below
    else if den < rest then some above
    else if tie = .even ∧ below.coefficient % 2 = 0 then some below else some above

/-- Every magnitude is a decimal fraction, because two divides ten. -/
def exact (b : Nat) : Decimal := ⟨units b * Nat.pow 5 unitExponent, -unitExponent⟩

end Shortest

open Shortest in
/-- Grids of one to seventeen digits are tried in turn. -/
def shortest (tie : Tie) (b : Nat) : Decimal :=
  if b = 0 then ⟨0, 0⟩
  else
    let p := leading (units b)
    (((List.range 17).findSome? fun (n : Nat) => onGrid tie b (p - n)).getD (exact b)).reduce

end Footprint.Number
