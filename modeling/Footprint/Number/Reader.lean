import Footprint.Number.Decimal

/-! # Reading a binary64 number from decimal text, correctly rounded -/
namespace Footprint.Number

inductive ReadError | empty | invalid
deriving Repr, DecidableEq

def ReadError.message : ReadError → String
  | .empty => "cannot parse float from empty string"
  | .invalid => "invalid float literal"

def isDigit (c : Char) : Bool := '0' ≤ c && c ≤ '9'

def isSign (c : Char) : Bool := c = '+' || c = '-'

/-- The sign in front, and the rest. -/
def splitSign : List Char → Bool × List Char
  | '-' :: r => (true, r)
  | '+' :: r => (false, r)
  | cs => (false, cs)

/-- The exponent that follows the mantissa; nothing is zero. -/
def exponent? : List Char → Option Int
  | [] => some 0
  | c :: r =>
    if c = 'e' ∨ c = 'E' then
      let (negative, ds) := splitSign r
      if ds ≠ [] ∧ ds.all isDigit then
        some (if negative then -(ofDigits ds : Int) else ofDigits ds)
      else none
    else none

/-- The decimal fraction that unsigned text writes: digits around an optional point, then an
optional exponent. -/
def decimal? (cs : List Char) : Option Decimal :=
  let whole := cs.takeWhile isDigit
  let rest := cs.dropWhile isDigit
  let (frac, tail) := match rest with
    | '.' :: r => (r.takeWhile isDigit, r.dropWhile isDigit)
    | r => ([], r)
  if whole = [] ∧ frac = [] then none
  else (exponent? tail).map fun e => ⟨ofDigits (whole ++ frac), e - frac.length⟩

def lower (cs : List Char) : List Char := cs.map Char.toLower

/-- The number that unsigned text writes, in any letter case. -/
def unsigned? (negative : Bool) (cs : List Char) : Option Float :=
  match decimal? cs with
  | some d => some (ofMagnitude negative d.magnitude)
  | none =>
    let w := String.ofList (lower cs)
    if w = "inf" ∨ w = "infinity" then some (ofMagnitude negative infinityBits)
    else if w = "nan" then some notANumber
    else none

def readChars (cs : List Char) : Except ReadError Float :=
  if cs = [] then .error .empty
  else
    let (negative, rest) := splitSign cs
    match unsigned? negative rest with
    | some v => .ok v
    | none => .error .invalid

def read (s : String) : Except ReadError Float := readChars s.toList

end Footprint.Number
