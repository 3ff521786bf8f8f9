import Footprint.Number.Shortest

/-! # How a binary64 number is written: shortest digits in a given style, or fixed places -/
namespace Footprint.Number

structure Style where
  /-- The powers of ten of the first digit that are written without an exponent. -/
  positional : Int → Bool
  /-- A whole number in positional notation ends in `.0`. -/
  pointed : Bool
  /-- A positive exponent has a sign. -/
  plus : Bool
  tie : Tie

namespace Style

/-- Values of report cells. -/
def cell : Style := ⟨fun p => -4 ≤ p && p < 16, true, false, .up⟩

/-- Values inside messages. -/
def plain : Style := ⟨fun _ => true, false, false, .up⟩

/-- Values inside messages that name a kind of number. -/
def pointedPlain : Style := ⟨fun _ => true, true, false, .up⟩

/-- Numbers of plot data. -/
def plotData : Style := ⟨fun p => -5 ≤ p && p < 16, true, true, .even⟩

end Style

def zeros (n : Nat) : List Char := List.replicate n '0'

/-- Digits whose first one counts `10 ^ p`, without an exponent. -/
def positionalText (pointed : Bool) (ds : List Char) (p : Int) : List Char :=
  if p < 0 then '0' :: '.' :: zeros (-p - 1).toNat ++ ds
  else
    let n := p.toNat + 1
    if ds.length ≤ n then ds ++ zeros (n - ds.length) ++ if pointed then ['.', '0'] else []
    else ds.take n ++ '.' :: ds.drop n

def exponentText (plus : Bool) (p : Int) : List Char :=
  'e' :: (if p < 0 then ['-'] else if plus then ['+'] else []) ++ Nat.toDigits 10 p.natAbs

def scientificText (plus : Bool) (ds : List Char) (p : Int) : List Char :=
  ds.take 1 ++ (if ds.length ≤ 1 then [] else '.' :: ds.drop 1) ++ exponentText plus p

def Style.decimalText (s : Style) (d : Decimal) : List Char :=
  if s.positional d.leading then positionalText s.pointed d.digits d.leading
  else scientificText s.plus d.digits d.leading

def signed (negative : Bool) (cs : List Char) : List Char := if negative then '-' :: cs else cs

/-- The text of `v`; one that is not a number has no sign. -/
def Style.chars (s : Style) (v : Float) : List Char :=
  let b := magnitude v
  if infinityBits < b then ['N', 'a', 'N']
  else signed (isNegative v) <|
    if b = infinityBits then ['i', 'n', 'f'] else s.decimalText (shortest s.tie b)

def Style.text (s : Style) (v : Float) : String := .ofList (s.chars v)

/-- `num / den` rounded to a whole number, a half going to the even neighbour. -/
def roundHalfEven (num den : Nat) : Nat :=
  let q := num / den
  let rest := 2 * (num % den)
  if den < rest ∨ rest = den ∧ q % 2 = 1 then q + 1 else q

/-- A whole number of `10 ^ -places`. -/
def pointedAt (places n : Nat) : List Char :=
  let frac := Nat.toDigits 10 (n % Nat.pow 10 places)
  Nat.toDigits 10 (n / Nat.pow 10 places) ++ '.' :: zeros (places - frac.length) ++ frac

/-- The text of `v` with a given number of decimal places, rounded from its exact value. -/
def fixedChars (places : Nat) (v : Float) : List Char :=
  let b := magnitude v
  if infinityBits < b then ['N', 'a', 'N']
  else signed (isNegative v) <|
    if b = infinityBits then ['i', 'n', 'f']
    else pointedAt places (roundHalfEven (units b * Nat.pow 10 places) (Nat.pow 2 unitExponent))

def fixedText (places : Nat) (v : Float) : String := .ofList (fixedChars places v)

end Footprint.Number
