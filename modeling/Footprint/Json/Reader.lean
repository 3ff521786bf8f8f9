import Footprint.Json.Error

/-! # Readers: they take a value off the front of a JSON text, or name the first fault -/
namespace Footprint.Json

abbrev Reader (α : Type) := List Char → Except Error (α × List Char)

namespace Reader

def fail {α : Type} (m : Malformed) : Except Error α := .error (.malformed m)

def isSpace (c : Char) : Bool := c = ' ' || c = '\n' || c = '\t' || c = '\r'

def skipSpace (cs : List Char) : List Char := cs.dropWhile isSpace

/-- The rest of a word whose first letter has been seen. -/
def ident : List Char → List Char → Except Error (List Char)
  | [], cs => .ok cs
  | _ :: _, [] => fail .endInValue
  | w :: ws, c :: cs => if c = w then ident ws cs else fail .identExpected

/-! ## Text -/

def hexValue? (c : Char) : Option Nat :=
  if '0' ≤ c && c ≤ '9' then some (c.toNat - 48)
  else if 'a' ≤ c && c ≤ 'f' then some (c.toNat - 87)
  else if 'A' ≤ c && c ≤ 'F' then some (c.toNat - 55)
  else none

/-- Four bytes that are hexadecimal digits. -/
def hexEscape (cs : List Char) : Except Error (Nat × List Char) :=
  if (cs.map Char.utf8Size).foldr (· + ·) 0 < 4 then fail .endInString
  else match (cs.take 4).mapM hexValue? with
    | some [a, b, c, d] => .ok (((a * 16 + b) * 16 + c) * 16 + d, cs.drop 4)
    | _ => fail .badEscape

/-- The second half of a character that needs two escapes. -/
def lowSurrogate (high : Nat) : List Char → Except Error (Char × List Char)
  | [] => fail .endInString
  | '\\' :: 'u' :: cs => do
    let (low, cs) ← hexEscape cs
    if 0xDC00 ≤ low ∧ low ≤ 0xDFFF then
      .ok (.ofNat (0x10000 + (high - 0xD800) * 0x400 + (low - 0xDC00)), cs)
    else fail .loneSurrogate
  | ['\\'] => fail .endInString
  | _ => fail .endOfEscape

def unicodeEscape (cs : List Char) : Except Error (Char × List Char) := do
  let (n, cs) ← hexEscape cs
  if 0xDC00 ≤ n ∧ n ≤ 0xDFFF then fail .loneSurrogate
  else if 0xD800 ≤ n ∧ n ≤ 0xDBFF then lowSurrogate n cs
  else .ok (.ofNat n, cs)

def simpleEscape? (c : Char) : Option Char :=
  if c = '"' ∨ c = '\\' ∨ c = '/' then some c
  else if c = 'b' then some '\x08'
  else if c = 'f' then some '\x0c'
  else if c = 'n' then some '\n'
  else if c = 'r' then some '\r'
  else if c = 't' then some '\t'
  else none

/-- The character that follows a backslash. -/
def escape : List Char → Except Error (Char × List Char)
  | [] => fail .endInString
  | c :: cs =>
    if c = 'u' then unicodeEscape cs
    else match simpleEscape? c with
      | some d => .ok (d, cs)
      | none => fail .badEscape

/-- Text up to its closing quote, in at most `fuel` characters. -/
def textBody : Nat → List Char → Except Error (List Char × List Char)
  | 0, _ => fail .endInString
  | _, [] => fail .endInString
  | fuel + 1, c :: cs =>
    if c = '"' then .ok ([], cs)
    else if c = '\\' then do
      let (d, cs) ← escape cs
      let (ds, cs) ← textBody fuel cs
      .ok (d :: ds, cs)
    else if c.toNat < 0x20 then fail .controlCharacter
    else do
      let (ds, cs) ← textBody fuel cs
      .ok (c :: ds, cs)

/-- Text whose opening quote has been taken. -/
def closeText (cs : List Char) : Except Error (String × List Char) := do
  let (body, cs) ← textBody (cs.length + 1) cs
  .ok (.ofList body, cs)

/-! ## Numbers -/

inductive Number
  | natural (n : Nat)
  | negative (n : Nat)
  | real (v : Float)

def isDigit (c : Char) : Bool := '0' ≤ c && c ≤ '9'

def digitValue (c : Char) : Nat := c.toNat - 48

def powerOfTen (n : Nat) : Float :=
  Footprint.Number.ofMagnitude false (Footprint.Number.Decimal.magnitude ⟨1, n⟩)

def largestPower : Nat := 308

/-- `f` divided by powers of ten until the exponent is small or nothing is left. -/
def scaleDown : Nat → Float → Nat → Float
  | 0, f, _ => f
  | fuel + 1, f, e =>
    if e ≤ largestPower then f / powerOfTen e
    else if f == 0.0 then f
    else scaleDown fuel (f / powerOfTen largestPower) (e - largestPower)

/-- `significand * 10 ^ exponent`, in one multiplication or by repeated division. -/
def scale (significand : Nat) (exponent : Int) : Except Error Float :=
  let f := significand.toFloat
  if exponent < 0 then .ok (scaleDown (exponent.natAbs / largestPower + 1) f exponent.natAbs)
  else if exponent ≤ largestPower then
    let v := f * powerOfTen exponent.toNat
    if v.isInf then fail .numberRange else .ok v
  else if f == 0.0 then .ok f
  else fail .numberRange

def realOf (negative : Bool) (significand : Nat) (exponent : Int) : Except Error Number := do
  let v ← scale significand exponent
  .ok (.real (if negative then -v else v))

/-- A significand is read as far as it fits a word of 64 bits. -/
def fits (significand : Nat) (c : Char) : Bool := significand * 10 + digitValue c < Nat.pow 2 64

/-- The digits of an exponent fit a signed word of 32 bits. -/
def exponentLimit : Nat := Nat.pow 2 31

/-- Digits of an exponent; none if they exceed their limit. -/
def exponentDigits (e : Nat) : List Char → Option Nat × List Char
  | [] => (some e, [])
  | c :: cs =>
    if isDigit c then
      let n := e * 10 + digitValue c
      if n < exponentLimit then exponentDigits n cs else (none, cs)
    else (some e, c :: cs)

/-- The exponent after its letter. -/
def exponent (negative : Bool) (significand : Nat) (start : Int) (cs : List Char) :
    Except Error (Number × List Char) :=
  let (minus, cs) := match cs with
    | '+' :: r => (false, r)
    | '-' :: r => (true, r)
    | r => (false, r)
  match cs with
  | [] => fail .endInValue
  | c :: r =>
    if isDigit c then
      match exponentDigits (digitValue c) r with
      | (some e, r) => do
        let v ← realOf negative significand (if minus then start - e else start + e)
        .ok (v, r)
      | (none, r) =>
        if significand ≠ 0 ∧ !minus then fail .numberRange
        else .ok (.real (if negative then -0.0 else 0.0), r.dropWhile isDigit)
    else fail .badNumber

/-- What may follow the digits of a real number. -/
def afterDigits (negative : Bool) (significand : Nat) (start : Int) (cs : List Char) :
    Except Error (Number × List Char) :=
  match cs with
  | c :: r =>
    if c = 'e' ∨ c = 'E' then exponent negative significand start r
    else do .ok (← realOf negative significand start, cs)
  | [] => do .ok (← realOf negative significand start, cs)

/-- Digits of a fraction as far as they fit: the significand and how many were taken. -/
def fractionDigits (significand taken : Nat) : List Char → Nat × Nat × List Char
  | [] => (significand, taken, [])
  | c :: cs =>
    if isDigit c && fits significand c then
      fractionDigits (significand * 10 + digitValue c) (taken + 1) cs
    else (significand, taken, c :: cs)

/-- The fraction after its point; digits that do not fit are dropped. -/
def fraction (negative : Bool) (significand : Nat) (start : Int) (cs : List Char) :
    Except Error (Number × List Char) :=
  let (significand, taken, rest) := fractionDigits significand 0 cs
  match rest with
  | [] =>
    if taken = 0 then fail .endInValue else afterDigits negative significand (start - taken) []
  | c :: _ =>
    if isDigit c then afterDigits negative significand (start - taken) (rest.dropWhile isDigit)
    else if taken = 0 then fail .badNumber
    else afterDigits negative significand (start - taken) rest

/-- A whole number too large for a word: its further digits count as powers of ten. -/
def longInteger (negative : Bool) (significand : Nat) (cs : List Char) :
    Except Error (Number × List Char) :=
  let dropped := (cs.takeWhile isDigit).length
  match cs.dropWhile isDigit with
  | '.' :: r => fraction negative significand dropped r
  | r => afterDigits negative significand dropped r

/-- A whole number in a word, unless a point or an exponent follows. -/
def integer (negative : Bool) (significand : Nat) (cs : List Char) :
    Except Error (Number × List Char) :=
  match cs with
  | '.' :: r => fraction negative significand 0 r
  | c :: _ =>
    if c = 'e' ∨ c = 'E' then afterDigits negative significand 0 cs
    else .ok (word negative significand, cs)
  | [] => .ok (word negative significand, cs)
where
  /-- Negative zero, and what is below the signed words, is real. -/
  word (negative : Bool) (n : Nat) : Number :=
    if !negative then .natural n
    else if n = 0 ∨ Nat.pow 2 63 < n then .real (-n.toFloat)
    else .negative n

def moreDigits (negative : Bool) (significand : Nat) : List Char → Except Error (Number × List Char)
  | [] => integer negative significand []
  | c :: cs =>
    if isDigit c then
      if fits significand c then moreDigits negative (significand * 10 + digitValue c) cs
      else longInteger negative significand (c :: cs)
    else integer negative significand (c :: cs)

/-- A number without its sign. -/
def unsigned (negative : Bool) : List Char → Except Error (Number × List Char)
  | [] => fail .endInValue
  | c :: cs =>
    if c = '0' then
      match cs with
      | d :: _ => if isDigit d then fail .badNumber else integer negative 0 cs
      | [] => integer negative 0 cs
    else if isDigit c then moreDigits negative (digitValue c) cs
    else fail .badNumber

/-- The number in front, if one begins there. -/
def number? : List Char → Option (Except Error (Number × List Char))
  | '-' :: cs => some (unsigned true cs)
  | c :: cs => if isDigit c then some (unsigned false (c :: cs)) else none
  | [] => none

def Number.found : Number → Found
  | .natural n => .integer n
  | .negative n => .integer (-n)
  | .real v => .real v

/-! ## A value of the wrong kind -/

/-- The error for what stands at `cs`, where `expected` belongs. -/
def mismatch {α : Type} (expected : String) (cs : List Char) : Except Error α :=
  let wrong (found : Found) : Except Error α := .error (.invalidType found expected)
  match number? cs with
  | some n => do wrong (← n).1.found
  | none => match cs with
    | 'n' :: r => do let _ ← ident ['u', 'l', 'l'] r; wrong .null
    | 't' :: r => do let _ ← ident ['r', 'u', 'e'] r; wrong (.boolean true)
    | 'f' :: r => do let _ ← ident ['a', 'l', 's', 'e'] r; wrong (.boolean false)
    | '"' :: r => do let (s, _) ← closeText r; wrong (.text s)
    | '[' :: _ => wrong .sequence
    | '\x7b' :: _ => wrong .map
    | _ => fail .valueExpected

/-! ## Values that nobody asked for -/

/-- Text that is only passed over: escapes need not pair up. -/
def skipText : Nat → List Char → Except Error (List Char)
  | 0, _ => fail .endInString
  | _, [] => fail .endInString
  | fuel + 1, c :: cs =>
    if c = '"' then .ok cs
    else if c = '\\' then
      match cs with
      | [] => fail .endInString
      | d :: r =>
        if d = 'u' then do skipText fuel (← hexEscape r).2
        else if (simpleEscape? d).isSome then skipText fuel r
        else fail .badEscape
    else if c.toNat < 0x20 then fail .controlCharacter
    else skipText fuel cs

def skipExponent (cs : List Char) : Except Error (List Char) :=
  let r := match cs with
    | '+' :: r => r
    | '-' :: r => r
    | r => r
  match r with
  | c :: _ => if isDigit c then .ok (r.dropWhile isDigit) else fail .badNumber
  | [] => fail .badNumber

def skipAfterDigits : List Char → Except Error (List Char)
  | c :: r => if c = 'e' ∨ c = 'E' then skipExponent r else .ok (c :: r)
  | [] => .ok []

def skipFraction : List Char → Except Error (List Char)
  | '.' :: r =>
    match r with
    | c :: _ => if isDigit c then skipAfterDigits (r.dropWhile isDigit) else fail .badNumber
    | [] => fail .badNumber
  | r => skipAfterDigits r

/-- A number without its sign. -/
def skipNumber : List Char → Except Error (List Char)
  | '0' :: r =>
    match r with
    | c :: _ => if isDigit c then fail .badNumber else skipFraction r
    | [] => skipFraction r
  | c :: r => if isDigit c then skipFraction (r.dropWhile isDigit) else fail .badNumber
  | [] => fail .badNumber

/-- What is being passed over: a value, what follows one, or the start of a member. -/
inductive Skip | value | after | key
deriving Repr, DecidableEq

/-- Passes over a value inside the given open brackets, innermost first. -/
def skip : Nat → Skip → List Char → List Char → Except Error (List Char)
  | 0, _, _, _ => fail .endInValue
  | fuel + 1, .value, brackets, cs =>
    match skipSpace cs with
    | [] => fail .endInValue
    | c :: r =>
      if c = 'n' then do skip fuel .after brackets (← ident ['u', 'l', 'l'] r)
      else if c = 't' then do skip fuel .after brackets (← ident ['r', 'u', 'e'] r)
      else if c = 'f' then do skip fuel .after brackets (← ident ['a', 'l', 's', 'e'] r)
      else if c = '-' then do skip fuel .after brackets (← skipNumber r)
      else if isDigit c then do skip fuel .after brackets (← skipNumber (c :: r))
      else if c = '"' then do skip fuel .after brackets (← skipText (r.length + 1) r)
      else if c = '[' then
        match skipSpace r with
        | [] => fail .endInList
        | d :: r' =>
          if d = ']' then skip fuel .after brackets r' else skip fuel .value (c :: brackets) r
      else if c = '\x7b' then
        match skipSpace r with
        | [] => fail .endInObject
        | d :: r' =>
          if d = '\x7d' then skip fuel .after brackets r' else skip fuel .key (c :: brackets) r
      else fail .valueExpected
  | _ + 1, .after, [], cs => .ok cs
  | fuel + 1, .after, b :: brackets, cs =>
    match skipSpace cs with
    | [] => fail (if b = '[' then .endInList else .endInObject)
    | c :: r =>
      if c = ',' then skip fuel (if b = '[' then .value else .key) (b :: brackets) r
      else if c = (if b = '[' then ']' else '\x7d') then skip fuel .after brackets r
      else fail (if b = '[' then .listCommaExpected else .objectCommaExpected)
  | fuel + 1, .key, brackets, cs =>
    match skipSpace cs with
    | [] => fail .endInObject
    | '"' :: r => do
      match skipSpace (← skipText (r.length + 1) r) with
      | [] => fail .endInObject
      | ':' :: r => skip fuel .value brackets r
      | _ => fail .colonExpected
    | _ => fail .keyExpected

def skipValue (cs : List Char) : Except Error (List Char) :=
  skip (2 * cs.length + 2) .value [] cs

end Reader
end Footprint.Json
