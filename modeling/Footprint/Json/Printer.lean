import Footprint.Json.Shape

/-! # Printing values of a shape, two spaces deeper inside each bracket -/
namespace Footprint.Json.Printer

def hexDigit (n : Nat) : Char := Nat.digitChar n

/-- A control character without a letter of its own is written with four hexadecimal digits. -/
def escapeChar (c : Char) : List Char :=
  if c = '"' ∨ c = '\\' then ['\\', c]
  else if c = '\x08' then ['\\', 'b']
  else if c = '\x0c' then ['\\', 'f']
  else if c = '\n' then ['\\', 'n']
  else if c = '\r' then ['\\', 'r']
  else if c = '\t' then ['\\', 't']
  else if c.toNat < 0x20 then
    ['\\', 'u', '0', '0', hexDigit (c.toNat / 16), hexDigit (c.toNat % 16)]
  else [c]

def text (s : String) : List Char := '"' :: s.toList.flatMap escapeChar ++ ['"']

/-- A number that is not finite has no JSON form. -/
def real (v : Float) : List Char :=
  if Number.magnitude v < Number.infinityBits then Number.Style.plotData.chars v
  else ['n', 'u', 'l', 'l']

def newline (depth : Nat) : List Char := '\n' :: List.replicate (2 * depth) ' '

/-- Printed parts between brackets, each on a line of its own. -/
def block (opening closing : Char) (depth : Nat) (parts : List (List Char)) : List Char :=
  if parts = [] then [opening, closing]
  else
    opening :: (List.intercalate [','] (parts.map (newline (depth + 1) ++ ·)) ++
      newline depth ++ [closing])

end Printer

open Printer

mutual

def Shape.print : (s : Shape) → Nat → s.Value → List Char
  | .real, _, v => real v
  | .word32, _, n => Nat.toDigits 10 n.toNat
  | .word64, _, n => Nat.toDigits 10 n.toNat
  | .text, _, s => text s
  | .list item, depth, vs => block '[' ']' depth (vs.map (item.print (depth + 1)))
  | .quad item, depth, q =>
    block '[' ']' depth ([q.a, q.b, q.c, q.d].map (item.print (depth + 1)))
  | .optional _, _, none => ['n', 'u', 'l', 'l']
  | .optional item, depth, some v => item.print depth v
  | .record _ fields, depth, vs => block '\x7b' '\x7d' depth (fields.print (depth + 1) vs)

def Fields.print : (fs : Fields) → Nat → fs.Value → List (List Char)
  | .nil, _, () => []
  | .cons name shape rest, depth, (v, vs) =>
    (text name ++ ':' :: ' ' :: shape.print depth v) :: rest.print depth vs

end

/-- The text of a value, without a line end after it. -/
def Shape.render (s : Shape) (v : s.Value) : String := .ofList (s.print 0 v)

end Footprint.Json
