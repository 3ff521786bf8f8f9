import Footprint.Text.Bytes

/-! # Records of comma-separated text

A record ends at a line feed, at a carriage return, or at both together; blank lines are skipped. A
quote opens a quoted field only as its first byte, and is written twice inside. A line feed after a
carriage return belongs to the record that follows. -/
namespace Footprint.Csv

abbrev Fields := List Bytes

def comma : UInt8 := 44
def quote : UInt8 := 34
def lineFeed : UInt8 := 10
def carriageReturn : UInt8 := 13

def isLineEnd (b : UInt8) : Bool := b = lineFeed || b = carriageReturn

inductive Mode | recordStart | fieldStart | plain | quoted | quoteSeen
deriving Repr, DecidableEq

/-- The record that is being read: where the reader stands in it, the bytes of its last field in
reverse, and its earlier fields in reverse. -/
structure Pending where
  mode : Mode
  field : Bytes
  fields : Fields
deriving Repr, DecidableEq

namespace Pending

def start : Pending := ⟨.recordStart, [], []⟩

def completed (p : Pending) : Fields := (p.field.reverse :: p.fields).reverse

def push (p : Pending) (mode : Mode) (b : UInt8) : Pending := ⟨mode, b :: p.field, p.fields⟩

def nextField (p : Pending) : Pending := ⟨.fieldStart, [], p.field.reverse :: p.fields⟩

/-- A byte outside quotes; all but a comma and the line ends belong to the field. -/
def outside (p : Pending) (b : UInt8) : Pending × Option Fields :=
  if b = comma then (p.nextField, none)
  else if isLineEnd b then (start, some p.completed)
  else (p.push .plain b, none)

def step (p : Pending) (b : UInt8) : Pending × Option Fields :=
  match p.mode with
  | .recordStart =>
    if isLineEnd b then (p, none)
    else if b = quote then ({ p with mode := .quoted }, none)
    else p.outside b
  | .fieldStart => if b = quote then ({ p with mode := .quoted }, none) else p.outside b
  | .plain => p.outside b
  | .quoted => if b = quote then ({ p with mode := .quoteSeen }, none) else (p.push .quoted b, none)
  | .quoteSeen => if b = quote then (p.push .quoted b, none) else p.outside b

/-- The record that the end of the text completes. -/
def finish (p : Pending) : Option Fields := if p.mode = .recordStart then none else some p.completed

end Pending

/-- A place in the text; lines are counted from one and end at line feeds. -/
structure Place where
  line : Nat
  byte : Nat
deriving Repr, DecidableEq

def Place.advance (p : Place) (b : UInt8) : Place :=
  ⟨if b = lineFeed then p.line + 1 else p.line, p.byte + 1⟩

/-- A record with the place right after the end of the one before it. -/
structure Row where
  place : Place
  fields : Fields
deriving Repr, DecidableEq

/-- The records that complete `p`, begun at `start`, and then follow it. -/
def rowsFrom (start here : Place) (p : Pending) : Bytes → List Row
  | [] => match p.finish with
    | some fields => [⟨start, fields⟩]
    | none => []
  | b :: bs => match p.step b with
    | (p, none) => rowsFrom start (here.advance b) p bs
    | (p, some fields) => ⟨start, fields⟩ :: rowsFrom (here.advance b) (here.advance b) p bs

/-- All records; a byte order mark in front is skipped, but counted. -/
def rows : Bytes → List Row
  | 0xEF :: 0xBB :: 0xBF :: bs => rowsFrom ⟨1, 0⟩ ⟨1, 3⟩ .start bs
  | bs => rowsFrom ⟨1, 0⟩ ⟨1, 0⟩ .start bs

end Footprint.Csv
