import Footprint.Json.Reader

/-! # Shapes: descriptions of JSON values, from which a reader and a printer follow

A record may be written as an object, with its fields in any order and others between them, or as a
list of its fields in order. -/
namespace Footprint.Json

mutual

inductive Shape
  | real
  | word32
  | word64
  | text
  | list (item : Shape)
  | quad (item : Shape)
  | optional (item : Shape)
  | record (name : String) (fields : Fields)

inductive Fields
  | nil
  | cons (name : String) (shape : Shape) (rest : Fields)

end

/-- Four items. -/
structure Quad (α : Type) where
  a : α
  b : α
  c : α
  d : α

mutual

/-- The values of a shape. -/
def Shape.Value : Shape → Type
  | .real => Float
  | .word32 => UInt32
  | .word64 => UInt64
  | .text => String
  | .list item => List item.Value
  | .quad item => Quad item.Value
  | .optional item => Option item.Value
  | .record _ fields => fields.Value

def Fields.Value : Fields → Type
  | .nil => Unit
  | .cons _ shape rest => shape.Value × rest.Value

end

/-- The fields read so far. -/
def Fields.Slots : Fields → Type
  | .nil => Unit
  | .cons _ shape rest => Option shape.Value × rest.Slots

def Fields.size : Fields → Nat
  | .nil => 0
  | .cons _ _ rest => rest.size + 1

def Fields.empty : (fs : Fields) → fs.Slots
  | .nil => ()
  | .cons _ _ rest => (none, rest.empty)

/-- All fields, or the first one that is missing. -/
def Fields.complete : (fs : Fields) → fs.Slots → Except Error fs.Value
  | .nil, () => .ok ()
  | .cons name _ rest, (slot, slots) => match slot with
    | none => .error (.missingField name)
    | some v => do .ok (v, ← rest.complete slots)

namespace Reader

/-! ## Lists and objects -/

/-- Moves to the next item of a list, if there is one. -/
def nextItem (first : Bool) (cs : List Char) : Except Error (Bool × List Char) :=
  match skipSpace cs with
  | [] => fail .endInList
  | c :: r =>
    if c = ']' then .ok (false, c :: r)
    else if first then .ok (true, c :: r)
    else if c = ',' then
      match skipSpace r with
      | [] => fail .endInValue
      | d :: r => if d = ']' then fail .trailingComma else .ok (true, d :: r)
    else fail .listCommaExpected

def endList (cs : List Char) : Except Error (List Char) :=
  match skipSpace cs with
  | [] => fail .endInList
  | c :: r =>
    if c = ']' then .ok r
    else if c = ',' then
      match skipSpace r with
      | ']' :: _ => fail .trailingComma
      | _ => fail .trailingCharacters
    else fail .trailingCharacters

/-- All items up to the end of a list; each takes at least one character. -/
def items {α : Type} (item : Reader α) : Nat → Bool → Reader (List α)
  | 0, _, _ => fail .endInList
  | fuel + 1, first, cs => do
    match ← nextItem first cs with
    | (false, cs) => .ok ([], cs)
    | (true, cs) =>
      let (v, cs) ← item cs
      let (vs, cs) ← items item fuel false cs
      .ok (v :: vs, cs)

/-- One item of a list that has `index` items before it and should not end here. -/
def itemAt {α : Type} (item : Reader α) (index : Nat) (expected : String) : Reader α := fun cs => do
  match ← nextItem (index = 0) cs with
  | (false, _) => .error (.invalidLength index expected)
  | (true, cs) => item cs

/-- Moves to the quote of the next key of an object, if there is one. -/
def nextKey (first : Bool) (cs : List Char) : Except Error (Option String × List Char) :=
  match skipSpace cs with
  | [] => fail .endInObject
  | c :: r =>
    if c = '\x7d' then .ok (none, c :: r)
    else if first then
      if c = '"' then key r else fail .keyExpected
    else if c = ',' then
      match skipSpace r with
      | [] => fail .endInValue
      | d :: r =>
        if d = '"' then key r
        else if d = '\x7d' then fail .trailingComma
        else fail .keyExpected
    else fail .objectCommaExpected
where
  key (cs : List Char) : Except Error (Option String × List Char) := do
    let (k, cs) ← closeText cs
    .ok (some k, cs)

def colon (cs : List Char) : Except Error (List Char) :=
  match skipSpace cs with
  | [] => fail .endInObject
  | c :: r => if c = ':' then .ok r else fail .colonExpected

def endObject (cs : List Char) : Except Error (List Char) :=
  match skipSpace cs with
  | [] => fail .endInObject
  | c :: r =>
    if c = '\x7d' then .ok r else if c = ',' then fail .trailingComma else fail .trailingCharacters

/-- The members of an object; `member` takes the colon and the value of a key. -/
def members {σ : Type} (member : String → σ → Reader σ) : Nat → Bool → σ → Reader σ
  | 0, _, _, _ => fail .endInObject
  | fuel + 1, first, s, cs => do
    match ← nextKey first cs with
    | (none, cs) => .ok (s, cs)
    | (some k, cs) =>
      let (s, cs) ← member k s cs
      members member fuel false s cs

/-! ## Leaves -/

def real : Reader Float := fun cs =>
  match skipSpace cs with
  | [] => fail .endInValue
  | cs => match number? cs with
    | none => mismatch "f64" cs
    | some n => do
      let (n, cs) ← n
      .ok (match n with
        | .natural n => n.toFloat
        | .negative n => -n.toFloat
        | .real v => v, cs)

/-- A whole number below `limit`. -/
def word (limit : Nat) (expected : String) : Reader Nat := fun cs =>
  match skipSpace cs with
  | [] => fail .endInValue
  | cs => match number? cs with
    | none => mismatch expected cs
    | some n => do
      let (n, cs) ← n
      match n with
      | .natural n =>
        if n < limit then .ok (n, cs) else .error (.invalidValue (.integer n) expected)
      | .negative n => .error (.invalidValue (.integer (-n)) expected)
      | .real v => .error (.invalidType (.real v) expected)

def text : Reader String := fun cs =>
  match skipSpace cs with
  | [] => fail .endInValue
  | '"' :: r => closeText r
  | cs => mismatch "a string" cs

end Reader

open Reader

mutual

/-- Reads a value of a shape. -/
def Shape.read : (s : Shape) → Reader s.Value
  | .real => real
  | .word32 => fun cs => do
    let (n, cs) ← word (Nat.pow 2 32) "u32" cs
    .ok (n.toUInt32, cs)
  | .word64 => fun cs => do
    let (n, cs) ← word (Nat.pow 2 64) "usize" cs
    .ok (n.toUInt64, cs)
  | .text => text
  | .list item => fun cs =>
    match skipSpace cs with
    | [] => fail .endInValue
    | '[' :: r => do
      let (vs, r) ← items item.read (r.length + 1) true r
      .ok (vs, ← endList r)
    | cs => mismatch "a sequence" cs
  | .quad item => fun cs =>
    match skipSpace cs with
    | [] => fail .endInValue
    | '[' :: r => do
      let (a, r) ← itemAt item.read 0 "an array of length 4" r
      let (b, r) ← itemAt item.read 1 "an array of length 4" r
      let (c, r) ← itemAt item.read 2 "an array of length 4" r
      let (d, r) ← itemAt item.read 3 "an array of length 4" r
      .ok (⟨a, b, c, d⟩, ← endList r)
    | cs => mismatch "an array of length 4" cs
  | .optional item => fun cs =>
    match skipSpace cs with
    | 'n' :: r => do .ok (none, ← ident ['u', 'l', 'l'] r)
    | _ => do
      let (v, r) ← item.read cs
      .ok (some v, r)
  | .record name fields => fun cs =>
    match skipSpace cs with
    | [] => fail .endInValue
    | '[' :: r => do
      let (v, r) ← fields.readList s!"struct {name} with {fields.size} elements" 0 r
      .ok (v, ← endList r)
    | '\x7b' :: r => do
      let (slots, r) ← members fields.readMember (r.length + 1) true fields.empty r
      let v ← fields.complete slots
      .ok (v, ← endObject r)
    | cs => mismatch s!"struct {name}" cs

/-- The fields of a record as items of a list. -/
def Fields.readList : (fs : Fields) → String → Nat → Reader fs.Value
  | .nil, _, _ => fun cs => .ok ((), cs)
  | .cons _ shape rest, expected, index => fun cs => do
    let (v, cs) ← itemAt shape.read index expected cs
    let (vs, cs) ← rest.readList expected (index + 1) cs
    .ok ((v, vs), cs)

/-- The value of one key; one that is no field is passed over. -/
def Fields.readMember : (fs : Fields) → String → fs.Slots → Reader fs.Slots
  | .nil, _, () => fun cs => do
    .ok ((), ← skipValue (← colon cs))
  | .cons name shape rest, key, (slot, slots) => fun cs =>
    if key = name then
      match slot with
      | some _ => .error (.duplicateField name)
      | none => do
        let (v, cs) ← shape.read (← colon cs)
        .ok ((some v, slots), cs)
    else do
      let (slots, cs) ← rest.readMember key slots cs
      .ok ((slot, slots), cs)

end

/-- Reads a whole text. -/
def Shape.parse (s : Shape) (source : String) : Except Error s.Value := do
  let (v, rest) ← s.read source.toList
  if skipSpace rest = [] then .ok v else fail .trailingCharacters

end Footprint.Json
