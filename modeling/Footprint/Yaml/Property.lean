import Footprint.Yaml.Cursor

/-! # Anchors, tags and directives -/
namespace Footprint.Yaml

/-! ## Anchors and aliases -/

/-- The name behind an anchor or alias mark. -/
def anchorName (c : Cursor) : Option (String × Cursor) :=
  let (name, c) := (c.skip 1).takeWhile isWord
  if name = [] then none
  else if endsWord c.rest || c.rest.head?.any (· ∈ ['?', ':', ',', ']', '\x7d', '%', '@', '\x60'])
  then some (.ofList name, c)
  else none

/-! ## Tags -/

def isUriMark (c : Char) : Bool :=
  c ∈ [';', '/', '?', ':', '@', '&', '=', '+', '$', '.', '%', '!', '~', '*', '\'', '(', ')']

/-- The characters of a tag; in brackets it may hold more of them. -/
def isUri (bracketed : Bool) (c : Char) : Bool :=
  isWord c || isUriMark c || bracketed && c ∈ [',', '[', ']']

def hexNibble? (c : Char) : Option Nat :=
  if '0' ≤ c && c ≤ '9' then some (c.toNat - 48)
  else if 'a' ≤ c && c ≤ 'f' then some (c.toNat - 87)
  else if 'A' ≤ c && c ≤ 'F' then some (c.toNat - 55)
  else none

/-- One byte that is written as a percent sign and two digits. -/
def escapedByte? : List Char → Option (Nat × List Char)
  | '%' :: a :: b :: r => do some ((← hexNibble? a) * 16 + (← hexNibble? b), r)
  | _ => none

/-- Further bytes of a character, six bits each. -/
def escapedTail : Nat → Nat → List Char → Option (Nat × List Char)
  | 0, code, cs => some (code, cs)
  | n + 1, code, cs => do
    let (b, cs) ← escapedByte? cs
    if b / 64 = 2 then escapedTail n (code * 64 + b % 64) cs else none

/-- A character that is written by its escaped bytes. -/
def escapedChar? (cs : List Char) : Option (Char × List Char) := do
  let (b, cs) ← escapedByte? cs
  let (n, code) ←
    if b < 0x80 then some (0, b)
    else if b / 32 = 6 then some (1, b % 32)
    else if b / 16 = 14 then some (2, b % 16)
    else if b / 8 = 30 then some (3, b % 8)
    else none
  let (code, cs) ← escapedTail n code cs
  some (.ofNat code, cs)

/-- The characters of a tag in front. -/
def uri (bracketed : Bool) : Nat → Cursor → Option (List Char × Cursor)
  | 0, c => some ([], c)
  | fuel + 1, c => match c.rest with
    | [] => some ([], c)
    | x :: r =>
      if !isUri bracketed x then some ([], c)
      else if x = '%' then do
        let (y, rest) ← escapedChar? (x :: r)
        let (ys, c) ← uri bracketed fuel (c.skip (c.rest.length - rest.length))
        some (y :: ys, c)
      else do
        let (ys, c) ← uri bracketed fuel (c.skip 1)
        some (x :: ys, c)

def tagUri (bracketed : Bool) (c : Cursor) : Option (List Char × Cursor) :=
  uri bracketed c.rest.length c

/-- `!`, then a word, then perhaps another `!`. -/
def tagHandle (c : Cursor) : Option (List Char × Cursor) :=
  match c.rest with
  | '!' :: _ =>
    let (name, c) := (c.skip 1).takeWhile isWord
    if c.rest.head? = some '!' then some ('!' :: name ++ ['!'], c.skip 1) else some ('!' :: name, c)
  | _ => none

/-- A tag as a handle and a suffix; one in brackets, and a lone `!`, have no handle. -/
def tagParts (c : Cursor) : Option (List Char × List Char × Cursor) :=
  match c.rest with
  | '!' :: '<' :: _ => do
    let (suffix, c) ← tagUri true (c.skip 2)
    if suffix ≠ [] ∧ c.rest.head? = some '>' then some ([], suffix, c.skip 1) else none
  | _ => do
    let (handle, c) ← tagHandle c
    let (suffix, c) ← tagUri false c
    if 2 ≤ handle.length ∧ handle.getLast? = some '!' then
      if suffix = [] then none else some (handle, suffix, c)
    else
      let suffix := handle.drop 1 ++ suffix
      if suffix = [] then some ([], ['!'], c) else some (['!'], suffix, c)

/-- A tag ends at a gap, in brackets also at a comma. -/
def tag (flow : Bool) (c : Cursor) : Option (String × String × Cursor) := do
  let (handle, suffix, c) ← tagParts c
  if endsWord c.rest || flow && c.rest.head? = some ',' then
    some (.ofList handle, .ofList suffix, c)
  else none

/-! ## Directives -/

inductive Directive
  | version (major minor : Nat)
  | tag (handle pre : String)
deriving Repr, DecidableEq

/-- A number of at most nine digits. -/
def versionNumber (c : Cursor) : Option (Nat × Cursor) :=
  let (ds, c) := c.takeWhile fun x => '0' ≤ x && x ≤ '9'
  if ds = [] ∨ 9 < ds.length then none
  else some (ds.foldl (fun n d => n * 10 + (d.toNat - 48)) 0, c)

def versionDirective (c : Cursor) : Option (Directive × Cursor) := do
  let (major, c) ← versionNumber (c.skipWhile isBlank)
  if c.rest.head? = some '.' then
    let (minor, c) ← versionNumber (c.skip 1)
    some (.version major minor, c)
  else none

def tagDirective (c : Cursor) : Option (Directive × Cursor) := do
  let (handle, c) ← tagHandle (c.skipWhile isBlank)
  if handle ≠ ['!'] ∧ (handle.length < 2 ∨ handle.getLast? ≠ some '!') then none
  else if !c.rest.head?.any isBlank then none
  else
    let (pre, c) ← tagUri true (c.skipWhile isBlank)
    if pre ≠ [] ∧ endsWord c.rest then some (.tag (.ofList handle) (.ofList pre), c) else none

/-- A directive with its line. -/
def directive (c : Cursor) : Option (Directive × Cursor) := do
  let (name, c) := (c.skip 1).takeWhile isWord
  if !endsWord c.rest then none
  else
    let (d, c) ←
      if name = "YAML".toList then versionDirective c
      else if name = "TAG".toList then tagDirective c
      else none
    some (d, ← c.skipComment.endLine?)

end Footprint.Yaml
