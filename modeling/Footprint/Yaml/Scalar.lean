import Footprint.Yaml.Cursor

/-! # The text of scalars: plain, quoted, and in blocks

Line breaks fold: a single one becomes a space, and of several the first one is dropped. -/
namespace Footprint.Yaml

inductive Style | plain | singleQuoted | doubleQuoted | literal | folded
deriving Repr, DecidableEq

/-- What stands between two parts of a scalar: blanks, or line breaks. -/
structure Gap where
  blanks : List Char
  broken : Bool
  first : List Char
  more : List Char

namespace Gap

def empty : Gap := ⟨[], false, [], []⟩

/-- The gap behind an escaped line break, which leaves no text. -/
def escaped : Gap := ⟨[], true, [], []⟩

def text (g : Gap) : List Char :=
  if !g.broken then g.blanks
  else if g.first.head? = some '\n' then if g.more = [] then [' '] else g.more
  else g.first ++ g.more

/-- Reads on to the next part. A tab before column `indent` at the start of a line is refused. -/
def read (indent : Int) : Nat → Gap → Cursor → Option (Gap × Cursor)
  | 0, g, c => some (g, c)
  | fuel + 1, g, c => match c.rest with
    | [] => some (g, c)
    | x :: _ =>
      if isBlank x then
        if g.broken then
          if x = '\t' ∧ (c.column : Int) < indent then none else read indent fuel g (c.skip 1)
        else read indent fuel { g with blanks := g.blanks ++ [x] } (c.skip 1)
      else if isBreak x then
        let (b, c) := c.lineBreak
        if g.broken then read indent fuel { g with more := g.more ++ b } c
        else read indent fuel ⟨[], true, b, []⟩ c
      else some (g, c)

end Gap

/-! ## Plain scalars -/

def isFlowMark (c : Char) : Bool := c = ',' || c = '[' || c = ']' || c = '\x7b' || c = '\x7d'

/-- Characters up to a gap, or to a mark that ends the scalar. -/
def plainPart (flow : Bool) : List Char → Option (List Char)
  | [] => some []
  | c :: r =>
    if isGap c then some []
    else if flow && c = ':' && r.head?.any (fun d => isFlowMark d || d = '?') then none
    else if c = ':' && endsWord r then some []
    else if flow && isFlowMark c then some []
    else (plainPart flow r).map (c :: ·)

/-- The parts of a plain scalar, with the gap in front of the next one. The last result tells
whether a line break follows the text. -/
def plainFrom (flow : Bool) (indent : Int) :
    Nat → List Char → Gap → Cursor → Option (List Char × Bool × Cursor)
  | 0, _, _, _ => none
  | fuel + 1, text, gap, c =>
    if c.atBoundary || c.rest.head? = some '#' then some (text, gap.broken, c)
    else do
      let part ← plainPart flow c.rest
      if part = [] then some (text, gap.broken, c)
      else
        let text := text ++ gap.text ++ part
        let c := c.skip part.length
        if !c.rest.head?.any isGap then some (text, false, c)
        else
          let (gap, c) ← Gap.read indent (c.rest.length + 1) .empty c
          if !flow && (c.column : Int) < indent then some (text, gap.broken, c)
          else plainFrom flow indent fuel text gap c

def plain (flow : Bool) (indent : Int) (c : Cursor) : Option (List Char × Bool × Cursor) :=
  plainFrom flow indent (c.rest.length + 1) [] .empty c

/-! ## Quoted scalars -/

def hexValue? (c : Char) : Option Nat :=
  if '0' ≤ c && c ≤ '9' then some (c.toNat - 48)
  else if 'a' ≤ c && c ≤ 'f' then some (c.toNat - 87)
  else if 'A' ≤ c && c ≤ 'F' then some (c.toNat - 55)
  else none

/-- The character whose number is written with `n` hexadecimal digits. -/
def hexChar? (n : Nat) (cs : List Char) : Option Char := do
  let ds ← (cs.take n).mapM hexValue?
  let code := ds.foldl (fun v d => v * 16 + d) 0
  if ds.length < n ∨ 0xD800 ≤ code ∧ code ≤ 0xDFFF ∨ 0x10FFFF < code then none
  else some (.ofNat code)

/-- The character behind a backslash, and how many characters write it. -/
def escape? : List Char → Option (Char × Nat)
  | [] => none
  | c :: r =>
    if c = '0' then some ('\x00', 1)
    else if c = 'a' then some ('\x07', 1)
    else if c = 'b' then some ('\x08', 1)
    else if c = 't' ∨ c = '\t' then some ('\t', 1)
    else if c = 'n' then some ('\n', 1)
    else if c = 'v' then some ('\x0b', 1)
    else if c = 'f' then some ('\x0c', 1)
    else if c = 'r' then some ('\r', 1)
    else if c = 'e' then some ('\x1b', 1)
    else if c = ' ' ∨ c = '"' ∨ c = '/' ∨ c = '\\' then some (c, 1)
    else if c = 'N' then some ('\x85', 1)
    else if c = '_' then some ('\xa0', 1)
    else if c = 'L' then some ('\u2028', 1)
    else if c = 'P' then some ('\u2029', 1)
    else if c = 'x' then (hexChar? 2 r).map (·, 3)
    else if c = 'u' then (hexChar? 4 r).map (·, 5)
    else if c = 'U' then (hexChar? 8 r).map (·, 9)
    else none

/-- Characters up to a gap or to the closing quote. The first result tells whether an escaped line
break has ended them. -/
def quotedPart (single : Bool) : Nat → Cursor → Option (Bool × List Char × Cursor)
  | 0, _ => none
  | fuel + 1, c => match c.rest with
    | [] => some (false, [], c)
    | x :: r =>
      if isGap x then some (false, [], c)
      else if single then
        if x = '\'' then
          if r.head? = some '\'' then next fuel x (c.skip 2) else some (false, [], c)
        else next fuel x (c.skip 1)
      else if x = '"' then some (false, [], c)
      else if x = '\\' then
        if r.head?.any isBreak then some (true, [], (c.skip 1).lineBreak.2)
        else do
          let (y, n) ← escape? r
          next fuel y (c.skip (n + 1))
      else next fuel x (c.skip 1)
where
  next (fuel : Nat) (x : Char) (c : Cursor) : Option (Bool × List Char × Cursor) := do
    let (escaped, part, c) ← quotedPart single fuel c
    some (escaped, x :: part, c)

/-- The parts of a quoted scalar behind its opening quote. -/
def quotedFrom (single : Bool) : Nat → List Char → Cursor → Option (List Char × Cursor)
  | 0, _, _ => none
  | fuel + 1, text, c =>
    if c.atBoundary || c.rest = [] then none
    else do
      let (escaped, part, c) ← quotedPart single (c.rest.length + 1) c
      let text := text ++ part
      if c.rest.head? = some (if single then '\'' else '"') then some (text, c.skip 1)
      else
        let (gap, c) ← Gap.read 0 (c.rest.length + 1) (if escaped then .escaped else .empty) c
        quotedFrom single fuel (text ++ gap.text) c

def quoted (single : Bool) (c : Cursor) : Option (List Char × Cursor) :=
  quotedFrom single (c.rest.length + 1) [] (c.skip 1)

/-! ## Block scalars -/

/-- What becomes of the line breaks at the end. -/
inductive Chomp | strip | clip | keep
deriving Repr, DecidableEq

def chomp? (c : Cursor) : Option (Chomp × Cursor) :=
  match c.rest with
  | '+' :: _ => some (.keep, c.skip 1)
  | '-' :: _ => some (.strip, c.skip 1)
  | _ => none

/-- A digit other than zero that sets the indentation; zero stands for none. -/
def increment? (c : Cursor) : Option (Nat × Cursor) :=
  match c.rest with
  | x :: _ =>
    if '1' ≤ x && x ≤ '9' then some (x.toNat - 48, c.skip 1)
    else if x = '0' then none
    else some (0, c)
  | [] => some (0, c)

/-- The marks behind the indicator of a block, in either order. -/
def blockHeader (c : Cursor) : Option (Chomp × Nat × Cursor) :=
  match chomp? c with
  | some (chomp, c) => (increment? c).map fun (n, c) => (chomp, n, c)
  | none => do
    let (n, c) ← increment? c
    if n = 0 then some (.clip, 0, c)
    else match chomp? c with
      | some (chomp, c) => some (chomp, n, c)
      | none => some (.clip, n, c)

/-- Passes indentation and empty lines. With `indent` zero the deepest column decides, but no less
than `least`. -/
def blockBreaks (least indent : Nat) : Nat → Nat → List Char → Cursor →
    Option (Nat × List Char × Cursor)
  | 0, _, _, _ => none
  | fuel + 1, deepest, breaks, c =>
    let spaces := (c.rest.takeWhile (· = ' ')).length
    let c := c.skip (if indent = 0 then spaces else min spaces (indent - c.column))
    let deepest := max deepest c.column
    if (indent = 0 || c.column < indent) && c.rest.head? = some '\t' then none
    else if c.rest.head?.any isBreak then
      let (b, c) := c.lineBreak
      blockBreaks least indent fuel deepest (breaks ++ b) c
    else some (if indent = 0 then max deepest least else indent, breaks, c)

/-- The state between two lines of a block: its text, the last line break, the empty lines behind
it, and whether the last line began with a blank. -/
structure BlockText where
  text : List Char
  last : List Char
  breaks : List Char
  blank : Bool

/-- The lines of a block that stand at column `indent`. -/
def blockLines (folded : Bool) (least indent : Nat) :
    Nat → BlockText → Cursor → Option (BlockText × Cursor)
  | 0, _, _ => none
  | fuel + 1, b, c =>
    if c.column ≠ indent || c.rest = [] then some (b, c)
    else do
      let blank := c.rest.head?.any isBlank
      let joint :=
        if folded && b.last.head? = some '\n' && !b.blank && !blank then
          if b.breaks = [] then [' '] else []
        else b.last
      let (line, c) := c.takeWhile (!isBreak ·)
      let (last, c) := c.lineBreak
      let (_, breaks, c) ← blockBreaks least indent (c.rest.length + 1) 0 [] c
      let text := b.text ++ joint ++ b.breaks ++ line
      blockLines folded least indent fuel ⟨text, last, breaks, blank⟩ c

/-- A block scalar inside the indentation `outer`, which is below zero at the top. -/
def block (folded : Bool) (outer : Int) (c : Cursor) : Option (List Char × Cursor) := do
  let (chomp, increment, c) ← blockHeader (c.skip 1)
  let c ← c.skipComment.endLine?
  let least := (max (outer + 1) 1).toNat
  let fixed := if increment = 0 then 0 else (max outer 0).toNat + increment
  let (indent, breaks, c) ← blockBreaks least fixed (c.rest.length + 1) 0 [] c
  let (b, c) ← blockLines folded least indent (c.rest.length + 1) ⟨[], [], breaks, false⟩ c
  let tail := match chomp with
    | .strip => []
    | .clip => b.last
    | .keep => b.last ++ b.breaks
  some (b.text ++ tail, c)

end Footprint.Yaml
