import Footprint.Yaml.Property
import Footprint.Yaml.Scalar

/-! # Tokens of a YAML text

Indentation opens and closes blocks. A key is only known as one at the colon behind it: until then
its place is kept, and its tokens are put there in retrospect. -/
namespace Footprint.Yaml

inductive Token
  | directive (d : Directive)
  | documentStart
  | documentEnd
  | blockSequenceStart
  | blockMappingStart
  | blockEnd
  | flowSequenceStart
  | flowSequenceEnd
  | flowMappingStart
  | flowMappingEnd
  | blockEntry
  | flowEntry
  | key
  | value
  | alias (name : String)
  | anchor (name : String)
  | tag (handle suffix : String)
  | scalar (style : Style) (text : String)
deriving Repr, DecidableEq

/-- The place where a key may have begun, and how many tokens stand before it. -/
structure KeyPlace where
  required : Bool
  before : Nat
  index : Nat
  line : Nat
  column : Nat

/-- The tokens read so far, the last one first. `keys` holds the place of a possible key for the
blocks and for each open bracket, the innermost first. `indent` is below zero at the top. -/
structure Scanner where
  cursor : Cursor
  tokens : List Token
  keys : List (Option KeyPlace)
  indent : Int
  outer : List Int
  keyAllowed : Bool

namespace Scanner

def start (cs : List Char) : Scanner := ⟨.start cs, [], [none], -1, [], true⟩

def inFlow (s : Scanner) : Bool := 1 < s.keys.length

def push (s : Scanner) (t : Token) : Scanner := { s with tokens := t :: s.tokens }

def advance (s : Scanner) (n : Nat) : Scanner := { s with cursor := s.cursor.skip n }

/-- Puts `t` behind the first `before` tokens. -/
def insertAt (s : Scanner) (before : Nat) (t : Token) : Scanner :=
  let later := s.tokens.length - before
  { s with tokens := s.tokens.take later ++ t :: s.tokens.drop later }

/-! ## Possible keys -/

/-- A key stands on one line and has at most 1024 characters. A required one may not turn out to be
none. -/
def dropStaleKeys (s : Scanner) : Option Scanner := do
  let keys ← s.keys.mapM fun key => match key with
    | none => some none
    | some k =>
      if k.line < s.cursor.line ∨ k.index + 1024 < s.cursor.index then
        if k.required then none else some none
      else some (some k)
  some { s with keys := keys }

def dropKey (s : Scanner) : Option Scanner :=
  match s.keys with
  | some k :: keys => if k.required then none else some { s with keys := none :: keys }
  | _ => some s

def saveKey (s : Scanner) : Option Scanner :=
  if s.keyAllowed then do
    let s ← s.dropKey
    let c := s.cursor
    let place : KeyPlace :=
      ⟨!s.inFlow && s.indent = (c.column : Int), s.tokens.length, c.index, c.line, c.column⟩
    some { s with keys := some place :: s.keys.drop 1 }
  else some s

/-! ## Indentation -/

/-- Opens a block at `column`, if that is deeper than the innermost one. -/
def openBlock (s : Scanner) (column before : Nat) (t : Token) : Scanner :=
  if !s.inFlow && s.indent < (column : Int) then
    { s.insertAt before t with outer := s.indent :: s.outer, indent := column }
  else s

/-- Closes the blocks in `outer` that are deeper than `column`. -/
def closeFrom (column indent : Int) (tokens : List Token) : List Int → Int × List Token × List Int
  | [] => (indent, tokens, [])
  | i :: outer =>
    if column < indent then closeFrom column i (.blockEnd :: tokens) outer
    else (indent, tokens, i :: outer)

def closeBlocks (s : Scanner) (column : Int) : Scanner :=
  if s.inFlow then s
  else
    let (indent, tokens, outer) := closeFrom column s.indent s.tokens s.outer
    { s with indent := indent, tokens := tokens, outer := outer }

/-! ## Blanks and comments -/

/-- Passes to the next token. A tab is no indentation where a key may begin. -/
def skipGaps : Nat → Scanner → Scanner
  | 0, s => s
  | fuel + 1, s =>
    let tabs := s.inFlow || !s.keyAllowed
    let c := if s.cursor.index = 0 && s.cursor.rest.head? = some '\uFEFF' then s.cursor.skip 1
      else s.cursor
    let c := c.skipWhile fun x => x = ' ' || tabs && x = '\t'
    let c := if c.rest.head? = some '#' then c.skipWhile (!isBreak ·) else c
    if c.rest.head?.any isBreak then
      skipGaps fuel { s with cursor := c.lineBreak.2, keyAllowed := s.keyAllowed || !s.inFlow }
    else { s with cursor := c }

/-! ## One token -/

def fetchDirective (s : Scanner) : Option Scanner := do
  let s ← (s.closeBlocks (-1)).dropKey
  let (d, c) ← directive s.cursor
  some { s.push (.directive d) with cursor := c, keyAllowed := false }

def fetchBoundary (s : Scanner) (t : Token) : Option Scanner := do
  let s ← (s.closeBlocks (-1)).dropKey
  some { (s.push t).advance 3 with keyAllowed := false }

def fetchOpening (s : Scanner) (t : Token) : Option Scanner := do
  let s ← s.saveKey
  some { (s.push t).advance 1 with keys := none :: s.keys, keyAllowed := true }

def fetchClosing (s : Scanner) (t : Token) : Option Scanner := do
  let s ← s.dropKey
  let keys := if s.inFlow then s.keys.drop 1 else s.keys
  some { (s.push t).advance 1 with keys := keys, keyAllowed := false }

def fetchFlowEntry (s : Scanner) : Option Scanner := do
  let s ← s.dropKey
  some { (s.push .flowEntry).advance 1 with keyAllowed := true }

/-- An indicator that stands for itself opens a block only where a key may begin. -/
def openHere (s : Scanner) (t : Token) : Option Scanner :=
  if s.inFlow then some s
  else if s.keyAllowed then some (s.openBlock s.cursor.column s.tokens.length t)
  else none

def fetchBlockEntry (s : Scanner) : Option Scanner := do
  let s ← (← s.openHere .blockSequenceStart).dropKey
  some { (s.push .blockEntry).advance 1 with keyAllowed := true }

def fetchKey (s : Scanner) : Option Scanner := do
  let s ← (← s.openHere .blockMappingStart).dropKey
  some { (s.push .key).advance 1 with keyAllowed := !s.inFlow }

def fetchValue (s : Scanner) : Option Scanner :=
  match s.keys with
  | some k :: keys =>
    let s := (s.insertAt k.before .key).openBlock k.column k.before .blockMappingStart
    some { (s.push .value).advance 1 with keys := none :: keys, keyAllowed := false }
  | _ => do
    let s ← s.openHere .blockMappingStart
    some { (s.push .value).advance 1 with keyAllowed := !s.inFlow }

def fetchAnchor (s : Scanner) (t : String → Token) : Option Scanner := do
  let s ← s.saveKey
  let (name, c) ← anchorName s.cursor
  some { s.push (t name) with cursor := c, keyAllowed := false }

def fetchTag (s : Scanner) : Option Scanner := do
  let s ← s.saveKey
  let (handle, suffix, c) ← Yaml.tag s.inFlow s.cursor
  some { s.push (.tag handle suffix) with cursor := c, keyAllowed := false }

def fetchBlock (s : Scanner) (folded : Bool) : Option Scanner := do
  let s ← s.dropKey
  let (text, c) ← block folded s.indent s.cursor
  let style := if folded then Style.folded else .literal
  some { s.push (.scalar style (.ofList text)) with cursor := c, keyAllowed := true }

def fetchQuoted (s : Scanner) (single : Bool) : Option Scanner := do
  let s ← s.saveKey
  let (text, c) ← quoted single s.cursor
  let style := if single then Style.singleQuoted else .doubleQuoted
  some { s.push (.scalar style (.ofList text)) with cursor := c, keyAllowed := false }

def fetchPlain (s : Scanner) : Option Scanner := do
  let s ← s.saveKey
  let (text, broken, c) ← plain s.inFlow (s.indent + 1) s.cursor
  some { s.push (.scalar .plain (.ofList text)) with cursor := c, keyAllowed := broken }

/-- Marks that begin something other than a plain scalar. -/
def indicators : List Char :=
  [',', '[', ']', '\x7b', '\x7d', '#', '&', '*', '!', '|', '>', '\'', '"', '%', '@', '\x60']

/-- Whether a plain scalar begins with `c`, before `r`. -/
def startsPlain (flow : Bool) (c : Char) (r : List Char) : Bool :=
  if c = '-' then !r.head?.any isBlank
  else if c = '?' || c = ':' then !flow && !endsWord r
  else !isGap c && c ∉ indicators

/-- The token that begins with `c`, before `r`. -/
def fetchFrom (s : Scanner) (c : Char) (r : List Char) : Option Scanner :=
  let flow := s.inFlow
  if c = '%' && s.cursor.column = 0 then s.fetchDirective
  else if s.cursor.atMarks '-' then s.fetchBoundary .documentStart
  else if s.cursor.atMarks '.' then s.fetchBoundary .documentEnd
  else if c = '[' then s.fetchOpening .flowSequenceStart
  else if c = '\x7b' then s.fetchOpening .flowMappingStart
  else if c = ']' then s.fetchClosing .flowSequenceEnd
  else if c = '\x7d' then s.fetchClosing .flowMappingEnd
  else if c = ',' then s.fetchFlowEntry
  else if c = '-' && endsWord r then s.fetchBlockEntry
  else if c = '?' && (flow || endsWord r) then s.fetchKey
  else if c = ':' && (flow || endsWord r) then s.fetchValue
  else if c = '*' then s.fetchAnchor .alias
  else if c = '&' then s.fetchAnchor .anchor
  else if c = '!' then s.fetchTag
  else if c = '|' && !flow then s.fetchBlock false
  else if c = '>' && !flow then s.fetchBlock true
  else if c = '\'' then s.fetchQuoted true
  else if c = '"' then s.fetchQuoted false
  else if startsPlain flow c r then s.fetchPlain
  else none

/-- The tokens of the rest of the text; each takes at least one character. -/
def run : Nat → Scanner → Option (List Token)
  | 0, _ => none
  | fuel + 1, s => do
    let s ← (skipGaps (s.cursor.rest.length + 1) s).dropStaleKeys
    let s := s.closeBlocks s.cursor.column
    match s.cursor.rest with
    | [] =>
      let s ← (s.closeBlocks (-1)).dropKey
      some s.tokens.reverse
    | c :: r => run fuel (← s.fetchFrom c r)

end Scanner

/-- The tokens of a text; a byte order mark in front is skipped. -/
def tokens? (text : String) : Option (List Token) :=
  let cs := match text.toList with
    | '\uFEFF' :: r => r
    | cs => cs
  if cs.all isAllowed then Scanner.run (cs.length + 1) (.start cs) else none

end Footprint.Yaml
