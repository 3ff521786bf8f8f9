import Footprint.Log.Event
import Footprint.Text.Alphanumeric
import Footprint.Text.Blank

/-! # Directives: which events of a target are logged -/
namespace Footprint.Log

/-- The least important level that is logged; none if nothing is. -/
abbrev Threshold := Option Level

def Threshold.admits (t : Threshold) (level : Level) : Bool := match t with
  | none => false
  | some least => level.rank ≤ least.rank

/-- Thresholds by their number. -/
def thresholds : List Threshold :=
  [none, some .error, some .warn, some .info, some .debug, some .trace]

def thresholdNames : List (String × Threshold) :=
  [("off", none), ("error", some .error), ("warn", some .warn), ("info", some .info),
    ("debug", some .debug), ("trace", some .trace), ("", some .error)]

def readNumber? (cs : List Char) : Option Nat :=
  let digits := if cs.head? = some '+' then cs.tail else cs
  if digits ≠ [] ∧ digits.all Char.isDigit then
    some (digits.foldl (fun n c => 10 * n + (c.toNat - 48)) 0)
  else none

/-- A threshold by its number, or by its name in any letter case. -/
def readThreshold? (s : String) : Option Threshold :=
  match (readNumber? s.toList).bind (thresholds[·]?) with
  | some t => some t
  | none => thresholdNames.lookup (.ofList (s.toList.map Char.toLower))

structure Field where
  name : String
  hasValue : Bool
deriving Repr, DecidableEq

/-- Sets a threshold for the events of a target. A directive with a span holds inside that span
only, and one with fields for events that have these. -/
structure Directive where
  target : Option String
  span : Option String
  fields : List Field
  threshold : Threshold
deriving Repr, DecidableEq

/-- Why a text is no directive. A part of it that would begin or end inside a character is no error of
its own: the program stops there. -/
inductive DirectiveError
  | malformed
  | level
  | field (message : String)
  | boundary (index : Nat)
deriving Repr, DecidableEq

def DirectiveError.message : DirectiveError → String
  | .malformed => "invalid filter directive"
  | .level => "error parsing level filter: expected one of \"off\", \"error\", \"warn\", " ++
      "\"info\", \"debug\", \"trace\", or a number 0-5"
  | .field message => s!"invalid field filter: {message}"
  | .boundary index => s!"byte index {index} is not a char boundary"

/-- The messages of an error, outermost first. -/
def DirectiveError.chain : DirectiveError → List String
  | .malformed => [DirectiveError.malformed.message]
  | .level => [DirectiveError.level.message, DirectiveError.level.message]
  | .field message => [(DirectiveError.field message).message, message]
  | .boundary index => [(DirectiveError.boundary index).message]

/-- What is wrong with a value that a field is to be compared with. Truth values, numbers and regular
expressions are values. -/
abbrev ValueCheck := String → Option String

namespace Directive

/-- Which part of a directive is being read, and the byte where it began. -/
inductive Part
  | start
  | word (i : Nat)
  | span (i : Nat)
  | field (i : Nat)
  | fieldsEnd
  | spanEnd
  | level (i : Nat)
  | complete
deriving Repr, DecidableEq

def mayBegin (c : Char) : Bool := Text.isAlphanumeric c || ['-', ':', '_'].contains c

/-- A text in front of a byte and behind it; none if the byte is inside a character. -/
def splitAt? : Nat → List Char → Option (List Char × List Char)
  | 0, cs => some ([], cs)
  | _ + 1, [] => none
  | n + 1, c :: cs =>
    if c.utf8Size ≤ n + 1 then
      (splitAt? (n + 1 - c.utf8Size) cs).map fun (before, rest) => (c :: before, rest)
    else none

/-- The text from one byte on. -/
def behind (text : List Char) (i : Nat) : Except DirectiveError String :=
  match splitAt? i text with
  | some (_, rest) => .ok (.ofList rest)
  | none => .error (.boundary i)

/-- The text from one byte up to another. -/
def cut (text : List Char) (i j : Nat) : Except DirectiveError String := do
  match splitAt? (j - i) (← behind text i).toList with
  | some (part, _) => .ok (.ofList part)
  | none => .error (.boundary j)

/-- A word that stands alone is a threshold if it can be one, and else a target with all levels. -/
def ofWord (d : Directive) (w : String) : Directive :=
  if w = "" then { d with target := none, threshold := some .trace }
  else match readThreshold? w with
    | some t => { d with target := none, threshold := t }
    | none => { d with target := some w, threshold := some .trace }

/-- A level that is left out admits all. -/
def withLevel (d : Directive) (level : String) : Except DirectiveError Directive :=
  if level = "" then .ok { d with threshold := some .trace }
  else match readThreshold? level with
    | some t => .ok { d with threshold := t }
    | none => .error .level

/-- The value is what stands between the first two `=`. -/
def withField (check : ValueCheck) (d : Directive) (field : String) :
    Except DirectiveError Directive :=
  if field = "" then .error .malformed
  else
    let name := String.ofList (field.toList.takeWhile (· ≠ '='))
    match field.toList.dropWhile (· ≠ '=') with
    | [] => .ok { d with fields := d.fields ++ [⟨name, false⟩] }
    | _ :: value => match check (.ofList (value.takeWhile (· ≠ '='))) with
      | none => .ok { d with fields := d.fields ++ [⟨name, true⟩] }
      | some message => .error (.field message)

/-- Reads the character `c`, which begins at the byte `i`. -/
def step (check : ValueCheck) (text : List Char) (i : Nat) (c : Char) (d : Directive) :
    Part → Except DirectiveError (Directive × Part)
  | .start =>
    if c = '[' then .ok (d, .span (i + 1))
    else if mayBegin c then .ok (d, .word i)
    else .error .malformed
  | .word start =>
    if c = '=' then do return ({ d with target := some (← cut text start i) }, .level (i + 1))
    else if c = '[' then do return ({ d with target := some (← cut text start i) }, .span (i + 1))
    else if c = ',' then do return (d.ofWord (← behind text start), .complete)
    else .ok (d, .word start)
  | .span start =>
    if c = ']' then do return ({ d with span := some (← cut text start i) }, .spanEnd)
    else if c = '{' then do
      let name ← cut text start i
      return ({ d with span := if name = "" then none else some name }, .field (i + 1))
    else .ok (d, .span start)
  | .field start =>
    if c = '}' then do return (← d.withField check (← cut text start i), .fieldsEnd)
    else if c = ',' then do return (← d.withField check (← cut text start i), .field (i + 1))
    else .ok (d, .field start)
  | .fieldsEnd => if c = ']' then .ok (d, .spanEnd) else .error .malformed
  | .spanEnd => if c = '=' then .ok (d, .level (i + 1)) else .error .malformed
  | .level start =>
    if c = ',' then do return (← d.withLevel (← cut text start i), .complete)
    else .ok (d, .level start)
  | .complete => .error .malformed

def finish (text : List Char) (d : Directive) : Part → Except DirectiveError Directive
  | .word start => do return d.ofWord (← behind text start)
  | .level start => do d.withLevel (← behind text start)
  | .spanEnd | .complete => .ok d
  | .start | .span _ | .field _ | .fieldsEnd => .error .malformed

def readFrom (check : ValueCheck) (text : List Char) (d : Directive) (part : Part) (i : Nat) :
    List Char → Except DirectiveError Directive
  | [] => d.finish text part
  | c :: cs => match d.step check text i c part with
    | .error e => .error e
    | .ok (d, part) => d.readFrom check text part (i + c.utf8Size) cs

/-- Reads a directive. Blanks around it are passed over, but its parts are cut from the text that
holds them, so that blanks in front of it move every part. -/
def read (check : ValueCheck) (s : String) : Except DirectiveError Directive :=
  readFrom check s.toList ⟨none, none, [], some .trace⟩ .start 0 (Text.trimChars s.toList)

end Directive
end Footprint.Log
