import Footprint.Number.Reader
import Footprint.Number.Style
import Footprint.Text.Quoted
import Footprint.Yaml.Node

/-! # What a scalar stands for: nothing, a truth value, a number or text -/
namespace Footprint.Yaml

def isNull (s : String) : Bool := s ∈ ["null", "Null", "NULL", "~"]

def boolean? (s : String) : Option Bool :=
  if s ∈ ["true", "True", "TRUE"] then some true
  else if s ∈ ["false", "False", "FALSE"] then some false
  else none

/-! ## Numbers -/

def digitValue? (radix : Nat) (c : Char) : Option Nat := do
  let d ← hexValue? c
  if d < radix then some d else none

def ofRadix? (radix : Nat) (cs : List Char) : Option Nat := do
  if cs = [] then none
  else some ((← cs.mapM (digitValue? radix)).foldl (fun n d => n * radix + d) 0)

def isSign (c : Char) : Bool := c = '+' || c = '-'

/-- Several digits that begin with a zero are text. -/
def hasLeadingZero (cs : List Char) : Bool :=
  match (match cs with | c :: r => if isSign c then r else cs | [] => []) with
  | '0' :: d :: ds => (d :: ds).all fun c => '0' ≤ c && c ≤ '9'
  | _ => false

/-- The digits of a whole number and their radix, or decimal digits. -/
def radixOf : List Char → Nat × List Char
  | '0' :: 'x' :: r => (16, r)
  | '0' :: 'o' :: r => (8, r)
  | '0' :: 'b' :: r => (2, r)
  | cs => (10, cs)

def dropPlus : List Char → List Char
  | '+' :: r => r
  | cs => cs

/-- A whole number below `limit`, with a plus sign or none. -/
def natural? (limit : Nat) (cs : List Char) : Option Nat := do
  let (radix, ds) := radixOf (dropPlus cs)
  let n ← ofRadix? radix ds
  if n < limit ∧ !hasLeadingZero cs then some n else none

/-- The magnitude, at most `limit`, of a whole number with a minus sign. -/
def negative? (limit : Nat) : List Char → Option Nat
  | '-' :: cs => do
    let (radix, ds) := radixOf cs
    let n ← ofRadix? radix ds
    if n ≤ limit ∧ !hasLeadingZero cs then some n else none
  | _ => none

def isFinite (v : Float) : Bool := Number.magnitude v < Number.infinityBits

/-- A number in decimal notation, or one of the words for infinity and for no number. -/
def real? (s : String) : Option Float :=
  let cs := dropPlus s.toList
  if s.toList.head? = some '+' ∧ cs.head?.any isSign then none
  else
    let t := String.ofList cs
    if t ∈ [".inf", ".Inf", ".INF"] then some (Number.ofMagnitude false Number.infinityBits)
    else if s ∈ ["-.inf", "-.Inf", "-.INF"] then some (Number.ofMagnitude true Number.infinityBits)
    else if s ∈ [".nan", ".NaN", ".NAN"] then some Number.notANumber
    else match Number.read t with
      | .ok v => if isFinite v then some v else none
      | .error _ => none

/-! ## Kinds of values -/

inductive Found
  | unit
  | boolean (b : Bool)
  | integer (n : Int)
  | wideNatural (n : Nat)
  | wideNegative (n : Nat)
  | real (v : Float)
  | text (s : String)
  | sequence
  | mapping

def Found.message : Found → String
  | .unit => "unit value"
  | .boolean b => s!"boolean `{b}`"
  | .integer n => s!"integer `{n}`"
  | .wideNatural n => s!"integer `{n}` as u128"
  | .wideNegative n => s!"integer `-{n}` as i128"
  | .real v =>
    let style := if isFinite v then Number.Style.pointedPlain else .plain
    s!"floating point `{style.text v}`"
  | .text s => s!"string {Text.quoted s}"
  | .sequence => "sequence"
  | .mapping => "map"

/-- A whole number, of 64 bits if it fits. -/
def integer? (s : String) : Option Found :=
  let cs := s.toList
  (natural? (Nat.pow 2 64) cs).map (.integer ·) <|>
  (negative? (Nat.pow 2 63) cs).map (fun n => .integer (-n)) <|>
  (natural? (Nat.pow 2 128) cs).map .wideNatural <|>
  (negative? (Nat.pow 2 127) cs).map .wideNegative

/-- What plain text stands for. -/
def plainKind (s : String) : Found :=
  if s = "" ∨ isNull s then .unit
  else match boolean? s with
    | some b => .boolean b
    | none => match integer? s with
      | some n => n
      | none =>
        if hasLeadingZero s.toList then .text s
        else match real? s with
          | some v => .real v
          | none => .text s

def booleanTag : String := "tag:yaml.org,2002:bool"
def integerTag : String := "tag:yaml.org,2002:int"
def realTag : String := "tag:yaml.org,2002:float"
def nullTag : String := "tag:yaml.org,2002:null"

/-- What a scalar stands for. Where the text does not suit its tag, the result is the kind that the
tag asks for. -/
def scalarKind (tag : Option String) (style : Style) (s : String) : Except String Found :=
  let asked (kind : String) (found : Option Found) : Except String Found := match found with
    | some f => .ok f
    | none => .error kind
  let loose := if style = .plain then plainKind s else .text s
  match tag with
  | none => .ok loose
  | some t =>
    if t = booleanTag then asked "a boolean" ((boolean? s).map .boolean)
    else if t = integerTag then asked "an integer" (integer? s)
    else if t = realTag then asked "a float" ((real? s).map .real)
    else if t = nullTag then asked "null" (if isNull s then some .unit else none)
    else if t.toList.head? = some '!' then .ok loose
    else .ok (.text s)

/-- Scalars that may stand for a value other than text: plain ones, and literal blocks of a tag. -/
def isTyped (typeTag : String) (tag : Option String) (style : Style) : Bool :=
  style = .plain || style = .literal && tag = some typeTag

end Footprint.Yaml
