import Footprint.Yaml.Value

/-! # Reading values of known types from the nodes of a document -/
namespace Footprint.Yaml

/-- One step from a node to a part of it; a key that is an alias has no name. -/
inductive Step
  | key (name : String)
  | aliasKey
  | index (i : Nat)
deriving Repr, DecidableEq

def Step.text : Step → String
  | .key name => name
  | .aliasKey => "?"
  | .index i => "\\[" ++ toString i ++ "\\]"

inductive Cause
  | invalidType (found : Found) (expected : String)
  | invalidValue (found : Found) (expected : String)
  | unknownField (name : String) (fields : List String)
  | duplicateField (name : String)
  | missingField (name : String)

def oneOf (names : List String) : String :=
  match names.map fun name => s!"`{name}`" with
  | [a] => a
  | [a, b] => s!"{a} or {b}"
  | quoted => "one of " ++ ", ".intercalate quoted

def Cause.message : Cause → String
  | .invalidType found expected => s!"invalid type: {found.message}, expected {expected}"
  | .invalidValue found expected => s!"invalid value: {found.message}, expected {expected}"
  | .unknownField name fields => s!"unknown field `{name}`, expected {oneOf fields}"
  | .duplicateField name => s!"duplicate field `{name}`"
  | .missingField name => s!"missing field `{name}`"

/-- A cause, and the way to the node that it is about. -/
structure Error where
  path : List Step
  cause : Cause

def Error.message (e : Error) : String :=
  if e.path = [] then e.cause.message
  else ".".intercalate (e.path.map Step.text) ++ ": " ++ e.cause.message

def within {α : Type} (s : Step) (r : Except Error α) : Except Error α :=
  r.mapError fun e => { e with path := s :: e.path }

def fail {α : Type} (cause : Cause) : Except Error α := .error ⟨[], cause⟩

/-- The error for a node where `expected` belongs. -/
def mismatch {α : Type} (expected : String) : Node → Except Error α
  | .scalar tag style s => match scalarKind tag style s with
    | .ok found => fail (.invalidType found expected)
    | .error kind => fail (.invalidValue (.text s) kind)
  | .sequence _ => fail (.invalidType .sequence expected)
  | .mapping _ => fail (.invalidType .mapping expected)
  | .alias _ => fail (.invalidType .unit expected)

/-- An omitted node, which stands for a sequence or a mapping without entries. -/
def isOmitted : Node → Bool
  | .scalar _ .plain s => s = ""
  | _ => false

abbrev Decoder (α : Type) := Document → Node → Except Error α

/-- The text of any scalar. -/
def textAs (expected : String) : Decoder String := fun d n =>
  match d.resolve n with
  | .scalar _ _ s => .ok s
  | n => mismatch expected n

def text : Decoder String := textAs "a string"

def path : Decoder String := textAs "path string"

/-- A scalar that stands for a value other than text. -/
def typed {α : Type} (tag expected : String) (read : String → Option α) : Decoder α := fun d n =>
  match d.resolve n with
  | .scalar t style s =>
    match (if isTyped tag t style then read s else none) with
    | some v => .ok v
    | none => mismatch expected (.scalar t style s)
  | n => mismatch expected n

def boolean : Decoder Bool := typed booleanTag "a boolean" boolean?

def real : Decoder Float := typed realTag "f64" real?

def word (expected : String) : Decoder Nat :=
  typed integerTag expected fun s => natural? (Nat.pow 2 64) s.toList

def word64 : Decoder UInt64 := fun d n => do return (← word "usize" d n).toUInt64

def word32 : Decoder UInt32 := fun d n => do
  let v ← word "u32" d n
  if v < Nat.pow 2 32 then return v.toUInt32 else fail (.invalidValue (.integer v) "u32")

/-- The items from position `i` on. -/
def itemsFrom {α : Type} (item : Node → Except Error α) (i : Nat) :
    List Node → Except Error (List α)
  | [] => .ok []
  | n :: ns => do
    let v ← within (.index i) (item n)
    return v :: (← itemsFrom item (i + 1) ns)

def list {α : Type} (item : Decoder α) : Decoder (List α) := fun d n =>
  match d.resolve n with
  | .sequence ns => itemsFrom (item d) 0 ns
  | n => if isOmitted n then .ok [] else mismatch "a sequence" n

/-! ## Records -/

/-- A field of a record, and how its value changes the record. -/
structure Field (α : Type) where
  name : String
  read : Document → Node → α → Except Error α

def Field.of {α β : Type} (name : String) (value : Decoder β) (set : α → β → α) : Field α :=
  ⟨name, fun d n r => do return set r (← value d n)⟩

def keyStep (k : Node) : Step :=
  match k with
  | .scalar _ _ s => .key s
  | _ => .aliasKey

/-- The entries of a mapping, each of which names another field. -/
def readEntries {α : Type} (fields : List (Field α)) (d : Document) (seen : List String) (r : α) :
    List (Node × Node) → Except Error α
  | [] => .ok r
  | (k, v) :: rest => do
    let name ← textAs "field identifier" d k
    match fields.find? (·.name = name) with
    | none => fail (.unknownField name (fields.map (·.name)))
    | some f =>
      if name ∈ seen then fail (.duplicateField name)
      else
        let r ← within (keyStep k) (f.read d v r)
        readEntries fields d (name :: seen) r rest

/-- A record that begins as `start`. -/
def record {α : Type} (expected : String) (fields : List (Field α)) (start : α) : Decoder α :=
  fun d n => match d.resolve n with
    | .mapping es => readEntries fields d [] start es
    | n => if isOmitted n then .ok start else mismatch expected n

end Footprint.Yaml
