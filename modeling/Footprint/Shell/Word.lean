/-! # Words of a shell script: text with parameters in it -/
namespace Footprint.Shell

/-- A parameter is named by one character: a digit, or one of `@*#?$`. -/
inductive Piece
  | text (s : List Char)
  | parameter (name : Char) (quoted : Bool)
deriving Repr, DecidableEq

abbrev Word := List Piece

/-- What the parameters of a script stand for. -/
structure Frame where
  script : String
  args : List String
  status : Nat

/-- The number by which a script knows its own process. -/
def ownProcess : String := "2"

def Frame.value (frame : Frame) (name : Char) : String :=
  if name = '@' ∨ name = '*' then " ".intercalate frame.args
  else if name = '#' then toString frame.args.length
  else if name = '?' then toString frame.status
  else if name = '$' then ownProcess
  else if name = '0' then frame.script
  else (frame.args[name.toNat - 49]?).getD ""

/-- The fields of a word: finished ones, and the one that is being written. -/
structure Fields where
  finished : List String
  current : Option (List Char)

namespace Fields

def add (f : Fields) (s : List Char) : Fields := { f with current := some (f.current.getD [] ++ s) }

def close (f : Fields) : Fields := match f.current with
  | none => f
  | some s => ⟨f.finished ++ [.ofList s], none⟩

/-- Blanks in the value of a parameter end a field. -/
def addSplit (f : Fields) : List Char → Fields
  | [] => f
  | c :: cs =>
    if c = ' ' ∨ c = '\t' ∨ c = '\n' then addSplit f.close cs else addSplit (f.add [c]) cs

/-- Values of which each one begins a new field, but for the first. -/
def addAll (f : Fields) : List String → Fields
  | [] => f
  | [a] => f.add a.toList
  | a :: rest => addAll (f.add a.toList).close rest

def addPiece (frame : Frame) (f : Fields) : Piece → Fields
  | .text s => f.add s
  | .parameter name true =>
    if name = '@' then f.addAll frame.args else f.add (frame.value name).toList
  | .parameter name false => f.addSplit (frame.value name).toList

end Fields

def Word.fields (frame : Frame) (w : Word) : List String :=
  (w.foldl (Fields.addPiece frame) ⟨[], none⟩).close.finished

end Footprint.Shell
