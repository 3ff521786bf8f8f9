import Footprint.Csv.Document
import Footprint.Number.Reader
import Footprint.Text.Blank

/-! # Results tables: measured index sizes, one row per measurement -/
namespace Footprint.Results

def nameColumn : String := "index_name"
def sizeColumn : String := "index_size_bytes"

/-- One measurement; a blank size is kept as none. -/
structure Row where
  name : String
  size : Option Float

structure Table where
  path : String
  rows : List Row

inductive Error
  | unreadable (cause : Csv.Error)
  | missingColumn (column : String)
  | invalidSize (row : Nat) (value : String)
deriving Repr, DecidableEq

/-- The messages of an error in the table at `path`, outermost first. -/
def Error.chain (path : String) : Error → List String
  | .unreadable cause => [s!"Read results table {path}", cause.message]
  | .missingColumn column => [s!"Results table {path} has no {column} column"]
  | .invalidSize row value =>
    [s!"Results table {path} row {row}: invalid index_size_bytes value '{value}'"]

/-- A size cell: nothing or `nan` in any letter case is blank. -/
def readSize (cell : String) : Except Number.ReadError (Option Float) :=
  if cell = "" ∨ Number.lower cell.toList = ['n', 'a', 'n'] then .ok none
  else (Number.read cell).map some

def columnOf (column : String) (header : Csv.Record) : Except Error Nat :=
  match header.findIdx? fun cell => Text.trim cell = column with
  | some i => .ok i
  | none => .error (.missingColumn column)

/-- A missing cell counts as an empty one. -/
def cellAt (record : Csv.Record) (column : Nat) : String := Text.trim (record[column]?.getD "")

def readRow (nameAt sizeAt : Nat) (row : Nat) (record : Except Csv.Error Csv.Record) :
    Except Error Row :=
  match record with
  | .error e => .error (.unreadable e)
  | .ok record =>
    match readSize (cellAt record sizeAt) with
    | .ok size => .ok ⟨cellAt record nameAt, size⟩
    | .error _ => .error (.invalidSize row (cellAt record sizeAt))

/-- Rows from the one with the given number on. -/
def readRows (nameAt sizeAt : Nat) (row : Nat) :
    List (Except Csv.Error Csv.Record) → Except Error (List Row)
  | [] => .ok []
  | record :: rest => match readRow nameAt sizeAt row record with
    | .error e => .error e
    | .ok r => (readRows nameAt sizeAt (row + 1) rest).map (r :: ·)

def ofDocument (d : Csv.Document) : Except Error (List Row) :=
  match d.header with
  | .error e => .error (.unreadable e)
  | .ok header => do
    let nameAt ← columnOf nameColumn header
    let sizeAt ← columnOf sizeColumn header
    readRows nameAt sizeAt 1 d.records

/-- Reads a table; `path` only names it. Records may differ in length. -/
def Table.read (path : String) (bs : Bytes) : Except Error Table :=
  (ofDocument (.read false bs)).map fun rows => ⟨path, rows⟩

def Table.rowsFor (t : Table) (index : String) : List Row := t.rows.filter (·.name = index)

end Footprint.Results
