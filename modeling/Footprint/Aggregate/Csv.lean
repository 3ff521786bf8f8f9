import Footprint.Aggregate.Table
import Footprint.Csv.Document
import Footprint.Csv.Encoding
import Footprint.Number.Reader
import Footprint.Number.Style

/-! # Aggregates as comma-separated text: indexes are columns, tasks are rows -/
namespace Footprint.Aggregate

def cellText (value : Float) : String := Number.Style.cell.text value

def record (t : Aggregate) (task : String) : List String :=
  task :: t.indexes.map fun index => ((t.get? index task).map cellText).getD ""

def records (t : Aggregate) : List (List String) :=
  ("" :: t.indexes) :: t.populatedTasks.map t.record

/-- Tasks without any value are left out. -/
def toCsv (t : Aggregate) : Bytes := Csv.encodeText t.records

inductive ReadError
  | csv (cause : Csv.Error)
  | missingTask
  | width (task : String) (found expected : Nat)
  | value (index task cell : String) (cause : Number.ReadError)
deriving Repr, DecidableEq

def ReadError.chain : ReadError → List String
  | .csv cause => [cause.message]
  | .missingTask => ["Missing task column"]
  | .width task found expected => [s!"Row for {task} has {found} cells, expected {expected}"]
  | .value index task cell cause => [s!"Parse {index}/{task} value '{cell}'", cause.message]

/-- The cells of one row from left to right; an empty one holds no value. -/
def insertCells (task : String) (t : Aggregate) :
    List (String × String) → Except ReadError Aggregate
  | [] => .ok t
  | (index, cell) :: rest =>
    if cell = "" then insertCells task t rest
    else match Number.read cell with
      | .ok value => insertCells task (t.insert index task value) rest
      | .error cause => .error (.value index task cell cause)

def insertRecord (indexes : List String) (t : Aggregate) (record : Except Csv.Error Csv.Record) :
    Except ReadError Aggregate :=
  match record with
  | .error e => .error (.csv e)
  | .ok [] => .error .missingTask
  | .ok (task :: cells) =>
    if cells.length = indexes.length then
      insertCells task { t with tasks := appendNew task t.tasks } (indexes.zip cells)
    else .error (.width task (cells.length + 1) (indexes.length + 1))

/-- Reads the layout that `toCsv` writes. -/
def ofCsv (workload : String) (bs : Bytes) : Except ReadError Aggregate :=
  let d := Csv.Document.read true bs
  match d.header with
  | .error e => .error (.csv e)
  | .ok header =>
    d.records.foldlM (insertRecord header.tail) (new workload header.tail [])

end Footprint.Aggregate
