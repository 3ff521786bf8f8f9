import Footprint.Fault
import Footprint.Results.Table

/-! # The mean size of an index over the rows of a results table -/
namespace Footprint.Results

/-- Why a table has no mean size for an index. -/
inductive Miss
  | noRows (index : String)
  | noSizes (index : String) (rows : Nat)
deriving Repr, DecidableEq

def Miss.message : Miss → String
  | .noRows index => s!"no rows for index {index}"
  | .noSizes index rows => s!"{rows} rows for index {index} but none has a size"

/-- Rows seen, how many of them have a size, and the sum of the sizes in row order. -/
structure Tally where
  rows : Nat
  sized : Nat
  sum : Float

/-- Sizes are counted in a signed word of 32 bits. -/
def sizedLimit : Nat := Nat.pow 2 31

def Tally.add (t : Tally) (r : Row) : Except (Stop Miss) Tally :=
  match r.size with
  | none => .ok { t with rows := t.rows + 1 }
  | some size =>
    if t.sized + 1 < sizedLimit then .ok ⟨t.rows + 1, t.sized + 1, t.sum + size⟩
    else .error (.fault .addition)

def tally : List Row → Except (Stop Miss) Tally := List.foldlM Tally.add ⟨0, 0, 0.0⟩

def Tally.mean (index : String) (t : Tally) : Except (Stop Miss) Float :=
  if t.rows = 0 then .error (.error (.noRows index))
  else if t.sized = 0 then .error (.error (.noSizes index t.rows))
  else .ok (t.sum / t.sized.toFloat)

def Table.meanSize (t : Table) (index : String) : Except (Stop Miss) Float := do
  (← tally (t.rowsFor index)).mean index

end Footprint.Results
