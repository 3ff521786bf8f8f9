import Footprint.Assoc

/-! # Aggregates: the mean size of each index under each task, for one workload

Columns and rows keep the order of the index and task lists. A pair without a value stays absent. -/
namespace Footprint

structure Aggregate where
  workload : String
  indexes : List String
  tasks : List String
  values : Assoc String (Assoc String Float)

/-- Adds `x` at the end unless it is there. -/
def appendNew (x : String) (xs : List String) : List String := if x ∈ xs then xs else xs ++ [x]

namespace Aggregate

/-- The empty aggregate; every index has a column of its own. -/
def new (workload : String) (indexes tasks : List String) : Aggregate :=
  ⟨workload, indexes, tasks, indexes.foldl (fun m index => m.insert index []) []⟩

def column (t : Aggregate) (index : String) : Assoc String Float := (t.values.find? index).getD []

def insert (t : Aggregate) (index task : String) (value : Float) : Aggregate :=
  { t with
    indexes := appendNew index t.indexes
    tasks := appendNew task t.tasks
    values := t.values.insert index ((t.column index).insert task value) }

def get? (t : Aggregate) (index task : String) : Option Float := (t.column index).find? task

/-- A missing pair is drawn flat. -/
def barHeight (t : Aggregate) (index task : String) : Float := (t.get? index task).getD 0.0

/-- How many pairs have a value. -/
def size (t : Aggregate) : Nat := (t.values.map (·.2.length)).foldr (· + ·) 0

def isEmpty (t : Aggregate) : Bool := t.size = 0

/-- Some index has a value under `task`. -/
def hasTask (t : Aggregate) (task : String) : Bool := t.values.any fun (_, col) => col.contains task

def populatedTasks (t : Aggregate) : List String := t.tasks.filter t.hasTask

/-- Every pair with its value, by index and then task. -/
def cells (t : Aggregate) : List (String × String × Float) :=
  t.indexes.eraseDups.flatMap fun index => t.tasks.eraseDups.filterMap fun task =>
    (t.get? index task).map (index, task, ·)

/-- The same workload, lists and values; a value that is not a number differs from itself. -/
def same (t u : Aggregate) : Bool :=
  t.workload = u.workload && t.indexes = u.indexes && t.tasks = u.tasks &&
    t.values.same (Assoc.same (· == ·)) u.values

end Aggregate
end Footprint
