import Footprint.Text.Split

/-! # Paths as text -/
namespace Footprint

/-- A path as it is shown. It need not be text: in `strays` are the characters that stand for bytes
which belong to no character. -/
structure PathText where
  shown : String
  strays : List Char := []

namespace PathText

instance : Coe String PathText := ⟨fun shown => { shown }⟩

instance : Coe PathText String := ⟨shown⟩

def isText (p : PathText) : Bool := p.shown.toList.all (!p.strays.contains ·)

end PathText

namespace Path

inductive Component
  | root
  | current
  | parent
  | name (s : String)
deriving Repr, DecidableEq

def isAbsolute (path : String) : Bool := path.toList.head? = some '/'

/-- `rest` below `base`; an absolute `rest` stands alone. -/
def join (base rest : String) : String :=
  if isAbsolute rest then rest
  else if base.toList.getLast?.all (· = '/') then base ++ rest
  else base ++ "/" ++ rest

/-- The parts of a path between its slashes. -/
def parts (cs : List Char) : List (List Char) := Text.split '/' cs

def componentOf (p : List Char) : Component :=
  if p = ['.'] then .current else if p = ['.', '.'] then .parent else .name (.ofList p)

/-- Empty parts do not count, and `.` counts only in front of a relative path. -/
def components (path : String) : List Component :=
  let all := (parts path.toList).filter (· ≠ [])
  if isAbsolute path then .root :: (all.map componentOf).filter (· ≠ .current)
  else match all.map componentOf with
    | .current :: rest => .current :: rest.filter (· ≠ .current)
    | rest => rest.filter (· ≠ .current)

def Component.text : Component → String
  | .root => "/"
  | .current => "."
  | .parent => ".."
  | .name s => s

def ofComponents (cs : List Component) : String := cs.foldl (fun path c => join path c.text) ""

/-- The path without its last component; a root and the empty path have none. -/
def parent? (path : String) : Option String :=
  match (components path).getLast? with
  | none | some .root => none
  | some _ => some (ofComponents (components path).dropLast)

/-- The last component, if it is a name. -/
def fileName? (path : String) : Option String :=
  match (components path).getLast? with
  | some (.name s) => some s
  | _ => none

/-- A file name up to its last point; one that stands in front belongs to the stem. -/
def stemChars (cs : List Char) : List Char :=
  match (cs.reverse.dropWhile (· ≠ '.')).drop 1 with
  | [] => cs
  | r => r.reverse

def stem? (path : String) : Option String :=
  (fileName? path).map fun s => .ofList (stemChars s.toList)

/-- The stem of a path's last name, if that is text. -/
def textStem? (path : PathText) : Option String :=
  (stem? path).filter fun stem => PathText.isText ⟨stem, path.strays⟩

end Path
end Footprint
