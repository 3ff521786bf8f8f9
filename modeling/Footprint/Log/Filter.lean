import Footprint.Log.Directive
import Footprint.Text.Split

/-! # Filters: which events a log shows -/
namespace Footprint.Log

/-- The part of a directive that needs no span and no values. -/
structure Rule where
  target : Option String
  fields : List String
  threshold : Threshold
deriving Repr, DecidableEq

namespace Rule

/-- Longer targets stand before shorter ones, those before none, and then more fields before
fewer. -/
def precedes (a b : Rule) : Bool :=
  let size (r : Rule) := (r.target.map fun t => t.utf8ByteSize + 1).getD 0
  size b < size a || size a = size b && b.fields.length < a.fields.length

def sameScope (a b : Rule) : Bool := a.target = b.target && a.fields = b.fields

/-- Events have one field, the message. -/
def concerns (r : Rule) (e : Event) : Bool :=
  (match r.target with
    | none => true
    | some t => t.toList.isPrefixOf e.source.target.toList) &&
  r.fields.all (· = "message")

end Rule

def Directive.rule? (d : Directive) : Option Rule :=
  if d.span.isSome || d.fields.any (·.hasValue) then none
  else some ⟨d.target, d.fields.map (·.name), d.threshold⟩

/-- Rules, the most specific ones first. -/
structure Filter where
  rules : List Rule
deriving Repr, DecidableEq

namespace Filter

/-- A new rule replaces one of the same scope. -/
def insert (r : Rule) : List Rule → List Rule
  | [] => [r]
  | s :: rest =>
    if r.sameScope s then r :: rest
    else if r.precedes s then r :: s :: rest
    else s :: insert r rest

/-- No event is logged inside a span, so directives that need one change nothing. -/
def add (f : Filter) (d : Directive) : Filter := match d.rule? with
  | some r => ⟨insert r f.rules⟩
  | none => f

/-- The filter of some directives; without any, errors are shown. -/
def ofDirectives (ds : List Directive) : Filter :=
  if ds = [] then ⟨[⟨none, [], some .error⟩]⟩ else ds.foldl add ⟨[]⟩

/-- The first rule that concerns an event decides. -/
def shows (f : Filter) (e : Event) : Bool := match f.rules.find? (·.concerns e) with
  | some r => r.threshold.admits e.level
  | none => false

def readAll (check : ValueCheck) (f : Filter) : List String → Except DirectiveError Filter
  | [] => .ok f
  | s :: rest => match Directive.read check s with
    | .ok d => readAll check (f.add d) rest
    | .error e => .error e

/-- The directives among the parts of a list with commas, and the parts that are none. -/
def readParts (check : ValueCheck) : List (List Char) →
    List (String × DirectiveError) × Except DirectiveError (List Directive)
  | [] => ([], .ok [])
  | [] :: rest => readParts check rest
  | part :: rest => match Directive.read check (.ofList part) with
    | .ok d => let (left, ds) := readParts check rest; (left, ds.map (d :: ·))
    | .error (.boundary i) => ([], .error (.boundary i))
    | .error e => let (left, ds) := readParts check rest; ((.ofList part, e) :: left, ds)

/-- What the program's own level is followed by, and then that of the report's steps. The parts of
the first that are no directives are left out and returned; all else has to be readable. -/
def read (check : ValueCheck) (level : String) (more : List String) :
    List (String × DirectiveError) × Except DirectiveError Filter :=
  let (left, ds) := readParts check (Text.split ',' ("index_size_report=" ++ level).toList)
  (left, ds.bind fun ds => readAll check (ofDirectives ds) (("report_common=" ++ level) :: more))

end Filter
end Footprint.Log
