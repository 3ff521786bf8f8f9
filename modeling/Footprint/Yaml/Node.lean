import Footprint.Assoc
import Footprint.Yaml.Token

/-! # Nodes of a YAML document

An alias refers to an anchored node by number, and a node may refer to itself. -/
namespace Footprint.Yaml

inductive Node
  | scalar (tag : Option String) (style : Style) (text : String)
  | sequence (items : List Node)
  | mapping (entries : List (Node × Node))
  | alias (n : Nat)

/-- The node that an omitted value stands for. -/
def Node.empty : Node := .scalar none .plain ""

/-- The anchors so far. A new one is numbered by the count of names before it, so that a name given
again may share its number with a later name. -/
structure Anchors where
  names : Assoc String Nat
  /-- How many nodes have begun with an anchor. -/
  begun : Nat
  /-- For each number, which of those nodes was the last to take it. -/
  holders : Assoc Nat Nat
  /-- The finished ones of those nodes. -/
  nodes : Assoc Nat Node

namespace Anchors

def empty : Anchors := ⟨[], 0, [], []⟩

/-- A node begins with an anchor. -/
def start (a : Anchors) (name : String) : Anchors :=
  let n := a.names.length
  ⟨a.names.insert name n, a.begun + 1, a.holders.insert n a.begun, a.nodes⟩

/-- The node that began as number `i` ends. -/
def finish (a : Anchors) (i : Nat) (x : Node) : Anchors := { a with nodes := a.nodes.insert i x }

/-- The node of each number. -/
def toAssoc (a : Anchors) : Assoc Nat Node :=
  a.holders.filterMap fun (n, i) => (a.nodes.find? i).map fun x => (n, x)

end Anchors

abbrev TagNames := Assoc String String

def standardTags : TagNames := [("!", "!"), ("!!", "tag:yaml.org,2002:")]

/-- The tag that a handle and a suffix write. -/
def resolveTag (tags : TagNames) (handle suffix : String) : Option String :=
  if handle = "" then some suffix else (tags.find? handle).map (· ++ suffix)

/-- An anchor and a tag, in either order. -/
def properties (tags : TagNames) :
    List Token → Option (Option String × Option String × List Token)
  | .anchor name :: .tag handle suffix :: r => do
    some (some name, some (← resolveTag tags handle suffix), r)
  | .tag handle suffix :: .anchor name :: r => do
    some (some name, some (← resolveTag tags handle suffix), r)
  | .anchor name :: r => some (some name, none, r)
  | .tag handle suffix :: r => do some (none, some (← resolveTag tags handle suffix), r)
  | r => some (none, none, r)

/-- A node of its tag; the tag `!` leaves a scalar without one. -/
def scalarNode (tag : Option String) (style : Style) (text : String) : Node :=
  .scalar (if tag = some "!" then none else tag) style text

/-- The entries of a block mapping end here, or go on with another one. -/
def atBlockMark : List Token → Bool
  | .key :: _ | .value :: _ | .blockEnd :: _ => true
  | _ => false

def atFlowMappingMark : List Token → Bool
  | .flowEntry :: _ | .flowMappingEnd :: _ => true
  | _ => false

def atFlowSequenceMark : List Token → Bool
  | .flowEntry :: _ | .flowSequenceEnd :: _ => true
  | _ => false

/-- Passes the comma between two entries; none stands in front of the first one. -/
def passComma (first : Bool) : List Token → Option (List Token)
  | .flowEntry :: r => if first then some (.flowEntry :: r) else some r
  | r => if first then some r else none

mutual

/-- The node in front. Blocks stand only where `block` holds, and entries without indentation only
where `indentless` holds. -/
def node (tags : TagNames) : Nat → Bool → Bool → Anchors → List Token →
    Option (Node × Anchors × List Token)
  | 0, _, _, _, _ => none
  | _ + 1, _, _, a, .alias name :: r => (a.names.find? name).map fun n => (.alias n, a, r)
  | fuel + 1, block, indentless, a, ts => do
    let (name, tag, ts) ← properties tags ts
    match name with
    | none => content tags fuel block indentless tag tag.isSome a ts
    | some name =>
      let (x, b, ts) ← content tags fuel block indentless tag true (a.start name) ts
      some (x, b.finish a.begun x, ts)

/-- The node behind its properties; with any of them it may be omitted. -/
def content (tags : TagNames) : Nat → Bool → Bool → Option String → Bool → Anchors → List Token →
    Option (Node × Anchors × List Token)
  | 0, _, _, _, _, _, _ => none
  | fuel + 1, block, indentless, tag, omittable, a, ts =>
    match ts with
    | .scalar style text :: r => some (scalarNode tag style text, a, r)
    | .flowSequenceStart :: r => do
      let (xs, a, r) ← flowSequence tags fuel true a r
      some (.sequence xs, a, r)
    | .flowMappingStart :: r => do
      let (es, a, r) ← flowMapping tags fuel true a r
      some (.mapping es, a, r)
    | ts =>
      match block, indentless, ts with
      | _, true, .blockEntry :: _ => do
        let (xs, a, r) ← entries tags fuel a ts
        some (.sequence xs, a, r)
      | true, _, .blockSequenceStart :: r => do
        let (xs, a, r) ← blockSequence tags fuel a r
        some (.sequence xs, a, r)
      | true, _, .blockMappingStart :: r => do
        let (es, a, r) ← blockMapping tags fuel a r
        some (.mapping es, a, r)
      | _, _, _ => if omittable then some (.scalar tag .plain "", a, ts) else none

/-- Entries at the column of the mapping around them. -/
def entries (tags : TagNames) : Nat → Anchors → List Token →
    Option (List Node × Anchors × List Token)
  | 0, _, _ => none
  | fuel + 1, a, ts =>
    match ts with
    | .blockEntry :: r => do
      let bare := match r with
        | .blockEntry :: _ => true
        | r => atBlockMark r
      let (x, a, r) ← if bare then some (.empty, a, r) else node tags fuel true false a r
      let (xs, a, r) ← entries tags fuel a r
      some (x :: xs, a, r)
    | ts => some ([], a, ts)

def blockSequence (tags : TagNames) : Nat → Anchors → List Token →
    Option (List Node × Anchors × List Token)
  | 0, _, _ => none
  | fuel + 1, a, ts =>
    match ts with
    | .blockEnd :: r => some ([], a, r)
    | .blockEntry :: r => do
      let bare := match r with
        | .blockEntry :: _ | .blockEnd :: _ => true
        | _ => false
      let (x, a, r) ← if bare then some (.empty, a, r) else node tags fuel true false a r
      let (xs, a, r) ← blockSequence tags fuel a r
      some (x :: xs, a, r)
    | _ => none

def blockMapping (tags : TagNames) : Nat → Anchors → List Token →
    Option (List (Node × Node) × Anchors × List Token)
  | 0, _, _ => none
  | fuel + 1, a, ts =>
    match ts with
    | .blockEnd :: r => some ([], a, r)
    | .key :: r => do
      let (k, a, r) ← if atBlockMark r then some (.empty, a, r) else node tags fuel true true a r
      let (v, a, r) ← match r with
        | .value :: r => if atBlockMark r then some (.empty, a, r) else node tags fuel true true a r
        | r => some (.empty, a, r)
      let (es, a, r) ← blockMapping tags fuel a r
      some ((k, v) :: es, a, r)
    | _ => none

def flowSequence (tags : TagNames) : Nat → Bool → Anchors → List Token →
    Option (List Node × Anchors × List Token)
  | 0, _, _, _ => none
  | _ + 1, _, a, .flowSequenceEnd :: r => some ([], a, r)
  | fuel + 1, first, a, ts => do
    match ← passComma first ts with
    | .flowSequenceEnd :: r => some ([], a, r)
    | .key :: r =>
      let (k, a, r) ← match r with
        | .value :: r | .flowEntry :: r | .flowSequenceEnd :: r => some (.empty, a, r)
        | r => node tags fuel false false a r
      let (v, a, r) ← match r with
        | .value :: r =>
          if atFlowSequenceMark r then some (.empty, a, r) else node tags fuel false false a r
        | r => some (.empty, a, r)
      let (xs, a, r) ← flowSequence tags fuel false a r
      some (.mapping [(k, v)] :: xs, a, r)
    | r =>
      let (x, a, r) ← node tags fuel false false a r
      let (xs, a, r) ← flowSequence tags fuel false a r
      some (x :: xs, a, r)

def flowMapping (tags : TagNames) : Nat → Bool → Anchors → List Token →
    Option (List (Node × Node) × Anchors × List Token)
  | 0, _, _, _ => none
  | _ + 1, _, a, .flowMappingEnd :: r => some ([], a, r)
  | fuel + 1, first, a, ts => do
    match ← passComma first ts with
    | .flowMappingEnd :: r => some ([], a, r)
    | .key :: r =>
      let bare := match r with
        | .value :: _ => true
        | r => atFlowMappingMark r
      let (k, a, r) ← if bare then some (.empty, a, r) else node tags fuel false false a r
      let (v, a, r) ← match r with
        | .value :: r =>
          if atFlowMappingMark r then some (.empty, a, r) else node tags fuel false false a r
        | r => some (.empty, a, r)
      let (es, a, r) ← flowMapping tags fuel false a r
      some ((k, v) :: es, a, r)
    | r =>
      let (k, a, r) ← node tags fuel false false a r
      let (es, a, r) ← flowMapping tags fuel false a r
      some ((k, .empty) :: es, a, r)

end

/-- A document; an empty text has no root. -/
structure Document where
  root : Option Node
  anchors : Assoc Nat Node

namespace Document

/-- The node that an alias stands for. -/
def resolve (d : Document) : Node → Node
  | .alias n => (d.anchors.find? n).getD .empty
  | x => x

/-- The directives in front: at most one version, which is 1.1 or 1.2, and one prefix a handle. -/
def directives (versioned : Bool) (tags : TagNames) :
    List Token → Option (TagNames × List Token)
  | .directive (.version major minor) :: r =>
    if !versioned ∧ major = 1 ∧ (minor = 1 ∨ minor = 2) then directives true tags r else none
  | .directive (.tag handle pre) :: r =>
    if tags.contains handle then none else directives versioned (tags.insert handle pre) r
  | r => some (tags, r)

def startsContent : List Token → Bool
  | [] => false
  | .directive _ :: _ | .documentStart :: _ | .documentEnd :: _ => false
  | _ => true

/-- Nothing but end marks. -/
def atEnd (ts : List Token) : Bool := ts.all fun t => t = .documentEnd

def ofTokens? (ts : List Token) : Option Document := do
  if ts = [] then some ⟨none, []⟩
  else
    let (tags, rest) ← directives false [] ts
    let tags := tags ++ standardTags
    let (explicit, ts) ← match rest with
      | .documentStart :: r => some (true, r)
      | r => if r.length = ts.length then some (false, r) else none
    let (x, a, r) ←
      if explicit && !startsContent ts then some (.empty, .empty, ts)
      else node tags (3 * ts.length + 3) true false .empty ts
    if atEnd r then some ⟨some x, a.toAssoc⟩ else none

/-- The document of a text, if the text is exactly one. -/
def parse? (text : String) : Option Document := do ofTokens? (← tokens? text)

end Document
end Footprint.Yaml
