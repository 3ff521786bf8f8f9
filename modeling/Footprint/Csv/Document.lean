import Footprint.Csv.Records

/-! # Comma-separated text with a header, and the faults of its records -/
namespace Footprint.Csv

inductive Error
  | invalidText (record : Nat) (place : Place) (field offset : Nat)
  | unequalLengths (record : Nat) (place : Place) (found expected : Nat)
deriving Repr, DecidableEq

def Error.message : Error → String
  | .invalidText record place field offset =>
    s!"CSV parse error: record {record} (line {place.line}, field: {field}, " ++
      s!"byte: {place.byte}): invalid utf-8: invalid UTF-8 in field {field} " ++
      s!"near byte index {offset}"
  | .unequalLengths record place found expected =>
    s!"CSV error: record {record} (line: {place.line}, byte: {place.byte}): " ++
      s!"found record with {found} fields, but the previous record has {expected} fields"

abbrev Record := List String

/-- The fields as text, or the first field that is none and where it stops being so. -/
def recordText (field : Nat) : Fields → Except (Nat × Nat) Record
  | [] => .ok []
  | f :: fs => match Text.ofBytes? f with
    | some s => (recordText (field + 1) fs).map (s :: ·)
    | none => .error (field, Text.validLength f)

/-- One record as text. Where `width` is given the record has that many fields. -/
def Row.read (width : Option Nat) (record : Nat) (r : Row) : Except Error Record :=
  let text := match recordText 0 r.fields with
    | .ok fields => .ok fields
    | .error (field, offset) => .error (.invalidText record r.place field offset)
  match width with
  | some expected =>
    if r.fields.length = expected then text
    else .error (.unequalLengths record r.place r.fields.length expected)
  | none => text

structure Document where
  header : Except Error Record
  records : List (Except Error Record)

/-- Reads `bs`; with `uniform` every record has as many fields as the header. -/
def Document.read (uniform : Bool) (bs : Bytes) : Document :=
  match rows bs with
  | [] => ⟨.ok [], []⟩
  | r :: rs =>
    let width := if uniform then some r.fields.length else none
    ⟨r.read none 0, rs.mapIdx fun i r => r.read width (i + 1)⟩

end Footprint.Csv
