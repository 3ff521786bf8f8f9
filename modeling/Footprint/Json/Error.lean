import Footprint.Number.Style
import Footprint.Text.Quoted

/-! # Why a JSON text is refused -/
namespace Footprint.Json

/-- What makes a text no JSON. -/
inductive Malformed
  | endInList | endInObject | endInString | endInValue
  | colonExpected | listCommaExpected | objectCommaExpected | identExpected | valueExpected
  | badEscape | badNumber | numberRange | controlCharacter | keyExpected | loneSurrogate
  | trailingComma | trailingCharacters | endOfEscape
deriving Repr, DecidableEq

def Malformed.message : Malformed → String
  | .endInList => "EOF while parsing a list"
  | .endInObject => "EOF while parsing an object"
  | .endInString => "EOF while parsing a string"
  | .endInValue => "EOF while parsing a value"
  | .colonExpected => "expected `:`"
  | .listCommaExpected => "expected `,` or `]`"
  | .objectCommaExpected => "expected `,` or `\x7d`"
  | .identExpected => "expected ident"
  | .valueExpected => "expected value"
  | .badEscape => "invalid escape"
  | .badNumber => "invalid number"
  | .numberRange => "number out of range"
  | .controlCharacter =>
    "control character (\\u0000-\\u001F) found while parsing a string"
  | .keyExpected => "key must be a string"
  | .loneSurrogate => "lone leading surrogate in hex escape"
  | .trailingComma => "trailing comma"
  | .trailingCharacters => "trailing characters"
  | .endOfEscape => "unexpected end of hex escape"

/-- What stands where a value of another kind belongs. -/
inductive Found
  | null
  | boolean (b : Bool)
  | integer (n : Int)
  | real (v : Float)
  | text (s : String)
  | sequence
  | map

def Found.message : Found → String
  | .null => "null"
  | .boolean b => s!"boolean `{b}`"
  | .integer n => s!"integer `{n}`"
  | .real v => s!"floating point `{Number.Style.plotData.text v}`"
  | .text s => s!"string {Text.quoted s}"
  | .sequence => "sequence"
  | .map => "map"

inductive Error
  | malformed (m : Malformed)
  | invalidType (found : Found) (expected : String)
  | invalidValue (found : Found) (expected : String)
  | invalidLength (length : Nat) (expected : String)
  | missingField (name : String)
  | duplicateField (name : String)

def Error.message : Error → String
  | .malformed m => m.message
  | .invalidType found expected => s!"invalid type: {found.message}, expected {expected}"
  | .invalidValue found expected => s!"invalid value: {found.message}, expected {expected}"
  | .invalidLength length expected => s!"invalid length {length}, expected {expected}"
  | .missingField name => s!"missing field `{name}`"
  | .duplicateField name => s!"duplicate field `{name}`"

end Footprint.Json
