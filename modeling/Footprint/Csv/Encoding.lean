import Footprint.Csv.Records

/-! # Writing comma-separated text -/
namespace Footprint.Csv

def needsQuotes (f : Bytes) : Bool := f.any fun b => b = comma || b = quote || isLineEnd b

def doubleQuotes (f : Bytes) : Bytes := f.flatMap fun b => if b = quote then [quote, quote] else [b]

def quoteField (f : Bytes) : Bytes := quote :: (doubleQuotes f ++ [quote])

def encodeField (f : Bytes) : Bytes := if needsQuotes f then quoteField f else f

/-- A record of one empty field is quoted, since a blank line is no record. -/
def encodeRecord (fs : Fields) : Bytes :=
  (if fs = [[]] then quoteField [] else List.intercalate [comma] (fs.map encodeField)) ++ [lineFeed]

def encode (records : List Fields) : Bytes := records.flatMap encodeRecord

def encodeText (records : List (List String)) : Bytes := encode (records.map (·.map Text.bytes))

end Footprint.Csv
