import Evidence.Json.Number

/-!
# Writing JSON

Values as JSON without any blanks.

Main definitions:

- `Json.quote`: a text between double quotes.
- `Json.write`: the written form of a value.
-/

namespace Evidence.Json

open Yaml (Value)

/-- How a character stands between double quotes. -/
def escape (c : Char) : Text :=
  if c = '"' then ['\\', '"']
  else if c = '\\' then ['\\', '\\']
  else if c = '\x08' then ['\\', 'b']
  else if c = '\t' then ['\\', 't']
  else if c = '\n' then ['\\', 'n']
  else if c = '\x0c' then ['\\', 'f']
  else if c = '\r' then ['\\', 'r']
  else if c.toNat < 0x20 then "\\u00".toList ++ Hex.ofByte (UInt8.ofNat c.toNat)
  else [c]

/-- A text between double quotes. -/
def quote (t : Text) : Text :=
  '"' :: t.flatMap escape ++ ['"']

mutual

/-- The written form of a value. -/
def write : Value → Text
  | .null => "null".toList
  | .bool b => (if b then "true" else "false").toList
  | .int n => Decimal.ofInt n
  | .float x => x.text numberLayout
  | .text t => quote t
  | .list vs => '[' :: [','].intercalate (writeItems vs) ++ [']']
  | .record entries => '\x7b' :: [','].intercalate (writeFields entries) ++ ['\x7d']

/-- The written forms of items. -/
def writeItems : List Value → List Text
  | [] => []
  | v :: vs => write v :: writeItems vs

/-- The written forms of fields. -/
def writeFields : List (Text × Value) → List Text
  | [] => []
  | (name, v) :: rest => (quote name ++ ':' :: write v) :: writeFields rest

end

end Evidence.Json
