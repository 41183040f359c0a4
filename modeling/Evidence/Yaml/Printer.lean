import Evidence.Yaml.Scalar
import Evidence.Yaml.Value

/-!
# Writing documents

The block form of YAML: lists with hyphens, records with keys and colons, each level two spaces
deeper, and the lists of a record as deep as its keys.

Main definitions:

- `Yaml.isSimpleKey`: whether a key may stand before its colon on one line.
- `Yaml.numberLayout`: how floating point numbers are laid out.
- `Yaml.leaf`: the written form of a value without parts.
- `Yaml.afterMark`, `Yaml.afterKey`, `Yaml.items` and `Yaml.fields`: the parts of a document.
- `Yaml.render`: the document of a value.
-/

namespace Evidence.Yaml

open Scalar (spaces)

/-- The columns that a level is deeper than the one around it. -/
def step : Nat := 2

/-- The most bytes of a key that stands before its colon on one line. -/
def simpleKeyLimit : Nat := 128

/-- Whether a key may stand before its colon on one line. -/
def isSimpleKey (key : Text) : Bool :=
  !key.any Scalar.isBreak && Text.byteLength key ≤ simpleKeyLimit

/-- A key in front of its colon, without the end of its line. -/
def keyText (key : Text) : Text :=
  (Scalar.write 0 key).dropLast

/-- Numbers are written positionally from four zeros behind the point to sixteen places in front
of it, and otherwise with a bare exponent. -/
def numberLayout : Binary64.Layout where
  leastPoint := -4
  greatestPoint := 16
  signed := false

/-- What stands for a value without parts on the line that it ends; a text has its further
lines at `indent`. -/
def leaf (indent : Nat) : Value → Text
  | .null => "null\n".toList
  | .bool b => (if b then "true\n" else "false\n").toList
  | .int n => Decimal.ofInt n ++ ['\n']
  | .float x => x.text numberLayout ++ ['\n']
  | .text t => Scalar.write indent t
  | .list _ => "[]\n".toList
  | .record _ => "\x7b\x7d\n".toList

mutual

/-- A value on the line of a mark such as a hyphen, where its further lines are at `indent`: the
first item or field of a value that has some stands on the line of the mark. -/
def afterMark (indent : Nat) : Value → Text
  | .list values =>
    if values.isEmpty then ' ' :: leaf indent (.list [])
    else ' ' :: (items indent values).drop indent
  | .record entries =>
    if entries.isEmpty then ' ' :: leaf indent (.record [])
    else ' ' :: (fields indent entries).drop indent
  | v => ' ' :: leaf indent v

/-- A value behind the colon of a key that stands at `indent`: items are as deep as the key,
fields a step deeper. -/
def afterKey (indent : Nat) : Value → Text
  | .list values =>
    if values.isEmpty then ' ' :: leaf indent (.list []) else '\n' :: items indent values
  | .record entries =>
    if entries.isEmpty then ' ' :: leaf indent (.record [])
    else '\n' :: fields (indent + step) entries
  | v => ' ' :: leaf (indent + step) v

/-- A field at `indent`.  A key that is not simple stands behind a question mark, on lines of its
own. -/
def entry (indent : Nat) : Text × Value → Text
  | (key, v) =>
    if isSimpleKey key then spaces indent ++ keyText key ++ ':' :: afterKey indent v
    else spaces indent ++ "? ".toList ++ Scalar.write (indent + step) key
      ++ spaces indent ++ ':' :: afterMark (indent + step) v

/-- The items of a list, each behind a hyphen at `indent`. -/
def items (indent : Nat) : List Value → Text
  | [] => []
  | v :: vs => spaces indent ++ '-' :: afterMark (indent + step) v ++ items indent vs

/-- The fields of a record, each at `indent`. -/
def fields (indent : Nat) : List (Text × Value) → Text
  | [] => []
  | first :: rest => entry indent first ++ fields indent rest

end

/-- The document of a value. -/
def render : Value → Text
  | .list (v :: vs) => items 0 (v :: vs)
  | .record (first :: rest) => fields 0 (first :: rest)
  | v => leaf step v

end Evidence.Yaml
