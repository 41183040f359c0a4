import Evidence.Decimal.Binary64
import Evidence.SortedMap

/-!
# Documents

The values that a YAML document is written from.

Main definitions:

- `Yaml.Value`: null, booleans, numbers, texts, lists and records.
- `Yaml.Value.recordOf`: a record with its fields in the order of their names.
- `Yaml.Value.field`: a field of a record.
-/

namespace Evidence.Yaml

/-- A value of a document.  The fields of a record stay in the order in which they are given. -/
inductive Value where
  | null
  | bool (b : Bool)
  | int (n : Int)
  | float (x : Binary64)
  | text (t : Text)
  | list (items : List Value)
  | record (fields : List (Text × Value))
deriving Inhabited, Repr

namespace Value

/-- A record with its fields in the order of their names; of two with one name the later
counts. -/
def recordOf (fields : List (Text × Value)) : Value :=
  .record (SortedMap.ofList fields).entries

/-- A field of a record; one that is missing, like any field of another value, is null. -/
def field (v : Value) (name : Text) : Value :=
  match v with
  | record fields => ((fields.find? (·.1 == name)).map (·.2)).getD null
  | _ => null

/-- The text of a value that is one. -/
def text? : Value → Option Text
  | text t => some t
  | _ => none

/-- The items of a list; other values have none. -/
def items : Value → List Value
  | list items => items
  | _ => []

end Value

end Evidence.Yaml
