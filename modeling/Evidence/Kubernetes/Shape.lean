import Evidence.Time.Lenient
import Evidence.Yaml.Value

/-!
# Shapes of objects

The objects of an API have fields of known shapes.  Reading a value by its shape keeps what the
shape knows, drops what it does not, and refuses what does not fit.

Main definitions:

- `Shape` and `Shape.Field`: what a value looks like, and a field of an object.
- `Shape.blank`: what stands for a field that must be there and is missing.
- `Shape.read?`: a value as its shape knows it.
-/

namespace Evidence.Kubernetes

open Yaml (Value)

mutual

/-- What a value looks like. -/
inductive Shape where
  /-- Any value at all. -/
  | any
  /-- A text. -/
  | text
  /-- A boolean. -/
  | bool
  /-- An integer with a sign, of so many bits. -/
  | int (bits : Nat)
  /-- An integer of 32 bits, or a text. -/
  | intOrText
  /-- An amount with its unit: a text, or an integer that is kept as its text. -/
  | quantity
  /-- A time, which is kept to the second. -/
  | time
  /-- A list of values of one shape. -/
  | list (item : Shape)
  /-- Names with values of one shape, in the order of the names. -/
  | map (value : Shape)
  /-- An object with known fields. -/
  | object (fields : List Shape.Field)

/-- A field of an object. -/
structure Shape.Field where
  name : String
  required : Bool
  shape : Shape

end

namespace Shape

/-- A field that may be missing. -/
def opt (name : String) (shape : Shape) : Field := ⟨name, false, shape⟩

/-- A field that is always written. -/
def req (name : String) (shape : Shape) : Field := ⟨name, true, shape⟩

mutual

/-- What stands for a field that must be there and is missing. -/
def blank : Shape → Value
  | any => .null
  | text => .text []
  | bool => .bool false
  | int _ => .int 0
  | intOrText => .int 0
  | quantity => .text []
  | time => .text "1970-01-01T00:00:00Z".toList
  | list _ => .list []
  | map _ => .record []
  | object fields => .record (blankFields fields)

/-- The fields of an object of which nothing is known. -/
def blankFields : List Field → List (Text × Value)
  | [] => []
  | f :: rest => blankField f ++ blankFields rest

/-- A field of an object of which nothing is known. -/
def blankField : Field → List (Text × Value)
  | ⟨name, required, shape⟩ => if required then [(name.toList, blank shape)] else []

end

/-- Whether an integer with a sign fits into so many bits. -/
def fits (bits : Nat) (n : Int) : Bool :=
  -Nat.pow 2 (bits - 1) ≤ n && n < Nat.pow 2 (bits - 1)

/-- Whether an integer fits into 64 bits, with a sign or without one. -/
def fitsWord (n : Int) : Bool :=
  -Nat.pow 2 63 ≤ n && n < Nat.pow 2 64

/-- A time to the second, in the zone UTC. -/
def timeText (i : Instant) : Text :=
  Instant.clockText 'T' i ++ ['Z']

mutual

/-- A value as its shape knows it, if it fits. -/
def read? : Shape → Value → Option Value
  | any, v => some v
  | text, .text t => some (.text t)
  | bool, .bool b => some (.bool b)
  | int bits, .int n => if fits bits n then some (.int n) else none
  | intOrText, .int n => if fits 32 n then some (.int n) else none
  | intOrText, .text t => some (.text t)
  | quantity, .int n => if fitsWord n then some (.text (Decimal.ofInt n)) else none
  | quantity, .text t => some (.text t)
  | time, .text t => (LenientTime.instant? t).map fun i => .text (timeText i)
  | list item, .list vs => (vs.mapM (read? item)).map .list
  | map value, .record entries =>
    (entries.mapM fun e => (read? value e.2).map fun w => (e.1, w)).map Value.recordOf
  | object fields, .record entries => (readFields? fields (.record entries)).map .record
  | _, _ => none

/-- The known fields of an object. -/
def readFields? : List Field → Value → Option (List (Text × Value))
  | [], _ => some []
  | f :: rest, v => do
    let here ← readField? f v
    let more ← readFields? rest v
    return here ++ more

/-- One field of an object; a field that is null is the same as one that is missing. -/
def readField? : Field → Value → Option (List (Text × Value))
  | ⟨name, required, shape⟩, v =>
    match v.field name.toList with
    | .null => some (if required then [(name.toList, blank shape)] else [])
    | w => (read? shape w).map fun w => [(name.toList, w)]

end

end Shape

end Evidence.Kubernetes
