import Evidence.Yaml.Value

/-!
# Numbers of JSON

A number of JSON is an integer when it has neither a point nor an exponent and fits into 64 bits,
and a floating point number otherwise.  Floating point numbers are read fast and not always to
the nearest one: as many digits as fit into 64 bits are rounded, and the result is scaled by a
power of ten and rounded again.

Main definitions:

- `Json.scaled?`: digits times a power of ten, rounded after each step.
- `Json.number?`: the number that a spelling denotes.
- `Json.numberLayout`: how floating point numbers are laid out.
- `Json.received`: a value after it was sent as JSON.
-/

namespace Evidence.Json

open Yaml (Value)

/-! ## Powers of ten -/

/-- The greatest power of ten that a number is scaled by in one step. -/
def greatestPower : Nat := 308

/-- A power of ten up to the greatest one. -/
def powerOfTen (e : Nat) : Binary64 :=
  (Binary64.nearest? false (Nat.pow 10 e) 1).getD ⟨false, 0, Binary64.leastExponent⟩

/-- A number times a power of ten.  Beyond the greatest power only zero has a product. -/
def scaleUp? (x : Binary64) (e : Nat) : Option Binary64 :=
  if e ≤ greatestPower then x.product? (powerOfTen e)
  else if x.mantissa = 0 then some x
  else none

/-- A number over a power of ten, in steps of the greatest power. -/
def scaleDown? (x : Binary64) (e : Nat) : Option Binary64 :=
  if e ≤ greatestPower then x.quotient? (powerOfTen e)
  else if x.mantissa = 0 then some x
  else (x.quotient? (powerOfTen greatestPower)).bind fun y => scaleDown? y (e - greatestPower)
termination_by e
decreasing_by simp only [greatestPower] at *; omega

/-- A whole number times a power of ten, rounded after each step. -/
def scaled? (negative : Bool) (n : Nat) (e : Int) : Option Binary64 :=
  (Binary64.nearest? negative n 1).bind fun x =>
    if 0 ≤ e then scaleUp? x e.toNat else scaleDown? x (-e).toNat

/-! ## Spellings -/

/-- Put digits behind a number for as long as it fits into 64 bits.  The result is the number,
how many digits it took, and what is left of the text. -/
def gather (n : Nat) : Text → Nat × Nat × Text
  | [] => (n, 0, [])
  | c :: rest =>
    let longer := 10 * n + Decimal.digitValue c
    if c.isDigit ∧ longer < Nat.pow 2 64 then
      let (n, count, rest) := gather longer rest
      (n, count + 1, rest)
    else (n, 0, c :: rest)

/-- A whole number times a power of ten, of which the spelling goes on with an exponent or ends. -/
def withExponent? (negative : Bool) (n : Nat) (e : Int) : Text → Option Binary64
  | _ :: '-' :: digits => scaled? negative n (e - Decimal.value digits)
  | _ :: '+' :: digits => scaled? negative n (e + Decimal.value digits)
  | _ :: digits => scaled? negative n (e + Decimal.value digits)
  | [] => scaled? negative n e

/-- The floating point number of a spelling that goes on behind its whole digits, of which
`dropped` did not fit into `n`. -/
def float? (negative : Bool) (n dropped : Nat) : Text → Option Binary64
  | '.' :: rest =>
    let (n, count, rest) := gather n rest
    withExponent? negative n ((dropped : Int) - count) (rest.dropWhile Char.isDigit)
  | rest => withExponent? negative n dropped rest

/-- An integer of at most 64 bits; minus zero and what lies below are floating point numbers. -/
def integer? (negative : Bool) (n : Nat) : Option Value :=
  if !negative then some (.int n)
  else if n = 0 ∨ Nat.pow 2 63 < n then (scaled? true n 0).map .float
  else some (.int (-(n : Int)))

/-- The number that a spelling denotes, if it is not too great for one. -/
def number? (t : Text) : Option Value :=
  let negative := t.head? == some '-'
  let (n, _, rest) := gather 0 (if negative then t.drop 1 else t)
  let dropped := (rest.takeWhile Char.isDigit).length
  match rest.dropWhile Char.isDigit with
  | [] => if dropped = 0 then integer? negative n else (float? negative n dropped []).map .float
  | rest => (float? negative n dropped rest).map .float

/-! ## Layout -/

/-- Numbers are written positionally from four zeros behind the point to sixteen places in front
of it, and otherwise with an exponent that always has a sign. -/
def numberLayout : Binary64.Layout where
  leastPoint := -4
  greatestPoint := 16
  signed := true

/-! ## Values that were sent -/

mutual

/-- A value after it was sent as JSON: floating point numbers were written with the fewest digits
and read again. -/
def received : Value → Value
  | .float x => (number? (x.text numberLayout)).getD (.float x)
  | .list vs => .list (receivedItems vs)
  | .record entries => .record (receivedFields entries)
  | v => v

/-- The items of a list after they were sent. -/
def receivedItems : List Value → List Value
  | [] => []
  | v :: vs => received v :: receivedItems vs

/-- The fields of a record after they were sent. -/
def receivedFields : List (Text × Value) → List (Text × Value)
  | [] => []
  | (name, v) :: rest => (name, received v) :: receivedFields rest

end

end Evidence.Json
