import Evidence.Text.Basic

/-!
# Binary floating point numbers

Finite numbers of IEEE 754 binary64 as a sign, a mantissa and an exponent, rounded from decimals
and shown with the fewest decimal digits that read back to them.  All arithmetic is exact.

Main definitions:

- `Binary64`: a finite number, `mantissa * 2 ^ exponent` with a sign.
- `Binary64.nearest?` and `Binary64.ofDecimal?`: the nearest number to a fraction or a decimal.
- `Binary64.product?` and `Binary64.quotient?`: arithmetic, rounded once.
- `Binary64.shortest`: the fewest decimal digits that denote no other number.
- `Binary64.Layout` and `Binary64.text`: those digits laid out.
-/

namespace Evidence

/-- A finite number: `mantissa * 2 ^ exponent`, with a sign. -/
structure Binary64 where
  negative : Bool
  mantissa : Nat
  exponent : Int
deriving DecidableEq, Repr

namespace Binary64

/-! ## Fractions -/

/-- `n * b ^ e` as a numerator and a denominator, for an exponent of either sign. -/
def scaled (n : Nat) (b : Nat) (e : Int) : Nat × Nat :=
  if 0 ≤ e then (n * Nat.pow b e.toNat, 1) else (n, Nat.pow b (-e).toNat)

/-- The nearest whole number to a fraction; of two that are equally near the even one. -/
def roundHalfEven (num den : Nat) : Nat :=
  let quotient := num / den
  let rest := num % den
  if 2 * rest < den then quotient
  else if den < 2 * rest then quotient + 1
  else if quotient % 2 = 0 then quotient
  else quotient + 1

/-! ## Rounding to the nearest number -/

/-- The least exponent of a number. -/
def leastExponent : Int := -1074

/-- The greatest exponent of a number. -/
def greatestExponent : Int := 971

/-- The exponent at which a positive fraction has a mantissa of 53 bits, or the least one. -/
def exponentFor (num den : Nat) : Int :=
  let guess : Int := (Nat.log2 num : Int) - Nat.log2 den - 53
  let (top, bottom) := scaled den 2 guess
  let exponent := if num * bottom < Nat.pow 2 53 * top then guess else guess + 1
  max exponent leastExponent

/-- The nearest number to a fraction, of two that are equally near the even one.  A fraction
beyond the greatest number has none. -/
def nearest? (negative : Bool) (num den : Nat) : Option Binary64 :=
  if num = 0 then some ⟨negative, 0, leastExponent⟩
  else
    let exponent := exponentFor num den
    let (top, bottom) := scaled den 2 exponent
    let mantissa := roundHalfEven (num * bottom) top
    let (mantissa, exponent) :=
      if mantissa = Nat.pow 2 53 then (Nat.pow 2 52, exponent + 1) else (mantissa, exponent)
    if greatestExponent < exponent then none else some ⟨negative, mantissa, exponent⟩

/-- The nearest number to `digits * 10 ^ exponent`.  Decimals far from all numbers are decided
by their size alone. -/
def ofDecimal? (negative : Bool) (digits : Nat) (exponent : Int) : Option Binary64 :=
  let size : Int := (Decimal.ofNat digits).length + exponent
  if digits = 0 ∨ size < -400 then some ⟨negative, 0, leastExponent⟩
  else if 400 < size then none
  else
    let (num, den) := scaled digits 10 exponent
    nearest? negative num den

/-! ## Products and quotients -/

/-- The magnitude of a number as a numerator and a denominator. -/
def fraction (x : Binary64) : Nat × Nat :=
  scaled x.mantissa 2 x.exponent

/-- The nearest number to a product. -/
def product? (x y : Binary64) : Option Binary64 :=
  let (num, den) := x.fraction
  let (num', den') := y.fraction
  nearest? (x.negative != y.negative) (num * num') (den * den')

/-- The nearest number to a quotient by a number other than zero. -/
def quotient? (x y : Binary64) : Option Binary64 :=
  let (num, den) := x.fraction
  let (num', den') := y.fraction
  nearest? (x.negative != y.negative) (num * den') (den * num')

/-! ## The fewest digits that read back -/

/-- Four times the ends of the interval that rounds to a number and whether they belong to it,
in units of the last bit of the mantissa.  Below a power of two the numbers lie twice as close. -/
def interval (x : Binary64) : Nat × Nat × Bool :=
  let closeBelow := x.mantissa = Nat.pow 2 52 && leastExponent < x.exponent
  (4 * x.mantissa - (if closeBelow then 1 else 2), 4 * x.mantissa + 2, x.mantissa % 2 = 0)

/-- Whether `n * 10 ^ e` rounds to a number. -/
def holds (x : Binary64) (n : Nat) (e : Int) : Bool :=
  let (low, high, ends) := x.interval
  let (top, bottom) := scaled (4 * n) 10 e
  let (unit, parts) := scaled 1 2 x.exponent
  let point := top * parts
  let lowEnd := low * unit * bottom
  let highEnd := high * unit * bottom
  if ends then lowEnd ≤ point && point ≤ highEnd else lowEnd < point && point < highEnd

/-- The number of decimal places before the point that a positive fraction fills, negative when
zeros follow the point. -/
def magnitude (num den : Nat) : Int :=
  if den ≤ num then (Decimal.ofNat (num / den)).length
  else 1 - ((Decimal.ofNat ((den - 1) / num)).length : Int)

/-- The nearer of the two neighbours of a number on the grid of the multiples of `10 ^ e` that
rounds to it, if one does. -/
def onGrid? (x : Binary64) (e : Int) : Option Nat :=
  let (num, den) := x.fraction
  let (top, bottom) := scaled den 10 e
  let below := num * bottom / top
  let nearer := roundHalfEven (num * bottom) top
  let other := if nearer = below then below + 1 else below
  if x.holds nearer e then some nearer
  else if x.holds other e then some other
  else none

/-- Search grids, each ten times finer than the one before. -/
def search (x : Binary64) : (fuel : Nat) → Int → Nat × Int
  | 0, e => (x.mantissa, e)
  | fuel + 1, e =>
    match x.onGrid? e with
    | some n => (n, e)
    | none => search x fuel (e - 1)

/-- The digits `n` and the exponent `e` of the shortest decimal `n * 10 ^ e` that denotes a
positive number; seventeen digits always do. -/
def shortest (x : Binary64) : Nat × Int :=
  let (num, den) := x.fraction
  x.search 18 (magnitude num den)

/-! ## Layout -/

/-- How a decimal is laid out: positionally when its point falls between these places, and
otherwise with an exponent. -/
structure Layout where
  /-- The least place of the point, counted from the front of the digits, written positionally. -/
  leastPoint : Int
  /-- The greatest place of the point written positionally. -/
  greatestPoint : Int
  /-- Whether a plus sign stands in front of an exponent that is not negative. -/
  signed : Bool

/-- Digits without the zeros at their end, which move into the exponent. -/
def stripZeros (digits : Text) (e : Int) : Text × Int :=
  let kept := (digits.reverse.dropWhile (· == '0')).reverse
  (kept, e + (digits.length - kept.length))

/-- Digits and an exponent laid out. -/
def Layout.apply (layout : Layout) (digits : Text) (e : Int) : Text :=
  let point : Int := digits.length + e
  if layout.leastPoint ≤ point ∧ point ≤ layout.greatestPoint then
    if point ≤ 0 then "0.".toList ++ List.replicate (-point).toNat '0' ++ digits
    else if 0 ≤ e then digits ++ List.replicate e.toNat '0' ++ ".0".toList
    else digits.take point.toNat ++ '.' :: digits.drop point.toNat
  else
    let plus := if layout.signed ∧ 1 ≤ point then ['+'] else []
    let exponentText := plus ++ Decimal.ofInt (point - 1)
    match digits with
    | [] => []
    | [d] => d :: 'e' :: exponentText
    | d :: more => d :: '.' :: more ++ 'e' :: exponentText

/-- A number in a layout, always with a point or an exponent. -/
def text (layout : Layout) (x : Binary64) : Text :=
  let sign := if x.negative then ['-'] else []
  if x.mantissa = 0 then sign ++ "0.0".toList
  else
    let (n, e) := x.shortest
    let (digits, e) := stripZeros (Decimal.ofNat n) e
    sign ++ layout.apply digits e

end Binary64

end Evidence
