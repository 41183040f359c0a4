import Evidence.Decimal.Binary64

/-!
# What plain scalars read as

A plain scalar of a document may read as null, a boolean or a number instead of a text.  A text
that would must be quoted.

Main definitions:

- `Plain.isNull`, `Plain.isBool`, `Plain.isInteger` and `Plain.isFloat`: the scalars that read
  as such.
- `Plain.isZeroPadded`: digits that some readers take for a number and others for a text.
- `Plain.readsAsText`: whether a plain scalar surely reads as the text that it is.
-/

namespace Evidence.Yaml.Plain

/-- The scalars that read as null. -/
def isNull (t : Text) : Bool :=
  t ∈ ([[], ['~'], "null".toList, "Null".toList, "NULL".toList] : List Text)

/-- The scalars that read as a boolean. -/
def isBool (t : Text) : Bool :=
  t ∈ (["true".toList, "True".toList, "TRUE".toList, "false".toList, "False".toList,
    "FALSE".toList] : List Text)

/-! ## Integers -/

/-- The value of a digit in a base up to sixteen. -/
def digitValue? (base : Nat) (c : Char) : Option Nat :=
  let v :=
    if c.isDigit then c.toNat - 48
    else if 'a' ≤ c ∧ c ≤ 'f' then c.toNat - 87
    else if 'A' ≤ c ∧ c ≤ 'F' then c.toNat - 55
    else 16
  if v < base then some v else none

/-- The number that one or more digits denote in a base. -/
def natural? (base : Nat) (t : Text) : Option Nat :=
  if t = [] then none
  else (t.mapM (digitValue? base)).map fun digits => digits.foldl (fun n d => base * n + d) 0

/-- More than one digit, the first of them a zero, perhaps behind a sign. -/
def isZeroPadded (t : Text) : Bool :=
  match t with
  | '-' :: '0' :: rest | '+' :: '0' :: rest | '0' :: rest => rest != [] && rest.all Char.isDigit
  | _ => false

/-- The magnitude of a number in base ten, or in another base behind its mark. -/
def magnitude? : Text → Option Nat
  | '0' :: 'x' :: rest => natural? 16 rest
  | '0' :: 'o' :: rest => natural? 8 rest
  | '0' :: 'b' :: rest => natural? 2 rest
  | t => natural? 10 t

/-- Whether a scalar reads as an integer: one of at most 128 bits, without a sign or with one. -/
def isInteger (t : Text) : Bool :=
  !isZeroPadded t &&
    match t with
    | '-' :: rest => (magnitude? rest).any (· ≤ Nat.pow 2 127)
    | '+' :: rest => (magnitude? rest).any (· < Nat.pow 2 128)
    | t => (magnitude? t).any (· < Nat.pow 2 128)

/-! ## Floating point numbers -/

/-- The exponent that a text is, with or without a sign. -/
def exponent? : Text → Option Int
  | '-' :: rest => (natural? 10 rest).map fun n => -(n : Int)
  | '+' :: rest => (natural? 10 rest).map Int.ofNat
  | rest => (natural? 10 rest).map Int.ofNat

/-- The digits and the exponent of a decimal without a sign: digits with or without a point,
at least one, and perhaps an exponent. -/
def decimal? (t : Text) : Option (Nat × Int) :=
  let whole := t.takeWhile Char.isDigit
  let rest := t.dropWhile Char.isDigit
  let (part, rest) :=
    match rest with
    | '.' :: rest => (rest.takeWhile Char.isDigit, rest.dropWhile Char.isDigit)
    | rest => ([], rest)
  let shift : Int := part.length
  match natural? 10 (whole ++ part) with
  | none => none
  | some digits =>
    match rest with
    | [] => some (digits, -shift)
    | c :: rest =>
      if c = 'e' ∨ c = 'E' then (exponent? rest).map fun e => (digits, e - shift) else none

/-- The number that a decimal with or without a minus denotes. -/
def float? : Text → Option Binary64
  | '-' :: rest => (decimal? rest).bind fun (digits, e) => Binary64.ofDecimal? true digits e
  | t => (decimal? t).bind fun (digits, e) => Binary64.ofDecimal? false digits e

/-- The spellings of infinity. -/
def infinities : List Text :=
  [".inf".toList, ".Inf".toList, ".INF".toList]

/-- The spellings of what is no number. -/
def nans : List Text :=
  [".nan".toList, ".NaN".toList, ".NAN".toList]

/-- Whether a scalar reads as a floating point number: a finite decimal, an infinity with or
without a sign, or no number. -/
def isFloat (t : Text) : Bool :=
  t ∈ nans ||
    match t with
    | '+' :: rest =>
      rest ∈ infinities || (rest.head? != some '-' && (float? rest).isSome)
    | '-' :: rest => rest ∈ infinities || (float? t).isSome
    | t => t ∈ infinities || (float? t).isSome

/-! ## Texts -/

/-- Whether a plain scalar surely reads as the text that it is. -/
def readsAsText (t : Text) : Bool :=
  !(isNull t || isBool t || isZeroPadded t || isInteger t || isFloat t)

end Evidence.Yaml.Plain
