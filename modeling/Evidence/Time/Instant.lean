import Evidence.Text.Basic
import Evidence.Time.Calendar

/-!
# Instants

Points in time to the nanosecond, with leap seconds, and the text that shows them.

Main definitions:

- `Instant`: whole seconds since the epoch and nanoseconds, a second of which may be repeated.
- The order on instants: by seconds, then by nanoseconds, and `Instant.latest`.
- `Instant.text`: an instant as a date and a time of day in UTC.
-/

namespace Evidence

/-- An instant is a count of seconds since 1970-01-01T00:00:00Z and a count of nanoseconds.  A
leap second has the seconds of the one before it and nanoseconds from `Instant.perSecond` on. -/
structure Instant where
  seconds : Int
  nanos : Nat
  nanos_lt : nanos < 2000000000
deriving DecidableEq

namespace Instant

/-- The nanoseconds of a second. -/
def perSecond : Nat := 1000000000

/-- An instant is in a leap second when its nanoseconds run past those of a second. -/
def isLeap (i : Instant) : Bool :=
  perSecond ≤ i.nanos

/-! ## Order -/

/-- Instants are ordered by their seconds, those of one second by their nanoseconds. -/
instance : LE Instant where
  le a b := a.seconds < b.seconds ∨ (a.seconds = b.seconds ∧ a.nanos ≤ b.nanos)

/-- The order on instants, said in numbers. -/
theorem le_def {a b : Instant} :
    a ≤ b ↔ a.seconds < b.seconds ∨ (a.seconds = b.seconds ∧ a.nanos ≤ b.nanos) :=
  Iff.rfl

instance (a b : Instant) : Decidable (a ≤ b) :=
  decidable_of_iff _ le_def.symm

/-- Every instant is at or before itself. -/
theorem le_refl (a : Instant) : a ≤ a := by
  simp [le_def]

/-- The order on instants is transitive. -/
theorem le_trans {a b c : Instant} (hab : a ≤ b) (hbc : b ≤ c) : a ≤ c := by
  simp only [le_def] at *
  omega

/-- Of two instants one is at or before the other. -/
theorem le_total (a b : Instant) : a ≤ b ∨ b ≤ a := by
  simp only [le_def]
  omega

/-- The later of two instants. -/
def latest (a b : Instant) : Instant :=
  if a ≤ b then b else a

/-- Years 0 to 9999 have four digits; all others a sign and at least four. -/
def yearText (year : Int) : Text :=
  if year < 0 then '-' :: Decimal.padded 4 year.natAbs
  else if year < 10000 then Decimal.fixed 4 year.natAbs
  else '+' :: Decimal.padded 4 year.natAbs

/-- A fraction of a second has no digits, three, six or nine: the fewest that lose nothing. -/
def fractionText (nanos : Nat) : Text :=
  if nanos = 0 then []
  else if nanos % 1000000 = 0 then '.' :: Decimal.fixed 3 (nanos / 1000000)
  else if nanos % 1000 = 0 then '.' :: Decimal.fixed 6 (nanos / 1000)
  else '.' :: Decimal.fixed 9 nanos

/-- The date and the time of day of an instant to the second, parted by `separator` and without
a zone.  A leap second is second 60. -/
def clockText (separator : Char) (i : Instant) : Text :=
  let date := Date.ofDayNumber (i.seconds / 86400)
  let second := (i.seconds % 86400).toNat
  let sixty := if i.isLeap then 1 else 0
  yearText date.year ++ '-' :: Decimal.fixed 2 date.month ++ '-' :: Decimal.fixed 2 date.day
    ++ separator :: Decimal.fixed 2 (second / 3600)
    ++ ':' :: Decimal.fixed 2 (second / 60 % 60)
    ++ ':' :: Decimal.fixed 2 (second % 60 + sixty)

/-- The date and the time of day of an instant with its fraction of a second. -/
def civilText (separator : Char) (i : Instant) : Text :=
  clockText separator i ++ fractionText (i.nanos % perSecond)

/-- An instant as reports show it: `2023-01-01 00:00:03.500 UTC`. -/
def text (i : Instant) : Text :=
  civilText ' ' i ++ " UTC".toList

end Instant

end Evidence
