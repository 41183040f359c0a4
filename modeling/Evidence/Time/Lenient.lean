import Evidence.Text.Blank
import Evidence.Time.Rfc3339

/-!
# Reading times leniently

The times in the objects of an API may be written less strictly than RFC 3339 asks: with blanks
between the parts, with numbers that are not filled up, with a signed year, and with a zone that
leaves out its colon or is called UTC.

Main definitions:

- `LenientTime.date?`, `LenientTime.clock?` and `LenientTime.zone?`: the parts of a time.
- `LenientTime.instant?`: the instant that a text denotes.
-/

namespace Evidence.LenientTime

/-! ## Numbers and marks

A reader of a part takes it from the front of a text, behind blanks, and gives back the rest. -/

/-- Read a number of at most `width` digits. -/
def number? (width : Nat) (t : Text) : Option (Nat × Text) :=
  let digits := (t.take width).takeWhile Char.isDigit
  if digits = [] then none else some (Decimal.value digits, t.drop digits.length)

/-- Read a number behind blanks. -/
def spacedNumber? (width : Nat) (t : Text) : Option (Nat × Text) :=
  number? width (Text.trimLeft t)

/-- Read one character behind blanks. -/
def mark? (c : Char) (t : Text) : Option Text :=
  match Text.trimLeft t with
  | [] => none
  | d :: rest => if d = c then some rest else none

/-! ## Parts of a time -/

/-- Read a year: at most four digits, or a sign and any number of them. -/
def year? (t : Text) : Option (Int × Text) :=
  match Text.trimLeft t with
  | '-' :: rest => (number? rest.length rest).map fun (n, t) => (-(n : Int), t)
  | '+' :: rest => (number? rest.length rest).map fun (n, t) => ((n : Int), t)
  | t => (number? 4 t).map fun (n, t) => ((n : Int), t)

/-- Read a date that the calendar has. -/
def date? (t : Text) : Option (Date × Text) := do
  let (year, t) ← year? t
  let t ← mark? '-' t
  let (month, t) ← spacedNumber? 2 t
  let t ← mark? '-' t
  let (day, t) ← spacedNumber? 2 t
  let d : Date := ⟨year, month, day⟩
  if d.Valid then return (d, t) else none

/-- Read hour, minute and second of a time that a day has. -/
def clock? (t : Text) : Option ((Nat × Nat × Nat) × Text) := do
  let (hour, t) ← spacedNumber? 2 t
  let t ← mark? ':' t
  let (minute, t) ← spacedNumber? 2 t
  let t ← mark? ':' t
  let (second, t) ← spacedNumber? 2 t
  let clock := (hour, minute, second)
  if Rfc3339.clockInRange clock then return (clock, t) else none

/-- Read the hours and the minutes of a zone offset, which colons and blanks may part, and count
it in minutes. -/
def offset? (t : Text) : Option (Nat × Text) := do
  let (hours, t) ← (Rfc3339.twoDigits t).toOption
  let t := t.dropWhile fun c => c == ':' || Blank.isBlank c
  let (minutes, t) ← (Rfc3339.twoDigits t).toOption
  if hours < 24 ∧ minutes < 60 then return (60 * hours + minutes, t) else none

/-- Read a zone and count its offset from UTC in minutes: `Z`, the name `UTC`, or a sign, hours
and minutes. -/
def zone? (t : Text) : Option (Int × Text) :=
  if (t.take 3).map Char.toUpper = "UTC".toList then some (0, t.drop 3)
  else
    match t with
    | [] => none
    | c :: rest =>
      if c = 'Z' ∨ c = 'z' then some (0, rest)
      else if c = '+' then (offset? rest).map fun (minutes, t) => ((minutes : Int), t)
      else if c = '-' ∨ c = '\u2212' then
        (offset? rest).map fun (minutes, t) => (-(minutes : Int), t)
      else none

/-! ## Times -/

/-- Whether a year is one that times may lie in. -/
def yearInRange (year : Int) : Bool :=
  -262143 ≤ year && year ≤ 262142

/-- The instant that a text denotes, if it denotes one. -/
def instant? (t : Text) : Option Instant := do
  let (d, t) ← date? t
  let t ← match t with
    | 'T' :: rest | 't' :: rest | ' ' :: rest => some rest
    | _ => none
  let (clock, t) ← clock? t
  let (nanos, t) ← (Rfc3339.fraction t).toOption
  let (offset, t) ← zone? (Text.trimLeft t)
  let i := Rfc3339.assemble d clock nanos offset
  if Text.trimLeft t = [] ∧ yearInRange d.year
      ∧ yearInRange (Date.ofDayNumber (i.seconds / 86400)).year then some i
  else none

end Evidence.LenientTime
