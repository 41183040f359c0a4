import Evidence.Time.Instant

/-!
# Reading RFC 3339 times

A strict reader of `YYYY-MM-DDThh:mm:ss[.fraction]zone` that goes from left to right and stops
at the first fault.

Main definitions:

- `Rfc3339.Fault`: why a text is no time, and its wording.
- `Rfc3339.read`: the instant that a text denotes.
- `Rfc3339.instant?`: the same, without the reason for a failure.
- `Rfc3339.parse`: the same, with the wording of a refusal.
-/

namespace Evidence.Rfc3339

/-! ## Faults -/

/-- Why a text is not an RFC 3339 time. -/
inductive Fault where
  /-- The text ends too early. -/
  | premature
  /-- A character stands where the form has another one. -/
  | malformed
  /-- There is no such day, time of day or zone offset. -/
  | outOfRange
  /-- The text goes on after the zone. -/
  | trailing
deriving DecidableEq, Repr

/-- The wording of a fault. -/
def Fault.message : Fault → Text
  | premature => "premature end of input".toList
  | malformed => "input contains invalid characters".toList
  | outOfRange => "input is out of range".toList
  | trailing => "trailing input".toList

/-! ## Parts of a time

A reader of a part takes it from the front of a text and gives back the rest. -/

/-- Read one decimal digit. -/
def digit : Text → Except Fault (Nat × Text)
  | [] => .error .premature
  | c :: rest => if c.isDigit then .ok (Decimal.digitValue c, rest) else .error .malformed

/-- Read a two-digit number. -/
def twoDigits (t : Text) : Except Fault (Nat × Text) := do
  let (tens, t) ← digit t
  let (ones, t) ← digit t
  return (10 * tens + ones, t)

/-- Read a four-digit number. -/
def fourDigits (t : Text) : Except Fault (Nat × Text) := do
  let (hundreds, t) ← twoDigits t
  let (ones, t) ← twoDigits t
  return (100 * hundreds + ones, t)

/-- Read one character of a given kind. -/
def oneOf (allowed : Char → Bool) : Text → Except Fault Text
  | [] => .error .premature
  | c :: rest => if allowed c then .ok rest else .error .malformed

/-- Refuse values that are out of range. -/
def require (inRange : Bool) : Except Fault Unit :=
  if inRange then .ok () else .error .outOfRange

/-- Read a date and refuse one that the calendar does not have. -/
def date (t : Text) : Except Fault (Date × Text) := do
  let (year, t) ← fourDigits t
  let t ← oneOf (· == '-') t
  let (month, t) ← twoDigits t
  let t ← oneOf (· == '-') t
  let (day, t) ← twoDigits t
  let d : Date := ⟨year, month, day⟩
  require (decide d.Valid)
  return (d, t)

/-- Read hour, minute and second, whatever their values. -/
def clock (t : Text) : Except Fault ((Nat × Nat × Nat) × Text) := do
  let (hour, t) ← twoDigits t
  let t ← oneOf (· == ':') t
  let (minute, t) ← twoDigits t
  let t ← oneOf (· == ':') t
  let (second, t) ← twoDigits t
  return ((hour, minute, second), t)

/-- The nanoseconds that the digits of a fraction stand for; digits after the ninth are dropped. -/
def nanosOfFraction (digits : Text) : Nat :=
  let kept := digits.take 9
  Decimal.value kept * Nat.pow 10 (9 - kept.length)

/-- Read a fraction of a second, a point and at least one digit, if the text goes on with a
point. -/
def fraction : Text → Except Fault (Nat × Text)
  | '.' :: rest =>
    match rest with
    | [] => .error .premature
    | c :: _ =>
      if c.isDigit then
        .ok (nanosOfFraction (rest.takeWhile Char.isDigit), rest.dropWhile Char.isDigit)
      else .error .malformed
  | t => .ok (0, t)

/-- Refuse a text of fewer than two bytes. -/
def twoBytes (t : Text) : Except Fault Unit :=
  if Text.byteLength t < 2 then .error .premature else .ok ()

/-- Read the minutes of a zone offset: a first digit above five is out of range. -/
def offsetMinutes (t : Text) : Except Fault (Nat × Text) := do
  twoBytes t
  let (minutes, t) ← twoDigits t
  require (decide (minutes < 60))
  return (minutes, t)

/-- Read the hours and minutes of a zone offset, and count it in minutes.  The hours may be any
two digits here. -/
def offsetBody (t : Text) : Except Fault (Nat × Text) := do
  twoBytes t
  let (hours, t) ← twoDigits t
  let t ← oneOf (· == ':') t
  let (minutes, t) ← offsetMinutes t
  return (60 * hours + minutes, t)

/-- Read a zone and count its offset from UTC in minutes: `Z`, `z`, or a sign, hours, a colon
and minutes.  The sign may be the mathematical minus. -/
def zone : Text → Except Fault (Int × Text)
  | [] => .error .premature
  | c :: rest =>
    if c = 'Z' ∨ c = 'z' then .ok (0, rest)
    else if c = '+' then (offsetBody rest).map fun (minutes, t) => ((minutes : Int), t)
    else if c = '-' ∨ c = '\u2212' then
      (offsetBody rest).map fun (minutes, t) => (-(minutes : Int), t)
    else .error .malformed

/-! ## Times -/

/-- Whether a day has this time; second 60 is taken as a leap second. -/
def clockInRange : Nat × Nat × Nat → Bool
  | (hour, minute, second) => hour < 24 && minute < 60 && second < 61

/-- Whether an offset in minutes is less than a day. -/
def offsetInRange (offset : Int) : Bool :=
  offset.natAbs < 1440

/-- The instant of a date and a time of day in a zone.  Second 60 is the leap second that
follows second 59. -/
def assemble (d : Date) (clock : Nat × Nat × Nat) (nanos : Nat) (offset : Int) : Instant :=
  let (hour, minute, second) := clock
  { seconds := 86400 * d.dayNumber + 3600 * hour + 60 * minute + min second 59 - 60 * offset
    nanos := (if second = 60 then Instant.perSecond else 0) + nanos % Instant.perSecond
    nanos_lt := by
      have h : nanos % Instant.perSecond < 1000000000 := Nat.mod_lt _ (by decide)
      split <;> simp only [Instant.perSecond] at * <;> omega }

/-- Read a time.  A text of fewer than nineteen bytes is too short, whatever it holds.  An
offset of a day or more is refused last, after a text that goes on. -/
def read (t : Text) : Except Fault Instant := do
  if Text.byteLength t < 19 then throw .premature
  let (d, t) ← date t
  let t ← oneOf (fun c => c == 'T' || c == 't' || c == ' ') t
  let (time, t) ← clock t
  let (nanos, t) ← fraction t
  require (clockInRange time)
  let (offset, t) ← zone t
  if t ≠ [] then throw .trailing
  require (offsetInRange offset)
  return assemble d time nanos offset

/-- The instant that a text denotes, if it denotes one. -/
def instant? (t : Text) : Option Instant :=
  (read t).toOption

/-! ## Times that were asked for -/

/-- A text that was to be a time, and why it is none. -/
structure Refusal where
  written : Text
  fault : Fault
deriving DecidableEq, Repr

/-- The wording of a refusal. -/
def Refusal.message (r : Refusal) : Text :=
  "invalid RFC 3339 timestamp '".toList ++ r.written ++ "': ".toList ++ r.fault.message

/-- Read a time, and keep the text when it is none. -/
def parse (t : Text) : Except Refusal Instant :=
  (read t).mapError (⟨t, ·⟩)

end Evidence.Rfc3339
