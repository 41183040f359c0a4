import Evidence.Proofs.StampForm
import Evidence.Time.Rfc3339
import Mathlib.Algebra.BigOperators.Intervals
import Mathlib.Algebra.Order.Field.Rat
import Mathlib.Data.Rat.Cast.Order
import Mathlib.Tactic.Linarith
import Mathlib.Tactic.FieldSimp
import Mathlib.Tactic.Positivity

/-!
# The time of a stamp

The fields of a stamp denote a time when each of them is in range, and then exactly one rational
number of seconds since 1970-01-01T00:00:00Z.  Instants, which keep nine digits of a fraction, are
compared with it.

Main results:

- `Date.dayNumber_eq_countedDays`: the closed form of the day number counts whole years, whole
  months and days.
- `Stamp.le_leading_iff`: dropping the digits behind some place changes no comparison with whole
  units of that place.
- `Stamp.Fields.le_instant_iff`: when the instant kept of a stamp is at or after another one, in
  terms of the exact time.
-/

namespace Evidence

open Finset

/-! ## Counted days -/

namespace Calendar

/-- The number of days of a year. -/
def daysInYear (year : Nat) : Nat :=
  if isLeap year then 366 else 365

/-- The days from 1970-01-01 to a date, counted by whole years, whole months and days. -/
def countedDays (year month day : Nat) : Int :=
  (∑ y ∈ range year, (daysInYear y : Int)) + (∑ m ∈ Ico 1 month, (daysInMonth year m : Int))
    + (day - 1) - ∑ y ∈ range 1970, (daysInYear y : Int)

/-- The first of January moves on by the days of the year. -/
theorem daysBeforeYear_add_one (year : Int) :
    daysBeforeYear (year + 1) = daysBeforeYear year + if isLeap year then 366 else 365 := by
  unfold daysBeforeYear isLeap
  simp only [Bool.and_eq_true, Bool.or_eq_true, decide_eq_true_eq]
  split <;> omega

theorem daysBeforeYear_succ (year : Nat) :
    daysBeforeYear (year + 1 : Nat) = daysBeforeYear year + daysInYear year := by
  rw [Nat.cast_add_one, daysBeforeYear_add_one, daysInYear]
  split <;> rfl

/-- The closed form of the days before a year counts the years before it. -/
theorem daysBeforeYear_eq_sum (year : Nat) :
    daysBeforeYear year = ∑ y ∈ range year, (daysInYear y : Int) := by
  induction year with
  | zero => rfl
  | succ year ih => rw [daysBeforeYear_succ, ih, sum_range_succ]

theorem daysBeforeMonth_eq_sum (year : Int) (month : Nat) :
    (daysBeforeMonth year month : Int) = ∑ m ∈ Ico 1 month, (daysInMonth year m : Int) := by
  induction month with
  | zero => rfl
  | succ month ih =>
      rw [daysBeforeMonth, Nat.cast_add, ih]
      cases month with
      | zero => rfl
      | succ month => exact (sum_Ico_succ_top (by omega) _).symm

end Calendar

/-- The closed form of the day number of a date counts whole years, whole months and days. -/
theorem Date.dayNumber_eq_countedDays (year month day : Nat) :
    Date.dayNumber ⟨year, month, day⟩ = Calendar.countedDays year month day := by
  have hepoch : Date.epoch = ∑ y ∈ range 1970, (Calendar.daysInYear y : Int) := by
    rw [← Calendar.daysBeforeYear_eq_sum]
    rfl
  rw [Date.dayNumber, Calendar.countedDays, Calendar.daysBeforeYear_eq_sum,
    Calendar.daysBeforeMonth_eq_sum, hepoch]

namespace Stamp

/-! ## Fractions -/

/-- The part of a second that the digits of a fraction stand for. -/
def fractionValue : List (Fin 10) → ℚ
  | [] => 0
  | d :: ds => ((d : ℕ) + fractionValue ds) / 10

/-- The whole units of a decimal place that the digits of a fraction make up. -/
def leading : Nat → List (Fin 10) → Nat
  | 0, _ => 0
  | _ + 1, [] => 0
  | place + 1, d :: ds => d * 10 ^ place + leading place ds

/-- A fraction is at least nothing and less than a whole. -/
theorem fractionValue_bounds (ds : List (Fin 10)) :
    0 ≤ fractionValue ds ∧ fractionValue ds < 1 := by
  induction ds with
  | nil => simp [fractionValue]
  | cons d ds ih =>
      have hd : ((d : ℕ) : ℚ) ≤ 9 := by exact_mod_cast Nat.le_of_lt_succ d.isLt
      have hd₀ : (0 : ℚ) ≤ (d : ℕ) := Nat.cast_nonneg _
      rw [fractionValue]
      constructor
      · linarith
      · linarith

/-- A fraction lies less than one unit of a decimal place above the whole units that it has. -/
theorem leading_bounds (place : Nat) (ds : List (Fin 10)) :
    (leading place ds : ℚ) ≤ fractionValue ds * 10 ^ place ∧
      fractionValue ds * 10 ^ place < leading place ds + 1 := by
  induction place generalizing ds with
  | zero => simpa [leading] using fractionValue_bounds ds
  | succ place ih =>
      cases ds with
      | nil => simp [leading, fractionValue]
      | cons d ds =>
          have hscale : fractionValue (d :: ds) * 10 ^ (place + 1)
              = (d : ℕ) * 10 ^ place + fractionValue ds * 10 ^ place := by
            rw [fractionValue, pow_succ]
            ring
          rw [hscale, leading]
          push_cast
          constructor
          · linarith [(ih ds).1]
          · linarith [(ih ds).2]

/-- Dropping the digits behind a decimal place changes no comparison with whole units of it. -/
theorem le_leading_iff (n place : Nat) (ds : List (Fin 10)) :
    n ≤ leading place ds ↔ (n : ℚ) ≤ fractionValue ds * 10 ^ place := by
  rcases leading_bounds place ds with ⟨hlow, hhigh⟩
  constructor
  · intro h
    have hcast : (n : ℚ) ≤ leading place ds := by exact_mod_cast h
    exact hcast.trans hlow
  · intro h
    have hlt : (n : ℚ) < (leading place ds + 1 : ℕ) := by
      push_cast
      exact h.trans_lt hhigh
    exact Nat.lt_succ_iff.1 (by exact_mod_cast hlt)

/-- Filling up the digits in front of a place with zeros gives the whole units of it. -/
theorem value_take_eq_leading (place : Nat) (ds : List (Fin 10)) :
    Decimal.value ((ds.map Decimal.digit).take place)
        * 10 ^ (place - ((ds.map Decimal.digit).take place).length) = leading place ds := by
  induction place generalizing ds with
  | zero => simp [leading]
  | succ place ih =>
      cases ds with
      | nil => simp [leading]
      | cons d ds =>
          have hlen : ((ds.map Decimal.digit).take place).length ≤ place := by simp
          have hcons : Decimal.digit d :: (ds.map Decimal.digit).take place
              = [Decimal.digit d] ++ (ds.map Decimal.digit).take place := rfl
          have hone : Decimal.value [Decimal.digit d] = d := by
            simp [Decimal.value]
          have hpow : 10 ^ ((ds.map Decimal.digit).take place).length
              * 10 ^ (place - ((ds.map Decimal.digit).take place).length) = 10 ^ place := by
            rw [← pow_add, Nat.add_sub_cancel' hlen]
          rw [List.map_cons, List.take_succ_cons, List.length_cons, Nat.succ_sub_succ, hcons,
            Decimal.value_append, hone, leading, ← ih ds, Nat.add_mul, Nat.mul_assoc, hpow]

/-- The nanoseconds read from a fraction are its whole units of the ninth place. -/
theorem nanosOfFraction_map_digit (ds : List (Fin 10)) :
    Rfc3339.nanosOfFraction (ds.map Decimal.digit) = leading 9 ds :=
  value_take_eq_leading 9 ds

theorem leading_lt (place : Nat) (ds : List (Fin 10)) : leading place ds < 10 ^ place := by
  have hpos : (0 : ℚ) < 10 ^ place := by positivity
  have hlow := (leading_bounds place ds).1
  have hone := (fractionValue_bounds ds).2
  have hlt : (leading place ds : ℚ) < (10 ^ place : ℕ) := by
    push_cast
    nlinarith
  exact_mod_cast hlt

/-! ## Times -/

/-- The offset of a zone from UTC in minutes. -/
def Zone.minutes : Zone → Int
  | utc => 0
  | offset .plus hours minutes => 60 * (hours : ℕ) + (minutes : ℕ)
  | offset .minus hours minutes => -(60 * (hours : ℕ) + (minutes : ℕ))

/-- A zone is valid when its hours are below a day and its minutes below an hour. -/
def Zone.Valid : Zone → Prop
  | utc => True
  | offset _ hours minutes => (hours : ℕ) ≤ 23 ∧ (minutes : ℕ) ≤ 59

instance (z : Zone) : Decidable z.Valid :=
  match z with
  | .utc => inferInstanceAs (Decidable True)
  | .offset _ hours minutes => inferInstanceAs (Decidable ((hours : ℕ) ≤ 23 ∧ (minutes : ℕ) ≤ 59))

namespace Fields

/-- The fields of a stamp denote a time when the calendar has the day, a day has the time, and the
zone is valid.  Leap seconds are left out. -/
structure Valid (f : Fields) : Prop where
  month : 1 ≤ (f.month : ℕ) ∧ (f.month : ℕ) ≤ 12
  day : 1 ≤ (f.day : ℕ) ∧ (f.day : ℕ) ≤ Calendar.daysInMonth (f.year : ℕ) f.month
  hour : (f.hour : ℕ) ≤ 23
  minute : (f.minute : ℕ) ≤ 59
  second : (f.second : ℕ) ≤ 59
  zone : f.zone.Valid

/-- The whole seconds from 1970-01-01T00:00:00Z to the second that fields write. -/
def wholeSeconds (f : Fields) : Int :=
  86400 * Calendar.countedDays f.year f.month f.day + 3600 * (f.hour : ℕ) + 60 * (f.minute : ℕ)
    + (f.second : ℕ) - 60 * f.zone.minutes

/-- The exact time that fields write, in seconds since 1970-01-01T00:00:00Z. -/
def time (f : Fields) : ℚ :=
  f.wholeSeconds + fractionValue f.fraction

/-- The instant that is kept of fields. -/
def instant (f : Fields) : Instant :=
  Rfc3339.assemble ⟨(f.year : ℕ), f.month, f.day⟩ (f.hour, f.minute, f.second)
    (Rfc3339.nanosOfFraction (f.fraction.map Decimal.digit)) f.zone.minutes

/-- The instant kept of fields without a leap second has their whole seconds. -/
theorem seconds_instant {f : Fields} (h : (f.second : ℕ) ≤ 59) :
    f.instant.seconds = f.wholeSeconds := by
  simp only [instant, Rfc3339.assemble, wholeSeconds, Date.dayNumber_eq_countedDays,
    Nat.min_eq_left h]

/-- The instant kept of fields has nine digits of their fraction, and one second more of
nanoseconds in second 60. -/
theorem nanos_instant (f : Fields) :
    f.instant.nanos
      = (if (f.second : ℕ) = 60 then Instant.perSecond else 0) + leading 9 f.fraction := by
  have hmod : leading 9 f.fraction % Instant.perSecond = leading 9 f.fraction :=
    Nat.mod_eq_of_lt (leading_lt 9 f.fraction)
  rw [instant, Rfc3339.assemble, nanosOfFraction_map_digit]
  dsimp only
  rw [hmod]

theorem nanos_instant_of_le {f : Fields} (h : (f.second : ℕ) ≤ 59) :
    f.instant.nanos = leading 9 f.fraction := by
  rw [nanos_instant, if_neg (by omega), Nat.zero_add]

end Fields

end Stamp

/-- The least time that counts as at or after an instant.  Behind an instant in a leap second that
is the start of the next second. -/
def Instant.threshold (start : Instant) : ℚ :=
  if start.isLeap then start.seconds + 1 else start.seconds + start.nanos / 10 ^ 9

namespace Stamp.Fields

/-- Outside leap seconds an instant is compared with the one kept of fields as with their exact
time, though digits were dropped. -/
theorem le_instant_iff_of_not_isLeap {f : Fields} (hf : (f.second : ℕ) ≤ 59) {start : Instant}
    (hleap : start.isLeap = false) :
    start ≤ f.instant ↔ (start.seconds + start.nanos / 10 ^ 9 : ℚ) ≤ f.time := by
  have hnanos : start.nanos < 10 ^ 9 := Nat.lt_of_not_le (of_decide_eq_false hleap)
  rcases fractionValue_bounds f.fraction with ⟨hlow, hhigh⟩
  obtain ⟨part, hpart⟩ : ∃ part : ℚ, part = start.nanos / 10 ^ 9 := ⟨_, rfl⟩
  have hscale : (start.nanos : ℚ) = part * 10 ^ 9 := by
    rw [hpart]
    field_simp
  have hpart₀ : 0 ≤ part := by
    rw [hpart]
    positivity
  have hpart₁ : part < 1 := by
    have hcast : (start.nanos : ℚ) < 10 ^ 9 := by exact_mod_cast hnanos
    linarith
  rw [Instant.le_def, seconds_instant hf, nanos_instant_of_le hf, le_leading_iff, ← hpart, hscale,
    time]
  rcases lt_trichotomy start.seconds f.wholeSeconds with hlt | heq | hgt
  · have hcast : (start.seconds + 1 : ℚ) ≤ f.wholeSeconds := by exact_mod_cast hlt
    exact ⟨fun _ => by linarith, fun _ => .inl hlt⟩
  · constructor
    · rintro (hlt | ⟨-, hle⟩)
      · omega
      · rw [heq]
        linarith
    · intro hle
      rw [heq] at hle
      exact .inr ⟨heq, by linarith⟩
  · have hcast : (f.wholeSeconds + 1 : ℚ) ≤ start.seconds := by exact_mod_cast hgt
    constructor
    · rintro (hlt | ⟨heq, -⟩) <;> omega
    · intro hle
      linarith

/-- An instant in a leap second is at or before the one kept of fields exactly when their time is
in a later second. -/
theorem le_instant_iff_of_isLeap {f : Fields} (hf : (f.second : ℕ) ≤ 59) {start : Instant}
    (hleap : start.isLeap = true) :
    start ≤ f.instant ↔ (start.seconds + 1 : ℚ) ≤ f.time := by
  have hnanos : 10 ^ 9 ≤ start.nanos := of_decide_eq_true hleap
  have hlead := leading_lt 9 f.fraction
  rcases fractionValue_bounds f.fraction with ⟨hlow, hhigh⟩
  rw [Instant.le_def, seconds_instant hf, nanos_instant_of_le hf, time]
  constructor
  · rintro (hlt | ⟨-, hle⟩)
    · have hcast : (start.seconds + 1 : ℚ) ≤ f.wholeSeconds := by exact_mod_cast hlt
      linarith
    · omega
  · intro hle
    have hcast : (start.seconds : ℚ) < f.wholeSeconds := by linarith
    exact .inl (by exact_mod_cast hcast)

/-- An instant is at or before the one kept of fields exactly when its threshold is at or before
their exact time. -/
theorem le_instant_iff {f : Fields} (hf : (f.second : ℕ) ≤ 59) (start : Instant) :
    start ≤ f.instant ↔ start.threshold ≤ f.time := by
  unfold Instant.threshold
  cases hleap : start.isLeap with
  | true => simpa using le_instant_iff_of_isLeap hf hleap
  | false => simpa using le_instant_iff_of_not_isLeap hf hleap

end Stamp.Fields

end Evidence
