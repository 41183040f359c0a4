import Evidence.Proofs.StampReading

/-!
# Instants as they are written

Every instant of the years 0 to 9999 is read back from its RFC 3339 text, to the nanosecond.

Main definitions:

- `Instant.IsCivil`: an instant whose text has a year of four digits.
- `Stamp.Fields.ofInstant`: the fields that an instant is written with.

Main results:

- `Calendar.yearOfDay_spec` and `Calendar.monthOfDay_spec`: a day is in the year and in the month
  that are found for it.
- `Date.ofDayNumber_spec`: the date that is found for a day is in the calendar and has that day
  number.
- `Rfc3339.parse_civilText`: an instant is read back from its text.
-/

namespace Evidence

/-! ## The day of a year -/

namespace Calendar

variable {year day : Int}

/-- The year that is found for a day begins on or before it, and the next year begins after it. -/
theorem yearOfDay_spec (day : Int) :
    daysBeforeYear (yearOfDay day) ≤ day ∧ day < daysBeforeYear (yearOfDay day + 1) := by
  unfold yearOfDay
  dsimp only
  split
  · next hearly =>
    rw [Int.sub_add_cancel]
    refine ⟨?_, hearly⟩
    unfold daysBeforeYear
    omega
  · next hnot =>
    split
    · next hlate =>
      refine ⟨hlate, ?_⟩
      unfold daysBeforeYear
      omega
    · next hnext => exact ⟨Int.not_lt.1 hnot, Int.not_le.1 hnext⟩

/-- The months of a year have as many days as the year. -/
theorem daysBeforeYear_add_months (year : Int) :
    daysBeforeYear (year + 1) = daysBeforeYear year + daysBeforeMonth year 13 := by
  rw [daysBeforeYear_add_one]
  simp only [daysBeforeMonth, daysInMonth]
  cases isLeap year <;> rfl

/-- The month that is found for a day of a year has the day, and the days before it add up. -/
theorem monthOfDay_spec (year : Int) (left month day : Nat)
    (h : daysBeforeMonth year month + day < daysBeforeMonth year (month + left + 1)) :
    1 ≤ (monthOfDay year left month day).2 ∧
      (monthOfDay year left month day).2 ≤ daysInMonth year (monthOfDay year left month day).1 ∧
      daysBeforeMonth year (monthOfDay year left month day).1 + (monthOfDay year left month day).2
        = daysBeforeMonth year month + day + 1 := by
  induction left generalizing month day with
  | zero =>
    rw [Nat.add_zero, daysBeforeMonth] at h
    rw [monthOfDay]
    dsimp only
    omega
  | succ left ih =>
    rw [monthOfDay]
    split
    · dsimp only
      omega
    · next hlate =>
      have hnext : daysBeforeMonth year (month + 1)
          = daysBeforeMonth year month + daysInMonth year month := rfl
      rw [show month + (left + 1) + 1 = month + 1 + left + 1 by omega] at h
      have hstep := ih (month + 1) (day - daysInMonth year month) (by omega)
      omega

/-- No month has more days than two digits can count. -/
theorem daysInMonth_lt (year : Int) (month : Nat) : daysInMonth year month < 100 := by
  unfold daysInMonth
  split
  case h_2 => split <;> decide
  all_goals decide

end Calendar

namespace Date

open Calendar

/-- The date that is found for a day is in the calendar and has that day number. -/
theorem ofDayNumber_spec (n : Int) : (ofDayNumber n).Valid ∧ (ofDayNumber n).dayNumber = n := by
  obtain ⟨hfirst, hlast⟩ := yearOfDay_spec (n + epoch)
  rw [daysBeforeYear_add_months] at hlast
  have hjanuary : daysBeforeMonth (yearOfDay (n + epoch)) 1 = 0 := rfl
  have hmonth := monthOfDay_spec (yearOfDay (n + epoch)) 11 1
    (n + epoch - daysBeforeYear (yearOfDay (n + epoch))).toNat (by
      rw [hjanuary, show 1 + 11 + 1 = 13 from rfl]
      omega)
  unfold ofDayNumber Valid dayNumber
  dsimp only
  exact ⟨⟨hmonth.1, hmonth.2.1⟩, by omega⟩

end Date

/-! ## Fractions -/

namespace Stamp

/-- The digits that show whole units of a decimal place stand for those units. -/
theorem exists_digits {width nanos : Nat} (hpos : 0 < width) (hwidth : width ≤ 9)
    (hlt : nanos < 10 ^ 9) (hunits : 10 ^ (9 - width) ∣ nanos) :
    ∃ ds, fractionText ds = '.' :: Decimal.fixed width (nanos / 10 ^ (9 - width)) ∧
      leading 9 ds = nanos := by
  have hdigits : ∀ c ∈ Decimal.fixed width (nanos / 10 ^ (9 - width)), c.isDigit = true :=
    fun c => Decimal.isDigit_of_mem_fixed
  obtain ⟨ds, hds⟩ := Decimal.exists_map_digit hdigits
  have hlength : (ds.map Decimal.digit).length = width := by rw [hds, Decimal.length_fixed]
  refine ⟨ds, ?_, ?_⟩
  · cases ds with
    | nil => simp at hlength; omega
    | cons d ds => rw [← hds]; rfl
  · have hsmall : nanos / 10 ^ (9 - width) < 10 ^ width := by
      rw [Nat.div_lt_iff_lt_mul (by positivity), ← pow_add, Nat.add_sub_cancel' hwidth]
      exact hlt
    rw [← value_take_eq_leading, List.take_of_length_le (by omega), hlength, hds,
      Decimal.value_fixed, Nat.mod_eq_of_lt hsmall, Nat.div_mul_cancel hunits]

/-- The fraction that an instant is shown with stands for all its nanoseconds. -/
theorem exists_fractionText {nanos : Nat} (h : nanos < 10 ^ 9) :
    ∃ ds, fractionText ds = Instant.fractionText nanos ∧ leading 9 ds = nanos := by
  unfold Instant.fractionText
  split
  · next hzero => exact ⟨[], rfl, hzero.symm⟩
  · split
    · next hmillis => exact exists_digits (by decide) (by decide) h (Nat.dvd_of_mod_eq_zero hmillis)
    · split
      · next hmicros =>
        exact exists_digits (by decide) (by decide) h (Nat.dvd_of_mod_eq_zero hmicros)
      · simpa using exists_digits (by decide) (le_refl 9) h (one_dvd nanos)

end Stamp

/-! ## Instants -/

namespace Instant

variable {i : Instant}

/-- The date of an instant in UTC. -/
def date (i : Instant) : Date :=
  Date.ofDayNumber (i.seconds / 86400)

/-- The seconds of its day that lie before an instant, whether or not a leap second follows them. -/
def secondOfDay (i : Instant) : Nat :=
  (i.seconds % 86400).toNat

/-- An instant is civil when its year has four digits, and a leap second only follows the last
second of a minute. -/
structure IsCivil (i : Instant) : Prop where
  year_nonneg : 0 ≤ i.date.year
  year_lt : i.date.year < 10000
  leap : i.isLeap = true → i.seconds % 60 = 59

theorem secondOfDay_lt (i : Instant) : i.secondOfDay < 86400 := by
  unfold secondOfDay
  omega

/-- The days and the seconds of an instant add up. -/
theorem seconds_eq (i : Instant) : i.seconds = 86400 * i.date.dayNumber + i.secondOfDay := by
  rw [date, (Date.ofDayNumber_spec _).2, secondOfDay]
  omega

/-- Nanoseconds beyond those of a second belong to a leap second. -/
theorem nanos_eq (i : Instant) :
    i.nanos = (if i.isLeap then perSecond else 0) + i.nanos % perSecond := by
  have hlt := i.nanos_lt
  cases hleap : i.isLeap with
  | true =>
    have hle : perSecond ≤ i.nanos := of_decide_eq_true hleap
    simp only [perSecond, if_true] at *
    omega
  | false =>
    have hlt' : ¬ perSecond ≤ i.nanos := of_decide_eq_false hleap
    simp only [perSecond, Bool.false_eq_true, if_false] at *
    omega

end Instant

/-! ## Fields of an instant -/

namespace Stamp.Fields

variable {i : Instant} {ds : List (Fin 10)} {z : Zone}

/-- The fields that an instant is written with, with some digits for its fraction. -/
def ofInstant (i : Instant) (ds : List (Fin 10)) (z : Zone) : Fields where
  year := Fin.ofNat 10000 i.date.year.toNat
  month := Fin.ofNat 100 i.date.month
  day := Fin.ofNat 100 i.date.day
  hour := Fin.ofNat 100 (i.secondOfDay / 3600)
  minute := Fin.ofNat 100 (i.secondOfDay / 60 % 60)
  second := Fin.ofNat 100 (i.secondOfDay % 60 + if i.isLeap then 1 else 0)
  fraction := ds
  zone := z

/-- The date in the fields of a civil instant is its date. -/
theorem date_ofInstant (h : i.IsCivil) (ds : List (Fin 10)) (z : Zone) :
    (⟨((ofInstant i ds z).year : ℕ), (ofInstant i ds z).month, (ofInstant i ds z).day⟩ : Date)
      = i.date := by
  have hvalid : i.date.Valid := (Date.ofDayNumber_spec (i.seconds / 86400)).1
  have hyear : i.date.year.toNat % 10000 = i.date.year.toNat := by
    have hlt := h.year_lt
    omega
  have hmonth : i.date.month % 100 = i.date.month := by
    have hle := (Calendar.month_of_one_le_daysInMonth (hvalid.1.trans hvalid.2)).2
    omega
  have hday : i.date.day % 100 = i.date.day :=
    Nat.mod_eq_of_lt (hvalid.2.trans_lt (Calendar.daysInMonth_lt _ _))
  simp only [ofInstant, Fin.val_ofNat, hyear, hmonth, hday, Int.toNat_of_nonneg h.year_nonneg]

/-- The time of day in the fields of an instant is its time of day, in which a leap second is second
60. -/
theorem clock_ofInstant (i : Instant) (ds : List (Fin 10)) (z : Zone) :
    ((ofInstant i ds z).hour : ℕ) = i.secondOfDay / 3600 ∧
      ((ofInstant i ds z).minute : ℕ) = i.secondOfDay / 60 % 60 ∧
      ((ofInstant i ds z).second : ℕ) = i.secondOfDay % 60 + if i.isLeap then 1 else 0 := by
  have hlt := i.secondOfDay_lt
  simp only [ofInstant, Fin.val_ofNat]
  refine ⟨by omega, by omega, Nat.mod_eq_of_lt ?_⟩
  split <;> omega

/-- The text of the fields of a civil instant shows the instant. -/
theorem text_ofInstant (h : i.IsCivil)
    (hds : fractionText ds = Instant.fractionText (i.nanos % Instant.perSecond)) (z : Zone) :
    (ofInstant i ds z).text = i.civilText 'T' ++ z.text := by
  have hdate := date_ofInstant h ds z
  have hyear : (((ofInstant i ds z).year : ℕ) : Int) = i.date.year := congrArg Date.year hdate
  have hmonth : ((ofInstant i ds z).month : ℕ) = i.date.month := congrArg Date.month hdate
  have hday : ((ofInstant i ds z).day : ℕ) = i.date.day := congrArg Date.day hdate
  obtain ⟨hhour, hminute, hsecond⟩ := clock_ofInstant i ds z
  have hdigits : Instant.yearText i.date.year = Decimal.fixed 4 (ofInstant i ds z).year := by
    rw [Instant.yearText, if_neg (Int.not_lt.2 h.year_nonneg), if_pos h.year_lt, ← hyear,
      Int.natAbs_natCast]
  have hcivil : i.civilText 'T'
      = Instant.yearText i.date.year ++ '-' :: Decimal.fixed 2 i.date.month
        ++ '-' :: Decimal.fixed 2 i.date.day ++ 'T' :: Decimal.fixed 2 (i.secondOfDay / 3600)
        ++ ':' :: Decimal.fixed 2 (i.secondOfDay / 60 % 60)
        ++ ':' :: Decimal.fixed 2 (i.secondOfDay % 60 + if i.isLeap then 1 else 0)
        ++ Instant.fractionText (i.nanos % Instant.perSecond) := rfl
  rw [hcivil, hdigits, ← hds, Fields.text, dateText, clockText, hmonth, hday, hhour, hminute,
    hsecond]
  simp [ofInstant]

/-- In a civil instant second 60 is that of a leap second. -/
theorem second_eq_sixty_iff (h : i.IsCivil) (ds : List (Fin 10)) (z : Zone) :
    ((ofInstant i ds z).second : ℕ) = 60 ↔ i.isLeap = true := by
  have hlast := h.leap
  rw [(clock_ofInstant i ds z).2.2]
  cases hleap : i.isLeap with
  | true =>
    have hsecond := hlast hleap
    simp only [Instant.secondOfDay, if_true, iff_true]
    omega
  | false =>
    simp only [Bool.false_eq_true, if_false, iff_false]
    omega

/-- A civil instant is what its fields denote. -/
theorem instant_ofInstant (h : i.IsCivil) (hds : leading 9 ds = i.nanos % Instant.perSecond)
    (hz : z.minutes = 0) : (ofInstant i ds z).instant = i := by
  have hseconds : (ofInstant i ds z).instant.seconds = i.seconds := by
    have hsixty := second_eq_sixty_iff h ds z
    obtain ⟨hhour, hminute, hsecond⟩ := clock_ofInstant i ds z
    have hzone : (ofInstant i ds z).zone.minutes = 0 := hz
    rw [hsecond] at hsixty
    rw [instant, Rfc3339.assemble, date_ofInstant h]
    dsimp only
    rw [hhour, hminute, hsecond, hzone, i.seconds_eq]
    cases hleap : i.isLeap with
    | true =>
      simp only [hleap, if_true, iff_true] at hsixty ⊢
      omega
    | false =>
      simp only [Bool.false_eq_true, if_false]
      omega
  have hnanos : (ofInstant i ds z).instant.nanos = i.nanos := by
    have hfraction : (ofInstant i ds z).fraction = ds := rfl
    rw [nanos_instant, hfraction, hds]
    simp only [second_eq_sixty_iff h]
    exact i.nanos_eq.symm
  rcases hinstant : (ofInstant i ds z).instant with ⟨seconds, nanos, hlt⟩
  rw [hinstant] at hseconds hnanos
  subst hseconds hnanos
  rfl

end Stamp.Fields

/-! ## Reading the text of an instant -/

/-- A zone without an offset is valid. -/
theorem Stamp.Zone.valid_of_minutes {z : Stamp.Zone} (h : z.minutes = 0) : z.Valid := by
  cases z with
  | utc => trivial
  | offset sign hours rest =>
    have hzero : 60 * (hours : ℕ) + (rest : ℕ) = 0 := by
      cases sign <;> simp only [minutes] at h <;> omega
    exact ⟨by omega, by omega⟩

/-- A civil instant is read back from its text, whichever way UTC is written behind it. -/
theorem Rfc3339.parse_civilText {i : Instant} (h : i.IsCivil) {z : Stamp.Zone}
    (hz : z.minutes = 0) : parse (i.civilText 'T' ++ z.text) = .ok i := by
  obtain ⟨ds, htext, hleading⟩ :=
    Stamp.exists_fractionText (Nat.mod_lt i.nanos (show 0 < Instant.perSecond by decide))
  obtain ⟨hhour, hminute, hsecond⟩ := Stamp.Fields.clock_ofInstant i ds z
  have hdate := Stamp.Fields.date_ofInstant h ds z
  have hvalid : i.date.Valid := (Date.ofDayNumber_spec (i.seconds / 86400)).1
  have hclock : clockInRange ((Stamp.Fields.ofInstant i ds z).hour,
      (Stamp.Fields.ofInstant i ds z).minute, (Stamp.Fields.ofInstant i ds z).second) = true := by
    have hday := i.secondOfDay_lt
    simp only [clockInRange, hhour, hminute, hsecond, Bool.and_eq_true, decide_eq_true_eq]
    refine ⟨⟨by omega, by omega⟩, ?_⟩
    split <;> omega
  rw [← Stamp.Fields.text_ofInstant h htext z, parse, read_text, hdate,
    if_pos ⟨hvalid, hclock, Stamp.Zone.valid_of_minutes hz⟩,
    Stamp.Fields.instant_ofInstant h hleading hz]
  rfl

/-- The last nanosecond of a leap second is read back, whichever way UTC is written behind it. -/
example : Rfc3339.parse "2016-12-31T23:59:60.999999999+00:00".toList
    = .ok ⟨1483228799, 1999999999, by decide⟩ := by
  decide

end Evidence
