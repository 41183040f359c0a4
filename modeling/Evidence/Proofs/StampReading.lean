import Evidence.Log.Window
import Evidence.Proofs.StampTime

/-!
# Reading a stamp as a time

The strict reader, given the text of fields, finds no fault but that of a part out of range.  So
the verdict on a line is a statement about the fields of its leftmost stamp.

Main results:

- `Rfc3339.read_text`: what the reader makes of the text of fields.
- `Log.instantOf?_text`: a log takes a stamp as a time exactly when its fields are valid.
- `Log.verdict_exact`: the verdict on a line, said by the time that its leftmost stamp writes.
-/

namespace Evidence

/-- A text has at least as many bytes as characters. -/
theorem Text.length_le_byteLength (t : Text) : t.length ≤ Text.byteLength t := by
  induction t with
  | nil => exact Nat.le_refl _
  | cons c t ih =>
      have hone : 1 ≤ byteWidth c := by
        unfold byteWidth
        split_ifs <;> omega
      have hcons : byteLength (c :: t) = byteWidth c + byteLength t := by
        simp [byteLength]
      rw [hcons, List.length_cons]
      omega

namespace Rfc3339

open Stamp

/-! ## Steps of the reader -/

variable {α β : Type}

private theorem ok_bind (a : α) (next : α → Except Fault β) : (Except.ok a >>= next) = next a :=
  rfl

private theorem error_bind (fault : Fault) (next : α → Except Fault β) :
    (Except.error fault >>= next) = .error fault :=
  rfl

private theorem require_bind (inRange : Bool) (next : Unit → Except Fault β) :
    (require inRange >>= next) = if inRange then next () else .error .outOfRange := by
  cases inRange <;> rfl

theorem digit_digitChar {n : Nat} (h : n < 10) (t : Text) :
    digit (Nat.digitChar n :: t) = .ok (n, t) := by
  simp [digit, Nat.isDigit_digitChar, h, Decimal.digitValue,
    Nat.toNat_digitChar_sub_48_of_lt_ten h]

theorem twoDigits_fixed (n : Nat) (t : Text) :
    twoDigits (Decimal.fixed 2 n ++ t) = .ok (n % 100, t) := by
  have hsum : 10 * (n / 10 % 10) + n % 10 = n % 100 := by omega
  have htext : Decimal.fixed 2 n ++ t
      = Nat.digitChar (n / 10 % 10) :: Nat.digitChar (n % 10) :: t := by
    simp [Decimal.fixed]
  rw [htext, twoDigits, digit_digitChar (Nat.mod_lt _ (by decide)), ok_bind]
  dsimp only
  rw [digit_digitChar (Nat.mod_lt _ (by decide)), ok_bind]
  dsimp only
  rw [hsum]
  rfl

theorem fourDigits_fixed (n : Nat) (t : Text) :
    fourDigits (Decimal.fixed 4 n ++ t) = .ok (n % 10000, t) := by
  have hsum : 100 * (n / 10 ^ 2 % 100) + n % 100 = n % 10000 := by omega
  rw [Decimal.fixed_add 2 2, List.append_assoc, fourDigits, twoDigits_fixed, ok_bind]
  dsimp only
  rw [twoDigits_fixed, ok_bind]
  dsimp only
  rw [hsum]
  rfl

theorem oneOf_self (c : Char) (t : Text) : oneOf (fun d => d == c) (c :: t) = .ok t := by
  simp [oneOf]

/-- Texts that are not short pass the test of their length. -/
theorem twoBytes_of_le {t : Text} (h : 2 ≤ t.length) : twoBytes t = .ok () := by
  have hle := Text.length_le_byteLength t
  rw [twoBytes, if_neg (by omega)]

/-! ## The parts of a stamp -/

/-- The date of fields is read, and refused when the calendar does not have it. -/
theorem date_dateText (f : Fields) (t : Text) :
    date (f.dateText ++ t)
      = if Date.Valid ⟨(f.year : ℕ), f.month, f.day⟩ then
          .ok (⟨(f.year : ℕ), f.month, f.day⟩, t)
        else .error .outOfRange := by
  have hyear : (f.year : ℕ) % 10000 = f.year := Nat.mod_eq_of_lt f.year.isLt
  have hmonth : (f.month : ℕ) % 100 = f.month := Nat.mod_eq_of_lt f.month.isLt
  have hday : (f.day : ℕ) % 100 = f.day := Nat.mod_eq_of_lt f.day.isLt
  have htext : f.dateText ++ t = Decimal.fixed 4 f.year ++ '-' :: (Decimal.fixed 2 f.month
      ++ '-' :: (Decimal.fixed 2 f.day ++ t)) := by
    simp [Fields.dateText]
  simp only [htext, date, fourDigits_fixed, twoDigits_fixed, ok_bind,
    oneOf_self, hyear, hmonth, hday, require_bind,
    decide_eq_true_eq]
  rfl

/-- The time of day of fields is read, whatever its values. -/
theorem clock_clockText (f : Fields) (t : Text) :
    clock (f.clockText ++ t) = .ok (((f.hour : ℕ), (f.minute : ℕ), (f.second : ℕ)), t) := by
  have hhour : (f.hour : ℕ) % 100 = f.hour := Nat.mod_eq_of_lt f.hour.isLt
  have hminute : (f.minute : ℕ) % 100 = f.minute := Nat.mod_eq_of_lt f.minute.isLt
  have hsecond : (f.second : ℕ) % 100 = f.second := Nat.mod_eq_of_lt f.second.isLt
  have htext : f.clockText ++ t = Decimal.fixed 2 f.hour ++ ':' :: (Decimal.fixed 2 f.minute
      ++ ':' :: (Decimal.fixed 2 f.second ++ t)) := by
    simp [Fields.clockText]
  simp only [htext, clock, twoDigits_fixed, ok_bind, oneOf_self,
    hhour, hminute, hsecond]
  rfl

/-- The fraction of fields is read up to the zone. -/
theorem fraction_fractionText (ds : List (Fin 10)) (z : Zone) :
    fraction (fractionText ds ++ z.text)
      = .ok (nanosOfFraction (ds.map Decimal.digit), z.text) := by
  rcases z.text_eq_cons with ⟨c, rest, hzone, hdigit, hpoint⟩
  rw [hzone]
  cases ds with
  | nil =>
      rw [fractionText, List.nil_append, fraction]
      · rfl
      · intro tail heq
        exact hpoint (List.cons.inj heq).1
  | cons d ds =>
      have hrun := Decimal.takeWhile_map_digit (d :: ds) hdigit rest
      have hrest := Decimal.dropWhile_map_digit (d :: ds) hdigit rest
      obtain ⟨tail, htail⟩ : ∃ tail, tail = (d :: ds).map Decimal.digit ++ c :: rest := ⟨_, rfl⟩
      rw [← htail] at hrun hrest
      have hfraction : fraction (fractionText (d :: ds) ++ c :: rest)
          = if (Decimal.digit d).isDigit then
              .ok (nanosOfFraction (tail.takeWhile Char.isDigit), tail.dropWhile Char.isDigit)
            else .error .malformed := by
        rw [htail]
        rfl
      rw [hfraction, if_pos (Decimal.isDigit_digit d), hrun, hrest]

/-- Hours and minutes of an offset are read, and refused when there are too many minutes. -/
theorem offsetBody_text (hours minutes : Fin 100) :
    offsetBody (Decimal.fixed 2 hours ++ ':' :: Decimal.fixed 2 minutes)
      = if (minutes : ℕ) < 60 then .ok (60 * (hours : ℕ) + (minutes : ℕ), [])
        else .error .outOfRange := by
  have hhours : (hours : ℕ) % 100 = hours := Nat.mod_eq_of_lt hours.isLt
  have hminutes : (minutes : ℕ) % 100 = minutes := Nat.mod_eq_of_lt minutes.isLt
  have hlast := twoDigits_fixed minutes []
  rw [List.append_nil] at hlast
  have hlong : twoBytes (Decimal.fixed 2 hours ++ ':' :: Decimal.fixed 2 minutes) = .ok () :=
    twoBytes_of_le (by simp)
  have hshort : twoBytes (Decimal.fixed 2 minutes) = .ok () := twoBytes_of_le (by simp)
  simp only [offsetBody, hlong, hshort, ok_bind, twoDigits_fixed, oneOf_self, offsetMinutes, hlast,
    hhours, hminutes, require_bind, decide_eq_true_eq]
  split <;> rfl

theorem offsetInRange_iff {minutes : Int} : offsetInRange minutes = true ↔ minutes.natAbs < 1440 :=
  ⟨of_decide_eq_true, decide_eq_true⟩

/-- The zone of fields is read, unless its offset has too many minutes.  Too many hours are left to
the test of the whole offset. -/
theorem zone_text (z : Zone) :
    (zone z.text = .ok (z.minutes, []) ∧ (offsetInRange z.minutes = true ↔ z.Valid)) ∨
      (zone z.text = .error .outOfRange ∧ ¬ z.Valid) := by
  cases z with
  | utc => exact .inl ⟨rfl, iff_of_true rfl trivial⟩
  | offset sign hours minutes =>
      have hbody := offsetBody_text hours minutes
      by_cases hm : (minutes : ℕ) < 60
      · rw [if_pos hm] at hbody
        refine .inl ⟨?_, ?_⟩
        · cases sign <;> simp [Zone.text, Sign.char, zone, hbody, Zone.minutes, Except.map]
        · rw [offsetInRange_iff]
          cases sign <;> simp only [Zone.minutes, Zone.Valid] <;> omega
      · rw [if_neg hm] at hbody
        refine .inr ⟨?_, ?_⟩
        · cases sign <;> simp [Zone.text, Sign.char, zone, hbody, Except.map]
        · simp only [Zone.Valid]
          omega

/-! ## The whole stamp -/

/-- A text that is not too short is read part by part. -/
theorem read_eq {t : Text} (h : ¬ Text.byteLength t < 19) :
    read t = (do
      let (d, t) ← date t
      let t ← oneOf (fun c => c == 'T' || c == 't' || c == ' ') t
      let (time, t) ← clock t
      let (nanos, t) ← fraction t
      require (clockInRange time)
      let (offset, t) ← zone t
      if t = [] then
        require (offsetInRange offset)
        return assemble d time nanos offset
      else throw .trailing) := by
  rw [read, if_neg h]
  simp only [ne_eq, ite_not]
  rfl

/-- The reader gives the instant of fields, unless a part of them is out of range.  Second 60 is in
range for it. -/
theorem read_text (f : Fields) :
    read f.text
      = if Date.Valid ⟨(f.year : ℕ), f.month, f.day⟩ ∧
            clockInRange ((f.hour : ℕ), (f.minute : ℕ), (f.second : ℕ)) = true ∧ f.zone.Valid then
          .ok f.instant
        else .error .outOfRange := by
  have hlong : ¬ Text.byteLength f.text < 19 := by
    have hlen := f.twenty_le_length
    have hle := Text.length_le_byteLength f.text
    omega
  have htext : f.text = f.dateText ++ ('T' :: (f.clockText
      ++ (fractionText f.fraction ++ f.zone.text))) := by
    simp [Fields.text]
  have hmark (t : Text) : oneOf (fun c => c == 'T' || c == 't' || c == ' ') ('T' :: t) = .ok t :=
    rfl
  have hzone := zone_text f.zone
  rw [read_eq hlong, htext, date_dateText]
  by_cases hdate : Date.Valid ⟨(f.year : ℕ), f.month, f.day⟩
  · rw [if_pos hdate, ok_bind]
    dsimp only
    rw [hmark, ok_bind, clock_clockText, ok_bind]
    dsimp only
    rw [fraction_fractionText, ok_bind]
    dsimp only
    rw [require_bind]
    by_cases hclock : clockInRange ((f.hour : ℕ), (f.minute : ℕ), (f.second : ℕ)) = true
    · rw [if_pos hclock]
      rcases hzone with ⟨hzone, hrange⟩ | ⟨hzone, hinvalid⟩
      · rw [hzone, ok_bind]
        dsimp only
        rw [if_pos rfl, require_bind]
        by_cases hvalid : f.zone.Valid
        · rw [if_pos (hrange.2 hvalid), if_pos ⟨hdate, hclock, hvalid⟩]
          rfl
        · rw [if_neg fun h => hvalid (hrange.1 h), if_neg fun h => hvalid h.2.2]
      · rw [hzone, error_bind, if_neg fun h => hinvalid h.2.2]
    · rw [if_neg hclock, if_neg fun h => hclock h.2.1]
  · rw [if_neg hdate, error_bind, if_neg fun h => hdate h.1]

end Rfc3339

/-! ## Valid fields -/

/-- Only the months of a calendar have days. -/
theorem Calendar.month_of_one_le_daysInMonth {year : Int} {month : Nat}
    (h : 1 ≤ daysInMonth year month) : 1 ≤ month ∧ month ≤ 12 := by
  unfold daysInMonth at h
  split at h <;> omega

namespace Stamp.Fields

/-- Fields are valid when the reader has nothing against them and they are not in second 60. -/
theorem valid_iff {f : Fields} :
    f.Valid ↔ (Date.Valid ⟨(f.year : ℕ), f.month, f.day⟩ ∧
      Rfc3339.clockInRange ((f.hour : ℕ), (f.minute : ℕ), (f.second : ℕ)) = true ∧
      f.zone.Valid) ∧ (f.second : ℕ) ≤ 59 := by
  simp only [Rfc3339.clockInRange, Bool.and_eq_true, decide_eq_true_eq]
  constructor
  · intro h
    have hhour := h.hour
    have hminute := h.minute
    have hsecond := h.second
    exact ⟨⟨h.day, ⟨⟨by omega, by omega⟩, by omega⟩, h.zone⟩, hsecond⟩
  · rintro ⟨⟨hdate, ⟨⟨hhour, hminute⟩, -⟩, hzone⟩, hsecond⟩
    exact ⟨Calendar.month_of_one_le_daysInMonth (hdate.1.trans hdate.2), hdate,
      by omega, by omega, hsecond, hzone⟩

instance (f : Fields) : Decidable f.Valid :=
  decidable_of_iff _ valid_iff.symm

/-- The reader gives the instant of valid fields. -/
theorem read_text {f : Fields} (h : f.Valid) : Rfc3339.read f.text = .ok f.instant := by
  rw [Rfc3339.read_text, if_pos (valid_iff.1 h).1]

/-- The instant of fields is in a leap second exactly when they write second 60. -/
theorem isLeap_instant {f : Fields} : f.instant.isLeap = true ↔ (f.second : ℕ) = 60 := by
  have hlt := leading_lt 9 f.fraction
  have hnanos := nanos_instant f
  constructor
  · intro h
    have hle : 10 ^ 9 ≤ f.instant.nanos := of_decide_eq_true h
    by_contra hne
    rw [if_neg hne] at hnanos
    omega
  · intro h
    rw [if_pos h] at hnanos
    have hle : Instant.perSecond ≤ f.instant.nanos := by omega
    exact decide_eq_true hle

end Stamp.Fields

/-! ## The verdict on a line -/

namespace Log

open Stamp

/-- A log takes the text of valid fields as their instant, and that of others as no time. -/
theorem instantOf?_text (f : Fields) :
    instantOf? f.text = if f.Valid then some f.instant else none := by
  rw [instantOf?, Rfc3339.instant?]
  by_cases hvalid : f.Valid
  · have hleap : f.instant.isLeap = false := by
      have hsecond := hvalid.second
      rw [← Bool.not_eq_true, Fields.isLeap_instant]
      omega
    rw [if_pos hvalid, Fields.read_text hvalid]
    simp [Except.toOption, hleap]
  · rw [if_neg hvalid, Rfc3339.read_text]
    split
    · rename_i hread
      -- The reader has nothing against the fields, so it is second 60 that makes them invalid.
      have hclock := hread.2.1
      simp only [Rfc3339.clockInRange, Bool.and_eq_true, decide_eq_true_eq] at hclock
      have hlate : ¬ (f.second : ℕ) ≤ 59 := fun h => hvalid (Fields.valid_iff.2 ⟨hread, h⟩)
      have hleap : f.instant.isLeap = true := Fields.isLeap_instant.2 (by omega)
      simp [Except.toOption, hleap]
    · rfl

/-- The verdict on a line whose leftmost stamp has some fields. -/
theorem verdict_of_find?_eq {line : Text} {f : Fields} (h : Stamp.find? line = some f.text)
    (start : Instant) :
    verdict start line
      = if f.Valid then if start ≤ f.instant then .inWindow else .early else .unreadable := by
  rw [verdict, h]
  dsimp only
  rw [verdictOfStamp, instantOf?_text]
  by_cases hvalid : f.Valid
  · rw [if_pos hvalid, if_pos hvalid]
  · rw [if_neg hvalid, if_neg hvalid]

/-- A line is unreadable exactly when the fields of its leftmost stamp are invalid. -/
theorem verdict_eq_unreadable_iff_of_find? {line : Text} {f : Fields}
    (h : Stamp.find? line = some f.text) (start : Instant) :
    verdict start line = .unreadable ↔ ¬ f.Valid := by
  rw [verdict_of_find?_eq h]
  by_cases hvalid : f.Valid
  · rw [if_pos hvalid]
    split <;> simp [hvalid]
  · simp [hvalid]

/-- A line is in the window exactly when the fields of its leftmost stamp are valid and the
instant kept of them is not before the start. -/
theorem verdict_eq_inWindow_iff_of_find? {line : Text} {f : Fields}
    (h : Stamp.find? line = some f.text) (start : Instant) :
    verdict start line = .inWindow ↔ f.Valid ∧ start ≤ f.instant := by
  rw [verdict_of_find?_eq h]
  by_cases hvalid : f.Valid
  · rw [if_pos hvalid]
    split <;> simp [*]
  · simp [hvalid]

/-- The verdict on a line is exact.  Its leftmost stamp is unreadable exactly when one of its fields
is out of range.  Otherwise a start outside leap seconds is compared with the time that the fields
write, to the last digit of the fraction; a start in a leap second counts as the second after it;
and the log reads the same instant from the stamp as the reader for times that were asked for. -/
theorem verdict_exact {line stamp : Text} (h : Stamp.find? line = some stamp) :
    (∃ f : Fields, f.text = stamp) ∧ ∀ f : Fields, f.text = stamp →
      (∀ start, verdict start line = .unreadable ↔ ¬ f.Valid) ∧
      (f.Valid →
        (∀ start : Instant, start.isLeap = false →
          (verdict start line = .inWindow ↔ (start.seconds + start.nanos / 10 ^ 9 : ℚ) ≤ f.time)) ∧
        (∀ start : Instant, start.isLeap = true →
          (verdict start line = .inWindow ↔ (start.seconds + 1 : ℚ) ≤ f.time)) ∧
        ∃ i, Rfc3339.parse stamp = .ok i ∧ instantOf? stamp = some i ∧
          ∀ start, verdict start line = .inWindow ↔ start ≤ i) := by
  constructor
  · rcases Stamp.find?_eq_some_iff.1 h with ⟨f, -, htext⟩
    exact ⟨f, htext⟩
  · rintro f rfl
    refine ⟨verdict_eq_unreadable_iff_of_find? h, fun hvalid => ?_⟩
    have hwindow (start : Instant) : verdict start line = .inWindow ↔ start ≤ f.instant := by
      rw [verdict_eq_inWindow_iff_of_find? h, and_iff_right hvalid]
    refine ⟨fun start hleap => ?_, fun start hleap => ?_, f.instant, ?_, ?_, hwindow⟩
    · rw [hwindow, Fields.le_instant_iff_of_not_isLeap hvalid.second hleap]
    · rw [hwindow, Fields.le_instant_iff_of_isLeap hvalid.second hleap]
    · rw [Rfc3339.parse, Fields.read_text hvalid]
      rfl
    · rw [instantOf?_text, if_pos hvalid]

/-- The last tenth of a nanosecond of a leap day, written one hour behind UTC, is in every window
that starts in or before it, and a later stamp of the line changes nothing. -/
theorem verdict_at_end_of_leap_day :
    Stamp.find? "at 2000-02-29T23:59:59.9999999999-01:00 and 2001-01-01T00:00:00Z".toList
        = some "2000-02-29T23:59:59.9999999999-01:00".toList ∧
      ∀ start : Instant, start.isLeap = false →
        (verdict start "at 2000-02-29T23:59:59.9999999999-01:00 and 2001-01-01T00:00:00Z".toList
            = .inWindow ↔
          (start.seconds + start.nanos / 10 ^ 9 : ℚ) ≤ 951872399 + 9999999999 / 10 ^ 10) := by
  have hfind : Stamp.find? "at 2000-02-29T23:59:59.9999999999-01:00 and 2001-01-01T00:00:00Z".toList
      = some "2000-02-29T23:59:59.9999999999-01:00".toList := by
    decide +kernel
  let f : Fields := ⟨2000, 2, 29, 23, 59, 59, List.replicate 10 9, .offset .minus 1 0⟩
  have htime : f.time = 951872399 + 9999999999 / 10 ^ 10 := by
    have hwhole : f.wholeSeconds = 951872399 := by
      rw [Fields.wholeSeconds, ← Date.dayNumber_eq_countedDays]
      decide +kernel
    have hpart : fractionValue f.fraction = 9999999999 / 10 ^ 10 := by
      norm_num [f, fractionValue, List.replicate]
    rw [Fields.time, hwhole, hpart]
    rfl
  have hexact := ((verdict_exact hfind).2 f (by decide +kernel)).2 (by decide +kernel)
  rw [htime] at hexact
  exact ⟨hfind, hexact.1⟩

end Log

end Evidence
