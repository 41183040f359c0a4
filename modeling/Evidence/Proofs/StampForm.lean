import Evidence.Proofs.Numeral
import Evidence.Time.Stamp
import Mathlib.Data.List.Forall2

/-!
# The form of a stamp

A stamp is described by its fields: what its digits and its zone say, whether or not there is such
a time.  The matcher and the search are shown to find exactly the texts of fields.

Main results:

- `Stamp.atFront?_eq_some_iff`: a text begins with a stamp exactly when the text of some fields is
  a prefix of it.
- `Stamp.find?_eq_some_iff` and `Stamp.find?_eq_none_iff`: the search gives the stamp that starts
  leftmost, and none only when no stamp starts anywhere.
- `Stamp.find?_append`: a front without digits neither makes nor hides a stamp.
-/

namespace Evidence.Stamp

/-! ## Fields -/

/-- The sign of a zone offset. -/
inductive Sign where
  | plus
  | minus
deriving DecidableEq, Repr

/-- The zone of a stamp: UTC, or hours and minutes before or behind it. -/
inductive Zone where
  | utc
  | offset (sign : Sign) (hours minutes : Fin 100)
deriving DecidableEq, Repr

/-- The numbers that a stamp is written with: four digits for the year, two for each other part,
and as many as there are for the fraction, which is left out when it has none. -/
structure Fields where
  year : Fin 10000
  month : Fin 100
  day : Fin 100
  hour : Fin 100
  minute : Fin 100
  second : Fin 100
  fraction : List (Fin 10)
  zone : Zone
deriving DecidableEq, Repr

/-- The character of a sign. -/
def Sign.char : Sign → Char
  | plus => '+'
  | minus => '-'

/-- A zone as it is written: `Z`, `+dd:dd` or `-dd:dd`. -/
def Zone.text : Zone → Text
  | utc => ['Z']
  | offset sign hours minutes =>
      sign.char :: Decimal.fixed 2 hours ++ ':' :: Decimal.fixed 2 minutes

/-- A fraction as it is written: `.d+`, or nothing. -/
def fractionText : List (Fin 10) → Text
  | [] => []
  | d :: ds => '.' :: Decimal.digit d :: ds.map Decimal.digit

/-- The date of a stamp as it is written: `dddd-dd-dd`. -/
def Fields.dateText (f : Fields) : Text :=
  Decimal.fixed 4 f.year ++ '-' :: Decimal.fixed 2 f.month ++ '-' :: Decimal.fixed 2 f.day

/-- The time of day of a stamp as it is written: `dd:dd:dd`. -/
def Fields.clockText (f : Fields) : Text :=
  Decimal.fixed 2 f.hour ++ ':' :: Decimal.fixed 2 f.minute ++ ':' :: Decimal.fixed 2 f.second

/-- A stamp as it is written: `dddd-dd-ddTdd:dd:dd[.d+](Z|[+-]dd:dd)`. -/
def Fields.text (f : Fields) : Text :=
  f.dateText ++ 'T' :: f.clockText ++ fractionText f.fraction ++ f.zone.text

/-- A zone begins with a character that is neither a digit nor a point. -/
theorem Zone.text_eq_cons (z : Zone) :
    ∃ c rest, z.text = c :: rest ∧ c.isDigit = false ∧ c ≠ '.' := by
  cases z with
  | utc => exact ⟨'Z', [], rfl, by decide, by decide⟩
  | offset sign hours minutes =>
      refine ⟨sign.char, _, rfl, ?_, ?_⟩ <;> cases sign <;> decide

/-- A stamp has at least twenty characters. -/
theorem Fields.twenty_le_length (f : Fields) : 20 ≤ f.text.length := by
  rcases f.zone.text_eq_cons with ⟨c, rest, hzone, -⟩
  simp only [text, dateText, clockText, hzone, List.length_append, List.length_cons,
    Decimal.length_fixed]
  omega

/-! ## Filling slots -/

/-- A text fills slots when it has one fitting character for each. -/
def Fills (t : Text) (slots : List Slot) : Prop :=
  List.Forall₂ (fun c slot => slot.fits c = true) t slots

/-- The matcher takes off the text that fills the slots. -/
theorem fill?_eq_some_iff {slots : List Slot} {t filled rest : Text} :
    fill? slots t = some (filled, rest) ↔ Fills filled slots ∧ t = filled ++ rest := by
  induction slots generalizing t filled with
  | nil =>
      simp only [fill?, Option.some.injEq, Prod.mk.injEq, Fills, List.forall₂_nil_right_iff]
      constructor
      · rintro ⟨rfl, rfl⟩
        exact ⟨rfl, rfl⟩
      · rintro ⟨rfl, rfl⟩
        exact ⟨rfl, rfl⟩
  | cons slot slots ih =>
      cases t with
      | nil =>
          simp only [fill?, Fills, List.forall₂_cons_right_iff]
          constructor
          · intro h
            cases h
          · rintro ⟨⟨c, tail, -, -, rfl⟩, h⟩
            simp at h
      | cons c t =>
          simp only [fill?, Fills, List.forall₂_cons_right_iff]
          constructor
          · intro h
            split at h
            · rename_i hfits
              rcases Option.map_eq_some_iff.1 h with ⟨⟨tail, rest'⟩, htail, heq⟩
              cases heq
              rcases ih.1 htail with ⟨hfills, rfl⟩
              exact ⟨⟨c, tail, hfits, hfills, rfl⟩, rfl⟩
            · cases h
          · rintro ⟨⟨d, tail, hfits, hfills, rfl⟩, h⟩
            rcases List.cons.inj h with ⟨rfl, ht⟩
            rw [if_pos hfits, ih.2 ⟨hfills, ht⟩]
            rfl

/-- A slot for one character is filled by that character alone. -/
theorem fills_exactly {t : Text} {c : Char} {slots : List Slot} :
    Fills t (.exactly c :: slots) ↔ ∃ rest, t = c :: rest ∧ Fills rest slots := by
  simp only [Fills, List.forall₂_cons_right_iff, Slot.fits, beq_iff_eq]
  constructor
  · rintro ⟨d, rest, rfl, hrest, rfl⟩
    exact ⟨rest, rfl, hrest⟩
  · rintro ⟨rest, rfl, hrest⟩
    exact ⟨c, rest, rfl, hrest, rfl⟩

theorem Fills.exactly {rest : Text} {slots : List Slot} (h : Fills rest slots) (c : Char) :
    Fills (c :: rest) (.exactly c :: slots) :=
  fills_exactly.2 ⟨rest, rfl, h⟩

/-- Slots for digits alone are filled by the numerals of their number. -/
theorem fills_replicate {t : Text} {width : Nat} :
    Fills t (List.replicate width .digit) ↔ t.length = width ∧ ∀ c ∈ t, c.isDigit = true := by
  induction width generalizing t with
  | zero => simp +contextual [Fills, List.forall₂_nil_right_iff, List.length_eq_zero_iff]
  | succ width ih =>
      unfold Fills at ih ⊢
      cases t with
      | nil => simp [List.replicate_succ]
      | cons c t =>
          rw [List.replicate_succ, List.forall₂_cons, ih]
          simp only [Slot.fits, List.length_cons, List.forall_mem_cons]
          constructor
          · rintro ⟨hc, hlen, ht⟩
            exact ⟨by omega, hc, ht⟩
          · rintro ⟨hlen, hc, ht⟩
            exact ⟨hc, by omega, ht⟩

/-- The slots of a numeral of some width, and those behind it. -/
def numeral (width : Nat) (slots : List Slot) : List Slot :=
  List.replicate width .digit ++ slots

theorem Fills.numeral {rest : Text} {slots : List Slot} (h : Fills rest slots) (width n : Nat) :
    Fills (Decimal.fixed width n ++ rest) (numeral width slots) := by
  refine List.rel_append (fills_replicate.2 ⟨by simp, fun c hc => ?_⟩) h
  exact Decimal.isDigit_of_mem_fixed hc

/-- Slots for digits are filled by a numeral of their width. -/
theorem fills_numeral {t : Text} {width : Nat} {slots : List Slot} :
    Fills t (numeral width slots) ↔
      ∃ n < 10 ^ width, ∃ rest, t = Decimal.fixed width n ++ rest ∧ Fills rest slots := by
  constructor
  · intro h
    have hfront := List.forall₂_take_append t _ slots h
    have hback := List.forall₂_drop_append t _ slots h
    rw [List.length_replicate] at hfront hback
    rcases fills_replicate.1 hfront with ⟨hlen, hdigits⟩
    refine ⟨Decimal.value (t.take width), ?_, t.drop width, ?_, hback⟩
    · exact lt_of_lt_of_eq (Decimal.value_lt hdigits) (by rw [hlen])
    · have hfixed := Decimal.fixed_value hdigits
      rw [hlen] at hfixed
      rw [hfixed, List.take_append_drop]
  · rintro ⟨n, -, rest, rfl, hrest⟩
    exact hrest.numeral width n

/-! ## The parts of a stamp -/

theorem dateAndTime_eq :
    dateAndTime = numeral 4 (.exactly '-' :: numeral 2 (.exactly '-' :: numeral 2
      (.exactly 'T' :: numeral 2 (.exactly ':' :: numeral 2 (.exactly ':' :: numeral 2 []))))) :=
  rfl

theorem offset_eq : offset = numeral 2 (.exactly ':' :: numeral 2 []) :=
  rfl

/-- A date and a time of day fill their slots. -/
theorem fills_dateAndTime (f : Fields) :
    Fills (f.dateText ++ 'T' :: f.clockText) dateAndTime := by
  have hclock := ((((Fills.numeral .nil 2 f.second).exactly ':').numeral 2 f.minute).exactly
    ':').numeral 2 f.hour
  have hdate := (((((hclock.exactly 'T').numeral 2 f.day).exactly '-').numeral 2 f.month).exactly
    '-').numeral 4 f.year
  rw [dateAndTime_eq]
  simpa [Fields.dateText, Fields.clockText] using hdate

/-- What fills the slots of a date and a time of day is written by fields, with any fraction and
any zone. -/
theorem exists_fields_of_fills {t : Text} (h : Fills t dateAndTime) (fraction : List (Fin 10))
    (zone : Zone) :
    ∃ f : Fields, t = f.dateText ++ 'T' :: f.clockText ∧ f.fraction = fraction ∧ f.zone = zone := by
  rw [dateAndTime_eq] at h
  simp only [fills_numeral, fills_exactly] at h
  obtain ⟨year, hyear, _, rfl, _, rfl, month, hmonth, _, rfl, _, rfl, day, hday, _, rfl, _, rfl,
    hour, hhour, _, rfl, _, rfl, minute, hminute, _, rfl, _, rfl, second, hsecond, _, rfl,
    hnil⟩ := h
  cases hnil
  refine ⟨⟨⟨year, hyear⟩, ⟨month, hmonth⟩, ⟨day, hday⟩, ⟨hour, hhour⟩, ⟨minute, hminute⟩,
    ⟨second, hsecond⟩, fraction, zone⟩, ?_, rfl, rfl⟩
  simp [Fields.dateText, Fields.clockText]

/-- A fraction is taken off whole when what follows goes on neither with a point nor with a
digit. -/
theorem fraction?_append (ds : List (Fin 10)) {c : Char} (rest : Text) (hdigit : c.isDigit = false)
    (hpoint : c ≠ '.') :
    fraction? (fractionText ds ++ c :: rest) = some (fractionText ds, c :: rest) := by
  cases ds with
  | nil =>
      rw [fractionText, List.nil_append, fraction?]
      rintro tail heq
      exact hpoint (List.cons.inj heq).1
  | cons d ds =>
      change fraction? ('.' :: ((d :: ds).map Decimal.digit ++ c :: rest)) = _
      simp only [fraction?]
      rw [Decimal.takeWhile_map_digit _ hdigit, Decimal.dropWhile_map_digit _ hdigit]
      rfl

/-- What is taken off as a fraction is written by digits, and no character is lost. -/
theorem exists_digits_of_fraction? {t taken rest : Text} (h : fraction? t = some (taken, rest)) :
    ∃ ds : List (Fin 10), taken = fractionText ds ∧ t = taken ++ rest := by
  unfold fraction? at h
  split at h
  · rename_i tail
    split at h
    · cases h
    · rename_i digits hne
      have hall : ∀ c ∈ tail.takeWhile Char.isDigit, c.isDigit = true :=
        fun c hc => List.mem_takeWhile_imp hc
      rcases Decimal.exists_map_digit hall with ⟨ds, hds⟩
      cases h
      cases ds with
      | nil => exact absurd hds.symm hne
      | cons d ds =>
          refine ⟨d :: ds, by rw [← hds]; rfl, ?_⟩
          rw [List.cons_append, List.takeWhile_append_dropWhile]
  · cases h
    exact ⟨[], rfl, rfl⟩

/-- A zone is taken off exactly when a text begins with one. -/
theorem zone?_eq_some_iff {t taken : Text} :
    zone? t = some taken ↔ ∃ zone : Zone, zone.text = taken ∧ taken <+: t := by
  constructor
  · intro h
    unfold zone? at h
    split at h
    · cases h
    · rename_i c rest
      split at h
      · rename_i hc
        subst hc
        cases h
        exact ⟨.utc, rfl, rest, rfl⟩
      · split at h
        · rename_i hsign
          rcases Option.map_eq_some_iff.1 h with ⟨⟨filled, tail⟩, hfill, heq⟩
          rcases fill?_eq_some_iff.1 hfill with ⟨hfills, rfl⟩
          rw [offset_eq] at hfills
          simp only [fills_numeral, fills_exactly] at hfills
          rcases hfills with ⟨hours, hhours, _, rfl, _, rfl, minutes, hminutes, _, rfl, hnil⟩
          cases hnil
          subst heq
          rw [List.append_nil]
          rcases hsign with rfl | rfl
          · exact ⟨.offset .plus ⟨hours, hhours⟩ ⟨minutes, hminutes⟩, rfl, tail, by simp⟩
          · exact ⟨.offset .minus ⟨hours, hhours⟩ ⟨minutes, hminutes⟩, rfl, tail, by simp⟩
        · cases h
  · rintro ⟨zone, rfl, rest, rfl⟩
    cases zone with
    | utc => rfl
    | offset sign hours minutes =>
        have hfills : Fills (Decimal.fixed 2 hours ++ ':' :: Decimal.fixed 2 minutes) offset := by
          have hnumerals := ((Fills.numeral .nil 2 minutes).exactly ':').numeral 2 hours
          rw [offset_eq]
          simpa using hnumerals
        have hfill : fill? offset (_ ++ rest) = _ := fill?_eq_some_iff.2 ⟨hfills, rfl⟩
        rw [List.append_assoc, List.cons_append] at hfill
        cases sign <;> simp [Zone.text, Sign.char, zone?, hfill]

/-! ## A stamp at the front -/

/-- The text of fields is matched whole, whatever follows it. -/
theorem atFront?_text_append (f : Fields) (rest : Text) :
    atFront? (f.text ++ rest) = some f.text := by
  rcases f.zone.text_eq_cons with ⟨c, tail, hzone, hdigit, hpoint⟩
  have hfront : fill? dateAndTime (f.text ++ rest)
      = some (f.dateText ++ 'T' :: f.clockText, fractionText f.fraction ++ (f.zone.text ++ rest)) :=
    fill?_eq_some_iff.2 ⟨fills_dateAndTime f, by simp [Fields.text]⟩
  have hfraction : fraction? (fractionText f.fraction ++ (f.zone.text ++ rest))
      = some (fractionText f.fraction, f.zone.text ++ rest) := by
    rw [hzone]
    exact fraction?_append f.fraction (tail ++ rest) hdigit hpoint
  have hzone? : zone? (f.zone.text ++ rest) = some f.zone.text :=
    zone?_eq_some_iff.2 ⟨f.zone, rfl, rest, rfl⟩
  simp only [atFront?, hfront, hfraction, hzone?, Option.bind_eq_bind, Option.bind_some]
  simp [Fields.text]

/-- A text begins with a stamp exactly when the text of some fields is a prefix of it. -/
theorem atFront?_eq_some_iff {t stamp : Text} :
    atFront? t = some stamp ↔ ∃ f : Fields, f.text = stamp ∧ stamp <+: t := by
  constructor
  · intro h
    simp only [atFront?, Option.bind_eq_bind, Option.bind_eq_some_iff, Option.pure_def,
      Option.some.injEq, Prod.exists] at h
    rcases h with ⟨front, _, hfront, fraction, _, hfraction, zoneText, hzone, rfl⟩
    rcases fill?_eq_some_iff.1 hfront with ⟨hfills, rfl⟩
    rcases exists_digits_of_fraction? hfraction with ⟨ds, rfl, rfl⟩
    rcases zone?_eq_some_iff.1 hzone with ⟨zone, rfl, rest, rfl⟩
    rcases exists_fields_of_fills hfills ds zone with ⟨f, rfl, rfl, rfl⟩
    exact ⟨f, rfl, rest, by simp⟩
  · rintro ⟨f, rfl, rest, rfl⟩
    exact atFront?_text_append f rest

/-- A character that is no digit begins no stamp. -/
theorem atFront?_cons_of_not_digit {c : Char} (h : c.isDigit = false) (rest : Text) :
    atFront? (c :: rest) = none := by
  simp [atFront?, dateAndTime, fill?, Slot.fits, h]

/-! ## The leftmost stamp -/

/-- The stamp with some fields starts at a position of a line. -/
def StartsAt (line : Text) (pos : Nat) (f : Fields) : Prop :=
  f.text <+: line.drop pos

/-- The stamp with some fields is the one of a line that starts leftmost. -/
def IsFirst (line : Text) (f : Fields) : Prop :=
  ∃ pos, StartsAt line pos f ∧ ∀ pos' g, StartsAt line pos' g → pos ≤ pos'

/-- A stamp starts at the front of a line exactly when the matcher finds it there. -/
theorem startsAt_zero_iff {line : Text} {f : Fields} :
    StartsAt line 0 f ↔ atFront? line = some f.text :=
  ⟨fun h => atFront?_eq_some_iff.2 ⟨f, rfl, h⟩, fun h => by
    rcases atFront?_eq_some_iff.1 h with ⟨g, -, hprefix⟩
    exact hprefix⟩

theorem not_startsAt_nil (pos : Nat) (f : Fields) : ¬ StartsAt [] pos f := by
  intro h
  have hle := h.length_le
  have hlen := f.twenty_le_length
  rw [List.drop_nil, List.length_nil] at hle
  omega

/-- The search gives nothing only when no stamp starts anywhere. -/
theorem find?_eq_none_iff {line : Text} : find? line = none ↔ ∀ pos f, ¬ StartsAt line pos f := by
  induction line with
  | nil => exact ⟨fun _ => not_startsAt_nil, fun _ => rfl⟩
  | cons c rest ih =>
      rw [find?]
      cases hfront : atFront? (c :: rest) with
      | some stamp =>
          rcases atFront?_eq_some_iff.1 hfront with ⟨f, rfl, -⟩
          constructor
          · intro h
            cases h
          · intro h
            exact absurd (startsAt_zero_iff.2 hfront) (h 0 f)
      | none =>
          simp only [ih]
          constructor
          · intro h pos f hstart
            cases pos with
            | zero => exact absurd (startsAt_zero_iff.1 hstart) (by simp [hfront])
            | succ pos => exact h pos f hstart
          · intro h pos f
            exact h (pos + 1) f

/-- A character in front of a line at which no stamp starts leaves the leftmost stamp. -/
theorem isFirst_cons_iff {c : Char} {rest : Text} {f : Fields} (h : atFront? (c :: rest) = none) :
    IsFirst (c :: rest) f ↔ IsFirst rest f := by
  have hzero : ∀ g, ¬ StartsAt (c :: rest) 0 g := by
    intro g hg
    rw [startsAt_zero_iff, h] at hg
    cases hg
  constructor
  · rintro ⟨pos, hstart, hleft⟩
    cases pos with
    | zero => exact absurd hstart (hzero f)
    | succ pos =>
        exact ⟨pos, hstart, fun pos' g hg => Nat.le_of_succ_le_succ (hleft (pos' + 1) g hg)⟩
  · rintro ⟨pos, hstart, hleft⟩
    refine ⟨pos + 1, hstart, fun pos' g hg => ?_⟩
    cases pos' with
    | zero => exact absurd hg (hzero g)
    | succ pos' => exact Nat.succ_le_succ (hleft pos' g hg)

/-- The search gives the stamp that starts leftmost. -/
theorem find?_eq_some_iff {line stamp : Text} :
    find? line = some stamp ↔ ∃ f, IsFirst line f ∧ f.text = stamp := by
  induction line with
  | nil =>
      constructor
      · intro h
        cases h
      · rintro ⟨f, ⟨pos, hstart, -⟩, -⟩
        exact absurd hstart (not_startsAt_nil pos f)
  | cons c rest ih =>
      rw [find?]
      cases hfront : atFront? (c :: rest) with
      | none => simp only [ih, isFirst_cons_iff hfront]
      | some found =>
          rcases atFront?_eq_some_iff.1 hfront with ⟨f, rfl, -⟩
          have hstart : StartsAt (c :: rest) 0 f := startsAt_zero_iff.2 hfront
          constructor
          · intro h
            exact ⟨f, ⟨0, hstart, fun _ _ _ => Nat.zero_le _⟩, Option.some.inj h⟩
          · rintro ⟨g, ⟨pos, hg, hleft⟩, rfl⟩
            obtain rfl : pos = 0 := Nat.le_zero.1 (hleft 0 f hstart)
            rw [← hfront, startsAt_zero_iff.1 hg]

/-- A front without digits neither makes nor hides a stamp. -/
theorem find?_append {front : Text} (h : ∀ c ∈ front, c.isDigit = false) (line : Text) :
    find? (front ++ line) = find? line := by
  induction front with
  | nil => rfl
  | cons c front ih =>
      rw [List.cons_append, find?, atFront?_cons_of_not_digit (h c (by simp))]
      exact ih fun d hd => h d (by simp [hd])

end Evidence.Stamp
