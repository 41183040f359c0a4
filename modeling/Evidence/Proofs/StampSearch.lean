import Evidence.Proofs.StampForm

/-!
# The search for a stamp

The shape of a stamp, said by a pattern and without the matcher, and the search said by that shape.
No two stamps start at one place, so it does not matter how a search chooses among them.

Main definitions:

- `Stamp.Follows`: a text that follows a pattern of digits and other characters.
- `Stamp.HasShape`: the shape of a stamp.
- `Stamp.StandsAt` and `Stamp.IsLeftmost`: where a stamp stands in a line.

Main results:

- `Stamp.hasShape_iff`: the texts of that shape are the texts of fields.
- `Stamp.StandsAt.unique`: at most one stamp starts at each place of a line.
- `Stamp.StandsAt.fraction`: the fraction of a stamp has all digits behind the point.
- `Stamp.find?_of_not_mem`: a front without hyphens does not hide a stamp.
- `Stamp.find?_exact`: what the search finds.
-/

namespace Evidence.Stamp

variable {line t front back stamp other time rest : Text} {pos : Nat}

/-! ## The shape -/

/-- A text follows a pattern when it has a character for each of the pattern: a digit of ASCII for
`d`, and the same character for any other. -/
def Follows (t : Text) (pattern : String) : Prop :=
  List.Forall₂ (fun c p => if p = 'd' then c.isDigit = true else c = p) t pattern.toList

/-- A fraction is nothing, or a point and at least one digit. -/
inductive IsFraction : Text → Prop
  | none : IsFraction []
  | point {digits : Text} (ne_nil : digits ≠ []) (digit : ∀ c ∈ digits, c.isDigit = true) :
      IsFraction ('.' :: digits)

/-- A zone is `Z`, or a sign with hours and minutes. -/
def IsZone (t : Text) : Prop :=
  Follows t "Z" ∨ Follows t "+dd:dd" ∨ Follows t "-dd:dd"

/-- A text has the shape of a stamp when it is a date and a time of day, then perhaps a fraction,
then a zone. -/
def HasShape (t : Text) : Prop :=
  ∃ time fraction zone, Follows time "dddd-dd-ddTdd:dd:dd" ∧ IsFraction fraction ∧ IsZone zone ∧
    t = time ++ fraction ++ zone

/-- A stamp stands at a position of a line when it starts there. -/
def StandsAt (line : Text) (pos : Nat) (stamp : Text) : Prop :=
  HasShape stamp ∧ stamp <+: line.drop pos

/-- A stamp is the leftmost one of a line when it stands there and none starts further left. -/
def IsLeftmost (line stamp : Text) : Prop :=
  ∃ pos, StandsAt line pos stamp ∧ ∀ pos' other, StandsAt line pos' other → pos ≤ pos'

/-! ## The shape and the fields -/

/-- The slot for a character of a pattern. -/
def slotOf (p : Char) : Slot :=
  if p = 'd' then .digit else .exactly p

/-- A text follows a pattern exactly when it fills the slots for it. -/
theorem follows_iff {pattern : String} : Follows t pattern ↔ Fills t (pattern.toList.map slotOf) := by
  have hfits : (fun (c p : Char) => if p = 'd' then c.isDigit = true else c = p)
      = fun c p => (slotOf p).fits c = true := by
    funext c p
    rw [slotOf]
    split <;> simp [Slot.fits]
  rw [Follows, hfits, Fills, List.forall₂_map_right_iff]

theorem follows_dateAndTime : Follows t "dddd-dd-ddTdd:dd:dd" ↔ Fills t dateAndTime :=
  follows_iff

/-- The offsets are those that are written by hours and minutes. -/
theorem fills_offset : Fills t offset ↔
    ∃ hours minutes : Fin 100, t = Decimal.fixed 2 hours ++ ':' :: Decimal.fixed 2 minutes := by
  rw [offset_eq]
  constructor
  · intro h
    simp only [fills_numeral, fills_exactly] at h
    rcases h with ⟨hours, hhours, _, rfl, _, rfl, minutes, hminutes, _, rfl, hnil⟩
    cases hnil
    exact ⟨⟨hours, hhours⟩, ⟨minutes, hminutes⟩, by simp⟩
  · rintro ⟨hours, minutes, rfl⟩
    have hminutes := Fills.numeral .nil 2 minutes
    rw [List.append_nil] at hminutes
    exact (hminutes.exactly ':').numeral 2 hours

/-- A sign with hours and minutes is a sign in front of an offset. -/
theorem follows_signed {sign : Sign} {pattern : String}
    (h : pattern.toList = sign.char :: "dd:dd".toList) :
    Follows t pattern ↔ ∃ hours minutes, (Zone.offset sign hours minutes).text = t := by
  have hslots : pattern.toList.map slotOf = .exactly sign.char :: offset := by
    rw [h]
    cases sign <;> rfl
  rw [follows_iff, hslots, fills_exactly]
  constructor
  · rintro ⟨rest, rfl, hrest⟩
    rcases fills_offset.1 hrest with ⟨hours, minutes, rfl⟩
    exact ⟨hours, minutes, rfl⟩
  · rintro ⟨hours, minutes, rfl⟩
    exact ⟨_, rfl, fills_offset.2 ⟨hours, minutes, rfl⟩⟩

theorem follows_utc : Follows t "Z" ↔ Zone.utc.text = t := by
  rw [follows_iff]
  constructor
  · intro h
    rcases fills_exactly.1 h with ⟨rest, rfl, hnil⟩
    cases hnil
    rfl
  · rintro rfl
    exact Fills.exactly .nil 'Z'

/-- The fractions are those that are written by digits. -/
theorem isFraction_iff : IsFraction t ↔ ∃ ds, fractionText ds = t := by
  constructor
  · rintro (_ | ⟨hne, hdigit⟩)
    · exact ⟨[], rfl⟩
    · rcases Decimal.exists_map_digit hdigit with ⟨ds, rfl⟩
      cases ds with
      | nil => exact absurd rfl hne
      | cons d ds => exact ⟨d :: ds, rfl⟩
  · rintro ⟨ds, rfl⟩
    cases ds with
    | nil => exact .none
    | cons d ds =>
      refine .point (List.cons_ne_nil _ _) fun c hmem => ?_
      exact @Decimal.isDigit_of_mem_map_digit (d :: ds) c hmem

/-- The zones are those that are written by the zone of some fields. -/
theorem isZone_iff : IsZone t ↔ ∃ zone : Zone, zone.text = t := by
  have hplus := @follows_signed t .plus "+dd:dd" rfl
  have hminus := @follows_signed t .minus "-dd:dd" rfl
  rw [IsZone, follows_utc, hplus, hminus]
  constructor
  · rintro (h | ⟨hours, minutes, h⟩ | ⟨hours, minutes, h⟩)
    · exact ⟨.utc, h⟩
    · exact ⟨.offset .plus hours minutes, h⟩
    · exact ⟨.offset .minus hours minutes, h⟩
  · rintro ⟨zone, h⟩
    cases zone with
    | utc => exact .inl h
    | offset sign hours minutes =>
      cases sign with
      | plus => exact .inr (.inl ⟨hours, minutes, h⟩)
      | minus => exact .inr (.inr ⟨hours, minutes, h⟩)

/-- The texts with the shape of a stamp are those that some fields are written as. -/
theorem hasShape_iff : HasShape t ↔ ∃ f : Fields, f.text = t := by
  constructor
  · rintro ⟨time, fraction, zone, htime, hfraction, hzone, rfl⟩
    rcases isFraction_iff.1 hfraction with ⟨ds, rfl⟩
    rcases isZone_iff.1 hzone with ⟨zone, rfl⟩
    rcases exists_fields_of_fills (follows_dateAndTime.1 htime) ds zone with ⟨f, rfl, rfl, rfl⟩
    exact ⟨f, rfl⟩
  · rintro ⟨f, rfl⟩
    exact ⟨_, _, _, follows_dateAndTime.2 (fills_dateAndTime f), isFraction_iff.2 ⟨_, rfl⟩,
      isZone_iff.2 ⟨_, rfl⟩, rfl⟩

/-- A stamp begins with four digits and a hyphen. -/
theorem HasShape.eq_append (h : HasShape stamp) :
    ∃ year rest, stamp = year ++ '-' :: rest ∧ year.length = 4 ∧ '-' ∉ year := by
  rcases hasShape_iff.1 h with ⟨f, rfl⟩
  refine ⟨Decimal.fixed 4 f.year, Decimal.fixed 2 f.month ++ '-' :: Decimal.fixed 2 f.day
    ++ 'T' :: f.clockText ++ fractionText f.fraction ++ f.zone.text,
    by simp [Fields.text, Fields.dateText], by simp, ?_⟩
  intro hmem
  have hdigit := Decimal.isDigit_of_mem_fixed hmem
  cases hdigit

/-! ## Where stamps stand -/

/-- A stamp stands where the stamp with some fields starts. -/
theorem standsAt_iff : StandsAt line pos stamp ↔ ∃ f, StartsAt line pos f ∧ f.text = stamp := by
  rw [StandsAt, hasShape_iff]
  constructor
  · rintro ⟨⟨f, rfl⟩, hstart⟩
    exact ⟨f, hstart, rfl⟩
  · rintro ⟨f, hstart, rfl⟩
    exact ⟨⟨f, rfl⟩, hstart⟩

/-- The matcher finds a stamp where it stands. -/
theorem StandsAt.atFront?_eq (h : StandsAt line pos stamp) :
    atFront? (line.drop pos) = some stamp := by
  rcases standsAt_iff.1 h with ⟨f, hstart, htext⟩
  exact atFront?_eq_some_iff.2 ⟨f, htext, htext ▸ hstart⟩

/-- At most one stamp starts at each position, whatever follows it. -/
theorem StandsAt.unique (h : StandsAt line pos stamp) (h' : StandsAt line pos other) :
    stamp = other :=
  Option.some.inj (h.atFront?_eq.symm.trans h'.atFront?_eq)

/-- A stamp that is in a line stands at the position behind what is in front of it. -/
theorem HasShape.standsAt (h : HasShape stamp) (front back : Text) :
    StandsAt (front ++ stamp ++ back) front.length stamp := by
  refine ⟨h, back, ?_⟩
  rw [List.append_assoc, List.drop_left]

/-- A stamp stands somewhere in a line exactly when it is a piece of the line. -/
theorem exists_standsAt_iff :
    (∃ pos, StandsAt line pos stamp) ↔ HasShape stamp ∧ stamp <:+: line := by
  constructor
  · rintro ⟨pos, hshape, hprefix⟩
    exact ⟨hshape, hprefix.isInfix.trans (List.drop_suffix pos line).isInfix⟩
  · rintro ⟨hshape, front, back, rfl⟩
    exact ⟨front.length, hshape.standsAt front back⟩

/-- The search gives the leftmost stamp. -/
theorem find?_eq_some_iff_isLeftmost : find? line = some stamp ↔ IsLeftmost line stamp := by
  rw [find?_eq_some_iff]
  constructor
  · rintro ⟨f, ⟨pos, hstart, hleft⟩, rfl⟩
    refine ⟨pos, standsAt_iff.2 ⟨f, hstart, rfl⟩, fun pos' other hother => ?_⟩
    rcases standsAt_iff.1 hother with ⟨g, hg, -⟩
    exact hleft pos' g hg
  · rintro ⟨pos, hstamp, hleft⟩
    rcases standsAt_iff.1 hstamp with ⟨f, hstart, rfl⟩
    refine ⟨f, ⟨pos, hstart, fun pos' g hg => ?_⟩, rfl⟩
    exact hleft pos' g.text (standsAt_iff.2 ⟨g, hg, rfl⟩)

/-- Something is found exactly when a piece of the line has the shape of a stamp. -/
theorem isSome_find?_iff : (find? line).isSome ↔ ∃ stamp, HasShape stamp ∧ stamp <:+: line := by
  constructor
  · intro h
    rcases Option.isSome_iff_exists.1 h with ⟨stamp, hfind⟩
    rcases find?_eq_some_iff_isLeftmost.1 hfind with ⟨pos, hstamp, -⟩
    exact ⟨stamp, exists_standsAt_iff.1 ⟨pos, hstamp⟩⟩
  · rintro ⟨stamp, hpiece⟩
    rcases exists_standsAt_iff.2 hpiece with ⟨pos, hstamp⟩
    rcases standsAt_iff.1 hstamp with ⟨f, hstart, -⟩
    rw [Option.isSome_iff_ne_none]
    intro hnone
    exact find?_eq_none_iff.1 hnone pos f hstart

/-! ## What stands around a stamp -/

/-- A stamp whose time of day is followed by a point has all digits behind the point. -/
theorem StandsAt.fraction (h : StandsAt line pos stamp) (htime : Follows time "dddd-dd-ddTdd:dd:dd")
    (hline : line.drop pos = time ++ '.' :: rest) :
    ∃ zone, IsZone zone ∧ stamp = time ++ '.' :: rest.takeWhile Char.isDigit ++ zone := by
  rcases h with ⟨⟨time', fraction, zone, htime', hfraction, hzone, rfl⟩, more, hmore⟩
  have hlength : time'.length = time.length := htime'.length_eq.trans htime.length_eq.symm
  rw [hline, List.append_assoc, List.append_assoc] at hmore
  rcases List.append_inj hmore hlength with ⟨rfl, hrest⟩
  rcases isZone_iff.1 hzone with ⟨z, rfl⟩
  rcases z.text_eq_cons with ⟨c, tail, htext, hdigit, hpoint⟩
  rw [htext, List.cons_append] at hrest
  cases hfraction with
  | none => exact absurd (List.head_eq_of_cons_eq hrest) hpoint
  | @point digits _ hdigits =>
    have hdrop : digits ++ c :: (tail ++ more) = rest := List.tail_eq_of_cons_eq hrest
    refine ⟨z.text, hzone, ?_⟩
    rw [← hdrop, List.takeWhile_append_of_pos hdigits, List.takeWhile_cons_of_neg (by simp [hdigit]),
      List.append_nil]

/-- A stamp behind a front without hyphens is found, whatever the front ends in and whatever stands
behind the stamp.

One that started in the front would have to reach the first hyphen, with four characters before it. -/
theorem find?_of_not_mem (h : HasShape stamp) (hfront : '-' ∉ front) (back : Text) :
    find? (front ++ stamp ++ back) = some stamp := by
  refine find?_eq_some_iff_isLeftmost.2 ⟨front.length, h.standsAt front back, ?_⟩
  rintro pos other ⟨hshape, more, hother⟩
  rcases h.eq_append with ⟨year, tail, rfl, hyear, hclean⟩
  rcases hshape.eq_append with ⟨year', tail', rfl, hyear', hclean'⟩
  by_contra hlt
  have hdrop : (front ++ (year ++ '-' :: tail) ++ back).drop pos
      = front.drop pos ++ year ++ '-' :: (tail ++ back) := by
    rw [List.append_assoc, List.drop_append_of_le_length (by omega)]
    simp
  rw [hdrop, List.append_assoc, List.cons_append] at hother
  have hclean'' : '-' ∉ front.drop pos ++ year := fun hmem =>
    (List.mem_append.1 hmem).elim (fun hmem => hfront (List.mem_of_mem_drop hmem)) hclean
  have heq : year' = front.drop pos ++ year := by
    rw [← Text.takeWhile_bne_append hclean' (tail' ++ more), hother,
      Text.takeWhile_bne_append hclean'']
  have hlength := congrArg List.length heq
  rw [List.length_append, List.length_drop] at hlength
  omega

/-! ## The search as a whole -/

/-- The search is exact.  It finds something exactly when a piece of the line has the shape of a stamp,
and what it finds is the stamp that starts leftmost.  There is only one that starts there, and its
fraction is not cut short.  So a stamp is found whatever stands before and behind it, unless another
one starts further left, which takes a hyphen in front of it. -/
theorem find?_exact (line : Text) :
    ((find? line).isSome ↔ ∃ stamp, HasShape stamp ∧ stamp <:+: line) ∧
    (∀ stamp, find? line = some stamp ↔ IsLeftmost line stamp) ∧
    (∀ pos stamp other, StandsAt line pos stamp → StandsAt line pos other → stamp = other) ∧
    (∀ pos stamp time rest, StandsAt line pos stamp → Follows time "dddd-dd-ddTdd:dd:dd" →
      line.drop pos = time ++ '.' :: rest →
      ∃ zone, IsZone zone ∧ stamp = time ++ '.' :: rest.takeWhile Char.isDigit ++ zone) ∧
    ∀ front stamp back, line = front ++ stamp ++ back → HasShape stamp →
      (∃ found, find? line = some found ∧
        ∃ pos ≤ front.length, StandsAt line pos found) ∧
      ('-' ∉ front → find? line = some stamp) := by
  refine ⟨isSome_find?_iff, fun stamp => find?_eq_some_iff_isLeftmost,
    fun pos stamp other h h' => h.unique h', fun pos stamp time rest h => h.fraction, ?_⟩
  rintro front stamp back rfl hshape
  refine ⟨?_, fun hfront => find?_of_not_mem hshape hfront back⟩
  have hsome := isSome_find?_iff.2 ⟨stamp, hshape, front, back, rfl⟩
  rcases Option.isSome_iff_exists.1 hsome with ⟨found, hfind⟩
  rcases find?_eq_some_iff_isLeftmost.1 hfind with ⟨pos, hfound, hleft⟩
  exact ⟨found, hfind, pos, hleft _ _ (hshape.standsAt front back), hfound⟩

/-- A fifth digit in front of the year and a third one behind the minutes do not hide a stamp; a
fraction without a zone behind it is part of none. -/
example :
    find? "12023-01-01T00:00:00.1234567890+01:002".toList
        = some "2023-01-01T00:00:00.1234567890+01:00".toList ∧
      find? "2023-01-01T00:00:00.12 Z".toList = none := by
  decide +kernel

end Evidence.Stamp
