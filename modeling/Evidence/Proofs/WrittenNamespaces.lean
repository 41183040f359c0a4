import Evidence.ControllerNamespace
import Mathlib.Data.List.TakeWhile

/-!
# Written namespaces

What a text says about a namespace: which texts name one, what is read off them, and how a
namespace is written so that it is read back.  Blanks may stand at both ends and on both sides of
the equals sign, which is no blank itself, so they never move the place where a text is parted.

Main definitions:

- `Text.IsBlank`, `Text.IsTrimmed` and `Text.Trims`: texts of blanks, texts without a blank at
  their ends, and what is left of a text without these blanks.
- `ControllerNamespace.Sides`: a text, parted at its first equals sign.

Main results:

- `Text.trim_eq_iff`: trimming takes away the blanks at both ends, and nothing else.
- `ControllerNamespace.parse_of_sides`: what is read off a text is read off its sides.
- `ControllerNamespace.parse_parted`: a label and a name are read back.
- `ControllerNamespace.parse_exact`: which texts name a namespace, and which one.
-/

namespace Evidence

/-! ## Trimmed texts -/

namespace Text

variable {c : Char} {s t u v front back : Text}

/-- A text that is empty or consists of blanks. -/
def IsBlank (t : Text) : Prop :=
  ∀ c ∈ t, Blank.isBlank c = true

/-- A text has no blank at its front and none at its end. -/
structure IsTrimmed (t : Text) : Prop where
  front : ∀ c, t.head? = some c → Blank.isBlank c = false
  back : ∀ c, t.getLast? = some c → Blank.isBlank c = false

/-- What is left of a text without the blanks at its ends. -/
def Trims (t s : Text) : Prop :=
  ∃ front back, t = front ++ s ++ back ∧ IsBlank front ∧ IsBlank back ∧ IsTrimmed s

theorem isBlank_nil : IsBlank [] :=
  fun _ h => absurd h List.not_mem_nil

theorem isTrimmed_nil : IsTrimmed [] :=
  ⟨nofun, nofun⟩

theorem IsTrimmed.reverse (h : IsTrimmed t) : IsTrimmed t.reverse :=
  ⟨fun c hc => h.back c (by simpa using hc), fun c hc => h.front c (by simpa using hc)⟩

theorem IsBlank.reverse (h : IsBlank t) : IsBlank t.reverse :=
  fun c hc => h c (List.mem_reverse.1 hc)

theorem IsBlank.append (hs : IsBlank s) (ht : IsBlank t) : IsBlank (s ++ t) :=
  List.forall_mem_append.2 ⟨hs, ht⟩

/-- The end of a text is trimmed like the front of the text written backwards. -/
theorem trimRight_eq (t : Text) : trimRight t = (trimLeft t.reverse).reverse :=
  rfl

/-- Blanks at the front of a text are taken away. -/
theorem trimLeft_append (h : IsBlank front) (t : Text) : trimLeft (front ++ t) = trimLeft t :=
  List.dropWhile_append_of_pos h

theorem trimRight_append (h : IsBlank back) (t : Text) : trimRight (t ++ back) = trimRight t := by
  rw [trimRight_eq, List.reverse_append, trimLeft_append h.reverse, ← trimRight_eq]

/-- A character that is no blank stops the trimming. -/
theorem trimLeft_append_cons (hc : Blank.isBlank c = false) (s t : Text) :
    trimLeft (s ++ c :: t) = trimLeft s ++ c :: t := by
  induction s with
  | nil => simp [trimLeft, hc]
  | cons d s ih =>
    by_cases hd : Blank.isBlank d = true
    · simpa [trimLeft, hd] using ih
    · simp [trimLeft, hd]

theorem trimRight_append_cons (hc : Blank.isBlank c = false) (s t : Text) :
    trimRight (s ++ c :: t) = s ++ c :: trimRight t := by
  have hback : (s ++ c :: t).reverse = t.reverse ++ c :: s.reverse := by simp
  rw [trimRight_eq, hback, trimLeft_append_cons hc, trimRight_eq]
  simp

/-- A text is the blanks at its front, followed by what trimming leaves there. -/
theorem exists_eq_append_trimLeft (t : Text) : ∃ front, IsBlank front ∧ t = front ++ trimLeft t :=
  ⟨t.takeWhile Blank.isBlank, fun _ hc => List.mem_takeWhile_imp hc,
    List.takeWhile_append_dropWhile.symm⟩

theorem exists_eq_trimRight_append (t : Text) : ∃ back, IsBlank back ∧ t = trimRight t ++ back := by
  obtain ⟨front, hblank, heq⟩ := exists_eq_append_trimLeft t.reverse
  refine ⟨front.reverse, hblank.reverse, ?_⟩
  rw [trimRight_eq, ← List.reverse_append, ← heq, List.reverse_reverse]

theorem isBlank_of_head?_trimLeft (h : (trimLeft t).head? = some c) : Blank.isBlank c = false := by
  have hhead := List.head?_dropWhile_not Blank.isBlank t
  rw [trimLeft] at h
  rwa [h] at hhead

theorem isBlank_of_getLast?_trimRight (h : (trimRight t).getLast? = some c) :
    Blank.isBlank c = false := by
  rw [trimRight_eq, List.getLast?_reverse] at h
  exact isBlank_of_head?_trimLeft h

/-- Trimming takes away blanks only, and leaves none at the ends. -/
theorem trims_trim (t : Text) : Trims t (trim t) := by
  obtain ⟨front, hfront, hleft⟩ := exists_eq_append_trimLeft t
  obtain ⟨back, hback, hright⟩ := exists_eq_trimRight_append (trimLeft t)
  refine ⟨front, back, ?_, hfront, hback, ?_, fun c hc => isBlank_of_getLast?_trimRight hc⟩
  · calc t
      _ = front ++ trimLeft t := hleft
      _ = front ++ (trim t ++ back) := congrArg (front ++ ·) hright
      _ = front ++ trim t ++ back := (List.append_assoc ..).symm
  · intro c hc
    have hhead : (trimLeft t).head? = some c := by
      calc (trimLeft t).head?
        _ = (trim t ++ back).head? := congrArg List.head? hright
        _ = some c := by simp [hc]
    exact isBlank_of_head?_trimLeft hhead

theorem isTrimmed_trim (t : Text) : IsTrimmed (trim t) := by
  obtain ⟨-, -, -, -, -, h⟩ := trims_trim t
  exact h

theorem trimLeft_eq_self (h : IsTrimmed t) : trimLeft t = t := by
  cases t with
  | nil => rfl
  | cons c t => exact List.dropWhile_cons_of_neg (by simp [h.front c rfl])

theorem trimRight_eq_self (h : IsTrimmed t) : trimRight t = t := by
  rw [trimRight_eq, trimLeft_eq_self h.reverse, List.reverse_reverse]

/-- Trimming changes nothing of a text that has no blanks at its ends. -/
theorem trim_eq_self_iff : trim t = t ↔ IsTrimmed t := by
  constructor
  · intro h
    exact h ▸ isTrimmed_trim t
  · intro h
    rw [trim, trimLeft_eq_self h, trimRight_eq_self h]

/-- Blanks around a text that is trimmed are taken away. -/
theorem trim_of_trims (h : Trims t s) : trim t = s := by
  obtain ⟨front, back, rfl, hfront, hback, hs⟩ := h
  rw [trim, List.append_assoc, trimLeft_append hfront]
  cases s with
  | nil =>
    have hnil : trimLeft back = [] := List.dropWhile_eq_nil_iff.2 hback
    rw [List.nil_append, hnil]
    rfl
  | cons c s =>
    have hc := hs.front c rfl
    have hleft : trimLeft (c :: s ++ back) = c :: s ++ back :=
      trimLeft_append_cons hc [] (s ++ back)
    rw [hleft, trimRight_append hback, trimRight_eq_self hs]

/-- Trimming takes away the blanks at both ends of a text, and nothing else. -/
theorem trim_eq_iff : trim t = s ↔ Trims t s := by
  constructor
  · rintro rfl
    exact trims_trim t
  · exact trim_of_trims

theorem trim_eq_nil_iff : trim t = [] ↔ IsBlank t := by
  rw [trim_eq_iff]
  constructor
  · rintro ⟨front, back, rfl, hfront, hback, -⟩
    rw [List.append_nil]
    exact hfront.append hback
  · intro h
    exact ⟨t, [], by simp, h, isBlank_nil, isTrimmed_nil⟩

/-- Blanks around a text do not show when it is trimmed. -/
theorem trim_append (hfront : IsBlank front) (hback : IsBlank back) (t : Text) :
    trim (front ++ t ++ back) = trim t := by
  obtain ⟨u, v, ht, hu, hv, htrimmed⟩ := trims_trim t
  refine trim_of_trims ⟨front ++ u, v ++ back, ?_, hfront.append hu, hv.append hback, htrimmed⟩
  calc front ++ t ++ back
    _ = front ++ (u ++ trim t ++ v) ++ back := congrArg (front ++ · ++ back) ht
    _ = front ++ u ++ trim t ++ (v ++ back) := by simp only [List.append_assoc]

theorem trim_trimLeft (t : Text) : trim (trimLeft t) = trim t := by
  obtain ⟨front, hblank, heq⟩ := exists_eq_append_trimLeft t
  calc trim (trimLeft t)
    _ = trim (front ++ trimLeft t ++ []) := (trim_append hblank isBlank_nil (trimLeft t)).symm
    _ = trim t := by rw [List.append_nil, ← heq]

theorem trim_trimRight (t : Text) : trim (trimRight t) = trim t := by
  obtain ⟨back, hblank, heq⟩ := exists_eq_trimRight_append t
  calc trim (trimRight t)
    _ = trim ([] ++ trimRight t ++ back) := (trim_append isBlank_nil hblank (trimRight t)).symm
    _ = trim t := by rw [List.nil_append, ← heq]

/-- A character that is no blank keeps what stands before it apart from what stands behind it. -/
theorem trim_append_cons (hc : Blank.isBlank c = false) (s t : Text) :
    trim (s ++ c :: t) = trimLeft s ++ c :: trimRight t := by
  rw [trim, trimLeft_append_cons hc, trimRight_append_cons hc]

theorem mem_of_mem_trimLeft (h : c ∈ trimLeft t) : c ∈ t :=
  (List.dropWhile_sublist _).subset h

theorem mem_of_mem_trim (h : c ∈ trim t) : c ∈ t := by
  obtain ⟨front, back, ht, -⟩ := trims_trim t
  rw [ht]
  simp [h]

end Text

/-! ## Sides of a text -/

namespace ControllerNamespace

variable {t left right label name : Text} {e : EmptyName} {ns : ControllerNamespace}

/-- A text is parted at its first equals sign, and one without is both of its sides. -/
inductive Sides : Text → Text → Text → Prop where
  /-- There is an equals sign, and none before it. -/
  | parted {left right : Text} (first : '=' ∉ left) : Sides (left ++ '=' :: right) left right
  /-- There is no equals sign. -/
  | whole {t : Text} (plain : '=' ∉ t) : Sides t t t

theorem exists_sides (t : Text) : ∃ left right, Sides t left right := by
  by_cases h : '=' ∈ t
  · obtain ⟨left, right, rfl, hfirst⟩ := List.eq_append_cons_of_mem h
    exact ⟨left, right, .parted hfirst⟩
  · exact ⟨t, t, .whole h⟩

theorem sides_eq (h : Sides t left right) : sides t = (left, right) := by
  cases h with
  | parted first =>
    rw [sides, Text.dropWhile_bne_append first, Text.takeWhile_bne_append first]
  | whole plain => rw [sides, List.dropWhile_eq_nil_iff.2 (Text.forall_bne_of_not_mem plain)]

/-- Trimming a text trims its sides, each at the end that it shares with the text. -/
theorem Sides.trim (h : Sides t left right) : ∃ left' right', Sides (Text.trim t) left' right' ∧
    Text.trim left' = Text.trim left ∧ Text.trim right' = Text.trim right := by
  cases h with
  | parted first =>
    -- The equals sign is no blank, so each side is trimmed at its outer end only.
    have hequals : Blank.isBlank '=' = false := by decide
    rw [Text.trim_append_cons hequals]
    exact ⟨_, _, .parted fun hmem => first (Text.mem_of_mem_trimLeft hmem),
      Text.trim_trimLeft left, Text.trim_trimRight right⟩
  | whole plain =>
    have htwice : Text.trim (Text.trim t) = Text.trim t :=
      Text.trim_eq_self_iff.2 (Text.isTrimmed_trim t)
    exact ⟨_, _, .whole fun hmem => plain (Text.mem_of_mem_trim hmem), htwice, htwice⟩

/-! ## Reading a namespace -/

/-- What is read off a text is read off its sides. -/
theorem parse_of_sides (h : Sides t left right) : parse t
    = if Text.trim right = [] then .error ⟨Text.trim t⟩
      else .ok ⟨if Text.trim left = [] then Text.trim right else Text.trim left,
        Text.trim right⟩ := by
  obtain ⟨left', right', hsides, hleft, hright⟩ := h.trim
  unfold parse
  simp only [sides_eq hsides, hleft, hright]

/-- A text names no namespace when nothing but blanks is left for the name. -/
theorem parse_eq_error_iff (h : Sides t left right) :
    parse t = .error e ↔ Text.IsBlank right ∧ Text.trim t = e.written := by
  rw [parse_of_sides h, ← Text.trim_eq_nil_iff]
  by_cases hright : Text.trim right = []
  · rw [if_pos hright]
    constructor
    · rintro ⟨⟩
      exact ⟨hright, rfl⟩
    · rintro ⟨-, hwritten⟩
      rw [hwritten]
  · rw [if_neg hright]
    simp [hright]

/-- The name of a namespace is read off what stands behind the equals sign, and its label off what
stands before it, if that is not blank. -/
theorem parse_eq_ok_iff (h : Sides t left right) : parse t = .ok ns ↔
    ns.name ≠ [] ∧ Text.trim right = ns.name ∧
      ns.label = if Text.trim left = [] then ns.name else Text.trim left := by
  rw [parse_of_sides h]
  by_cases hright : Text.trim right = []
  · rw [if_pos hright]
    constructor
    · nofun
    · rintro ⟨hne, hname, -⟩
      exact absurd (hname.symm.trans hright) hne
  · rw [if_neg hright]
    constructor
    · rintro ⟨⟩
      exact ⟨hright, rfl, rfl⟩
    · rintro ⟨-, hname, hlabel⟩
      rw [hname, ← hlabel]

/-- A label and a name are read back from a text with an equals sign between them, whatever blanks
stand around both. -/
theorem parse_parted {u v w z : Text} (hlabel : label.IsTrimmed) (hlabelNe : label ≠ [])
    (hplain : '=' ∉ label) (hname : name.IsTrimmed) (hnameNe : name ≠ []) (hu : u.IsBlank)
    (hv : v.IsBlank) (hw : w.IsBlank) (hz : z.IsBlank) :
    parse (u ++ label ++ v ++ '=' :: (w ++ name ++ z)) = .ok ⟨label, name⟩ := by
  have hblank : ∀ t : Text, t.IsBlank → '=' ∉ t := fun t h hmem => absurd (h '=' hmem) (by decide)
  have hfirst : '=' ∉ u ++ label ++ v :=
    List.not_mem_append (List.not_mem_append (hblank u hu) hplain) (hblank v hv)
  have hleft : Text.trim (u ++ label ++ v) = label :=
    Text.trim_of_trims ⟨u, v, rfl, hu, hv, hlabel⟩
  have hright : Text.trim (w ++ name ++ z) = name :=
    Text.trim_of_trims ⟨w, z, rfl, hw, hz, hname⟩
  refine (parse_eq_ok_iff (.parted hfirst)).2 ⟨hnameNe, hright, ?_⟩
  rw [hleft, if_neg hlabelNe]

theorem parse_label_name (hlabel : label.IsTrimmed) (hlabelNe : label ≠ []) (hplain : '=' ∉ label)
    (hname : name.IsTrimmed) (hnameNe : name ≠ []) :
    parse (label ++ '=' :: name) = .ok ⟨label, name⟩ := by
  simpa using parse_parted hlabel hlabelNe hplain hname hnameNe Text.isBlank_nil Text.isBlank_nil
    Text.isBlank_nil Text.isBlank_nil

/-- What is read off a text is not empty, and has no blanks at its ends. -/
theorem isTrimmed_of_parse (h : parse t = .ok ns) :
    (ns.label ≠ [] ∧ ns.label.IsTrimmed) ∧ ns.name ≠ [] ∧ ns.name.IsTrimmed := by
  obtain ⟨left, right, hsides⟩ := exists_sides t
  obtain ⟨hne, hname, hlabel⟩ := (parse_eq_ok_iff hsides).1 h
  have htrimmed : ns.name.IsTrimmed := hname ▸ Text.isTrimmed_trim right
  refine ⟨?_, hne, htrimmed⟩
  rw [hlabel]
  split
  · exact ⟨hne, htrimmed⟩
  · next hleft => exact ⟨hleft, Text.isTrimmed_trim left⟩

/-- A text names a namespace exactly if more than blanks stands behind its first equals sign, or in
all of it if it has none; otherwise the complaint quotes it without the blanks at its ends.  The
name is what stands there, and the label what stands before the equals sign, or the name once more
if nothing does; both are not empty and have no blanks at their ends.

So a label without an equals sign and a name are read back with any blanks around both, a bare name
is its own label, and what has been read off a text can be written as label and name and is read
back, if there is no equals sign in its label. -/
theorem parse_exact :
    (∀ t : Text, ∃ left right, Sides t left right ∧
      ((∃ e, parse t = .error e) ↔ right.IsBlank) ∧
      (∀ e, parse t = .error e → ∃ written, t.Trims written ∧
        e.message = "empty namespace in '".toList ++ written ++ ['\'']) ∧
      ∀ ns, parse t = .ok ns →
        (ns.label ≠ [] ∧ ns.label.IsTrimmed) ∧ (ns.name ≠ [] ∧ ns.name.IsTrimmed) ∧
        right.Trims ns.name ∧
        (left.IsBlank → ns.label = ns.name) ∧ (¬ left.IsBlank → left.Trims ns.label)) ∧
    (∀ label name : Text, label ≠ [] ∧ label.IsTrimmed ∧ '=' ∉ label →
      name ≠ [] ∧ name.IsTrimmed → ∀ u v w z : Text, u.IsBlank → v.IsBlank → w.IsBlank → z.IsBlank →
        parse (u ++ label ++ v ++ '=' :: (w ++ name ++ z)) = .ok ⟨label, name⟩) ∧
    (∀ name : Text, name ≠ [] ∧ name.IsTrimmed ∧ '=' ∉ name → parse name = .ok ⟨name, name⟩) ∧
    (∀ t ns, parse t = .ok ns → '=' ∉ ns.label →
      parse (ns.label ++ '=' :: ns.name) = .ok ns) := by
  refine ⟨fun t => ?sides, ?written, ?bare, ?again⟩
  case sides =>
    obtain ⟨left, right, hsides⟩ := exists_sides t
    refine ⟨left, right, hsides, ?_, fun e h => ?_, fun ns h => ?_⟩
    · constructor
      · rintro ⟨e, h⟩
        exact ((parse_eq_error_iff hsides).1 h).1
      · intro hblank
        exact ⟨⟨Text.trim t⟩, (parse_eq_error_iff hsides).2 ⟨hblank, rfl⟩⟩
    · have hwritten := ((parse_eq_error_iff hsides).1 h).2
      exact ⟨e.written, Text.trim_eq_iff.1 hwritten, rfl⟩
    · obtain ⟨hlabel, hname⟩ := isTrimmed_of_parse h
      obtain ⟨-, hright, hleft⟩ := (parse_eq_ok_iff hsides).1 h
      refine ⟨hlabel, hname, Text.trim_eq_iff.1 hright, fun hblank => ?_, fun hblank => ?_⟩
      · rw [hleft, if_pos (Text.trim_eq_nil_iff.2 hblank)]
      · rw [if_neg (mt Text.trim_eq_nil_iff.1 hblank)] at hleft
        exact Text.trim_eq_iff.1 hleft.symm
  case written =>
    rintro label name ⟨hlabelNe, hlabel, hplain⟩ ⟨hnameNe, hname⟩ u v w z hu hv hw hz
    exact parse_parted hlabel hlabelNe hplain hname hnameNe hu hv hw hz
  case bare =>
    rintro name ⟨hne, htrimmed, hplain⟩
    have hself := Text.trim_eq_self_iff.2 htrimmed
    refine (parse_eq_ok_iff (.whole hplain)).2 ⟨hne, hself, ?_⟩
    rw [hself, if_neg hne]
  case again =>
    intro t ns h hplain
    obtain ⟨⟨hlabelNe, hlabel⟩, hnameNe, hname⟩ := isTrimmed_of_parse h
    exact parse_label_name hlabel hlabelNe hplain hname hnameNe

/-- A label with a space in it and a name with an equals sign, among blanks that are no spaces. -/
theorem parse_exact_among_wide_blanks :
    let label := "Build Service".toList
    let name := "a=b".toList
    (label ≠ [] ∧ Text.IsTrimmed label ∧ '=' ∉ label) ∧ (name ≠ [] ∧ Text.IsTrimmed name) ∧
      parse (['\u3000'] ++ label ++ ['\u00a0'] ++ '=' :: (['\u0085'] ++ name ++ ['\t']))
        = .ok ⟨label, name⟩ := by
  intro label name
  have hblank : ∀ c : Char, Blank.isBlank c = true → Text.IsBlank [c] :=
    fun c h => List.forall_mem_singleton.2 h
  have hlabel : label ≠ [] ∧ Text.IsTrimmed label ∧ '=' ∉ label :=
    ⟨by decide, Text.trim_eq_self_iff.1 (by decide), by decide⟩
  have hname : name ≠ [] ∧ Text.IsTrimmed name :=
    ⟨by decide, Text.trim_eq_self_iff.1 (by decide)⟩
  obtain ⟨-, hread, -⟩ := parse_exact
  exact ⟨hlabel, hname, hread label name hlabel hname _ _ _ _ (hblank '\u3000' rfl)
    (hblank '\u00a0' rfl) (hblank '\u0085' rfl) (hblank '\t' rfl)⟩

end ControllerNamespace

end Evidence
