import Evidence.Proofs.LogCut

/-!
# A log in pieces

A log may be parted at any line feed.  What is left of it is then put together of what is left of
its two parts: of the part in front a scan has to remember only whether it held the cut, and if not,
which of its lines were unreadable.

Main results:

- `Log.IsCut.since_append`: what follows a log that has a cut is kept as it is.
- `Log.since_append_of_not_inWindow`: a log without a cut leaves its markers in front of what is
  left of the log that follows.
- `Log.since_in_pieces`: what is left of two logs, one after the other.
-/

namespace Evidence.Log

variable {start : Instant} {a b : Text} {ls front : List Text} {cut : Nat}

/-! ## A cut in front -/

/-- A cut is the index of a line. -/
theorem IsCut.lt_length (h : IsCut start ls cut) : cut < ls.length := by
  obtain ⟨line, hline, -⟩ := h.inWindow
  exact (List.getElem?_eq_some_iff.1 hline).1

/-- Lines that follow do not move a cut. -/
theorem IsCut.append_right (h : IsCut start front cut) (back : List Text) :
    IsCut start (front ++ back) cut := by
  constructor
  · rw [List.getElem?_append_left h.lt_length]
    exact h.inWindow
  · rw [List.take_append_of_le_length h.lt_length.le]
    exact h.before

/-- What follows a log that has a cut is kept as it is. -/
theorem IsCut.since_append (h : IsCut start (Text.lines a) cut) (b : Text) :
    since start (a ++ '\n' :: b) = since start a ++ '\n' :: b := by
  have hlines : Text.lines (a ++ '\n' :: b) = Text.lines a ++ Text.lines b :=
    Text.lines_append_cons a b
  have hwhole : IsCut start (Text.lines (a ++ '\n' :: b)) cut := by
    rw [hlines]
    exact h.append_right (Text.lines b)
  have htake : (Text.lines (a ++ '\n' :: b)).take cut = (Text.lines a).take cut := by
    rw [hlines, List.take_append_of_le_length h.lt_length.le]
  -- Both texts are the same in front of the cut, so behind it they differ in what follows alone.
  have htail : Text.ofLines ((Text.lines (a ++ '\n' :: b)).drop cut)
      = Text.ofLines ((Text.lines a).drop cut) ++ '\n' :: b := by
    have heq := hwhole.eq_append
    rw [htake] at heq
    nth_rewrite 1 [h.eq_append] at heq
    rw [List.append_assoc] at heq
    exact (List.append_cancel_left heq).symm
  rw [hwhole.since_eq, h.since_eq, htake, htail, List.append_assoc]

/-! ## No cut in front -/

/-- A log without a cut leaves its markers in front of what is left of the log that follows, if that
one has a cut. -/
theorem since_append_of_not_inWindow (ha : ∀ line ∈ Text.lines a, ¬ InWindow start line)
    (hb : ∃ line ∈ Text.lines b, InWindow start line) :
    since start (a ++ '\n' :: b) = Text.ended (marked (Text.lines a)) ++ since start b := by
  obtain ⟨cut, hcut⟩ := exists_isCut hb
  have hne : marked ((Text.lines b).take cut) ++ (Text.lines b).drop cut ≠ [] := by
    simp [hcut.drop_ne_nil]
  rw [since, since, Text.lines_append_cons, keep?_append ha, hcut.keep?_eq]
  exact Text.ofLines_append _ hne

/-- Nothing is left of two logs of which none has a cut. -/
theorem since_append_eq_nil (ha : ∀ line ∈ Text.lines a, ¬ InWindow start line)
    (hb : ∀ line ∈ Text.lines b, ¬ InWindow start line) : since start (a ++ '\n' :: b) = [] := by
  rw [since_eq_nil_iff, Text.lines_append_cons]
  intro line hmem
  rcases List.mem_append.1 hmem with hmem | hmem
  · exact ha line hmem
  · exact hb line hmem

/-- A log without a line in the window and without an unreadable one changes nothing of what is left
of the log that follows. -/
theorem since_append_of_not_unreadable
    (h : ∀ line ∈ Text.lines a, ¬ InWindow start line ∧ ¬ Unreadable line) (b : Text) :
    since start (a ++ '\n' :: b) = since start b := by
  have ha : ∀ line ∈ Text.lines a, ¬ InWindow start line := fun line hmem => (h line hmem).1
  have hmarked : marked (Text.lines a) = [] := marked_eq_nil fun line hmem => (h line hmem).2
  by_cases hb : ∃ line ∈ Text.lines b, InWindow start line
  · rw [since_append_of_not_inWindow ha hb, hmarked]
    rfl
  · have hnone : ∀ line ∈ Text.lines b, ¬ InWindow start line :=
      fun line hmem hin => hb ⟨line, hmem, hin⟩
    rw [since_append_eq_nil ha hnone, since_eq_nil_iff.2 hnone]

/-! ## Two logs -/

/-- What is left of two logs, one after the other.  When the first has a cut, it is what is left of
the first, followed by all of the second.  When only the second has one, it is the marked lines of
the first, in their order, and what is left of the second.  Otherwise it is nothing.  So a log in
front that has no line in the window and no unreadable one changes nothing. -/
theorem since_in_pieces (start : Instant) (a b : Text) :
    (since start (a ++ '\n' :: b)
      = if ∃ line ∈ Text.lines a, InWindow start line then since start a ++ '\n' :: b
        else if ∃ line ∈ Text.lines b, InWindow start line then
          Text.ended (marked (Text.lines a)) ++ since start b
        else []) ∧
    ((∀ line ∈ Text.lines a, ¬ InWindow start line ∧ ¬ Unreadable line) →
      since start (a ++ '\n' :: b) = since start b) := by
  refine ⟨?_, fun h => since_append_of_not_unreadable h b⟩
  by_cases ha : ∃ line ∈ Text.lines a, InWindow start line
  · obtain ⟨cut, hcut⟩ := exists_isCut ha
    rw [if_pos ha, hcut.since_append]
  · have hfront : ∀ line ∈ Text.lines a, ¬ InWindow start line :=
      fun line hmem hin => ha ⟨line, hmem, hin⟩
    rw [if_neg ha]
    by_cases hb : ∃ line ∈ Text.lines b, InWindow start line
    · rw [if_pos hb, since_append_of_not_inWindow hfront hb]
    · rw [if_neg hb]
      exact since_append_eq_nil hfront fun line hmem hin => hb ⟨line, hmem, hin⟩

end Evidence.Log
