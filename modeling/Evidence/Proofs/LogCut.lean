import Evidence.Proofs.StampReading

/-!
# The cut of a log

A log is cut at its first line in the window, whatever stands before and after it.  What is kept
is said here without the scan: by the index of that line, by the unreadable lines before it, and by
the text from it on.

Main results:

- `Log.verdict_eq_inWindow_iff` and `Log.verdict_eq_unreadable_iff`: the verdict on a line, said by
  its leftmost stamp.
- `Log.keep?_append`: lines before the window leave their markers and nothing else.
- `Log.since_eq_cut`: a log from the start of a window on.
-/

namespace Evidence

/-! ## Lines and what ends them -/

namespace Text

/-- Lines, each of them ended by a line feed. -/
def ended (ls : List Text) : Text :=
  ls.flatMap fun line => line ++ ['\n']

@[simp] theorem ended_nil : ended [] = [] :=
  rfl

@[simp] theorem ended_cons (line : Text) (ls : List Text) :
    ended (line :: ls) = line ++ '\n' :: ended ls := by
  simp [ended]

/-- Joined lines end each line but the last ones. -/
theorem ofLines_append (front : List Text) {back : List Text} (h : back ≠ []) :
    ofLines (front ++ back) = ended front ++ ofLines back := by
  induction front with
  | nil => rfl
  | cons line front ih =>
      have hne : front ++ back ≠ [] := by simp [h]
      have hcons : ofLines (line :: (front ++ back)) = line ++ ['\n'] ++ ofLines (front ++ back) :=
        List.intercalate_cons_of_ne_nil hne
      rw [List.cons_append, hcons, ih]
      simp

/-- The lines of two texts with a line feed between them. -/
theorem lines_append_cons (front t : Text) : lines (front ++ '\n' :: t) = lines front ++ lines t :=
  List.splitOn_append_cons_self front t

/-- No line of a text holds a line feed. -/
theorem not_mem_of_mem_lines {t line : Text} (h : line ∈ lines t) : '\n' ∉ line :=
  not_mem_of_mem_splitOn h

/-- Joined lines are not empty when the first of them is not. -/
theorem ofLines_cons_ne_nil {line : Text} (h : line ≠ []) (ls : List Text) :
    ofLines (line :: ls) ≠ [] := by
  cases ls with
  | nil => simpa [ofLines] using h
  | cons next ls => simp [ofLines]

theorem lines_ofLines {ls : List Text} (h : ∀ line ∈ ls, '\n' ∉ line) (hne : ls ≠ []) :
    lines (ofLines ls) = ls :=
  List.splitOn_intercalate '\n' h hne

end Text

namespace Log

open Stamp

variable {start : Instant} {line log : Text} {front back ls : List Text} {cut : Nat}

/-! ## Lines of a window -/

/-- A line is in a window when its leftmost stamp denotes a time at or after the start. -/
def InWindow (start : Instant) (line : Text) : Prop :=
  ∃ f, IsFirst line f ∧ f.Valid ∧ start.threshold ≤ f.time

/-- A line is unreadable when its leftmost stamp denotes no time. -/
def Unreadable (line : Text) : Prop :=
  ∃ f, IsFirst line f ∧ ¬ f.Valid

theorem find?_eq_of_isFirst {f : Fields} (h : IsFirst line f) : Stamp.find? line = some f.text :=
  Stamp.find?_eq_some_iff.2 ⟨f, h, rfl⟩

/-- Every verdict but one is on a stamp. -/
theorem exists_isFirst_of_verdict_ne (h : verdict start line ≠ .unstamped) :
    ∃ f, IsFirst line f ∧ Stamp.find? line = some f.text := by
  cases hfind : Stamp.find? line with
  | none => exact absurd (by rw [verdict, hfind]) h
  | some stamp =>
      rcases Stamp.find?_eq_some_iff.1 hfind with ⟨f, hfirst, rfl⟩
      exact ⟨f, hfirst, rfl⟩

/-- The verdict puts a line into the window exactly when it is there. -/
theorem verdict_eq_inWindow_iff : verdict start line = .inWindow ↔ InWindow start line := by
  constructor
  · intro h
    rcases exists_isFirst_of_verdict_ne (h.trans_ne (by decide)) with ⟨f, hfirst, hfind⟩
    rcases (verdict_eq_inWindow_iff_of_find? hfind start).1 h with ⟨hvalid, hle⟩
    exact ⟨f, hfirst, hvalid, (Fields.le_instant_iff hvalid.second start).1 hle⟩
  · rintro ⟨f, hfirst, hvalid, hle⟩
    rw [verdict_eq_inWindow_iff_of_find? (find?_eq_of_isFirst hfirst)]
    exact ⟨hvalid, (Fields.le_instant_iff hvalid.second start).2 hle⟩

/-- The verdict calls a line unreadable exactly when it is, for whatever window. -/
theorem verdict_eq_unreadable_iff : verdict start line = .unreadable ↔ Unreadable line := by
  constructor
  · intro h
    rcases exists_isFirst_of_verdict_ne (h.trans_ne (by decide)) with ⟨f, hfirst, hfind⟩
    exact ⟨f, hfirst, (verdict_eq_unreadable_iff_of_find? hfind start).1 h⟩
  · rintro ⟨f, hfirst, hinvalid⟩
    exact (verdict_eq_unreadable_iff_of_find? (find?_eq_of_isFirst hfirst) start).2 hinvalid

instance (start : Instant) (line : Text) : Decidable (InWindow start line) :=
  decidable_of_iff _ verdict_eq_inWindow_iff

instance (line : Text) : Decidable (Unreadable line) :=
  decidable_of_iff (verdict ⟨0, 0, by decide⟩ line = .unreadable) verdict_eq_unreadable_iff

theorem InWindow.ne_nil (h : InWindow start line) : line ≠ [] := by
  rintro rfl
  rcases h with ⟨f, ⟨pos, hstart, -⟩, -⟩
  exact not_startsAt_nil pos f hstart

/-! ## What the scan keeps -/

/-- A line behind the marker of unreadable lines. -/
def mark (line : Text) : Text :=
  "Invalid Time, unable to parse date: ".toList ++ line

/-- What lines before a window leave: each unreadable one of them behind the marker. -/
def marked (ls : List Text) : List Text :=
  (ls.filter fun line => Unreadable line).map mark

@[simp] theorem marked_nil : marked [] = [] :=
  rfl

@[simp] theorem marked_append (front back : List Text) :
    marked (front ++ back) = marked front ++ marked back := by
  simp [marked]

theorem marked_eq_nil (h : ∀ line ∈ ls, ¬ Unreadable line) : marked ls = [] := by
  have hnone : ls.filter (fun line => Unreadable line) = [] := by
    rw [List.filter_eq_nil_iff]
    intro line hmem
    simpa using h line hmem
  rw [marked, hnone, List.map_nil]

theorem keep?_cons_of_inWindow (h : InWindow start line) (back : List Text) :
    keep? start (line :: back) = some (line :: back) := by
  rw [keep?, verdict_eq_inWindow_iff.2 h]

/-- A line that is not in the window leaves its marker, if it has one. -/
theorem keep?_cons_of_not_inWindow (h : ¬ InWindow start line) (back : List Text) :
    keep? start (line :: back) = (keep? start back).map (marked [line] ++ ·) := by
  rw [← verdict_eq_inWindow_iff] at h
  by_cases hread : Unreadable line
  · have hfilter : [line].filter (fun line => Unreadable line) = [line] := by
      simp [hread]
    have hmarked : marked [line] = [mark line] := by
      rw [marked, hfilter]
      rfl
    rw [keep?, verdict_eq_unreadable_iff.2 hread, hmarked]
    rfl
  · have hmarked : marked [line] = [] := by
      simp [marked, hread]
    rw [keep?, hmarked]
    cases hverdict : verdict start line with
    | inWindow => exact absurd hverdict h
    | unreadable => exact absurd (verdict_eq_unreadable_iff.1 hverdict) hread
    | early => simp
    | unstamped => simp

/-- Lines before the window leave their markers and nothing else. -/
theorem keep?_append (h : ∀ line ∈ front, ¬ InWindow start line) (back : List Text) :
    keep? start (front ++ back) = (keep? start back).map (marked front ++ ·) := by
  induction front with
  | nil => simp
  | cons line front ih =>
      have hline := h line (by simp)
      have hfront := ih fun line' hmem => h line' (by simp [hmem])
      have hmarked : marked (line :: front) = marked [line] ++ marked front :=
        marked_append [line] front
      rw [List.cons_append, keep?_cons_of_not_inWindow hline, hfront, Option.map_map, hmarked]
      congr 1
      funext kept
      simp

/-- Lines one of which is in a window have a first such line. -/
theorem exists_first_inWindow (h : ∃ line ∈ ls, InWindow start line) :
    ∃ front line back, ls = front ++ line :: back ∧ (∀ line' ∈ front, ¬ InWindow start line') ∧
      InWindow start line := by
  induction ls with
  | nil => simp at h
  | cons head ls ih =>
      by_cases hhead : InWindow start head
      · exact ⟨[], head, ls, rfl, by simp, hhead⟩
      · have hrest : ∃ line ∈ ls, InWindow start line := by
          rcases h with ⟨line, hmem, hline⟩
          rcases List.mem_cons.1 hmem with rfl | hmem
          · exact absurd hline hhead
          · exact ⟨line, hmem, hline⟩
        rcases ih hrest with ⟨front, line, back, rfl, hfront, hline⟩
        refine ⟨head :: front, line, back, rfl, ?_, hline⟩
        intro line' hmem
        rcases List.mem_cons.1 hmem with rfl | hmem
        · exact hhead
        · exact hfront line' hmem

/-- A scan of lines of which none is in the window keeps nothing, and only such a scan. -/
theorem keep?_eq_none_iff : keep? start ls = none ↔ ∀ line ∈ ls, ¬ InWindow start line := by
  constructor
  · intro h line hmem hline
    rcases exists_first_inWindow ⟨line, hmem, hline⟩ with ⟨front, first, back, rfl, hfront, hfirst⟩
    rw [keep?_append hfront, keep?_cons_of_inWindow hfirst] at h
    cases h
  · intro h
    have hkeep := keep?_append h []
    rwa [List.append_nil] at hkeep

/-! ## The cut -/

/-- An index is the cut of lines when it is that of the first line in the window. -/
structure IsCut (start : Instant) (ls : List Text) (cut : Nat) : Prop where
  inWindow : ∃ line, ls[cut]? = some line ∧ InWindow start line
  before : ∀ line ∈ ls.take cut, ¬ InWindow start line

/-- Lines one of which is in the window have a cut. -/
theorem exists_isCut (h : ∃ line ∈ ls, InWindow start line) : ∃ cut, IsCut start ls cut := by
  rcases exists_first_inWindow h with ⟨front, line, back, rfl, hfront, hline⟩
  refine ⟨front.length, ⟨line, by simp, hline⟩, ?_⟩
  simpa using hfront

/-- From the cut on there is a line in the window first. -/
theorem IsCut.drop_eq (h : IsCut start ls cut) :
    ∃ line back, ls.drop cut = line :: back ∧ InWindow start line := by
  rcases h.inWindow with ⟨line, hline, hin⟩
  rcases List.getElem?_eq_some_iff.1 hline with ⟨hlt, rfl⟩
  exact ⟨ls[cut], ls.drop (cut + 1), List.drop_eq_getElem_cons hlt, hin⟩

theorem IsCut.drop_ne_nil (h : IsCut start ls cut) : ls.drop cut ≠ [] := by
  rcases h.drop_eq with ⟨line, back, hdrop, -⟩
  simp [hdrop]

/-- The scan keeps the lines from the cut on, behind the markers of those before it. -/
theorem IsCut.keep?_eq (h : IsCut start ls cut) :
    keep? start ls = some (marked (ls.take cut) ++ ls.drop cut) := by
  rcases h.drop_eq with ⟨line, back, hdrop, hin⟩
  have hkeep := keep?_append h.before (ls.drop cut)
  rw [List.take_append_drop] at hkeep
  rw [hkeep, hdrop, keep?_cons_of_inWindow hin]
  rfl

/-- A log is what ends at its cut, followed by the text from there on. -/
theorem IsCut.eq_append (h : IsCut start (Text.lines log) cut) :
    log = Text.ended ((Text.lines log).take cut) ++ Text.ofLines ((Text.lines log).drop cut) := by
  rw [← Text.ofLines_append _ h.drop_ne_nil, List.take_append_drop, Text.ofLines_lines]

/-- What is left of a log are the markers from before its cut, followed by the text from there
on. -/
theorem IsCut.since_eq (h : IsCut start (Text.lines log) cut) :
    since start log = Text.ended (marked ((Text.lines log).take cut))
      ++ Text.ofLines ((Text.lines log).drop cut) := by
  rw [since, h.keep?_eq]
  exact Text.ofLines_append _ h.drop_ne_nil

/-- Markers hold no line feed when the lines do not. -/
theorem not_mem_of_mem_marked (h : ∀ line ∈ ls, '\n' ∉ line) : ∀ line ∈ marked ls, '\n' ∉ line := by
  intro line hmem hlf
  rcases List.mem_map.1 hmem with ⟨unread, hunread, rfl⟩
  have hmarker : '\n' ∉ "Invalid Time, unable to parse date: ".toList := by decide
  rcases List.mem_append.1 hlf with hlf | hlf
  · exact hmarker hlf
  · exact h unread (List.mem_filter.1 hunread).1 hlf

/-- The lines of what is left of a log are the markers from before its cut and all lines from
there on. -/
theorem IsCut.lines_since (h : IsCut start (Text.lines log) cut) :
    Text.lines (since start log)
      = marked ((Text.lines log).take cut) ++ (Text.lines log).drop cut := by
  rw [since, h.keep?_eq]
  refine Text.lines_ofLines ?_ (by simp [h.drop_ne_nil])
  intro line hmem
  rcases List.mem_append.1 hmem with hmem | hmem
  · refine not_mem_of_mem_marked ?_ line hmem
    exact fun line hline => Text.not_mem_of_mem_lines (List.mem_of_mem_take hline)
  · exact Text.not_mem_of_mem_lines (List.mem_of_mem_drop hmem)

/-- Something is left of a log that has a cut. -/
theorem IsCut.since_ne_nil (h : IsCut start (Text.lines log) cut) : since start log ≠ [] := by
  rcases h.drop_eq with ⟨line, back, hdrop, hin⟩
  rw [h.since_eq, hdrop]
  exact List.append_ne_nil_of_right_ne_nil _ (Text.ofLines_cons_ne_nil hin.ne_nil back)

/-- Nothing is left of a log exactly when none of its lines is in the window. -/
theorem since_eq_nil_iff :
    since start log = [] ↔ ∀ line ∈ Text.lines log, ¬ InWindow start line := by
  constructor
  · intro h line hmem hline
    rcases exists_isCut ⟨line, hmem, hline⟩ with ⟨cut, hcut⟩
    exact hcut.since_ne_nil h
  · intro h
    rw [since, keep?_eq_none_iff.2 h]

/-- A log from the start of a window on.  It is empty exactly when no line is in the window.
Otherwise it is the text from the first line in the window on, character for character, behind one
marked line for each unreadable line before that one, in their order. -/
theorem since_eq_cut (start : Instant) (log : Text) :
    (since start log = [] ↔ ∀ line ∈ Text.lines log, ¬ InWindow start line) ∧
    ((∃ line ∈ Text.lines log, InWindow start line) →
      ∃ cut tail, IsCut start (Text.lines log) cut ∧
        log = Text.ended ((Text.lines log).take cut) ++ tail ∧
        since start log = Text.ended (marked ((Text.lines log).take cut)) ++ tail ∧
        Text.lines (since start log)
          = marked ((Text.lines log).take cut) ++ (Text.lines log).drop cut) := by
  constructor
  · exact since_eq_nil_iff
  · intro h
    rcases exists_isCut h with ⟨cut, hcut⟩
    exact ⟨cut, _, hcut, hcut.eq_append, hcut.since_eq, hcut.lines_since⟩

example :
    since ⟨1672531200, 0, by decide⟩
        "2023-01-01T00:00:60Z a\n2022-12-31T23:59:59Z b\n2023-01-01T00:00:00Z c\nd".toList
      = ("Invalid Time, unable to parse date: 2023-01-01T00:00:60Z a\n"
          ++ "2023-01-01T00:00:00Z c\nd").toList := by
  decide +kernel

end Log

end Evidence
