import Evidence.Time.Rfc3339
import Evidence.Time.Stamp

/-!
# The window of a log

A log is cut at its first line with a stamp at or after the start of the window.  That line and
all that follow are kept; of the lines before it only those with an unreadable stamp leave a
trace.

Main definitions:

- `Verdict` and `verdict`: what the stamp of a line says about the window.
- `keep?`: the lines that are left, if there is a cut.
- `Log.since`: the text of a log from the start of a window on.
-/

namespace Evidence.Log

/-! ## The verdict on a line -/

/-- What the first stamp of a line says about a window. -/
inductive Verdict where
  /-- The line has no stamp. -/
  | unstamped
  /-- The stamp denotes no time. -/
  | unreadable
  /-- The stamp is before the window. -/
  | early
  /-- The stamp is at or after the start of the window. -/
  | inWindow
deriving DecidableEq, Repr

/-- The instant that a stamp denotes.  In a log a leap second counts as no time. -/
def instantOf? (stamp : Text) : Option Instant :=
  (Rfc3339.instant? stamp).filter fun i => !i.isLeap

/-- The verdict on a stamp. -/
def verdictOfStamp (start : Instant) (stamp : Text) : Verdict :=
  match instantOf? stamp with
  | none => .unreadable
  | some i => if start ≤ i then .inWindow else .early

/-- The verdict on a line is that on its leftmost stamp. -/
def verdict (start : Instant) (line : Text) : Verdict :=
  match Stamp.find? line with
  | none => .unstamped
  | some stamp => verdictOfStamp start stamp

/-! ## The cut -/

/-- What stands before a line whose stamp is unreadable. -/
def marker : Text :=
  "Invalid Time, unable to parse date: ".toList

/-- The lines from the cut on, after one marked line for each unreadable stamp before it. -/
def keep? (start : Instant) : List Text → Option (List Text)
  | [] => none
  | line :: rest =>
    match verdict start line with
    | .inWindow => some (line :: rest)
    | .unreadable => (keep? start rest).map fun kept => (marker ++ line) :: kept
    | .early | .unstamped => keep? start rest

/-- A log from the start of a window on; it is empty when no line is in the window. -/
def since (start : Instant) (log : Text) : Text :=
  match keep? start (Text.lines log) with
  | none => []
  | some kept => Text.ofLines kept

end Evidence.Log
