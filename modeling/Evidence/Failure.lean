import Evidence.Text.Basic

/-!
# Failures

Why something could not be done, in words.

Main definitions:

- `Failure`: a message with the causes behind it.
- `Failure.report`: a failure as it is shown at the end of a run.
-/

namespace Evidence

/-- Why something could not be done, with the causes behind it, the outermost first. -/
structure Failure where
  message : Text
  causes : List Text
deriving DecidableEq, Repr

namespace Failure

/-- A text behind a mark; its further lines begin with a margin. -/
def behind (mark margin t : Text) : Text :=
  mark ++ ('\n' :: margin).intercalate (Text.lines t)

/-- Causes on lines of their own, numbered from `n` on. -/
def numbered : Nat → List Text → Text
  | _, [] => []
  | n, cause :: rest =>
    behind (List.leftpad 5 ' ' (Decimal.ofNat n) ++ ": ".toList) (List.replicate 7 ' ') cause
      ++ '\n' :: numbered (n + 1) rest

/-- What a failure says about its causes: nothing if it has none, and their numbers if it has
several. -/
def causesText : List Text → Text
  | [] => []
  | [cause] =>
    "\nCaused by:\n".toList ++ behind (List.replicate 4 ' ') (List.replicate 4 ' ') cause ++ ['\n']
  | causes => "\nCaused by:\n".toList ++ numbered 0 causes

/-- A failure as it is shown at the end of a run. -/
def report (f : Failure) : Text :=
  "Error: ".toList ++ f.message ++ '\n' :: causesText f.causes

end Failure

end Evidence
