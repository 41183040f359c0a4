import Evidence.Text.Basic

/-!
# Stamps in lines of text

A stamp is a piece of a line that looks like a time, `dddd-dd-ddTdd:dd:dd`, then perhaps a
fraction, then a zone.  Whether it denotes a time is another question.

Main definitions:

- `Stamp.atFront?`: the stamp that a text begins with.
- `Stamp.find?`: the leftmost stamp of a text.
-/

namespace Evidence.Stamp

/-! ## The form of a stamp -/

/-- A kind of character: a digit, or one character itself. -/
inductive Slot where
  | digit
  | exactly (c : Char)
deriving DecidableEq, Repr

/-- Whether a character is of a kind; digits are those of ASCII. -/
def Slot.fits : Slot → Char → Bool
  | digit, c => c.isDigit
  | exactly d, c => c == d

/-- The slots of a date and a time of day. -/
def dateAndTime : List Slot :=
  [.digit, .digit, .digit, .digit, .exactly '-', .digit, .digit, .exactly '-', .digit, .digit,
    .exactly 'T', .digit, .digit, .exactly ':', .digit, .digit, .exactly ':', .digit, .digit]

/-- The slots of the hours and minutes of a zone offset. -/
def offset : List Slot :=
  [.digit, .digit, .exactly ':', .digit, .digit]

/-! ## Matching at the front of a text -/

/-- Split a text after as many characters as there are slots, if each fits its slot. -/
def fill? : List Slot → Text → Option (Text × Text)
  | [], t => some ([], t)
  | _ :: _, [] => none
  | slot :: slots, c :: rest =>
    if slot.fits c then (fill? slots rest).map fun (filled, rest) => (c :: filled, rest) else none

/-- The fraction that a text begins with, all its digits, and the rest.  A text that does not
begin with a point has an empty one, and a point needs a digit. -/
def fraction? : Text → Option (Text × Text)
  | '.' :: rest =>
    match rest.takeWhile Char.isDigit with
    | [] => none
    | digits => some ('.' :: digits, rest.dropWhile Char.isDigit)
  | t => some ([], t)

/-- The zone that a text begins with. -/
def zone? : Text → Option Text
  | [] => none
  | c :: rest =>
    if c = 'Z' then some ['Z']
    else if c = '+' ∨ c = '-' then (fill? offset rest).map fun (filled, _) => c :: filled
    else none

/-- The stamp that a text begins with. -/
def atFront? (t : Text) : Option Text := do
  let (front, rest) ← fill? dateAndTime t
  let (fraction, rest) ← fraction? rest
  let zone ← zone? rest
  return front ++ fraction ++ zone

/-! ## Searching -/

/-- The leftmost stamp of a text. -/
def find? : Text → Option Text
  | [] => none
  | c :: rest =>
    match atFront? (c :: rest) with
    | some stamp => some stamp
    | none => find? rest

end Evidence.Stamp
