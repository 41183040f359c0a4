/-!
# Text

Texts and blobs as plain lists, so that every later definition about names, lines and
paths is a definition about lists.

Main definitions:

- `Text` and `Blob`: the characters of a text, the bytes of a file.
- `Text.lines` and `Text.ofLines`: a text as the list of what stands between its line feeds.
- `Decimal.ofNat`, `Decimal.ofInt`, `Decimal.fixed` and `Decimal.value`: numbers written in
  decimal digits.
- `Hex.ofByte` and `Hex.byte?`: a byte as two hexadecimal digits.

Main results:

- `Text.ofLines_lines`: joining the lines of a text gives the text back.
- `Text.not_mem_of_mem_splitOn`: no part of a text holds the character that parts it.
- `Text.takeWhile_bne_append` and `Text.dropWhile_bne_append`: a text is parted at the first place
  of a character.
-/

namespace Evidence

/-- A text is the list of its characters. -/
abbrev Text := List Char

/-- A blob is the list of its bytes. -/
abbrev Blob := List UInt8

namespace Text

/-! ## Lines -/

/-- The lines of a text are what stands between its line feeds.  A text with `n` line feeds
has `n + 1` lines, and a carriage return is a character like any other. -/
def lines (t : Text) : List Text :=
  t.splitOn '\n'

/-- Join lines by single line feeds. -/
def ofLines (ls : List Text) : Text :=
  ['\n'].intercalate ls

/-- Joining the lines of a text gives the text back. -/
@[simp] theorem ofLines_lines (t : Text) : ofLines (lines t) = t :=
  List.intercalate_splitOn '\n'

/-- No part of a text holds the character that parts it. -/
theorem not_mem_of_mem_splitOn {sep : Char} {t part : Text} (h : part ∈ t.splitOn sep) :
    sep ∉ part := by
  induction t generalizing part with
  | nil =>
    have hnil : ([] : Text).splitOn sep = [[]] := rfl
    rw [hnil, List.mem_singleton] at h
    simp [h]
  | cons c t ih =>
    rw [List.splitOn_cons_eq_if_modifyHead] at h
    split at h
    · rcases List.mem_cons.1 h with rfl | h
      · simp
      · exact ih h
    · next hc =>
      rcases List.exists_cons_of_ne_nil (List.splitOn_ne_nil sep t) with ⟨first, rest, hsplit⟩
      rw [hsplit, List.modifyHead_cons] at h
      rcases List.mem_cons.1 h with rfl | h
      · have hfirst : sep ∉ first := ih (by simp [hsplit])
        have hne : sep ≠ c := by
          rintro rfl
          exact hc (beq_self_eq_true _)
        simp [hfirst, hne]
      · exact ih (by simp [hsplit, h])

/-! ## The first place of a character -/

/-- A text without a character is all characters other than it. -/
theorem forall_bne_of_not_mem {sep : Char} {t : Text} (h : sep ∉ t) : ∀ c ∈ t, (c != sep) = true :=
  fun _ hc => bne_iff_ne.2 fun heq => h (heq ▸ hc)

/-- What stands in front of the first place of a character. -/
theorem takeWhile_bne_append {sep : Char} {front : Text} (h : sep ∉ front) (back : Text) :
    (front ++ sep :: back).takeWhile (· != sep) = front := by
  rw [List.takeWhile_append_of_pos (forall_bne_of_not_mem h),
    List.takeWhile_cons_of_neg (by simp), List.append_nil]

/-- What stands from the first place of a character on. -/
theorem dropWhile_bne_append {sep : Char} {front : Text} (h : sep ∉ front) (back : Text) :
    (front ++ sep :: back).dropWhile (· != sep) = sep :: back := by
  rw [List.dropWhile_append_of_pos (forall_bne_of_not_mem h),
    List.dropWhile_cons_of_neg (by simp)]

/-! ## Sizes -/

/-- The number of bytes that a character takes in UTF-8. -/
def byteWidth (c : Char) : Nat :=
  if c.toNat < 0x80 then 1
  else if c.toNat < 0x800 then 2
  else if c.toNat < 0x10000 then 3
  else 4

/-- The number of bytes that a text takes in UTF-8. -/
def byteLength (t : Text) : Nat :=
  t.foldr (fun c n => byteWidth c + n) 0

end Text

/-! ## Decimal digits -/

namespace Decimal

/-- The shortest decimal digits of a number. -/
def ofNat (n : Nat) : Text :=
  Nat.toDigits 10 n

/-- The shortest decimal digits of an integer, with a hyphen in front of a negative one. -/
def ofInt (n : Int) : Text :=
  (if n < 0 then ['-'] else []) ++ ofNat n.natAbs

/-- The last `width` decimal digits of a number, with leading zeros. -/
def fixed : Nat → Nat → Text
  | 0, _ => []
  | width + 1, n => fixed width (n / 10) ++ [Nat.digitChar (n % 10)]

/-- The number that a decimal digit stands for. -/
def digitValue (c : Char) : Nat :=
  c.toNat - 48

/-- The number that decimal digits stand for, the most significant first. -/
def value (digits : Text) : Nat :=
  digits.foldl (fun n c => 10 * n + digitValue c) 0

/-- At least `width` decimal digits of a number: leading zeros fill a shorter one up. -/
def padded (width n : Nat) : Text :=
  if n < Nat.pow 10 width then fixed width n else ofNat n

/-- A fixed-width numeral has that width. -/
@[simp] theorem length_fixed (width n : Nat) : (fixed width n).length = width := by
  induction width generalizing n with
  | zero => rfl
  | succ width ih => simp [fixed, ih]

end Decimal

/-! ## Hexadecimal digits -/

namespace Hex

/-- Two lower-case hexadecimal digits. -/
def ofByte (b : UInt8) : Text :=
  [Nat.digitChar (b.toNat / 16), Nat.digitChar (b.toNat % 16)]

/-- Two lower-case hexadecimal digits for each byte. -/
def ofBlob (bytes : Blob) : Text :=
  bytes.flatMap ofByte

/-- The number that a hexadecimal digit of either case stands for. -/
def digit? (c : Char) : Option Nat :=
  if c.isDigit then some (c.toNat - 48)
  else if 'a' ≤ c ∧ c ≤ 'f' then some (c.toNat - 87)
  else if 'A' ≤ c ∧ c ≤ 'F' then some (c.toNat - 55)
  else none

/-- The byte that two hexadecimal digits stand for. -/
def byte? (high low : Char) : Option UInt8 := do
  let high ← digit? high
  let low ← digit? low
  return UInt8.ofNat (16 * high + low)

/-- Two digits that stand for the halves of a byte stand for the byte. -/
theorem byte?_eq_some {b : UInt8} {high low : Char} (hhigh : digit? high = some (b.toNat / 16))
    (hlow : digit? low = some (b.toNat % 16)) : byte? high low = some b := by
  rw [byte?, hhigh, hlow]
  show some (UInt8.ofNat (16 * (b.toNat / 16) + b.toNat % 16)) = some b
  rw [Nat.div_add_mod, UInt8.ofNat_toNat]

/-- A blob takes two digits a byte. -/
@[simp] theorem length_ofBlob (bytes : Blob) : (ofBlob bytes).length = 2 * bytes.length := by
  induction bytes with
  | nil => rfl
  | cons b bytes ih =>
    have h : ofBlob (b :: bytes) = ofByte b ++ ofBlob bytes := rfl
    simp [h, ih, ofByte]
    omega

end Hex

end Evidence
