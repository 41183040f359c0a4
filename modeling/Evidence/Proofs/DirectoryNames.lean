import Evidence.TestName
import Mathlib.Data.List.Basic

/-!
# Names of test directories

Which tests share a directory.  A short name shows one character for each of the test's name, and a
long one shows the first of them and a fingerprint of all; its length tells which of both it is.

Main definitions:

- `TestName.IsPortable` and `TestName.shown`: the characters of directory names, and which of them
  stands for a character of a test's name.
- `TestName.LookAlike`: names that show the same characters in their first places.

Main results:

- `Hex.ofBlob_injective`: hexadecimal digits say which bytes they were written for.
- `TestName.isSafe_of_mem_directory` and `TestName.length_directory`: the characters and the length
  of a directory name.
- `TestName.sharing_directory`: which tests share a directory.
-/

namespace Evidence

/-! ## Hexadecimal digits -/

namespace Hex

theorem digit?_digitChar {n : Nat} (h : n < 16) : digit? (Nat.digitChar n) = some n := by
  have hdigits : ∀ d : Fin 16, digit? (Nat.digitChar d.val) = some d.val := by decide
  exact hdigits ⟨n, h⟩

/-- The two digits of a byte are read back. -/
theorem byte?_digits (b : UInt8) :
    byte? (Nat.digitChar (b.toNat / 16)) (Nat.digitChar (b.toNat % 16)) = some b := by
  have hb := b.toNat_lt
  exact byte?_eq_some (digit?_digitChar (by omega)) (digit?_digitChar (by omega))

theorem ofByte_injective : Function.Injective ofByte := by
  intro b b' h
  injection h with hhigh hlow
  injection hlow with hlow
  apply Option.some.inj
  rw [← byte?_digits b, ← byte?_digits b', hhigh, hlow]

/-- Hexadecimal digits say which bytes they were written for. -/
theorem ofBlob_injective : Function.Injective ofBlob := by
  intro bytes bytes' h
  have hlength : bytes.length = bytes'.length := by
    have hdigits := congrArg List.length h
    rw [length_ofBlob, length_ofBlob] at hdigits
    omega
  induction bytes generalizing bytes' with
  | nil => exact (List.length_eq_zero_iff.1 hlength.symm).symm
  | cons b bytes ih =>
    cases bytes' with
    | nil => cases hlength
    | cons b' bytes' =>
      -- A byte takes two digits, so those of the first byte end at the same place.
      have hparts : ofByte b ++ ofBlob bytes = ofByte b' ++ ofBlob bytes' := h
      obtain ⟨hfirst, hrest⟩ := List.append_inj hparts rfl
      rw [ofByte_injective hfirst, ih hrest (Nat.succ.inj hlength)]

end Hex

namespace TestName

variable {name x y : Text} {c : Char} {n : Nat}

/-! ## Characters of a directory name -/

/-- ASCII letters and digits, points, underscores and hyphens. -/
def IsPortable (c : Char) : Prop :=
  ('A' ≤ c ∧ c ≤ 'Z') ∨ ('a' ≤ c ∧ c ≤ 'z') ∨ ('0' ≤ c ∧ c ≤ '9') ∨ c = '.' ∨ c = '_' ∨ c = '-'

theorem isSafe_iff : isSafe c = true ↔ IsPortable c := by
  have hupper : c.isUpper = true ↔ 'A' ≤ c ∧ c ≤ 'Z' := decide_eq_true_iff
  have hlower : c.isLower = true ↔ 'a' ≤ c ∧ c ≤ 'z' :=
    (Bool.and_eq_true_iff).trans (and_congr decide_eq_true_iff decide_eq_true_iff)
  have hdigit : c.isDigit = true ↔ '0' ≤ c ∧ c ≤ '9' :=
    (Bool.and_eq_true_iff).trans (and_congr decide_eq_true_iff decide_eq_true_iff)
  have halphanum : c.isAlphanum = (c.isUpper || c.isLower || c.isDigit) := rfl
  simp only [isSafe, IsPortable, halphanum, Bool.or_eq_true, beq_iff_eq, hupper, hlower, hdigit,
    or_assoc]

instance : DecidablePred IsPortable :=
  fun _ => decidable_of_iff _ isSafe_iff

/-- What replaces a character is safe. -/
theorem isSafe_of_mem_sanitize (h : c ∈ sanitize name) : isSafe c = true := by
  rcases List.mem_map.1 h with ⟨original, -, rfl⟩
  split
  · next hsafe => exact hsafe
  · rfl

/-- Hexadecimal digits are safe. -/
theorem isSafe_of_mem_fingerprint (h : c ∈ fingerprint name) : isSafe c = true := by
  have hdigits : ∀ d : Fin 16, isSafe (Nat.digitChar d) = true := by decide
  rcases List.mem_flatMap.1 h with ⟨b, -, hc⟩
  have hb := b.toNat_lt
  rcases List.mem_cons.1 hc with rfl | hc
  · exact hdigits ⟨b.toNat / 16, by omega⟩
  · rw [List.mem_singleton.1 hc]
    exact hdigits ⟨b.toNat % 16, by omega⟩

/-- All characters of a directory name are safe. -/
theorem isSafe_of_mem_directory (h : c ∈ directory name) : isSafe c = true := by
  rw [directory] at h
  split at h
  · exact isSafe_of_mem_sanitize h
  · rcases List.mem_append.1 h with h | h
    · exact isSafe_of_mem_sanitize (List.mem_of_mem_take h)
    · rcases List.mem_cons.1 h with rfl | h
      · rfl
      · exact isSafe_of_mem_fingerprint h

/-- A name that is safe throughout stays as it is. -/
theorem sanitize_eq_self (h : ∀ c ∈ name, isSafe c = true) : sanitize name = name := by
  rw [sanitize, List.map_congr_left fun c hc => if_pos (h c hc)]
  exact List.map_id name

/-! ## Names that look alike -/

/-- What a character of a test's name shows as in the name of its directory. -/
def shown (c : Char) : Char :=
  if IsPortable c then c else '-'

/-- Two names show the same characters in their first `n` places, as far as they have them. -/
def LookAlike (n : Nat) (x y : Text) : Prop :=
  ∀ i < n, x[i]?.map shown = y[i]?.map shown

theorem sanitize_eq_map (name : Text) : sanitize name = name.map shown := by
  unfold sanitize shown
  simp only [isSafe_iff]

@[simp] theorem length_sanitize (name : Text) : (sanitize name).length = name.length :=
  List.length_map _

/-- Names look alike when the same is left of them after replacement. -/
theorem lookAlike_iff : LookAlike n x y ↔ (sanitize x).take n = (sanitize y).take n := by
  rw [List.ext_getElem?_iff]
  simp only [sanitize_eq_map, List.getElem?_take, List.getElem?_map]
  constructor
  · intro h i
    split
    · next hi => exact h i hi
    · rfl
  · intro h i hi
    have hplace := h i
    rwa [if_pos hi, if_pos hi] at hplace

/-- Names of one length that look alike in all places have the same characters shown. -/
theorem sanitize_eq_iff_lookAlike :
    sanitize x = sanitize y ↔ x.length = y.length ∧ LookAlike x.length x y := by
  rw [lookAlike_iff]
  constructor
  · intro h
    have hlength := congrArg List.length h
    rw [length_sanitize, length_sanitize] at hlength
    exact ⟨hlength, by rw [h]⟩
  · rintro ⟨hlength, htake⟩
    rwa [List.take_of_length_le (by simp), List.take_of_length_le (by simp [hlength])] at htake

/-! ## Short and long names -/

theorem directory_of_le (h : name.length ≤ limit) : directory name = sanitize name :=
  if_pos h

theorem directory_of_lt (h : limit < name.length) :
    directory name = (sanitize name).take limit ++ '-' :: fingerprint name :=
  if_neg (Nat.not_le.2 h)

/-- A short name of portable characters is the name of its directory. -/
theorem directory_eq_self (hshort : name.length ≤ limit) (h : ∀ c ∈ name, IsPortable c) :
    directory name = name := by
  rw [directory_of_le hshort, sanitize_eq_self fun c hc => isSafe_iff.2 (h c hc)]

/-- A fingerprint shows the front of the digest. -/
theorem fingerprint_eq_iff : fingerprint x = fingerprint y ↔
    (Sha256.digest (Utf8.encode x)).take digestBytes
      = (Sha256.digest (Utf8.encode y)).take digestBytes :=
  Hex.ofBlob_injective.eq_iff

@[simp] theorem length_fingerprint (name : Text) : (fingerprint name).length = 16 := by
  rw [fingerprint, Hex.length_ofBlob, List.length_take, Sha256.length_digest]
  rfl

theorem length_take_sanitize (h : limit < name.length) :
    ((sanitize name).take limit).length = limit := by
  rw [List.length_take, length_sanitize]
  omega

/-- A directory name is as long as the name of the test, or it has 117 characters. -/
theorem length_directory (name : Text) :
    (directory name).length = if name.length ≤ limit then name.length else 117 := by
  split
  · next hshort => rw [directory_of_le hshort, length_sanitize]
  · next hlong =>
    have hlt := Nat.lt_of_not_le hlong
    rw [directory_of_lt hlt, List.length_append, length_take_sanitize hlt, List.length_cons,
      length_fingerprint]
    rfl

/-- Long names share a directory if they look alike as far as they are shown and have the same
fingerprint. -/
theorem directory_eq_iff_of_lt (hx : limit < x.length) (hy : limit < y.length) :
    directory x = directory y ↔ LookAlike limit x y ∧ fingerprint x = fingerprint y := by
  rw [directory_of_lt hx, directory_of_lt hy, lookAlike_iff]
  constructor
  · intro h
    have hlength := (length_take_sanitize hx).trans (length_take_sanitize hy).symm
    obtain ⟨hfront, hback⟩ := List.append_inj h hlength
    exact ⟨hfront, (List.cons.inj hback).2⟩
  · rintro ⟨hfront, hfingerprint⟩
    rw [hfront, hfingerprint]

/-- A short and a long name have directory names of different lengths. -/
theorem directory_ne_of_le_of_lt (hx : x.length ≤ limit) (hy : limit < y.length) :
    directory x ≠ directory y := by
  intro h
  have hlength := congrArg List.length h
  rw [length_directory, length_directory, if_pos hx, if_neg (Nat.not_le.2 hy)] at hlength
  unfold limit at hx
  omega

/-- Two tests share a directory exactly if their names are short, have one length and look alike, or
are long, look alike in the places that are shown, and have digests that begin alike.

So a short and a long name never share one, and short names of portable characters stay as they
are, and apart from each other.  All characters of directory names are portable, and they are as
many as those of the name, or 117 if it is long. -/
theorem sharing_directory :
    (∀ x y : Text, directory x = directory y ↔
      (x.length ≤ 100 ∧ y.length ≤ 100 ∧ x.length = y.length ∧ LookAlike x.length x y) ∨
      (100 < x.length ∧ 100 < y.length ∧ LookAlike 100 x y ∧
        (Sha256.digest (Utf8.encode x)).take 8 = (Sha256.digest (Utf8.encode y)).take 8)) ∧
    (∀ x y : Text, x.length ≤ 100 → 100 < y.length → directory x ≠ directory y) ∧
    (∀ x : Text, x.length ≤ 100 → (∀ c ∈ x, IsPortable c) → directory x = x ∧
      ∀ y : Text, y.length ≤ 100 → (∀ c ∈ y, IsPortable c) → directory y = directory x → y = x) ∧
    (∀ x : Text, ∀ c ∈ directory x, IsPortable c) ∧
    ∀ x : Text, (directory x).length = if x.length ≤ 100 then x.length else 117 := by
  refine ⟨fun x y => ?shared, fun x y => directory_ne_of_le_of_lt, fun x hshort hportable => ?kept,
    fun x c hc => isSafe_iff.1 (isSafe_of_mem_directory hc), length_directory⟩
  case kept =>
    have hkept := directory_eq_self hshort hportable
    refine ⟨hkept, fun y hshort' hportable' h => ?_⟩
    rwa [hkept, directory_eq_self hshort' hportable'] at h
  case shared =>
    -- A name of either kind against one of either kind; of a mixed pair both sides are false.
    by_cases hx : x.length ≤ 100
    · by_cases hy : y.length ≤ 100
      · rw [directory_of_le hx, directory_of_le hy, sanitize_eq_iff_lookAlike]
        simp [hx, hy, Nat.not_lt.2 hx]
      · have hne := directory_ne_of_le_of_lt hx (Nat.lt_of_not_le hy)
        simp [hne, hy, Nat.not_lt.2 hx]
    · have hltx := Nat.lt_of_not_le hx
      by_cases hy : y.length ≤ 100
      · have hne := (directory_ne_of_le_of_lt hy hltx).symm
        simp [hne, hx, Nat.not_lt.2 hy]
      · have hlty := Nat.lt_of_not_le hy
        rw [directory_eq_iff_of_lt hltx hlty, fingerprint_eq_iff]
        simp [hx, hltx, hlty, limit, digestBytes]

/-- Tests with names of a hundred characters share a directory though their names take different
numbers of bytes; one more character makes a name long. -/
theorem sharing_directory_of_wide_characters :
    let x : Text := List.replicate 100 'é'
    let y : Text := List.replicate 100 '/'
    x.length = 100 ∧ y.length = 100 ∧ Text.byteLength x ≠ Text.byteLength y ∧
      directory x = directory y ∧ directory x ≠ directory (x ++ ['é']) := by
  intro x y
  have hx : x.length = 100 := List.length_replicate
  have hy : y.length = 100 := List.length_replicate
  have hlong : 100 < (x ++ ['é']).length := by simp [hx]
  have halike : LookAlike x.length x y := by
    intro i hi
    rw [hx] at hi
    rw [List.getElem?_replicate, List.getElem?_replicate, if_pos hi, if_pos hi]
    rfl
  obtain ⟨hshared, hapart, -⟩ := sharing_directory
  have hsame : directory x = directory y :=
    (hshared x y).2 (.inl ⟨Nat.le_of_eq hx, Nat.le_of_eq hy, hx.trans hy.symm, halike⟩)
  exact ⟨hx, hy, by decide, hsame, hapart x (x ++ ['é']) (Nat.le_of_eq hx) hlong⟩

end TestName

end Evidence
