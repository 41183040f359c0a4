import Evidence.Text.Basic
import Mathlib.Data.List.Induction
import Mathlib.Data.List.TakeWhile
import Mathlib.Tactic.Ring

/-!
# Decimal numerals

A text of decimal digits and the number that it stands for determine each other once the width
of the text is known.

Main results:

- `Decimal.value_fixed` and `Decimal.fixed_value`: writing a number in a fixed width and reading
  digits are inverse to each other.
- `Decimal.value_append`: the digits in front count for a power of ten more.
- `Decimal.exists_map_digit`: the texts of digits are the lists of numbers below ten.
-/

namespace Evidence.Decimal

/-! ## One digit -/

/-- The character of a decimal digit. -/
def digit (d : Fin 10) : Char :=
  Nat.digitChar d

@[simp] theorem isDigit_digit (d : Fin 10) : (digit d).isDigit = true := by
  simp [digit, Nat.isDigit_digitChar]

@[simp] theorem digitValue_digit (d : Fin 10) : digitValue (digit d) = d :=
  Nat.toNat_digitChar_sub_48_of_lt_ten d.isLt

theorem toNat_of_isDigit {c : Char} (h : c.isDigit = true) : 48 ≤ c.toNat ∧ c.toNat ≤ 57 :=
  Char.isDigit_iff_toNat.1 h

theorem digitValue_lt {c : Char} (h : c.isDigit = true) : digitValue c < 10 := by
  have hc := toNat_of_isDigit h
  unfold digitValue
  omega

/-- A decimal digit is the character of the number that it stands for. -/
theorem digitChar_digitValue {c : Char} (h : c.isDigit = true) :
    Nat.digitChar (digitValue c) = c := by
  have hc := toNat_of_isDigit h
  apply Char.toNat_inj.mp
  rw [Nat.toNat_digitChar_of_lt_ten (digitValue_lt h)]
  unfold digitValue
  omega

/-! ## Numerals -/

@[simp] theorem value_nil : value [] = 0 :=
  rfl

/-- One more digit behind others. -/
theorem value_concat (digits : Text) (c : Char) :
    value (digits ++ [c]) = 10 * value digits + digitValue c := by
  simp [value]

/-- The digits in front of others count for a power of ten more. -/
theorem value_append (front back : Text) :
    value (front ++ back) = value front * 10 ^ back.length + value back := by
  induction back using List.reverseRecOn with
  | nil => simp
  | append_singleton back c ih =>
      rw [← List.append_assoc, value_concat, value_concat, ih, List.length_append,
        List.length_singleton]
      ring

/-- A text of digits stands for a number below a power of ten. -/
theorem value_lt {digits : Text} (h : ∀ c ∈ digits, c.isDigit = true) :
    value digits < 10 ^ digits.length := by
  induction digits using List.reverseRecOn with
  | nil => simp
  | append_singleton digits c ih =>
      have hc := digitValue_lt (h c (by simp))
      have hrest := ih fun d hd => h d (by simp [hd])
      rw [value_concat, List.length_append, List.length_singleton, Nat.pow_succ]
      omega

/-- A numeral of fixed width consists of digits. -/
theorem isDigit_of_mem_fixed {width n : Nat} {c : Char} (h : c ∈ fixed width n) :
    c.isDigit = true := by
  induction width generalizing n with
  | zero => simp [fixed] at h
  | succ width ih =>
      rw [fixed, List.mem_append, List.mem_singleton] at h
      rcases h with h | rfl
      · exact ih h
      · simpa [Nat.isDigit_digitChar] using Nat.mod_lt n (by decide)

/-- A numeral of fixed width stands for the number, as far as the width goes. -/
theorem value_fixed (width n : Nat) : value (fixed width n) = n % 10 ^ width := by
  induction width generalizing n with
  | zero => simp [fixed, Nat.mod_one]
  | succ width ih =>
      have hlast : digitValue (Nat.digitChar (n % 10)) = n % 10 :=
        Nat.toNat_digitChar_sub_48_of_lt_ten (Nat.mod_lt n (by decide))
      rw [fixed, value_concat, ih, hlast, Nat.pow_succ, Nat.mul_comm (10 ^ width), Nat.mod_mul]
      omega

/-- A numeral is that of its front digits followed by that of its last ones. -/
theorem fixed_add (front back n : Nat) :
    fixed (front + back) n = fixed front (n / 10 ^ back) ++ fixed back n := by
  induction back generalizing n with
  | zero => simp [fixed]
  | succ back ih =>
      have hdiv : n / 10 / 10 ^ back = n / 10 ^ (back + 1) := by
        rw [Nat.div_div_eq_div_mul, Nat.pow_succ, Nat.mul_comm 10]
      rw [← Nat.add_assoc, fixed, fixed, ih, hdiv, List.append_assoc]

/-- Digits are the numeral of their value in their own width. -/
theorem fixed_value {digits : Text} (h : ∀ c ∈ digits, c.isDigit = true) :
    fixed digits.length (value digits) = digits := by
  induction digits using List.reverseRecOn with
  | nil => rfl
  | append_singleton digits c ih =>
      have hc := h c (by simp)
      have hlt := digitValue_lt hc
      have hdiv : value (digits ++ [c]) / 10 = value digits := by
        rw [value_concat]
        omega
      have hmod : value (digits ++ [c]) % 10 = digitValue c := by
        rw [value_concat]
        omega
      rw [List.length_append, List.length_singleton, fixed, hdiv, hmod,
        ih fun d hd => h d (by simp [hd]), digitChar_digitValue hc]

/-- Texts of digits are the lists of numbers below ten, digit by digit. -/
theorem exists_map_digit {digits : Text} (h : ∀ c ∈ digits, c.isDigit = true) :
    ∃ ds : List (Fin 10), ds.map digit = digits := by
  induction digits with
  | nil => exact ⟨[], rfl⟩
  | cons c digits ih =>
      rcases ih fun d hd => h d (by simp [hd]) with ⟨ds, hds⟩
      have hc := h c (by simp)
      exact ⟨⟨digitValue c, digitValue_lt hc⟩ :: ds, by
        rw [List.map_cons, hds, digit, digitChar_digitValue hc]⟩

theorem isDigit_of_mem_map_digit {ds : List (Fin 10)} {c : Char} (h : c ∈ ds.map digit) :
    c.isDigit = true := by
  rcases List.mem_map.1 h with ⟨d, -, rfl⟩
  exact isDigit_digit d

/-- The run of digits at the front ends before a character that is none. -/
theorem takeWhile_map_digit (ds : List (Fin 10)) {c : Char} (h : c.isDigit = false) (rest : Text) :
    (ds.map digit ++ c :: rest).takeWhile Char.isDigit = ds.map digit := by
  rw [List.takeWhile_append_of_pos fun _ => isDigit_of_mem_map_digit]
  simp [h]

/-- Behind the run of digits at the front stands the first character that is none. -/
theorem dropWhile_map_digit (ds : List (Fin 10)) {c : Char} (h : c.isDigit = false) (rest : Text) :
    (ds.map digit ++ c :: rest).dropWhile Char.isDigit = c :: rest := by
  rw [List.dropWhile_append_of_pos fun _ => isDigit_of_mem_map_digit]
  simp [h]

end Evidence.Decimal
