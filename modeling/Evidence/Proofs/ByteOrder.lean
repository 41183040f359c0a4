import Evidence.Proofs.Utf8Parts

/-!
# The order of bytes

Texts are ordered by their code points, and that is the order of their bytes.

Main results:

- `Utf8.compare_encode`: texts compare as their bytes do.
-/

namespace Evidence.Utf8

variable {a b : UInt8} {c d : Char} {n : Nat} {as bs : Blob}

/-- The first bytes that differ decide. -/
theorem compare_cons_of_lt (h : a.toNat < b.toNat) : compare (a :: as) (b :: bs) = .lt := by
  have hlt : compare a b = .lt := Std.compare_eq_lt.2 (UInt8.lt_iff_toNat_lt.2 h)
  show List.compareLex compare (a :: as) (b :: bs) = .lt
  rw [List.compareLex_cons_cons, hlt]
  rfl

/-- Equal first bytes do not matter. -/
theorem compare_append_left (front as bs : Blob) :
    compare (front ++ as) (front ++ bs) = compare as bs := by
  induction front with
  | nil => rfl
  | cons a front ih =>
    show List.compareLex compare (a :: (front ++ as)) (a :: (front ++ bs)) = _
    rw [List.compareLex_cons_cons, Std.ReflOrd.compare_self]
    exact ih

/-- The bytes that continue a character are ordered as the rests of the code points are. -/
theorem compare_trail_of_lt {k m n : Nat} (h : m % 64 ^ k < n % 64 ^ k) :
    compare (trail k m ++ as) (trail k n ++ bs) = .lt := by
  induction k with
  | zero => simp [Nat.mod_one] at h
  | succ k ih =>
    have hm := Nat.mod_pow_succ (x := m) (b := 64) (k := k)
    have hn := Nat.mod_pow_succ (x := n) (b := 64) (k := k)
    have hm' : m / 64 ^ k % 64 < 64 := Nat.mod_lt _ (by decide)
    have hn' : n / 64 ^ k % 64 < 64 := Nat.mod_lt _ (by decide)
    have hnk : n % 64 ^ k < 64 ^ k := Nat.mod_lt _ (Nat.pow_pos (by decide))
    rw [hm, hn] at h
    rw [trail, trail, List.cons_append, List.cons_append]
    rcases Nat.lt_trichotomy (m / 64 ^ k % 64) (n / 64 ^ k % 64) with hlt | heq | hgt
    · apply compare_cons_of_lt
      rw [UInt8.toNat_ofNat', UInt8.toNat_ofNat']
      omega
    · rw [heq] at h ⊢
      exact (compare_append_left [_] _ _).trans (ih (by omega))
    · have hle : 64 ^ k * (n / 64 ^ k % 64 + 1) ≤ 64 ^ k * (m / 64 ^ k % 64) :=
        Nat.mul_le_mul_left _ hgt
      rw [Nat.mul_add] at hle
      omega

/-- The first byte of a character whose code point is `n`. -/
def leadByte (n : Nat) : Nat :=
  if n < 0x80 then n
  else if n < 0x800 then 0xC0 + n / 64
  else if n < 0x10000 then 0xE0 + n / 4096
  else 0xF0 + n / 262144

/-- The number of bytes after the first one. -/
def trailLength (n : Nat) : Nat :=
  if n < 0x80 then 0 else if n < 0x800 then 1 else if n < 0x10000 then 2 else 3

/-- The bytes of a character are the first one and those that continue it. -/
theorem encodeChar_eq_cons (c : Char) :
    encodeChar c = UInt8.ofNat (leadByte c.toNat) :: trail (trailLength c.toNat) c.toNat := by
  simp only [encodeChar, leadByte, trailLength]
  split_ifs <;> simp [trail]

/-- Of two code points the greater has the greater first byte, or the same form and the greater
rest. -/
theorem leadByte_lt_or_eq {m n : Nat} (h : m < n) :
    leadByte m < leadByte n ∨
      leadByte m = leadByte n ∧ trailLength m = trailLength n ∧
        m % 64 ^ trailLength m < n % 64 ^ trailLength n := by
  simp only [leadByte, trailLength]
  split_ifs <;> omega

theorem leadByte_lt (h : n < 0x110000) : leadByte n < 256 := by
  simp only [leadByte]
  split_ifs <;> omega

/-- A character with a smaller code point has smaller bytes. -/
theorem compare_encodeChar_of_lt (h : c.toNat < d.toNat) (as bs : Blob) :
    compare (encodeChar c ++ as) (encodeChar d ++ bs) = .lt := by
  have hbyte := leadByte_lt (lt_0x110000 d)
  rw [encodeChar_eq_cons c, encodeChar_eq_cons d, List.cons_append, List.cons_append]
  rcases leadByte_lt_or_eq h with hlt | ⟨heq, hlength, hrest⟩
  · apply compare_cons_of_lt
    rw [UInt8.toNat_ofNat', UInt8.toNat_ofNat']
    omega
  · rw [heq]
    refine (compare_append_left [_] _ _).trans ?_
    rw [hlength] at hrest ⊢
    exact compare_trail_of_lt hrest

/-- Texts compare as their bytes do. -/
theorem compare_encode (s t : Text) : compare (encode s) (encode t) = compare s t := by
  induction s generalizing t with
  | nil =>
    cases t with
    | nil => rfl
    | cons d t =>
      rw [encode_cons, encodeChar_eq_cons d]
      rfl
  | cons c s ih =>
    cases t with
    | nil =>
      rw [encode_cons, encodeChar_eq_cons c]
      rfl
    | cons d t =>
      have hcons : compare (c :: s) (d :: t) = (compare c d).then (compare s t) :=
        List.compareLex_cons_cons
      rw [hcons, encode_cons, encode_cons]
      rcases Nat.lt_trichotomy c.toNat d.toNat with hlt | heq | hgt
      · rw [compare_encodeChar_of_lt hlt, show compare c d = .lt from if_pos hlt]
        rfl
      · rw [Char.toNat_inj.1 heq, compare_append_left, Std.ReflOrd.compare_self, ih]
        rfl
      · rw [Std.OrientedCmp.gt_of_lt (compare_encodeChar_of_lt hgt (encode t) (encode s)),
          show compare c d = .gt from Std.OrientedCmp.gt_of_lt (if_pos hgt)]
        rfl

end Evidence.Utf8
