import Evidence.Text.Utf8
import Mathlib.Algebra.Group.Nat.Defs
import Mathlib.Data.List.Infix

/-!
# Characters and gaps

What bytes are, said without a decoder: the encoding of a character, or, where none begins, a gap
that is as long as it can be while a character might still come of it.

Main definitions:

- `Utf8.Opens`: bytes that a character begins with.
- `Utf8.IsGap`: a maximal part that is not well formed.
- `Utf8.Splits`: bytes as characters and gaps.

Main results:

- `Utf8.parts_eq_iff`: the decoder finds exactly these characters and gaps.
- `Utf8.decodeLossy_encode`: the bytes of a text are decoded to the text.
-/

namespace Evidence.Utf8

variable {b : UInt8} {c : Char} {n k : Nat} {part more rest gap bytes : Blob} {p : Pending}

/-! ## Bytes of a character -/

/-- The last `k` bytes of a character whose code point is `n`. -/
def trail : Nat → Nat → Blob
  | 0, _ => []
  | k + 1, n => UInt8.ofNat (0x80 + n / 64 ^ k % 64) :: trail k n

/-- Bytes that a character begins with. -/
def Opens (part : Blob) : Prop :=
  ∃ c, part <+: encodeChar c

theorem Opens.of_isPrefix (h : Opens more) (hp : part <+: more) : Opens part := by
  rcases h with ⟨c, hc⟩
  exact ⟨c, hp.trans hc⟩

/-- The code points that an open character can still become. -/
structure Pending.Covers (p : Pending) (n : Nat) : Prop where
  bits : n / 64 ^ (p.after + 1) = p.bits
  low : p.low.toNat ≤ 0x80 + n / 64 ^ p.after % 64
  high : 0x80 + n / 64 ^ p.after % 64 ≤ p.high.toNat

/-- Some bytes have opened a character: it can become exactly what they begin. -/
structure Awaits (part : Blob) (p : Pending) : Prop where
  encode : ∀ {n}, p.Covers n → n.isValidChar ∧ encodeChar (Char.ofNat n) = part ++ trail (p.after + 1) n
  covers : ∀ {c}, part <+: encodeChar c → p.Covers c.toNat
  low : 0x80 ≤ p.low.toNat
  high : p.high.toNat ≤ 0xBF
  range : p.low ≤ p.high

theorem toNat_ofNat (h : n.isValidChar) : (Char.ofNat n).toNat = n := by
  rw [Char.ofNat, dif_pos h]
  rfl

/-- Characters of two bytes. -/
theorem encodeChar_of_lt_0x800 (h : 0x80 ≤ c.toNat) (h' : c.toNat < 0x800) :
    encodeChar c = UInt8.ofNat (0xC0 + c.toNat / 64) :: trail 1 c.toNat := by
  simp [encodeChar, trail, Nat.not_lt.2 h, h']

/-- Characters of three bytes. -/
theorem encodeChar_of_lt_0x10000 (h : 0x800 ≤ c.toNat) (h' : c.toNat < 0x10000) :
    encodeChar c = UInt8.ofNat (0xE0 + c.toNat / 4096) :: trail 2 c.toNat := by
  simp [encodeChar, trail, Nat.not_lt.2 h, h', show ¬ c.toNat < 0x80 by omega]

/-- Characters of four bytes. -/
theorem encodeChar_of_0x10000_le (h : 0x10000 ≤ c.toNat) :
    encodeChar c = UInt8.ofNat (0xF0 + c.toNat / 262144) :: trail 3 c.toNat := by
  simp [encodeChar, trail, Nat.not_lt.2 h, show ¬ c.toNat < 0x80 by omega,
    show ¬ c.toNat < 0x800 by omega]

theorem encodeChar_of_lt_0x80 (h : c.toNat < 0x80) : encodeChar c = [UInt8.ofNat c.toNat] := by
  simp [encodeChar, h]

theorem lt_0x110000 (c : Char) : c.toNat < 0x110000 := by
  rcases c.valid with h | ⟨-, h⟩
  · exact Nat.lt_trans h (by decide)
  · exact h

/-- Which characters begin with a byte. -/
theorem toNat_of_isPrefix_singleton (h : [b] <+: encodeChar c) :
    b.toNat = c.toNat ∧ c.toNat < 0x80 ∨
    b.toNat = 0xC0 + c.toNat / 64 ∧ 0x80 ≤ c.toNat ∧ c.toNat < 0x800 ∨
    b.toNat = 0xE0 + c.toNat / 4096 ∧ 0x800 ≤ c.toNat ∧ c.toNat < 0x10000 ∨
    b.toNat = 0xF0 + c.toNat / 262144 ∧ 0x10000 ≤ c.toNat := by
  have hmax := lt_0x110000 c
  rcases Nat.lt_or_ge c.toNat 0x80 with h1 | h1
  · rw [encodeChar_of_lt_0x80 h1, List.cons_prefix_cons] at h
    rw [h.1, UInt8.toNat_ofNat']
    omega
  · rcases Nat.lt_or_ge c.toNat 0x800 with h2 | h2
    · rw [encodeChar_of_lt_0x800 h1 h2, List.cons_prefix_cons] at h
      rw [h.1, UInt8.toNat_ofNat']
      omega
    · rcases Nat.lt_or_ge c.toNat 0x10000 with h3 | h3
      · rw [encodeChar_of_lt_0x10000 h2 h3, List.cons_prefix_cons] at h
        rw [h.1, UInt8.toNat_ofNat']
        omega
      · rw [encodeChar_of_0x10000_le h3, List.cons_prefix_cons] at h
        rw [h.1, UInt8.toNat_ofNat']
        omega

theorem eq_ofNat (h : b.toNat = n) : UInt8.ofNat n = b := by
  rw [← h, UInt8.ofNat_toNat]

/-- A byte that opens a character of two. -/
theorem awaits_two {q : Nat} (hb : b.toNat = 0xC0 + q) (hq : 2 ≤ q) (hq' : q < 32) :
    Awaits [b] ⟨0x80, 0xBF, 0, q⟩ where
  encode {n} h := by
    have hbits : n / 64 = q := h.bits
    have hvalid : n.isValidChar := .inl (by omega)
    have hn := toNat_ofNat hvalid
    refine ⟨hvalid, ?_⟩
    rw [encodeChar_of_lt_0x800 (by omega) (by omega), hn, hbits, eq_ofNat hb]
    rfl
  covers {c} h := by
    have hbyte := toNat_of_isPrefix_singleton h
    have hmax := lt_0x110000 c
    refine ⟨show c.toNat / 64 = q by omega, ?_, ?_⟩
    · show 0x80 ≤ 0x80 + c.toNat / 1 % 64
      omega
    · show 0x80 + c.toNat / 1 % 64 ≤ 0xBF
      omega
  low := le_refl 0x80
  high := le_refl 0xBF
  range := show (0x80 : UInt8) ≤ 0xBF by decide

/-- A byte that opens a character of three.  The second byte leaves out what two bytes can say, and
surrogates. -/
theorem awaits_three {q : Nat} {low high : UInt8} (hb : b.toNat = 0xE0 + q) (hq : q < 16)
    (hlow : low.toNat = if q = 0 then 0xA0 else 0x80)
    (hhigh : high.toNat = if q = 13 then 0x9F else 0xBF) : Awaits [b] ⟨low, high, 1, q⟩ where
  encode {n} h := by
    have hbits : n / 4096 = q := h.bits
    have hsecond : low.toNat ≤ 0x80 + n / 64 % 64 := h.low
    have hsecond' : 0x80 + n / 64 % 64 ≤ high.toNat := h.high
    rw [hlow] at hsecond
    rw [hhigh] at hsecond'
    have hvalid : n.isValidChar := by
      rw [Nat.isValidChar]
      split at hsecond' <;> omega
    have hn := toNat_ofNat hvalid
    refine ⟨hvalid, ?_⟩
    rw [encodeChar_of_lt_0x10000 (by split at hsecond <;> omega) (by omega), hn, hbits, eq_ofNat hb]
    rfl
  covers {c} h := by
    have hbyte := toNat_of_isPrefix_singleton h
    have hmax := lt_0x110000 c
    refine ⟨show c.toNat / 4096 = q by omega, ?_, ?_⟩
    · show low.toNat ≤ 0x80 + c.toNat / 64 % 64
      rw [hlow]
      split <;> omega
    · show 0x80 + c.toNat / 64 % 64 ≤ high.toNat
      rw [hhigh]
      have hsurrogate : c.toNat < 0xD800 ∨ 0xDFFF < c.toNat := c.valid.imp id And.left
      split <;> omega
  low := by
    rw [hlow]
    split <;> decide
  high := by
    rw [hhigh]
    split <;> decide
  range := by
    rw [UInt8.le_iff_toNat_le, hlow, hhigh]
    split_ifs <;> omega

/-- A byte that opens a character of four.  The second byte leaves out what three bytes can say, and
what lies beyond U+10FFFF. -/
theorem awaits_four {q : Nat} {low high : UInt8} (hb : b.toNat = 0xF0 + q) (hq : q ≤ 4)
    (hlow : low.toNat = if q = 0 then 0x90 else 0x80)
    (hhigh : high.toNat = if q = 4 then 0x8F else 0xBF) : Awaits [b] ⟨low, high, 2, q⟩ where
  encode {n} h := by
    have hbits : n / 262144 = q := h.bits
    have hsecond : low.toNat ≤ 0x80 + n / 4096 % 64 := h.low
    have hsecond' : 0x80 + n / 4096 % 64 ≤ high.toNat := h.high
    rw [hlow] at hsecond
    rw [hhigh] at hsecond'
    have hlarge : 0x10000 ≤ n := by split at hsecond <;> omega
    have hvalid : n.isValidChar := .inr ⟨by omega, by split at hsecond' <;> omega⟩
    have hn := toNat_ofNat hvalid
    refine ⟨hvalid, ?_⟩
    rw [encodeChar_of_0x10000_le (by omega), hn, hbits, eq_ofNat hb]
    rfl
  covers {c} h := by
    have hbyte := toNat_of_isPrefix_singleton h
    have hmax := lt_0x110000 c
    refine ⟨show c.toNat / 262144 = q by omega, ?_, ?_⟩
    · show low.toNat ≤ 0x80 + c.toNat / 4096 % 64
      rw [hlow]
      split <;> omega
    · show 0x80 + c.toNat / 4096 % 64 ≤ high.toNat
      rw [hhigh]
      split <;> omega
  low := by
    rw [hlow]
    split <;> decide
  high := by
    rw [hhigh]
    split <;> decide
  range := by
    rw [UInt8.le_iff_toNat_le, hlow, hhigh]
    split_ifs <;> omega

/-- A first byte that is said to open a character does. -/
theorem awaits_of_lead (h : lead b = .opens p) : Awaits [b] p := by
  simp only [lead] at h
  split_ifs at h with hascii hstray htwo hE0 hED hthree hF0 hfour hF4
  all_goals cases h
  · exact awaits_two (by omega) (by omega) (by omega)
  · exact awaits_three (by omega) (by omega) rfl rfl
  · exact awaits_three (by omega) (by omega) rfl rfl
  · exact awaits_three (by omega) (by omega) (by rw [if_neg (by omega)]; rfl)
      (by rw [if_neg (by omega)]; rfl)
  · exact awaits_four (by omega) (by omega) rfl rfl
  · exact awaits_four (by omega) (by omega) (by rw [if_neg (by omega)]; rfl)
      (by rw [if_neg (by omega)]; rfl)
  · exact awaits_four (by omega) (by omega) rfl rfl

/-- A first byte that is said to be a character is one, and no other begins with it. -/
theorem encodeChar_of_lead (h : lead b = .complete c) :
    encodeChar c = [b] ∧ ∀ d, [b] <+: encodeChar d → d = c := by
  simp only [lead] at h
  split_ifs at h with hascii
  cases h
  have hn : (Char.ofNat b.toNat).toNat = b.toNat := toNat_ofNat (.inl (by omega))
  constructor
  · rw [encodeChar_of_lt_0x80 (by omega), hn, UInt8.ofNat_toNat]
  · intro d hd
    have hbyte := toNat_of_isPrefix_singleton hd
    rw [show b.toNat = d.toNat by omega, Char.ofNat_toNat]

/-- No character begins with a byte that is said to be stray. -/
theorem not_opens_of_lead (h : lead b = .stray) : ¬ Opens [b] := by
  rintro ⟨c, hc⟩
  have hbyte := toNat_of_isPrefix_singleton hc
  have hmax := lt_0x110000 c
  simp only [lead] at h
  split_ifs at h <;> omega

/-! ## Further bytes -/

namespace Awaits

/-- A byte of the range goes on with the characters that it is part of. -/
theorem encode_of_le (h : Awaits part p) (hlow : p.low ≤ b) (hhigh : b ≤ p.high)
    (hn : n / 64 ^ p.after = 64 * p.bits + (b.toNat - 0x80)) :
    n.isValidChar ∧ encodeChar (Char.ofNat n) = part ++ b :: trail p.after n := by
  have hlow' := UInt8.le_iff_toNat_le.1 hlow
  have hhigh' := UInt8.le_iff_toNat_le.1 hhigh
  have hmin := h.low
  have hmax := h.high
  have hcovers : p.Covers n := by
    refine ⟨?_, by omega, by omega⟩
    rw [Nat.pow_succ, ← Nat.div_div_eq_div_mul]
    omega
  rcases h.encode hcovers with ⟨hvalid, hencode⟩
  refine ⟨hvalid, ?_⟩
  rw [hencode, trail, eq_ofNat (b := b) (by omega)]

/-- A character that goes on with a byte has that byte's bits, and the byte is in the range. -/
theorem covers_append (h : Awaits part p) (hc : part ++ [b] <+: encodeChar c) :
    c.toNat / 64 ^ p.after = 64 * p.bits + (b.toNat - 0x80) ∧ p.low ≤ b ∧ b ≤ p.high := by
  have hcovers := h.covers ((List.prefix_append part [b]).trans hc)
  have hencode := (h.encode hcovers).2
  rw [Char.ofNat_toNat, trail] at hencode
  rw [hencode, List.prefix_append_right_inj, List.cons_prefix_cons] at hc
  have hbits := hcovers.bits
  rw [Nat.pow_succ, ← Nat.div_div_eq_div_mul] at hbits
  rw [hc.1, UInt8.le_iff_toNat_le, UInt8.le_iff_toNat_le, UInt8.toNat_ofNat']
  have hlow := hcovers.low
  have hhigh := hcovers.high
  have hmax := h.high
  omega

/-- The bytes that go on with an open character are those of its range. -/
theorem opens_append_iff (h : Awaits part p) : Opens (part ++ [b]) ↔ p.low ≤ b ∧ b ≤ p.high := by
  constructor
  · rintro ⟨c, hc⟩
    exact (h.covers_append hc).2
  · rintro ⟨hlow, hhigh⟩
    obtain ⟨n, hn⟩ : ∃ n, n / 64 ^ p.after = 64 * p.bits + (b.toNat - 0x80) :=
      ⟨_, Nat.mul_div_cancel _ (Nat.pow_pos (by decide))⟩
    refine ⟨Char.ofNat n, trail p.after n, ?_⟩
    rw [(h.encode_of_le hlow hhigh hn).2, List.append_assoc, List.singleton_append]

/-- What awaits further bytes begins a character. -/
theorem opens (h : Awaits part p) : Opens part :=
  (h.opens_append_iff.2 ⟨UInt8.le_refl p.low, h.range⟩).of_isPrefix (List.prefix_append _ _)

/-- A byte that goes on with an open character that is not complete then. -/
theorem append (h : Awaits part p) (hafter : p.after = k + 1) (hlow : p.low ≤ b)
    (hhigh : b ≤ p.high) :
    Awaits (part ++ [b]) ⟨0x80, 0xBF, k, 64 * p.bits + (b.toNat - 0x80)⟩ where
  encode {n} hn := by
    have hbits : n / 64 ^ p.after = 64 * p.bits + (b.toNat - 0x80) := by
      rw [hafter]
      exact hn.bits
    have hencode := h.encode_of_le hlow hhigh hbits
    rw [hafter] at hencode
    simpa using hencode
  covers {c} hc := by
    have hbits := (h.covers_append hc).1
    rw [hafter] at hbits
    refine ⟨hbits, ?_, ?_⟩
    · show 0x80 ≤ 0x80 + c.toNat / 64 ^ k % 64
      omega
    · show 0x80 + c.toNat / 64 ^ k % 64 ≤ 0xBF
      omega
  low := le_refl 0x80
  high := le_refl 0xBF
  range := show (0x80 : UInt8) ≤ 0xBF by decide

/-- The character that a last byte completes. -/
theorem encodeChar_eq (h : Awaits part p) (hafter : p.after = 0) (hlow : p.low ≤ b)
    (hhigh : b ≤ p.high) :
    encodeChar (Char.ofNat (64 * p.bits + (b.toNat - 0x80))) = part ++ [b] := by
  have hencode := h.encode_of_le hlow hhigh (n := 64 * p.bits + (b.toNat - 0x80))
    (by rw [hafter, Nat.pow_zero, Nat.div_one])
  rw [hencode.2, hafter]
  rfl

end Awaits

/-! ## The decoder -/

theorem partsFrom_cons (pending : Option Pending) (b : UInt8) (rest : Blob) :
    partsFrom pending (b :: rest)
      = (step pending b).1 ++ partsFrom (step pending b).2 rest := by
  cases pending <;> rfl

/-- An open character that is completed is found, and nothing is open behind it. -/
theorem Awaits.partsFrom_eq_some {tail : Blob} (h : Awaits part p)
    (hc : encodeChar c = part ++ tail) (rest : Blob) :
    partsFrom (some p) (tail ++ rest) = some c :: partsFrom none rest := by
  induction tail generalizing part p with
  | nil =>
    have hcovers := h.covers ⟨[], hc.symm⟩
    have hencode := (h.encode hcovers).2
    rw [Char.ofNat_toNat, hc, trail] at hencode
    simp at hencode
  | cons b tail ih =>
    have hprefix : part ++ [b] <+: encodeChar c := ⟨tail, by simp [hc]⟩
    rcases h.covers_append hprefix with ⟨hbits, hlow, hhigh⟩
    rw [List.cons_append, partsFrom_cons, step, if_pos ⟨hlow, hhigh⟩]
    cases hafter : p.after with
    | zero =>
      rw [hafter, Nat.pow_zero, Nat.div_one] at hbits
      have hchar : Char.ofNat (64 * p.bits + (b.toNat - 0x80)) = c := by
        rw [← hbits, Char.ofNat_toNat]
      have hencode := h.encodeChar_eq hafter hlow hhigh
      rw [hchar, hc] at hencode
      obtain rfl : tail = [] := by simpa using hencode
      simp [hchar]
    | succ k =>
      exact ih (h.append hafter hlow hhigh) (by simp [hc])

/-- A character has a first byte. -/
theorem encodeChar_ne_nil (c : Char) : encodeChar c ≠ [] := by
  simp only [encodeChar]
  split_ifs <;> exact List.cons_ne_nil _ _

/-- A character is found where its bytes begin. -/
theorem parts_encodeChar_append (c : Char) (rest : Blob) :
    parts (encodeChar c ++ rest) = some c :: parts rest := by
  rcases List.exists_cons_of_ne_nil (encodeChar_ne_nil c) with ⟨b, tail, hc⟩
  have hprefix : [b] <+: encodeChar c := ⟨tail, by simp [hc]⟩
  rw [parts, hc, List.cons_append, partsFrom_cons, step, start]
  cases hlead : lead b with
  | complete d =>
    rcases encodeChar_of_lead hlead with ⟨hd, honly⟩
    obtain rfl := honly c hprefix
    obtain rfl : tail = [] := by simpa [hc] using hd
    rfl
  | opens p => exact (awaits_of_lead hlead).partsFrom_eq_some hc rest
  | stray => exact absurd ⟨c, hprefix⟩ (not_opens_of_lead hlead)

/-! ## Gaps -/

/-- A gap: a stray byte or the beginning of a character, where no character is and none comes of it
with the byte that follows. -/
structure IsGap (gap rest : Blob) : Prop where
  begins : (∃ b, gap = [b]) ∨ gap ≠ [] ∧ Opens gap
  no_char : ∀ c, ¬ encodeChar c <+: gap ++ rest
  maximal : ∀ b, rest.head? = some b → ¬ Opens (gap ++ [b])

/-- An open character of which nothing comes is closed with a gap. -/
theorem Awaits.partsFrom_eq_none (h : Awaits part p) (hgap : IsGap (part ++ more) rest)
    (hopens : Opens (part ++ more)) :
    partsFrom (some p) (more ++ rest) = none :: partsFrom none rest := by
  induction more generalizing part p with
  | nil =>
    rw [List.append_nil] at hgap hopens
    rw [List.nil_append]
    cases rest with
    | nil => rfl
    | cons b rest =>
      have hnot := hgap.maximal b rfl
      rw [h.opens_append_iff] at hnot
      have hstep : step (some p) b = (none :: (start b).1, (start b).2) := if_neg hnot
      rw [partsFrom_cons, partsFrom_cons, hstep]
      rfl
  | cons b more ih =>
    rw [List.append_cons] at hgap hopens
    rcases h.opens_append_iff.1 (hopens.of_isPrefix (List.prefix_append _ _)) with ⟨hlow, hhigh⟩
    rw [List.cons_append, partsFrom_cons, step, if_pos ⟨hlow, hhigh⟩]
    cases hafter : p.after with
    | zero =>
      have hnot := hgap.no_char (Char.ofNat (64 * p.bits + (b.toNat - 0x80)))
      rw [h.encodeChar_eq hafter hlow hhigh, List.append_assoc] at hnot
      exact absurd (List.prefix_append _ _) hnot
    | succ k => exact ih (h.append hafter hlow hhigh) hgap hopens

/-- A gap is found where its bytes begin. -/
theorem parts_gap_append (hgap : IsGap gap rest) : parts (gap ++ rest) = none :: parts rest := by
  have hne : gap ≠ [] := by
    rcases hgap.begins with ⟨b, rfl⟩ | ⟨hne, -⟩
    · exact List.cons_ne_nil b []
    · exact hne
  rcases List.exists_cons_of_ne_nil hne with ⟨b, more, rfl⟩
  rw [parts, List.cons_append, partsFrom_cons, step, start]
  cases hlead : lead b with
  | complete c =>
    refine absurd ?_ (hgap.no_char c)
    rw [(encodeChar_of_lead hlead).1]
    exact ⟨more ++ rest, rfl⟩
  | opens p =>
    have hawaits := awaits_of_lead hlead
    have hopens : Opens ([b] ++ more) := by
      rcases hgap.begins with ⟨b', hsingle⟩ | ⟨-, hopens⟩
      · rw [(List.cons.inj hsingle).2]
        exact hawaits.opens
      · exact hopens
    exact hawaits.partsFrom_eq_none hgap hopens
  | stray =>
    rcases hgap.begins with ⟨b', hsingle⟩ | ⟨-, hopens⟩
    · obtain rfl : more = [] := (List.cons.inj hsingle).2
      rfl
    · exact absurd (hopens.of_isPrefix ⟨more, rfl⟩) (not_opens_of_lead hlead)

/-! ## Bytes as characters and gaps -/

/-- Bytes as characters and gaps. -/
inductive Splits : Blob → List (Option Char) → Prop where
  | nil : Splits [] []
  | char (c : Char) {rest : Blob} {found : List (Option Char)} (later : Splits rest found) :
      Splits (encodeChar c ++ rest) (some c :: found)
  | gap {gap rest : Blob} {found : List (Option Char)} (isGap : IsGap gap rest)
      (later : Splits rest found) : Splits (gap ++ rest) (none :: found)

/-- What begins a character goes on until no character can come of it with the next byte. -/
theorem exists_maximal (more : Blob) (h : Opens part) :
    ∃ ext rest, more = ext ++ rest ∧ Opens (part ++ ext) ∧
      ∀ b, rest.head? = some b → ¬ Opens (part ++ ext ++ [b]) := by
  induction more generalizing part with
  | nil => exact ⟨[], [], rfl, by simpa using h, nofun⟩
  | cons b more ih =>
    by_cases hnext : Opens (part ++ [b])
    · rcases ih hnext with ⟨ext, rest, rfl, hext, hmax⟩
      rw [← List.append_cons] at hext
      simp only [← List.append_cons] at hmax
      exact ⟨b :: ext, rest, rfl, hext, hmax⟩
    · refine ⟨[], b :: more, rfl, by simpa using h, ?_⟩
      rintro b' hb
      obtain rfl : b = b' := by simpa using hb
      simpa using hnext

/-- Where no character begins a gap does. -/
theorem exists_isGap (hne : bytes ≠ []) (hnone : ∀ c, ¬ encodeChar c <+: bytes) :
    ∃ gap rest, bytes = gap ++ rest ∧ gap ≠ [] ∧ IsGap gap rest := by
  rcases List.exists_cons_of_ne_nil hne with ⟨b, more, rfl⟩
  by_cases hopens : Opens [b]
  · rcases exists_maximal more hopens with ⟨ext, rest, rfl, hext, hmax⟩
    exact ⟨b :: ext, rest, rfl, List.cons_ne_nil b ext,
      .inr ⟨List.cons_ne_nil b ext, hext⟩, hnone, hmax⟩
  · refine ⟨[b], more, rfl, List.cons_ne_nil b [], .inl ⟨b, rfl⟩, hnone, fun b' _ h => ?_⟩
    exact hopens (h.of_isPrefix (List.prefix_append [b] [b']))

/-- All bytes are characters and gaps. -/
theorem exists_splits (bytes : Blob) : ∃ found, Splits bytes found := by
  induction hlen : bytes.length using Nat.strongRecOn generalizing bytes with
  | _ len ih =>
    by_cases hne : bytes = []
    · exact ⟨[], hne ▸ .nil⟩
    · by_cases hchar : ∃ c, encodeChar c <+: bytes
      · rcases hchar with ⟨c, rest, rfl⟩
        have hpos := List.length_pos_of_ne_nil (encodeChar_ne_nil c)
        rcases ih rest.length (by simp at hlen; omega) rest rfl with ⟨found, hfound⟩
        exact ⟨_, .char c hfound⟩
      · rcases exists_isGap hne (not_exists.1 hchar) with ⟨gap, rest, rfl, hgap, hisGap⟩
        have hpos := List.length_pos_of_ne_nil hgap
        rcases ih rest.length (by simp at hlen; omega) rest rfl with ⟨found, hfound⟩
        exact ⟨_, .gap hisGap hfound⟩

/-- Bytes are characters and gaps in one way only, which the decoder finds. -/
theorem parts_eq_iff {found : List (Option Char)} : parts bytes = found ↔ Splits bytes found := by
  have hparts : ∀ {found}, Splits bytes found → parts bytes = found := by
    intro found h
    induction h with
    | nil => rfl
    | char c later ih => rw [parts_encodeChar_append, ih]
    | gap isGap later ih => rw [parts_gap_append isGap, ih]
  refine ⟨?_, hparts⟩
  rintro rfl
  rcases exists_splits bytes with ⟨found, hfound⟩
  rwa [hparts hfound]

/-- The bytes of a text are its characters. -/
theorem parts_encode (t : Text) : parts (encode t) = t.map some := by
  induction t with
  | nil => rfl
  | cons c t ih => rw [encode_cons, parts_encodeChar_append, ih, List.map_cons]

/-- The bytes of a text are decoded to the text. -/
@[simp] theorem decodeLossy_encode (t : Text) : decodeLossy (encode t) = t := by
  rw [decodeLossy, parts_encode, List.map_map]
  exact List.map_id t

end Evidence.Utf8
