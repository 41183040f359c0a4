import Evidence.Text.Basic

/-!
# UTF-8

Texts as bytes and bytes as texts.  Decoding goes byte by byte: a byte completes a character,
asks for more, or shows that what came before it is not well formed.

Main definitions:

- `Utf8.encode`: the bytes of a text.
- `Utf8.parts`: the characters of a blob, with one gap for each maximal part that is not well
  formed.
- `Utf8.decode?`: the text of a blob that is well formed throughout.
- `Utf8.decodeLossy`: the text of any blob, with U+FFFD in each gap.
-/

namespace Evidence.Utf8

/-! ## Encoding -/

/-- The bytes of a character: one to four, by the size of its code point. -/
def encodeChar (c : Char) : Blob :=
  let n := c.toNat
  if n < 0x80 then [UInt8.ofNat n]
  else if n < 0x800 then [UInt8.ofNat (0xC0 + n / 64), UInt8.ofNat (0x80 + n % 64)]
  else if n < 0x10000 then
    [UInt8.ofNat (0xE0 + n / 4096), UInt8.ofNat (0x80 + n / 64 % 64), UInt8.ofNat (0x80 + n % 64)]
  else
    [UInt8.ofNat (0xF0 + n / 262144), UInt8.ofNat (0x80 + n / 4096 % 64),
      UInt8.ofNat (0x80 + n / 64 % 64), UInt8.ofNat (0x80 + n % 64)]

/-- The bytes of a text. -/
def encode (t : Text) : Blob :=
  t.flatMap encodeChar

/-- The bytes of the empty text. -/
@[simp] theorem encode_nil : encode [] = [] := rfl

/-- The bytes of a text whose first character is known. -/
@[simp] theorem encode_cons (c : Char) (t : Text) : encode (c :: t) = encodeChar c ++ encode t :=
  rfl

/-- The bytes of two texts, one after the other. -/
@[simp] theorem encode_append (s t : Text) : encode (s ++ t) = encode s ++ encode t :=
  List.flatMap_append

/-! ## Decoding -/

/-- An open character: the range of its next byte, the number of bytes after that one, and the
bits of its code point so far. -/
structure Pending where
  low : UInt8
  high : UInt8
  after : Nat
  bits : Nat
deriving DecidableEq, Repr

/-- What a first byte says. -/
inductive Lead where
  /-- The byte is a character of its own. -/
  | complete (c : Char)
  /-- The byte opens a character. -/
  | opens (p : Pending)
  /-- No character begins with the byte. -/
  | stray
deriving DecidableEq, Repr

/-- What a first byte says.  The ranges of the second byte leave out overlong forms, surrogates
and what lies beyond U+10FFFF. -/
def lead (b : UInt8) : Lead :=
  let n := b.toNat
  if n < 0x80 then .complete (Char.ofNat n)
  else if n < 0xC2 then .stray
  else if n < 0xE0 then .opens ⟨0x80, 0xBF, 0, n - 0xC0⟩
  else if n = 0xE0 then .opens ⟨0xA0, 0xBF, 1, 0⟩
  else if n = 0xED then .opens ⟨0x80, 0x9F, 1, 0x0D⟩
  else if n < 0xF0 then .opens ⟨0x80, 0xBF, 1, n - 0xE0⟩
  else if n = 0xF0 then .opens ⟨0x90, 0xBF, 2, 0⟩
  else if n < 0xF4 then .opens ⟨0x80, 0xBF, 2, n - 0xF0⟩
  else if n = 0xF4 then .opens ⟨0x80, 0x8F, 2, 4⟩
  else .stray

/-- Take a byte where a character may begin: what it completes, and what it opens. -/
def start (b : UInt8) : List (Option Char) × Option Pending :=
  match lead b with
  | .complete c => ([some c], none)
  | .opens p => ([], some p)
  | .stray => ([none], none)

/-- Take the next byte.  One that does not continue an open character closes it with a gap and
may itself begin a character. -/
def step : Option Pending → UInt8 → List (Option Char) × Option Pending
  | none, b => start b
  | some p, b =>
    if p.low ≤ b ∧ b ≤ p.high then
      let bits := 64 * p.bits + (b.toNat - 0x80)
      match p.after with
      | 0 => ([some (Char.ofNat bits)], none)
      | after + 1 => ([], some ⟨0x80, 0xBF, after, bits⟩)
    else
      let (done, pending) := start b
      (none :: done, pending)

/-- The characters and gaps of the bytes that follow an open character, if there is one. -/
def partsFrom : Option Pending → Blob → List (Option Char)
  | none, [] => []
  | some _, [] => [none]
  | pending, b :: rest =>
    let (done, pending) := step pending b
    done ++ partsFrom pending rest

/-- The characters of a blob, with one gap for each maximal part that is not well formed. -/
def parts (bytes : Blob) : List (Option Char) :=
  partsFrom none bytes

/-- The text of a blob that is well formed throughout. -/
def decode? (bytes : Blob) : Option Text :=
  (parts bytes).mapM id

/-- The text of any blob, with U+FFFD in each gap. -/
def decodeLossy (bytes : Blob) : Text :=
  (parts bytes).map (·.getD '\uFFFD')

end Evidence.Utf8
