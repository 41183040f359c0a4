import Evidence.Text.Basic

/-!
# SHA-256

The digest of FIPS 180-4 over lists of bytes.

Main definitions:

- `Sha256.pad`: a message filled up to whole blocks.
- `Sha256.compress`: one block mixed into the chaining value.
- `Sha256.digest`: the digest of a message.

Main results:

- `Sha256.length_digest`: a digest has 32 bytes.
-/

namespace Evidence.Sha256

/-! ## Words -/

/-- Turn a word to the right. -/
def rotate (w n : UInt32) : UInt32 :=
  (w >>> n) ||| (w <<< (32 - n))

/-- The word of four bytes, the most significant first. -/
def wordOf (a b c d : UInt8) : UInt32 :=
  (a.toUInt32 <<< 24) ||| (b.toUInt32 <<< 16) ||| (c.toUInt32 <<< 8) ||| d.toUInt32

/-- The four bytes of a word, the most significant first. -/
def bytesOf (w : UInt32) : Blob :=
  [(w >>> 24).toUInt8, (w >>> 16).toUInt8, (w >>> 8).toUInt8, w.toUInt8]

/-- The words of a list of bytes; up to three bytes at its end make no word. -/
def words : Blob → List UInt32
  | a :: b :: c :: d :: rest => wordOf a b c d :: words rest
  | _ => []

/-! ## Padding -/

/-- The eight bytes of a number, the most significant first. -/
def lengthBytes (n : Nat) : Blob :=
  (List.range 8).map fun i => UInt8.ofNat (n / Nat.pow 256 (7 - i))

/-- A message, a one bit, zero bits up to eight bytes before the end of a block, and the number
of bits of the message. -/
def pad (message : Blob) : Blob :=
  message ++ 0x80 :: List.replicate ((119 - message.length % 64) % 64) 0
    ++ lengthBytes (8 * message.length)

/-- The first `count` blocks of sixteen words. -/
def blocks : (count : Nat) → List UInt32 → List (List UInt32)
  | 0, _ => []
  | count + 1, ws => ws.take 16 :: blocks count (ws.drop 16)

/-! ## Compression -/

/-- The round constants: the fractions of the cube roots of the first 64 primes. -/
def constants : List UInt32 :=
  [0x428a2f98, 0x71374491, 0xb5c0fbcf, 0xe9b5dba5, 0x3956c25b, 0x59f111f1, 0x923f82a4, 0xab1c5ed5,
    0xd807aa98, 0x12835b01, 0x243185be, 0x550c7dc3, 0x72be5d74, 0x80deb1fe, 0x9bdc06a7, 0xc19bf174,
    0xe49b69c1, 0xefbe4786, 0x0fc19dc6, 0x240ca1cc, 0x2de92c6f, 0x4a7484aa, 0x5cb0a9dc, 0x76f988da,
    0x983e5152, 0xa831c66d, 0xb00327c8, 0xbf597fc7, 0xc6e00bf3, 0xd5a79147, 0x06ca6351, 0x14292967,
    0x27b70a85, 0x2e1b2138, 0x4d2c6dfc, 0x53380d13, 0x650a7354, 0x766a0abb, 0x81c2c92e, 0x92722c85,
    0xa2bfe8a1, 0xa81a664b, 0xc24b8b70, 0xc76c51a3, 0xd192e819, 0xd6990624, 0xf40e3585, 0x106aa070,
    0x19a4c116, 0x1e376c08, 0x2748774c, 0x34b0bcb5, 0x391c0cb3, 0x4ed8aa4a, 0x5b9cca4f, 0x682e6ff3,
    0x748f82ee, 0x78a5636f, 0x84c87814, 0x8cc70208, 0x90befffa, 0xa4506ceb, 0xbef9a3f7, 0xc67178f2]

/-- A chaining value of eight words. -/
structure Chain where
  a : UInt32
  b : UInt32
  c : UInt32
  d : UInt32
  e : UInt32
  f : UInt32
  g : UInt32
  h : UInt32
deriving DecidableEq, Repr

/-- The first chaining value: the fractions of the square roots of the first eight primes. -/
def Chain.initial : Chain :=
  ⟨0x6a09e667, 0xbb67ae85, 0x3c6ef372, 0xa54ff53a, 0x510e527f, 0x9b05688c, 0x1f83d9ab, 0x5be0cd19⟩

/-- Add two chaining values word by word. -/
def Chain.add (x y : Chain) : Chain :=
  ⟨x.a + y.a, x.b + y.b, x.c + y.c, x.d + y.d, x.e + y.e, x.f + y.f, x.g + y.g, x.h + y.h⟩

/-- The bytes of a chaining value. -/
def Chain.bytes (x : Chain) : Blob :=
  bytesOf x.a ++ bytesOf x.b ++ bytesOf x.c ++ bytesOf x.d
    ++ bytesOf x.e ++ bytesOf x.f ++ bytesOf x.g ++ bytesOf x.h

/-- Put `count` words of the message schedule before those that there are, the newest first. -/
def schedule : (count : Nat) → List UInt32 → List UInt32
  | 0, ws => ws
  | count + 1, ws =>
    let near := ws.getD 1 0
    let far := ws.getD 14 0
    let mixNear := rotate near 17 ^^^ rotate near 19 ^^^ (near >>> 10)
    let mixFar := rotate far 7 ^^^ rotate far 18 ^^^ (far >>> 3)
    schedule count ((mixNear + ws.getD 6 0 + mixFar + ws.getD 15 0) :: ws)

/-- One round, with the sum of a constant and a word of the schedule. -/
def Chain.round (x : Chain) (input : UInt32) : Chain :=
  let choice := (x.e &&& x.f) ^^^ (~~~x.e &&& x.g)
  let majority := (x.a &&& x.b) ^^^ (x.a &&& x.c) ^^^ (x.b &&& x.c)
  let first := x.h + (rotate x.e 6 ^^^ rotate x.e 11 ^^^ rotate x.e 25) + choice + input
  let second := (rotate x.a 2 ^^^ rotate x.a 13 ^^^ rotate x.a 22) + majority
  ⟨first + second, x.a, x.b, x.c, x.d + first, x.e, x.f, x.g⟩

/-- Mix a block into the chaining value. -/
def compress (x : Chain) (block : List UInt32) : Chain :=
  let inputs := List.zipWith (· + ·) constants (schedule 48 block.reverse).reverse
  x.add (inputs.foldl Chain.round x)

/-- The digest of a message. -/
def digest (message : Blob) : Blob :=
  let ws := words (pad message)
  ((blocks (ws.length / 16) ws).foldl compress .initial).bytes

/-- A digest has 32 bytes. -/
@[simp] theorem length_digest (message : Blob) : (digest message).length = 32 :=
  rfl

end Evidence.Sha256
