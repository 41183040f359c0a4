import Evidence.Text.Utf8

/-!
# Form encoding

The encoding of the values in the query of an address.

Main definitions:

- `FormEncoded.isPlain`: the bytes that stand for themselves.
- `FormEncoded.write`: the encoded form of a text.
- `FormEncoded.read`: the text that an encoded form stands for.
-/

namespace Evidence.FormEncoded

/-! ## Writing -/

/-- Whether a byte stands for itself: a letter, a digit, or one of four marks. -/
def isPlain (b : UInt8) : Bool :=
  let c := Char.ofNat b.toNat
  b < 0x80 && (c.isAlphanum || c == '*' || c == '-' || c == '.' || c == '_')

/-- A byte in a query: a space is a plus, and what is not plain is written in hexadecimal. -/
def writeByte (b : UInt8) : Text :=
  if isPlain b then [Char.ofNat b.toNat]
  else if b = 0x20 then ['+']
  else '%' :: (Hex.ofByte b).map Char.toUpper

/-- The encoded form of a text, byte by byte. -/
def write (t : Text) : Text :=
  (Utf8.encode t).flatMap writeByte

/-! ## Reading -/

/-- The bytes that an encoded form stands for.  A percent sign without two hexadecimal digits
stands for itself. -/
def bytes : Text → Blob
  | '+' :: rest => 0x20 :: bytes rest
  | '%' :: high :: low :: rest =>
    match Hex.byte? high low with
    | some b => b :: bytes rest
    | none => 0x25 :: bytes (high :: low :: rest)
  | c :: rest => Utf8.encodeChar c ++ bytes rest
  | [] => []

/-- The text that an encoded form stands for.  Bytes that are no text are replaced. -/
def read (t : Text) : Text :=
  Utf8.decodeLossy (bytes t)

end Evidence.FormEncoded
