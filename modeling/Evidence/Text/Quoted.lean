import Evidence.Text.Visible

/-!
# Quoted texts

A text in double quotes, on one line, with escapes for what would not show.

Main definitions:

- `Quoted.escape`: how a character stands between the quotes.
- `Quoted.write`: a text with its quotes.
-/

namespace Evidence.Quoted

/-- How a character stands between double quotes. -/
def escape (c : Char) : Text :=
  if c = '"' then ['\\', '"']
  else if c = '\\' then ['\\', '\\']
  else if c = '\n' then ['\\', 'n']
  else if c = '\r' then ['\\', 'r']
  else if c = '\t' then ['\\', 't']
  else if c = '\x00' then ['\\', '0']
  else if Visible.isVisible c then [c]
  else '\\' :: 'u' :: '\x7b' :: Nat.toDigits 16 c.toNat ++ ['\x7d']

/-- A text in double quotes. -/
def write (t : Text) : Text :=
  '"' :: t.flatMap escape ++ ['"']

end Evidence.Quoted
