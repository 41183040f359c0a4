import Evidence.Digest.Sha256
import Evidence.Text.Utf8

/-!
# Directories named after tests

A test's artifacts go to a directory of its own.  The name of the directory shows the name of
the test, made safe for a file system and cut to a bearable length.

Main definitions:

- `TestName.isSafe` and `TestName.sanitize`: the characters that may stay, and the rest replaced.
- `TestName.directory`: the directory name for a test name.
-/

namespace Evidence.TestName

/-- The most characters of a test name that its directory name shows. -/
def limit : Nat := 100

/-- The bytes of the digest that tell long names apart. -/
def digestBytes : Nat := 8

/-- ASCII letters and digits, points, underscores and hyphens may stay. -/
def isSafe (c : Char) : Bool :=
  c.isAlphanum || c == '.' || c == '_' || c == '-'

/-- Put a hyphen for each character that may not stay. -/
def sanitize (name : Text) : Text :=
  name.map fun c => if isSafe c then c else '-'

/-- What is added to a long name: digits of the digest of all of it. -/
def fingerprint (name : Text) : Text :=
  Hex.ofBlob ((Sha256.digest (Utf8.encode name)).take digestBytes)

/-- The directory name for a test name.  A name beyond the limit is cut there, and a
fingerprint of the full name keeps it apart from others that begin alike. -/
def directory (name : Text) : Text :=
  if name.length ≤ limit then sanitize name
  else (sanitize name).take limit ++ '-' :: fingerprint name

end Evidence.TestName
