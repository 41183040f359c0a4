import Evidence.Yaml.Plain

/-!
# Scalars

A text in a document is written plainly where that can be read back, else in quotes, or as a
block of lines.

Main definitions:

- `Scalar.isPrintable`, `Scalar.isBreak` and `Scalar.isBlankOrBreak`: classes of characters.
- `Scalar.Style` and `Scalar.style`: how a text is written.
- `Scalar.write`: the written form of a text, for a given indentation.
-/

namespace Evidence.Yaml.Scalar

/-! ## Classes of characters -/

/-- Characters that may stand unescaped: line feeds and the printable ranges, of which the byte
order mark and two noncharacters are left out. -/
def isPrintable (c : Char) : Bool :=
  let n := c.toNat
  n == 0x0A || (0x20 ≤ n && n ≤ 0x7E) || (0xA0 ≤ n && n ≠ 0xFEFF && n ≠ 0xFFFE && n ≠ 0xFFFF)

/-- Characters that end a line. -/
def isBreak (c : Char) : Bool :=
  c == '\n' || c == '\r' || c == '\u0085' || c == '\u2028' || c == '\u2029'

/-- Characters that part what stands on a line, or end it. -/
def isBlankOrBreak (c : Char) : Bool :=
  c == ' ' || c == '\t' || c == '\x00' || isBreak c

/-- Characters that mean something at the front of a scalar. -/
def isIndicator (c : Char) : Bool :=
  c ∈ [',', '[', ']', '\x7b', '\x7d', '&', '*', '!', '|', '>', '\'', '"', '#', '%', '@', '\x60']

/-! ## What a text asks for -/

/-- Whether two neighbours in a text satisfy a condition. -/
def anyPair (p : Char → Char → Bool) : Text → Bool
  | a :: b :: rest => p a b || anyPair p (b :: rest)
  | _ => false

/-- Whether a text ends, or goes on with a blank or a break. -/
def endsWord : Text → Bool
  | [] => true
  | c :: _ => isBlankOrBreak c

/-- A colon before a blank or the end, or a number sign after a blank, behind the front. -/
def hasInnerIndicator : Text → Bool
  | a :: b :: rest =>
    (b == ':' && endsWord rest) || (b == '#' && isBlankOrBreak a) || hasInnerIndicator (b :: rest)
  | _ => false

/-- Whether a text begins like a marker between documents. -/
def beginsLikeMarker (t : Text) : Bool :=
  "---".toList.isPrefixOf t || "...".toList.isPrefixOf t

/-- Whether the front of a text means something other than itself. -/
def hasFrontIndicator : Text → Bool
  | [] => false
  | c :: rest => isIndicator c || ((c == '?' || c == ':' || c == '-') && endsWord rest)

/-- Whether a part of a text means something other than itself. -/
def hasIndicator (t : Text) : Bool :=
  beginsLikeMarker t || hasFrontIndicator t || hasInnerIndicator t

/-- Whether a text has a space right before a break. -/
def hasSpaceBeforeBreak (t : Text) : Bool :=
  anyPair (fun a b => a == ' ' && isBreak b) t

/-- Whether a text has a space right after a break. -/
def hasSpaceAfterBreak (t : Text) : Bool :=
  anyPair (fun a b => isBreak a && b == ' ') t

/-- Whether a text begins or ends with a space or a break. -/
def hasOpenEnd (t : Text) : Bool :=
  t.head?.any (fun c => c == ' ' || isBreak c) || t.getLast?.any (fun c => c == ' ' || isBreak c)

/-- A text may stand plainly when it is one line of printable characters in which nothing means
anything else. -/
def allowsPlain (t : Text) : Bool :=
  t.all (fun c => isPrintable c && !isBreak c) && !hasOpenEnd t && !hasIndicator t

/-- A text may stand in single quotes when it is printable and no break touches a space. -/
def allowsSingle (t : Text) : Bool :=
  t.all isPrintable && !hasSpaceBeforeBreak t && !hasSpaceAfterBreak t

/-- A text may stand as a block of lines when it is printable and no line ends in a space. -/
def allowsBlock (t : Text) : Bool :=
  t != [] && t.all isPrintable && !hasSpaceBeforeBreak t && t.getLast? != some ' '

/-! ## Styles -/

/-- How a text is written. -/
inductive Style where
  | plain
  | single
  | double
  | block
deriving DecidableEq, Repr

/-- How a text is written: as a block when it has lines, in quotes when it would read as
something else, plainly otherwise, and always in double quotes when the form does not allow
that. -/
def style (t : Text) : Style :=
  if '\n' ∈ t then if allowsBlock t then .block else .double
  else if Plain.readsAsText t && allowsPlain t then .plain
  else if allowsSingle t then .single
  else .double

/-! ## Written forms -/

/-- The spaces of an indentation. -/
def spaces (indent : Nat) : Text :=
  List.replicate indent ' '

/-- Lines behind a break begin with the indentation; `atBreak` tells whether one is due. -/
def indented (indent : Nat) (writeChar : Char → Text) : (atBreak : Bool) → Text → Text
  | _, [] => []
  | atBreak, c :: rest =>
    if isBreak c then c :: indented indent writeChar true rest
    else (if atBreak then spaces indent else []) ++ writeChar c
      ++ indented indent writeChar false rest

/-- A text in single quotes; a quote in it is written twice. -/
def writeSingle (indent : Nat) (t : Text) : Text :=
  '\'' :: indented indent (fun c => if c = '\'' then ['\'', '\''] else [c]) false t
    ++ (if t.getLast?.any isBreak then spaces indent else []) ++ ['\'']

/-- The letter that escapes a character, for those that have one. -/
def shortEscape? (c : Char) : Option Char :=
  [('\x00', '0'), ('\x07', 'a'), ('\x08', 'b'), ('\t', 't'), ('\n', 'n'), ('\x0b', 'v'),
    ('\x0c', 'f'), ('\r', 'r'), ('\x1b', 'e'), ('"', '"'), ('\\', '\\'), ('\u0085', 'N'),
    ('\u00a0', '_'), ('\u2028', 'L'), ('\u2029', 'P')].lookup c

/-- The last `width` hexadecimal digits of a number, in capitals. -/
def hex : (width n : Nat) → Text
  | 0, _ => []
  | width + 1, n => hex width (n / 16) ++ [(Nat.digitChar (n % 16)).toUpper]

/-- A character in double quotes: escaped by a letter or by its code point where it must not
stand itself. -/
def writeEscaped (c : Char) : Text :=
  if isPrintable c && !isBreak c && c != '"' && c != '\\' then [c]
  else
    match shortEscape? c with
    | some letter => ['\\', letter]
    | none =>
      let n := c.toNat
      if n ≤ 0xFF then '\\' :: 'x' :: hex 2 n
      else if n ≤ 0xFFFF then '\\' :: 'u' :: hex 4 n
      else '\\' :: 'U' :: hex 8 n

/-- A text in double quotes. -/
def writeDouble (t : Text) : Text :=
  '"' :: t.flatMap writeEscaped ++ ['"']

/-- What tells the reader of a block how its last break is meant: a minus that there is none, a
plus that more than one is kept. -/
def chomping (t : Text) : Text :=
  match t.reverse with
  | [] => ['-']
  | last :: before =>
    if !isBreak last then ['-']
    else if before.head?.all isBreak then ['+']
    else []

/-- A text as a block of lines.  The indentation is told when the first line cannot show it. -/
def writeBlock (indent : Nat) (t : Text) : Text :=
  let told := if t.head?.any (fun c => c == ' ' || isBreak c) then ['2'] else []
  '|' :: told ++ chomping t ++ '\n' :: indented indent (fun c => [c]) true t

/-- The written form of a text up to the end of its last line, for a given indentation of the
lines behind the first. -/
def write (indent : Nat) (t : Text) : Text :=
  match style t with
  | .plain => t ++ ['\n']
  | .single => writeSingle indent t ++ ['\n']
  | .double => writeDouble t ++ ['\n']
  | .block => writeBlock indent t ++ (if t.getLast?.any isBreak then [] else ['\n'])

end Evidence.Yaml.Scalar
