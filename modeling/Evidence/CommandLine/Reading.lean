import Evidence.CommandLine.Argument

/-!
# Reading words

The words of a command line are read one after the other.  A value that stands in a word of its
own is looked at only when the next argument begins or the words end, so a fault in a later word
may be found before a fault in an earlier value.

Main definitions:

- `Grammar`: the arguments that are known at some point of a command line.
- `Reading`: what has been read so far.
- `Reading.step`: reading one more word.
- `Reading.finish`: the arguments that were given, when no word is left.
-/

namespace Evidence.CommandLine

/-- The arguments that are known, and whether a file may be given by its place. -/
structure Grammar where
  known : List Argument
  takesFile : Bool

namespace Grammar

/-- The argument with a long name. -/
def ofLong? (g : Grammar) (name : Text) : Option Argument :=
  g.known.find? fun a => a.long == name

/-- The argument with a letter. -/
def ofShort? (g : Grammar) (letter : Char) : Option Argument :=
  g.known.find? fun a => a.short? == some letter

end Grammar

/-- What has been read so far. -/
structure Reading where
  /-- The arguments that were given, with their values. -/
  given : List (Argument × Given)
  /-- An argument whose value is still to come, or to be looked at. -/
  pending : Option (Argument × Option Text)
  /-- Whether all words that follow stand for themselves. -/
  literal : Bool

namespace Reading

/-- Nothing has been read. -/
def start : Reading :=
  ⟨[], none, false⟩

/-- Whether an argument was given. -/
def has (r : Reading) (a : Argument) : Bool :=
  r.given.any fun g => g.1 == a

/-! ## Arguments -/

/-- An argument is given, for the first time unless it may be repeated. -/
def add (r : Reading) (a : Argument) (read : Except Stop Given) : Except Stop Reading :=
  if r.has a && !a.repeats then .error .repeated
  else read.map fun v => { r with given := r.given ++ [(a, v)] }

/-- Look at a pending value. -/
def settle (r : Reading) : Except Stop Reading :=
  match r.pending with
  | none => .ok r
  | some (_, none) => .error .missingValue
  | some (a, some t) => add { r with pending := none } a (a.read t)

/-- A flag is given; help ends all reading. -/
def raise (r : Reading) (a : Argument) : Except Stop Reading := do
  let r ← r.settle
  if a = .help then .error .help else r.add a (.ok .flag)

/-- An argument is given together with its value. -/
def accept (r : Reading) (a : Argument) (t : Text) : Except Stop Reading := do
  let r ← r.settle
  r.add a (a.read t)

/-- An argument is given whose value is to follow. -/
def expect (r : Reading) (a : Argument) (value : Option Text) : Except Stop Reading := do
  let r ← r.settle
  return { r with pending := some (a, value) }

/-! ## Words -/

/-- Read what follows two hyphens: a name, perhaps an equals sign and a value. -/
def long (g : Grammar) (r : Reading) (t : Text) : Except Stop Reading :=
  let name := t.takeWhile (· != '=')
  match g.ofLong? name with
  | none => .error .unknownArgument
  | some a =>
    match a.takesValue, t.dropWhile (· != '=') with
    | true, _ :: value => r.accept a value
    | true, [] => r.expect a none
    | false, _ :: _ => .error .unneededValue
    | false, [] => r.raise a

/-- Read the letters behind one hyphen.  The first that takes a value takes all that follows it,
less an equals sign, or else the next word. -/
def short (g : Grammar) (r : Reading) : Text → Except Stop Reading
  | [] => .ok r
  | c :: rest =>
    match g.ofShort? c with
    | none => .error .unknownArgument
    | some a =>
      if a.takesValue then
        match rest with
        | [] => r.expect a none
        | '=' :: value => r.accept a value
        | value => r.accept a value
      else do
        let r ← r.raise a
        short g r rest

/-- Whether a file has been given. -/
def hasFile (r : Reading) : Bool :=
  r.has .file || r.pending.any (·.1 == .file)

/-- Read a word that stands for itself: the file, if there may be one. -/
def word (g : Grammar) (r : Reading) (t : Text) : Except Stop Reading :=
  if g.takesFile && !r.hasFile then r.expect .file (some t) else .error .unknownArgument

/-- Read one more word. -/
def step (g : Grammar) (r : Reading) (t : Text) : Except Stop Reading :=
  if r.literal then r.word g t
  else
    match t with
    | ['-', '-'] => .ok { r with literal := true }
    | '-' :: '-' :: rest => r.long g rest
    | '-' :: c :: rest => r.short g (c :: rest)
    | t =>
      match r.pending with
      | some (a, none) => .ok { r with pending := some (a, some t) }
      | _ => r.word g t

/-- The arguments that were given, when no word is left. -/
def finish (r : Reading) : Except Stop (List (Argument × Given)) :=
  r.settle.map Reading.given

/-- Read words up to their end. -/
def words (g : Grammar) (ts : List Text) : Except Stop (List (Argument × Given)) := do
  let r ← ts.foldlM (step g) start
  r.finish

end Reading

end Evidence.CommandLine
