import Evidence.Text.Basic

/-!
# Paths

Paths as they are written.  Nothing is normalised: a path is resolved against a tree by walking
its parts, and shown exactly as it was put together.

Main definitions:

- `Path` and `Path.join`: a written path, and a name appended to it.
- `Path.parts` and `Path.names`: what stands between its slashes, with and without the empty ones.
- `Path.ancestors`: the path, its parent, the parent of that, up to but not including the root
  or the empty path.
-/

namespace Evidence

/-- A path as it is written. -/
structure Path where
  text : Text
deriving DecidableEq, Repr

namespace Path

/-- A path is absolute when it begins with a slash. -/
def isAbsolute (p : Path) : Bool :=
  p.text.head? = some '/'

/-- A path that ends in a slash, or is empty, needs none before the next name. -/
def isOpen (p : Path) : Bool :=
  p.text.getLast?.all (· == '/')

/-- Append a name to a path.  An absolute name replaces the path; a slash is put between the
two unless the path is open. -/
def join (p : Path) (name : Text) : Path :=
  if name.head? = some '/' then ⟨name⟩
  else if p.isOpen then ⟨p.text ++ name⟩
  else ⟨p.text ++ '/' :: name⟩

/-! ## Parts -/

/-- What stands between the slashes of a path. -/
def parts (p : Path) : List Text :=
  p.text.splitOn '/'

/-- The parts of a path that are not empty. -/
def names (p : Path) : List Text :=
  p.parts.filter (· ≠ [])

/-- The path with given parts. -/
def ofParts (parts : List Text) : Path :=
  ⟨['/'].intercalate parts⟩

/-- The path of the entry whose names, the innermost first, are given. -/
def ofLocation (names : List Text) : Path :=
  if names.isEmpty then ⟨['/']⟩ else ⟨names.reverse.flatMap fun name => '/' :: name⟩

/-- The parts of a path give the path back. -/
@[simp] theorem ofParts_parts (p : Path) : ofParts p.parts = p := by
  simp [ofParts, parts, List.intercalate_splitOn]

/-! ## Ancestors -/

/-- The part that means the directory itself. -/
def here : Text := ['.']

/-- The part that means the directory above. -/
def above : Text := ['.', '.']

/-- Empty parts and those that mean the directory itself do not make a path longer. -/
def isIdle (part : Text) : Bool :=
  part == [] || part == here

/-- The first part, and lists of further parts, the last part first: those of a path without
idle parts at the end, of its parent, and so on, each ending in a part that is not idle. -/
def chains : (backwards : List Text) → List (List Text)
  | [] => []
  | part :: before => if isIdle part then chains before else (part :: before) :: chains before

/-- The path, its parent, the parent of that and so on.  The root and the empty path are left
out, and so is what comes after them.  The path itself keeps the idle parts at its end; its
ancestors have none there. -/
def ancestors (p : Path) : List Path :=
  match p.parts with
  | [] => []
  | first :: rest =>
    let shorter := (chains rest.reverse).map fun back => ofParts (first :: back.reverse)
    let all := if first = [] then shorter else shorter ++ [ofParts [first]]
    match all with
    | [] => []
    | _ :: parents => p :: parents

end Path

end Evidence
