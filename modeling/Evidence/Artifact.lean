import Evidence.Failure
import Evidence.FileTree.Operations
import Evidence.Settings

/-!
# Artifacts

Named blobs, and their way into a directory of a file tree.

Main definitions:

- `Artifacts`: a map from names to contents, in the order of the names.
- `StoreError`: why artifacts were not stored, and its wording.
- `Artifacts.prepare`: make a directory for artifacts.
- `Artifacts.write`: write all artifacts of a map into a directory, in order.
- `Artifacts.store`: prepare the directory first.
- `Artifacts.save`: choose the directory, and answer with it.

Main results:

- `Artifacts.store_eq`: when artifacts are written, and what is said when they are not.
-/

namespace Evidence

/-- Artifacts are contents with names, in the order of the names. -/
abbrev Artifacts := SortedMap Text Blob

/-- Why artifacts were not stored. -/
inductive StoreError where
  /-- The directory could not be made. -/
  | directory (path : Path) (cause : FileTree.Cause)
  /-- A file could not be written. -/
  | file (path : Path) (cause : FileTree.Cause)
  /-- A resource could not be turned into YAML. -/
  | yaml (name reason : Text)
deriving DecidableEq, Repr

/-- The wording of the reason behind a failure. -/
def StoreError.reason : StoreError → Text
  | directory _ cause => cause.message
  | file _ cause => cause.message
  | yaml _ reason => reason

/-- The wording of a failure. -/
def StoreError.message (e : StoreError) : Text :=
  (match e with
    | directory path _ => "failed to create artifact directory ".toList ++ path.text
    | file path _ => "failed to write artifact ".toList ++ path.text
    | yaml name _ => "error getting resource yaml for ".toList ++ name)
  ++ ": ".toList ++ e.reason

/-- A failure to store artifacts, behind which stands its reason. -/
def StoreError.failure (e : StoreError) : Failure :=
  ⟨e.message, [e.reason]⟩

namespace Artifacts

/-- The artifact with one name. -/
def single (name : Text) (content : Blob) : Artifacts :=
  SortedMap.empty.insert name content

/-- Make a directory for artifacts, with those above it.  A refusal names the directory that was
asked for, whichever of those above it was in the way. -/
def prepare (cwd : Location) (dir : Path) (tree : FileTree) : FileTree × Option StoreError :=
  let (tree, refused) := tree.makeDirectories cwd dir
  (tree, refused.map (.directory dir))

/-- Write artifacts into a directory, one after the other, up to the first that is refused.
What was written before it stays. -/
def write (cwd : Location) (dir : Path) :
    FileTree → List (Text × Blob) → FileTree × Option StoreError
  | tree, [] => (tree, none)
  | tree, (name, content) :: rest =>
    match tree.writeFile cwd (dir.join name) content with
    | .ok tree => write cwd dir tree rest
    | .error cause => (tree, some (.file (dir.join name) cause))

/-- Prepare a directory and write artifacts into it in the order of their names.  The tree shows
what was done before a failure. -/
def store (artifacts : Artifacts) (cwd : Location) (dir : Path) (tree : FileTree) :
    FileTree × Option StoreError :=
  match prepare cwd dir tree with
  | (tree, some e) => (tree, some e)
  | (tree, none) => write cwd dir tree artifacts.entries

/-- Artifacts are written once their directory is made, and not if that is refused. -/
theorem store_eq (artifacts : Artifacts) (cwd : Location) (dir : Path) (tree : FileTree) :
    artifacts.store cwd dir tree = match tree.makeDirectories cwd dir with
      | (tree, some cause) => (tree, some (.directory dir cause))
      | (tree, none) => write cwd dir tree artifacts.entries := by
  rw [store, prepare]
  rcases tree.makeDirectories cwd dir with ⟨tree, refused⟩
  cases refused <;> rfl

/-- Store artifacts in a given directory, or without one in that of a test.  The answer is the
directory. -/
def save (artifacts : Artifacts) (settings : Settings) (testName : Option Text)
    (base : Option Path) (cwd : Location) (tree : FileTree) : FileTree × Except StoreError Path :=
  let dir := base.getD (settings.testDir testName)
  match artifacts.store cwd dir tree with
  | (tree, some e) => (tree, .error e)
  | (tree, none) => (tree, .ok dir)

end Artifacts

end Evidence
