import Evidence.FileTree.Resolve

/-!
# Operations on file trees

Making directories, writing and reading files, each with the refusals of a POSIX file system.

Main definitions:

- `FileTree.makeDirectory`: make one directory.
- `FileTree.makeDirectories`: make a directory and those above it that are missing.
- `FileTree.writeFile`: store a content in a new file or in the place of another content.
- `FileTree.readFile`: the content of a file.
- `FileTree.setModeAt` and `FileTree.setMode`: change the mode of an entry.
-/

namespace Evidence.FileTree

/-! ## Modes -/

/-- The permissions that no new entry gets. -/
def umask : Nat := 0o002

/-- The mode of a new entry for which `requested` is asked. -/
def granted (requested : Nat) : Nat :=
  requested &&& (0o777 ^^^ umask)

/-- The mode that is asked for new directories. -/
def directoryMode : Nat := 0o775

/-- The mode that is asked for new files. -/
def fileMode : Nat := 0o644

/-! ## Directories -/

/-- Make one directory.  What is there already, of whatever kind, is a reason to refuse. -/
def makeDirectory (tree : FileTree) (cwd : Location) (path : Path) : Except Cause FileTree :=
  match tree.resolve cwd path with
  | .error cause => .error cause
  | .ok (.directory _) => .error .alreadyThere
  | .ok (.child dir name) =>
    if isTooLong name then .error .nameTooLong
    else
      match h : tree.find? (name :: dir) with
      | some _ => .error .alreadyThere
      | none =>
        if hdir : tree.IsDirectory dir then
          .ok (tree.put name dir (.directory (granted directoryMode)) hdir
            (fits_of_find?_none _ h))
        else .error .notFound

/-- Make a directory unless it is there. -/
def ensureDirectory (tree : FileTree) (cwd : Location) (path : Path) : FileTree × Option Cause :=
  match tree.makeDirectory cwd path with
  | .ok tree => (tree, none)
  | .error cause => if tree.isDirectoryAt cwd path then (tree, none) else (tree, some cause)

/-- Make the first of a list of paths, each followed by its parent.  Only when something on the
way is missing is the parent made first; what was made stays when a later step is refused. -/
def makeChain (tree : FileTree) (cwd : Location) : List Path → FileTree × Option Cause
  | [] => (tree, none)
  | path :: parents =>
    match tree.ensureDirectory cwd path with
    | (tree, some .notFound) =>
      match makeChain tree cwd parents with
      | (tree, some cause) => (tree, some cause)
      | (tree, none) => tree.ensureDirectory cwd path
    | result => result

/-- Make a directory and those above it that are missing.  The root and the empty path are
always there. -/
def makeDirectories (tree : FileTree) (cwd : Location) (path : Path) : FileTree × Option Cause :=
  tree.makeChain cwd path.ancestors

/-! ## Files -/

/-- Store a content in a file.  A file that is there keeps its mode and loses its content. -/
def writeFile (tree : FileTree) (cwd : Location) (path : Path) (content : Blob) :
    Except Cause FileTree :=
  match tree.resolve cwd path with
  | .error cause => .error cause
  | .ok (.directory _) => .error .isDirectory
  | .ok (.child dir name) =>
    if path.text.getLast? = some '/' then .error .isDirectory
    else if isTooLong name then .error .nameTooLong
    else if hdir : tree.IsDirectory dir then
      match h : tree.find? (name :: dir) with
      | some (.directory _) => .error .isDirectory
      | some (.file mode _) =>
        .ok (tree.put name dir (.file mode content) hdir (fits_of_find?_file _ h))
      | none =>
        .ok (tree.put name dir (.file (granted fileMode) content) hdir (fits_of_find?_none _ h))
    else .error .notFound

/-- The content of a file. -/
def readFile (tree : FileTree) (cwd : Location) (path : Path) : Except Cause Blob :=
  match tree.resolve cwd path with
  | .error cause => .error cause
  | .ok (.directory _) => .error .isDirectory
  | .ok (.child dir name) =>
    if isTooLong name then .error .nameTooLong
    else
      match tree.find? (name :: dir) with
      | none => .error .notFound
      | some (.directory _) => .error .isDirectory
      | some (.file _ content) =>
        if path.text.getLast? = some '/' then .error .notDirectory else .ok content

/-! ## Changing modes -/

/-- An entry with another mode. -/
def Entry.withMode (mode : Nat) : Entry → Entry
  | file _ content => file mode content
  | directory _ => directory mode

/-- Another mode does not change what kind an entry is of. -/
@[simp] theorem Entry.isDirectory_withMode (mode : Nat) (e : Entry) :
    (e.withMode mode).isDirectory = e.isDirectory := by
  cases e <;> rfl

/-- Change the mode of the entry at a location.  Where none is the tree stays as it is, and the
root keeps its mode. -/
def setModeAt (tree : FileTree) (mode : Nat) : Location → FileTree
  | [] => tree
  | name :: dir =>
    match h : tree.find? (name :: dir) with
    | none => tree
    | some entry =>
      tree.put name dir (entry.withMode mode)
        (@isDirectory_of_find? tree name dir (by rw [h]; rfl))
        (fun hd => by
          rw [IsDirectory, h] at hd
          simpa using hd)

/-- Change the mode of the entry that a path names; without one the tree stays as it is. -/
def setMode (tree : FileTree) (cwd : Location) (path : Path) (mode : Nat) : FileTree :=
  match tree.resolve cwd path with
  | .error _ => tree
  | .ok target => tree.setModeAt mode target.location

end Evidence.FileTree
