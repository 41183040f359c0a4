import Evidence.SortedMap
import Evidence.Text.Basic

/-!
# File trees

What a file system holds: directories and files at locations, every one below a directory.

A tree is made of plain entries.  Symbolic links and other kinds of entries are left out, and so are
two names for one file, directories whose group is handed on to what is made in them, and names that
are not Unicode.  Whoever works on a tree has the permission to do so.

Main definitions:

- `Location`: the names from an entry up to the root.
- `FileTree.Entry` and `FileTree`: files, directories, and the tree of them.
- `FileTree.find?` and `FileTree.IsDirectory`: what is at a location.
- `FileTree.put`: a tree with one more entry, or with another entry in the place of one.

Main results:

- `FileTree.find?_put`: what a tree holds after an entry is put into it.
- `FileTree.ext_find?`: trees that hold the same are equal.
-/

namespace Evidence

/-- A location is the list of the names from an entry up to the root, so that the tail of a
location is the location of its directory. -/
abbrev Location := List Text

namespace FileTree

/-- A file with a mode and a content, or a directory with a mode. -/
inductive Entry where
  | file (mode : Nat) (content : Blob)
  | directory (mode : Nat)
deriving DecidableEq, Repr

/-- Whether an entry is a directory. -/
def Entry.isDirectory : Entry → Bool
  | file .. => false
  | directory _ => true

/-- The mode of an entry. -/
def Entry.mode : Entry → Nat
  | file mode _ => mode
  | directory mode => mode

/-- What entries hold at a location.  The root is always a directory. -/
def entryAt (entries : SortedMap Location Entry) : Location → Option Entry
  | [] => some (.directory 0o755)
  | name :: dir => entries.get? (name :: dir)

end FileTree

/-- A file tree: entries below the root, each of them in a directory. -/
structure FileTree where
  entries : SortedMap Location FileTree.Entry
  root_free : entries.get? [] = none
  rooted : ∀ name dir, (entries.get? (name :: dir)).isSome →
    (FileTree.entryAt entries dir).any FileTree.Entry.isDirectory

namespace FileTree

/-- The tree of an empty root. -/
def empty : FileTree :=
  ⟨.empty, rfl, fun _ _ h => by simp at h⟩

/-- What a tree holds at a location. -/
def find? (tree : FileTree) (loc : Location) : Option Entry :=
  entryAt tree.entries loc

/-- Whether there is a directory at a location. -/
def IsDirectory (tree : FileTree) (loc : Location) : Prop :=
  (tree.find? loc).any Entry.isDirectory = true

instance (tree : FileTree) (loc : Location) : Decidable (tree.IsDirectory loc) :=
  inferInstanceAs (Decidable (_ = true))

/-- Trees with the same entries are equal. -/
theorem ext_entries {s t : FileTree} (h : s.entries = t.entries) : s = t := by
  cases s
  cases t
  cases h
  rfl

instance : DecidableEq FileTree := fun s t =>
  decidable_of_iff (s.entries = t.entries) ⟨ext_entries, fun h => h ▸ rfl⟩

/-- Trees that hold the same are equal. -/
theorem ext_find? {s t : FileTree} (h : ∀ loc, s.find? loc = t.find? loc) : s = t := by
  apply ext_entries
  apply SortedMap.ext_get?
  intro loc
  cases loc with
  | nil => rw [s.root_free, t.root_free]
  | cons name dir => exact h (name :: dir)

/-- The root is a directory. -/
theorem isDirectory_root (tree : FileTree) : tree.IsDirectory [] :=
  rfl

/-- Every entry is in a directory. -/
theorem isDirectory_of_find? {tree : FileTree} {name : Text} {dir : Location}
    (h : (tree.find? (name :: dir)).isSome) : tree.IsDirectory dir :=
  tree.rooted name dir h

/-! ## Putting an entry -/

/-- What a new entry must respect: a directory may only give way to a directory. -/
def Fits (tree : FileTree) (loc : Location) (entry : Entry) : Prop :=
  tree.IsDirectory loc → entry.isDirectory = true

instance (tree : FileTree) (loc : Location) (entry : Entry) : Decidable (tree.Fits loc entry) :=
  inferInstanceAs (Decidable (_ → _))

/-- What the entries of a tree hold after one is put among them. -/
theorem entryAt_insert (tree : FileTree) (name : Text) (dir : Location) (entry : Entry)
    (loc : Location) :
    entryAt (tree.entries.insert (name :: dir) entry) loc
      = if loc = name :: dir then some entry else tree.find? loc := by
  cases loc with
  | nil => simp [entryAt, find?]
  | cons n d => simp only [entryAt, find?, SortedMap.get?_insert]

/-- Put an entry into a directory of a tree. -/
def put (tree : FileTree) (name : Text) (dir : Location) (entry : Entry)
    (hdir : tree.IsDirectory dir) (hfits : tree.Fits (name :: dir) entry) : FileTree where
  entries := tree.entries.insert (name :: dir) entry
  root_free := by
    rw [SortedMap.get?_insert]
    simp [tree.root_free]
  rooted n d h := by
    have hd : tree.IsDirectory d := by
      rw [SortedMap.get?_insert] at h
      split at h
      · next heq =>
        obtain ⟨-, rfl⟩ := List.cons.inj heq
        exact hdir
      · exact tree.rooted n d h
    rw [entryAt_insert]
    split
    · next heq => simpa using hfits (heq ▸ hd)
    · exact hd

/-- After an entry is put into a tree the tree holds it there, and elsewhere what it held. -/
theorem find?_put (tree : FileTree) (name : Text) (dir : Location) (entry : Entry)
    (hdir : tree.IsDirectory dir) (hfits : tree.Fits (name :: dir) entry) (loc : Location) :
    (tree.put name dir entry hdir hfits).find? loc
      = if loc = name :: dir then some entry else tree.find? loc :=
  entryAt_insert tree name dir entry loc

/-- Where nothing is, anything fits. -/
theorem fits_of_find?_none {tree : FileTree} {loc : Location} (entry : Entry)
    (h : tree.find? loc = none) : tree.Fits loc entry := fun hd => by
  simp [IsDirectory, h] at hd

/-- Where a file is, anything fits. -/
theorem fits_of_find?_file {tree : FileTree} {loc : Location} (entry : Entry) {mode : Nat}
    {content : Blob} (h : tree.find? loc = some (.file mode content)) : tree.Fits loc entry :=
  fun hd => by simp [IsDirectory, h, Entry.isDirectory] at hd

end FileTree

end Evidence
