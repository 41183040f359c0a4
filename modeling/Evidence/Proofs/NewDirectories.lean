import Evidence.Proofs.Resolution

/-!
# New directories

Making a directory, and those above it that are missing, adds directories to a tree and changes
nothing else, whether it succeeds or is refused half-way.

Main definitions:

- `FileTree.Grows`: a tree with new directories at some places, and otherwise as it was.

Main results:

- `FileTree.grows_makeDirectories`: only what a path leads through is made.
- `FileTree.isDirectory_of_makeDirectories`: in the end a path leads through directories.
- `FileTree.find?_makeDirectories`: what a tree holds after directories were made.
-/

namespace Evidence.FileTree

variable {tree mid tree' : FileTree} {cwd loc dir l : Location} {path q : Path} {name : Text}
  {paths : List Path} {locs : List Location} {cause : Cause}

/-! ## Growth -/

/-- A tree grows when directories are made at some of the given places, where nothing was, and all
that was there stays as it was. -/
structure Grows (locs : List Location) (tree tree' : FileTree) : Prop where
  kept : ∀ {loc entry}, tree.find? loc = some entry → tree'.find? loc = some entry
  made : ∀ {loc}, tree.find? loc = none → tree'.find? loc = none ∨
    loc ∈ locs ∧ tree'.find? loc = some (.directory 0o775)

namespace Grows

theorem refl (locs : List Location) (tree : FileTree) : Grows locs tree tree where
  kept := id
  made := .inl

theorem trans (h : Grows locs tree mid) (h' : Grows locs mid tree') : Grows locs tree tree' where
  kept hfind := h'.kept (h.kept hfind)
  made hfind := by
    rcases h.made hfind with hnone | ⟨hmem, hsome⟩
    · exact h'.made hnone
    · exact .inr ⟨hmem, h'.kept hsome⟩

theorem mono {locs' : List Location} (h : Grows locs tree tree') (hsub : locs ⊆ locs') :
    Grows locs' tree tree' where
  kept := h.kept
  made hfind := (h.made hfind).imp_right fun ⟨hmem, hsome⟩ => ⟨hsub hmem, hsome⟩

/-- Directories stay directories. -/
theorem isDirectory (h : Grows locs tree tree') (hdir : tree.IsDirectory l) :
    tree'.IsDirectory l := by
  rcases isDirectory_iff.1 hdir with ⟨mode, hfind⟩
  exact isDirectory_iff.2 ⟨mode, h.kept hfind⟩

/-- No file is new or changed. -/
theorem find?_eq_file_iff (h : Grows locs tree tree') {mode : Nat} {content : Blob} :
    tree'.find? loc = some (.file mode content) ↔ tree.find? loc = some (.file mode content) := by
  refine ⟨fun hfind => ?_, h.kept⟩
  cases hold : tree.find? loc with
  | none =>
    rcases h.made hold with hnone | ⟨-, hsome⟩
    · simp [hnone] at hfind
    · simp [hsome] at hfind
  | some entry => rw [← hfind, h.kept hold]

end Grows

/-- A directory that is put where nothing was makes a tree grow. -/
theorem grows_put (hdir : tree.IsDirectory dir) (hnone : tree.find? (name :: dir) = none)
    (hmem : name :: dir ∈ locs) :
    Grows locs tree (tree.put name dir (.directory (granted directoryMode)) hdir
      (fits_of_find?_none _ hnone)) where
  kept {loc entry} hfind := by
    have hne : loc ≠ name :: dir := by
      rintro rfl
      simp [hnone] at hfind
    rw [find?_put, if_neg hne, hfind]
  made {loc} hfind := by
    rw [find?_put]
    split
    · next heq => exact .inr ⟨heq ▸ hmem, rfl⟩
    · exact .inl hfind

/-! ## One directory -/

/-- A directory that is made is the last entry that its path leads through. -/
theorem grows_makeDirectory (h : tree.makeDirectory cwd path = .ok tree') :
    Grows (path.through cwd) tree tree' ∧ tree'.isDirectoryAt cwd path = true := by
  rw [makeDirectory] at h
  split at h
  · cases h
  · cases h
  · next dir name hresolve =>
    split at h
    · cases h
    · split at h
      · cases h
      · next hnone =>
        split at h
        · next hdir =>
          have hgrows := grows_put hdir hnone (mem_through_of_resolve hresolve)
          cases h
          refine ⟨hgrows, ?_⟩
          rw [isDirectoryAt, resolve_of_isDirectory (fun l => hgrows.isDirectory) hresolve]
          simp [Target.location, IsDirectory, find?_put, Entry.isDirectory]
        · cases h

/-- Whether or not a directory can be made, the tree grows; when it is there in the end, its path
names it. -/
theorem grows_ensureDirectory (tree : FileTree) (cwd : Location) (path : Path) :
    Grows (path.through cwd) tree (tree.ensureDirectory cwd path).1 ∧
      ((tree.ensureDirectory cwd path).2 = none →
        (tree.ensureDirectory cwd path).1.isDirectoryAt cwd path = true) := by
  rw [ensureDirectory]
  split
  · next tree' h => exact ⟨(grows_makeDirectory h).1, fun _ => (grows_makeDirectory h).2⟩
  · split
    · next h => exact ⟨.refl _ tree, fun _ => h⟩
    · exact ⟨.refl _ tree, nofun⟩

/-! ## A chain of directories -/

/-- The tree grows along a chain of paths, however far that gets. -/
theorem grows_makeChain (tree : FileTree) (hsub : ∀ q ∈ paths, q.through cwd ⊆ locs) :
    Grows locs tree (tree.makeChain cwd paths).1 := by
  induction paths generalizing tree with
  | nil => exact .refl locs tree
  | cons path parents ih =>
    have hown := hsub path List.mem_cons_self
    have hparents : ∀ q ∈ parents, q.through cwd ⊆ locs := fun q hq =>
      hsub q (List.mem_cons_of_mem path hq)
    have hfirst := (grows_ensureDirectory tree cwd path).1.mono hown
    rw [makeChain]
    split
    · next mid hmid =>
      rw [hmid] at hfirst
      have hmore := hfirst.trans (ih mid hparents)
      split
      · next after cause hchain => rwa [hchain] at hmore
      · next after hchain =>
        rw [hchain] at hmore
        exact hmore.trans ((grows_ensureDirectory after cwd path).1.mono hown)
    · exact hfirst

/-- A chain of paths that is made to its end ends in the first of them. -/
theorem isDirectoryAt_makeChain (tree : FileTree) {parents : List Path}
    (h : (tree.makeChain cwd (path :: parents)).2 = none) :
    (tree.makeChain cwd (path :: parents)).1.isDirectoryAt cwd path = true := by
  revert h
  rw [makeChain]
  split
  · split
    · nofun
    · next after _ => exact (grows_ensureDirectory after cwd path).2
  · exact (grows_ensureDirectory tree cwd path).2

/-! ## A directory with those above it -/

/-- Only what a path leads through is made, also when the directory cannot be made. -/
theorem grows_makeDirectories (tree : FileTree) (cwd : Location) (path : Path) :
    Grows (path.through cwd) tree (tree.makeDirectories cwd path).1 :=
  grows_makeChain tree fun _ hq => Path.through_subset_of_mem_ancestors hq cwd

/-- Once the directory is made its path leads through directories. -/
theorem isDirectory_of_makeDirectories (h : (tree.makeDirectories cwd path).2 = none) :
    ∀ l ∈ path.through cwd, (tree.makeDirectories cwd path).1.IsDirectory l := by
  rcases Path.ancestors_eq_nil_or_cons path with hnil | ⟨parents, hcons⟩
  · simp [Path.through_eq_nil hnil]
  · rw [makeDirectories, hcons] at h ⊢
    exact isDirectory_of_mem_through (isDirectoryAt_makeChain tree h)

/-- What a tree holds once a directory is made: new directories where the path leads through
nothing, and elsewhere what it held. -/
theorem find?_makeDirectories (h : (tree.makeDirectories cwd path).2 = none) (loc : Location) :
    (tree.makeDirectories cwd path).1.find? loc
      = if tree.find? loc = none ∧ loc ∈ path.through cwd then some (.directory 0o775)
        else tree.find? loc := by
  have hgrows := grows_makeDirectories tree cwd path
  cases hold : tree.find? loc with
  | some entry => simp [hgrows.kept hold]
  | none =>
    rcases hgrows.made hold with hnone | ⟨hmem, hsome⟩
    · have hnot : loc ∉ path.through cwd := fun hmem => by
        have hdir := isDirectory_of_makeDirectories h loc hmem
        simp [IsDirectory, hnone] at hdir
      simp [hnone, hnot]
    · simp [hmem, hsome]

end Evidence.FileTree
