import Evidence.Artifact
import Evidence.Proofs.NewDirectories
import Evidence.Proofs.TreeShape

/-!
# Written files

Storing a content changes one file and nothing else, and a run over several artifacts is the sum of
such steps.

Main definitions:

- `FileTree.LeadsToFile`: when a path leads to a place for a file.
- `FileTree.refusal?`: why no content can be stored in the file that a path names.
- `Artifacts.contentAt?`: what several artifacts leave at a location.

Main results:

- `FileTree.find?_writeFile`: what a tree holds after a content is stored.
- `Artifacts.find?_write`: what a tree holds after several artifacts are written.
- `Artifacts.exists_of_write_eq_some`: where a run that is refused has stopped.
- `Artifacts.sameShape_store`: contents do not matter for what is stored and what is refused.
-/

namespace Evidence

namespace FileTree

variable {tree mid tree' after : FileTree} {cwd loc dir l : Location} {path : Path} {name : Text}
  {content other : Blob} {cause : Cause} {mode : Nat}

/-! ## One file -/

/-- New files have the mode that is asked for them. -/
@[simp] theorem granted_fileMode : granted fileMode = 0o644 :=
  rfl

/-- The mode of the file that is stored at a location: that of the file that is there, or that of a
new one. -/
def fileModeAt (tree : FileTree) (loc : Location) : Nat :=
  match tree.find? loc with
  | some (.file mode _) => mode
  | _ => 0o644

/-- Where no directory is, a file is new or keeps the mode of the one that is there. -/
theorem fileModeAt_of_not_isDirectory (h : ¬ tree.IsDirectory loc) :
    tree.find? loc = none ∧ tree.fileModeAt loc = 0o644 ∨
      ∃ old, tree.find? loc = some (.file (tree.fileModeAt loc) old) := by
  rw [fileModeAt]
  cases hfind : tree.find? loc with
  | none => exact .inl ⟨rfl, rfl⟩
  | some entry =>
    cases entry with
    | file mode old => exact .inr ⟨old, rfl⟩
    | directory mode => exact absurd (isDirectory_iff.2 ⟨mode, hfind⟩) h

/-- New directories do not matter for the modes of files. -/
theorem Grows.fileModeAt {locs : List Location} (h : Grows locs tree tree') (loc : Location) :
    tree'.fileModeAt loc = tree.fileModeAt loc := by
  cases hold : tree.find? loc with
  | some entry => rw [FileTree.fileModeAt, FileTree.fileModeAt, hold, h.kept hold]
  | none =>
    rcases h.made hold with hnone | ⟨-, hsome⟩
    · rw [FileTree.fileModeAt, FileTree.fileModeAt, hold, hnone]
    · rw [FileTree.fileModeAt, FileTree.fileModeAt, hold, hsome]

/-- A path leads to a place for a file when it names an entry of a directory that is there. -/
def LeadsToFile (tree : FileTree) (cwd : Location) (path : Path) : Prop :=
  ∃ dir name, tree.resolve cwd path = .ok (.child dir name) ∧ path.text.getLast? ≠ some '/' ∧
    isTooLong name = false ∧ tree.IsDirectory dir

theorem LeadsToFile.of_isDirectory (hkept : ∀ l, tree.IsDirectory l → tree'.IsDirectory l)
    (h : tree.LeadsToFile cwd path) : tree'.LeadsToFile cwd path := by
  rcases h with ⟨dir, name, hresolve, hlast, hshort, hdir⟩
  exact ⟨dir, name, resolve_of_isDirectory hkept hresolve, hlast, hshort, hkept dir hdir⟩

/-- The content of a file that a path leads to. -/
theorem LeadsToFile.readFile (h : tree.LeadsToFile cwd path)
    (hfind : tree.find? (path.location cwd) = some (.file mode content)) :
    tree.readFile cwd path = .ok content := by
  rcases h with ⟨dir, name, hresolve, hlast, hshort, hdir⟩
  have hloc := location_of_resolve hresolve
  rw [Target.location] at hloc
  rw [← hloc] at hfind
  simp [FileTree.readFile, hresolve, hshort, hfind, hlast]

/-- A content that is stored takes the place of a file, or of nothing, and changes nothing else. -/
theorem find?_writeFile (h : tree.writeFile cwd path content = .ok tree') :
    tree.LeadsToFile cwd path ∧ ¬ tree.IsDirectory (path.location cwd) ∧
      ∀ loc, tree'.find? loc
        = if loc = path.location cwd then some (.file (tree.fileModeAt loc) content)
          else tree.find? loc := by
  rw [writeFile] at h
  split at h
  · cases h
  · cases h
  · next dir name hresolve =>
    have hloc : name :: dir = path.location cwd := location_of_resolve hresolve
    split at h
    · cases h
    · next hlast =>
      split at h
      · cases h
      · next hshort =>
        split at h
        · next hdir =>
          have hleads : tree.LeadsToFile cwd path :=
            ⟨dir, name, hresolve, hlast, by simpa using hshort, hdir⟩
          rw [← hloc]
          split at h
          · cases h
          · next mode old hfind =>
            cases h
            refine ⟨hleads, by simp [IsDirectory, hfind, Entry.isDirectory], fun loc => ?_⟩
            rw [find?_put]
            split
            · next heq => simp [fileModeAt, heq, hfind]
            · rfl
          · next hfind =>
            cases h
            refine ⟨hleads, by simp [IsDirectory, hfind], fun loc => ?_⟩
            rw [find?_put]
            split
            · next heq => simp [fileModeAt, heq, hfind]
            · rfl
        · cases h

/-! ## Refusals -/

/-- Why no content can be stored in the file that a path names. -/
def refusal? (tree : FileTree) (cwd : Location) (path : Path) : Option Cause :=
  match tree.resolve cwd path with
  | .error cause => some cause
  | .ok (.directory _) => some .isDirectory
  | .ok (.child dir name) =>
    if path.text.getLast? = some '/' then some .isDirectory
    else if isTooLong name then some .nameTooLong
    else if tree.IsDirectory dir then
      if tree.IsDirectory (name :: dir) then some .isDirectory else none
    else some .notFound

/-- A content is refused for a reason that lies in its path. -/
theorem writeFile_eq_error_iff :
    tree.writeFile cwd path content = .error cause ↔ tree.refusal? cwd path = some cause := by
  rw [writeFile, refusal?]
  cases tree.resolve cwd path with
  | error reason => simp
  | ok target =>
    cases target with
    | directory loc => simp
    | child dir name =>
      simp only
      split
      · simp
      · split
        · simp
        · by_cases hdir : tree.IsDirectory dir
          · rw [dif_pos hdir, if_pos hdir]
            -- Only a directory in the place of the file is left as a cause.
            split
            · next mode hfind => simp [IsDirectory, hfind, Entry.isDirectory]
            · next mode old hfind => simp [IsDirectory, hfind, Entry.isDirectory]
            · next hfind => simp [IsDirectory, hfind]
          · simp [hdir]

/-- A content is stored, or there is a reason why not. -/
theorem exists_writeFile_eq_ok_iff (content : Blob) :
    (∃ after, tree.writeFile cwd path content = .ok after) ↔ tree.refusal? cwd path = none := by
  cases hwrite : tree.writeFile cwd path content with
  | error cause => simp [writeFile_eq_error_iff.1 hwrite]
  | ok after =>
    refine iff_of_true ⟨after, rfl⟩ (Option.eq_none_iff_forall_ne_some.2 fun cause hcause => ?_)
    cases hwrite.symm.trans (writeFile_eq_error_iff.2 hcause)

/-- Where paths are resolved alike and directories are at the same places, contents are refused for
the same reasons. -/
theorem SameDirectories.refusal?_eq (h : SameDirectories tree tree')
    (hresolve : tree'.resolve cwd path = tree.resolve cwd path) :
    tree'.refusal? cwd path = tree.refusal? cwd path := by
  simp only [refusal?, hresolve, h _]

/-- A content can be stored where a path leads to a place for a file and no directory is. -/
theorem refusal?_eq_none_iff :
    tree.refusal? cwd path = none ↔
      tree.LeadsToFile cwd path ∧ ¬ tree.IsDirectory (path.location cwd) := by
  constructor
  · intro h
    obtain ⟨after, hwrite⟩ := (exists_writeFile_eq_ok_iff []).2 h
    exact ⟨(find?_writeFile hwrite).1, (find?_writeFile hwrite).2.1⟩
  · rintro ⟨⟨dir, name, hresolve, hlast, hshort, hdir⟩, hfree⟩
    rw [← location_of_resolve hresolve, Target.location] at hfree
    simp [refusal?, hresolve, hlast, hshort, hdir, hfree]

/-- What can be stored in a tree can be stored in every tree with the same directories. -/
theorem SameDirectories.refusal?_eq_none (h : SameDirectories tree tree')
    (hfree : tree.refusal? cwd path = none) : tree'.refusal? cwd path = none := by
  obtain ⟨hleads, hplace⟩ := refusal?_eq_none_iff.1 hfree
  exact refusal?_eq_none_iff.2
    ⟨hleads.of_isDirectory fun l hl => (h l).2 hl, fun hdir => hplace ((h _).1 hdir)⟩

/-- A content that is refused in a tree is refused in every tree of its shape, and so is every other
content. -/
theorem SameShape.writeFile_eq_error (h : SameShape tree tree')
    (herror : tree.writeFile cwd path content = .error cause) (other : Blob) :
    tree'.writeFile cwd path other = .error cause := by
  rw [writeFile_eq_error_iff] at herror ⊢
  rw [h.sameDirectories.refusal?_eq (h.resolve_eq cwd path), herror]

/-- A content is refused for the same reason as any other. -/
theorem writeFile_eq_error (h : tree.writeFile cwd path content = .error cause) (other : Blob) :
    tree.writeFile cwd path other = .error cause :=
  writeFile_eq_error_iff.2 (writeFile_eq_error_iff.1 h)

/-- A file that is stored has the same mode in trees of one shape. -/
theorem SameShape.fileModeAt_eq (h : SameShape tree tree') (loc : Location) :
    tree'.fileModeAt loc = tree.fileModeAt loc := by
  obtain heq | ⟨mode, content, content', hfile, hfile'⟩ := h.find?_cases loc
  · rw [fileModeAt, fileModeAt, heq]
  · rw [fileModeAt, fileModeAt, hfile, hfile']

/-- A content that is stored in a tree is stored in every tree of its shape, and so is every other
content; the trees are of one shape again. -/
theorem SameShape.exists_of_writeFile_eq_ok (h : SameShape tree tree')
    (hok : tree.writeFile cwd path content = .ok after) (content' : Blob) :
    ∃ after', tree'.writeFile cwd path content' = .ok after' ∧ SameShape after after' := by
  cases hwrite : tree'.writeFile cwd path content' with
  | error cause => cases hok.symm.trans (h.symm.writeFile_eq_error hwrite content)
  | ok after' =>
    refine ⟨after', rfl, fun loc => ?_⟩
    obtain ⟨-, -, hfind⟩ := find?_writeFile hok
    obtain ⟨-, -, hfind'⟩ := find?_writeFile hwrite
    rw [hfind, hfind', h.fileModeAt_eq]
    by_cases hloc : loc = path.location cwd
    · rw [if_pos hloc, if_pos hloc]
      rfl
    · rw [if_neg hloc, if_neg hloc]
      exact h loc

/-- Stored content does not take the place of a directory. -/
theorem sameDirectories_writeFile (h : tree.writeFile cwd path content = .ok tree') :
    SameDirectories tree tree' := fun l => by
  rcases find?_writeFile h with ⟨-, hfree, hfind⟩
  by_cases hl : l = path.location cwd
  · subst hl
    simp only [hfree, iff_false]
    simp [IsDirectory, hfind, Entry.isDirectory]
  · rw [IsDirectory, IsDirectory, hfind, if_neg hl]

/-- A content that is stored is read back. -/
theorem readFile_writeFile (h : tree.writeFile cwd path content = .ok tree') :
    tree'.readFile cwd path = .ok content := by
  rcases find?_writeFile h with ⟨hleads, -, hfind⟩
  have hkept : ∀ l, tree.IsDirectory l → tree'.IsDirectory l := fun l =>
    (sameDirectories_writeFile h l).2
  have hloc := hfind (path.location cwd)
  rw [if_pos rfl] at hloc
  exact (hleads.of_isDirectory hkept).readFile hloc

/-- A file keeps its mode when a content is stored in it. -/
theorem fileModeAt_writeFile (h : tree.writeFile cwd path content = .ok tree') (loc : Location) :
    tree'.fileModeAt loc = tree.fileModeAt loc := by
  rw [fileModeAt, (find?_writeFile h).2.2]
  by_cases hloc : loc = path.location cwd
  · rw [if_pos hloc]
  · rw [if_neg hloc, fileModeAt]

end FileTree

namespace Artifacts

open FileTree

variable {tree mid tree' : FileTree} {cwd loc dir l : Location} {base : Path} {name : Text}
  {content : Blob} {entries entries' front back : List (Text × Blob)} {e : StoreError}
  {artifacts artifacts' : Artifacts}

/-! ## Several artifacts -/

/-- What several artifacts leave at a location: the content of the last of them whose path leads
there. -/
def contentAt? (cwd : Location) (base : Path) (loc : Location) : List (Text × Blob) → Option Blob
  | [] => none
  | (name, content) :: rest =>
    match contentAt? cwd base loc rest with
    | some later => some later
    | none => if loc = (base.join name).location cwd then some content else none

/-- Artifacts whose paths lead elsewhere leave nothing. -/
theorem contentAt?_eq_none (h : ∀ e ∈ entries, loc ≠ (base.join e.1).location cwd) :
    contentAt? cwd base loc entries = none := by
  induction entries with
  | nil => rfl
  | cons entry rest ih =>
    rcases entry with ⟨name, content⟩
    have hrest := ih fun e he => h e (List.mem_cons_of_mem _ he)
    simp [contentAt?, hrest, h (name, content) List.mem_cons_self]

/-- What is left at a location is an artifact whose path leads there. -/
theorem exists_of_contentAt?_eq_some (h : contentAt? cwd base loc entries = some content) :
    ∃ name, (name, content) ∈ entries ∧ loc = (base.join name).location cwd := by
  induction entries with
  | nil => cases h
  | cons entry rest ih =>
    rcases entry with ⟨first, written⟩
    rw [contentAt?] at h
    split at h
    · next later hlater =>
      rcases ih (hlater.trans h) with ⟨name, hmem, hloc⟩
      exact ⟨name, List.mem_cons_of_mem _ hmem, hloc⟩
    · split at h
      · next hloc =>
        cases h
        exact ⟨first, List.mem_cons_self, hloc⟩
      · cases h

/-- An artifact is left where its path leads, unless the path of a later one leads there too. -/
theorem contentAt?_append_cons (front : List (Text × Blob))
    (hback : ∀ e ∈ back, (base.join name).location cwd ≠ (base.join e.1).location cwd) :
    contentAt? cwd base ((base.join name).location cwd) (front ++ (name, content) :: back)
      = some content := by
  induction front with
  | nil => simp [contentAt?, contentAt?_eq_none hback]
  | cons entry front ih =>
    rcases entry with ⟨first, written⟩
    simp [contentAt?, ih]

/-- After artifacts are written a tree holds them where their paths lead, each file with the mode
that it had, and elsewhere what it held. -/
theorem find?_write (h : write cwd base tree entries = (tree', none)) (loc : Location) :
    tree'.find? loc = match contentAt? cwd base loc entries with
      | some content => some (.file (tree.fileModeAt loc) content)
      | none => tree.find? loc := by
  induction entries generalizing tree with
  | nil =>
    cases h
    rfl
  | cons entry rest ih =>
    rcases entry with ⟨name, content⟩
    rw [write] at h
    split at h
    · next mid hstep =>
      rcases find?_writeFile hstep with ⟨-, -, hfind⟩
      rw [ih h, contentAt?]
      cases contentAt? cwd base loc rest with
      | some later => simp [fileModeAt_writeFile hstep]
      | none =>
        simp only [hfind]
        split <;> rfl
    · cases h

/-- Files keep their modes when artifacts are written. -/
theorem fileModeAt_write (h : write cwd base tree entries = (tree', none)) (loc : Location) :
    tree'.fileModeAt loc = tree.fileModeAt loc := by
  rw [fileModeAt, find?_write h loc]
  cases contentAt? cwd base loc entries with
  | some content => rfl
  | none => rfl

/-- A run over artifacts makes no directory and takes the place of none. -/
theorem sameDirectories_write (cwd : Location) (base : Path) (tree : FileTree)
    (entries : List (Text × Blob)) : SameDirectories tree (write cwd base tree entries).1 := by
  induction entries generalizing tree with
  | nil => exact fun l => Iff.rfl
  | cons entry rest ih =>
    rw [write]
    split
    · next mid hstep => exact fun l => (ih mid l).trans (sameDirectories_writeFile hstep l)
    · exact fun l => Iff.rfl

/-- A run over artifacts succeeds when none of them is refused. -/
theorem write_snd_eq_none_iff :
    (write cwd base tree entries).2 = none ↔
      ∀ e ∈ entries, tree.refusal? cwd (base.join e.1) = none := by
  induction entries generalizing tree with
  | nil => simp [write]
  | cons entry rest ih =>
    rcases entry with ⟨name, content⟩
    rw [write, List.forall_mem_cons]
    cases hstep : tree.writeFile cwd (base.join name) content with
    | error cause => simp [writeFile_eq_error_iff.1 hstep]
    | ok mid =>
      have hsame := sameDirectories_writeFile hstep
      have hfirst := (exists_writeFile_eq_ok_iff content).1 ⟨mid, hstep⟩
      rw [ih, and_iff_right hfirst]
      exact forall₂_congr fun e he =>
        ⟨hsame.symm.refusal?_eq_none, hsame.refusal?_eq_none⟩

/-- Every artifact of a run that succeeds has a place for its file, and no directory is in it. -/
theorem leadsToFile_of_write (h : write cwd base tree entries = (tree', none))
    (hmem : (name, content) ∈ entries) :
    tree'.LeadsToFile cwd (base.join name) ∧
      ¬ tree.IsDirectory ((base.join name).location cwd) := by
  have hsame := sameDirectories_write cwd base tree entries
  have hnone : (write cwd base tree entries).2 = none := congrArg Prod.snd h
  obtain ⟨hleads, hfree⟩ := refusal?_eq_none_iff.1 (write_snd_eq_none_iff.1 hnone _ hmem)
  rw [h] at hsame
  exact ⟨hleads.of_isDirectory fun l => (hsame l).2, hfree⟩

/-- A run over artifacts goes on where a run over the first of them has ended. -/
theorem write_append (cwd : Location) (base : Path) (tree : FileTree)
    (front back : List (Text × Blob)) :
    write cwd base tree (front ++ back) = match write cwd base tree front with
      | (mid, none) => write cwd base mid back
      | refused => refused := by
  induction front generalizing tree with
  | nil => rfl
  | cons entry front ih =>
    rcases entry with ⟨name, content⟩
    rw [List.cons_append, write, write]
    split
    · exact ih _
    · rfl

/-- A run that succeeds has succeeded with every artifact in its turn. -/
theorem exists_of_write_append_cons
    (h : write cwd base tree (front ++ (name, content) :: back) = (tree', none)) :
    ∃ mid stored, write cwd base tree front = (mid, none) ∧
      mid.writeFile cwd (base.join name) content = .ok stored ∧
      write cwd base stored back = (tree', none) := by
  rw [write_append] at h
  split at h
  · next mid hfront =>
    rw [write] at h
    split at h
    · next stored hstep => exact ⟨mid, stored, hfront, hstep, h⟩
    · cases h
  · next hrefused => exact absurd h (hrefused tree')

/-- A run that is refused has written what comes before the first artifact that cannot be written,
and nothing else. -/
theorem exists_of_write_eq_some (h : write cwd base tree entries = (tree', some e)) :
    ∃ front name content back cause, entries = front ++ (name, content) :: back ∧
      write cwd base tree front = (tree', none) ∧
      tree'.writeFile cwd (base.join name) content = .error cause ∧
      e = .file (base.join name) cause := by
  induction entries generalizing tree with
  | nil => cases h
  | cons entry rest ih =>
    rcases entry with ⟨first, written⟩
    rw [write] at h
    split at h
    · next mid hstep =>
      rcases ih h with ⟨front, name, content, back, cause, rfl, hfront, hrefused, rfl⟩
      refine ⟨(first, written) :: front, name, content, back, cause, rfl, ?_, hrefused, rfl⟩
      rw [write, hstep]
      exact hfront
    · next cause hstep =>
      cases h
      exact ⟨[], first, written, rest, cause, rfl, rfl, hstep, rfl⟩

/-- However a run ends, the tree is what a run over the first of the artifacts leaves, and that one
succeeds. -/
theorem exists_front_of_write (cwd : Location) (base : Path) (tree : FileTree)
    (entries : List (Text × Blob)) :
    ∃ front, front <+: entries ∧
      write cwd base tree front = ((write cwd base tree entries).1, none) := by
  rcases hwrite : write cwd base tree entries with ⟨tree', refused⟩
  cases refused with
  | none => exact ⟨entries, List.prefix_rfl, hwrite⟩
  | some e =>
    rcases exists_of_write_eq_some hwrite with
      ⟨front, name, content, back, cause, hentries, hfront, -, -⟩
    exact ⟨front, ⟨_, hentries.symm⟩, hfront⟩

/-! ## The shape that is left -/

/-- A run over artifacts ends alike in trees of one shape, whatever the contents are. -/
theorem sameShape_write (h : SameShape tree tree')
    (hnames : entries.map Prod.fst = entries'.map Prod.fst) (cwd : Location) (base : Path) :
    SameShape (write cwd base tree entries).1 (write cwd base tree' entries').1 ∧
      (write cwd base tree entries).2 = (write cwd base tree' entries').2 := by
  induction entries generalizing tree tree' entries' with
  | nil =>
    obtain rfl : entries' = [] := List.map_eq_nil_iff.1 hnames.symm
    exact ⟨h, rfl⟩
  | cons entry rest ih =>
    obtain ⟨name, content⟩ := entry
    obtain ⟨⟨name', content'⟩, rest', rfl, heq, hrest⟩ := List.map_eq_cons_iff.1 hnames.symm
    obtain rfl : name' = name := heq
    rw [write, write]
    cases hstep : tree.writeFile cwd (base.join name') content with
    | error cause =>
      rw [h.writeFile_eq_error hstep content']
      exact ⟨h, rfl⟩
    | ok after =>
      obtain ⟨after', hstep', hafter⟩ := h.exists_of_writeFile_eq_ok hstep content'
      rw [hstep']
      exact ih hafter hrest.symm

/-- Artifacts with the same names are stored alike in one tree, whatever their contents are. -/
theorem sameShape_store
    (hnames : artifacts.entries.map Prod.fst = artifacts'.entries.map Prod.fst) (cwd : Location)
    (dir : Path) (tree : FileTree) :
    SameShape (artifacts.store cwd dir tree).1 (artifacts'.store cwd dir tree).1 ∧
      (artifacts.store cwd dir tree).2 = (artifacts'.store cwd dir tree).2 := by
  rw [store_eq, store_eq]
  rcases tree.makeDirectories cwd dir with ⟨made, refused⟩
  cases refused with
  | some cause => exact ⟨.refl made, rfl⟩
  | none => exact sameShape_write (.refl made) hnames cwd dir

end Artifacts

end Evidence
