import Evidence.Proofs.Resolution

/-!
# Shapes of trees

The shape of a tree is what is left of it when the contents of its files are left aside.  Where a
path leads is a matter of the shape alone.

Main definitions:

- `FileTree.Entry.outline`: the kind and the mode of an entry.
- `FileTree.SameShape`: trees with entries of the same kinds and modes at the same places.
- `FileTree.SameDirectories`: trees with directories at the same places.

Main results:

- `FileTree.SameShape.find?_cases`: where trees of one shape differ.
- `FileTree.SameShape.resolve_eq`: a path leads to the same place in trees of one shape.
-/

namespace Evidence.FileTree

variable {tree tree' : FileTree}

/-! ## Shapes -/

/-- What is seen of an entry without reading it: whether it is a directory, and its mode. -/
def Entry.outline (e : Entry) : Bool × Nat :=
  (e.isDirectory, e.mode)

/-- Trees have the same shape when they have entries of the same kinds and modes at the same
places. -/
def SameShape (tree tree' : FileTree) : Prop :=
  ∀ loc, (tree.find? loc).map Entry.outline = (tree'.find? loc).map Entry.outline

/-- Entries with one outline are the same or differ in the content of a file. -/
theorem Entry.eq_or_exists_file {e e' : Entry} (h : e.outline = e'.outline) :
    e = e' ∨ ∃ mode content content', e = .file mode content ∧ e' = .file mode content' := by
  cases e with
  | file mode content =>
    cases e' with
    | file mode' content' =>
      obtain rfl : mode = mode' := congrArg Prod.snd h
      exact .inr ⟨mode, content, content', rfl, rfl⟩
    | directory mode' => cases congrArg Prod.fst h
  | directory mode =>
    cases e' with
    | file mode' content' => cases congrArg Prod.fst h
    | directory mode' =>
      obtain rfl : mode = mode' := congrArg Prod.snd h
      exact .inl rfl

/-- Trees have the same directories when there is one at a place of both or of neither. -/
def SameDirectories (tree tree' : FileTree) : Prop :=
  ∀ loc, tree'.IsDirectory loc ↔ tree.IsDirectory loc

theorem SameDirectories.symm (h : SameDirectories tree tree') : SameDirectories tree' tree :=
  fun loc => (h loc).symm

namespace SameShape

theorem refl (tree : FileTree) : SameShape tree tree := fun _ => rfl

theorem symm (h : SameShape tree tree') : SameShape tree' tree := fun loc => (h loc).symm

/-- Trees of one shape hold the same at a location, or two files of one mode. -/
theorem find?_cases (h : SameShape tree tree') (loc : Location) :
    tree'.find? loc = tree.find? loc ∨
      ∃ mode content content', tree.find? loc = some (.file mode content) ∧
        tree'.find? loc = some (.file mode content') := by
  have hloc := h loc
  cases hfind : tree.find? loc with
  | none =>
    rw [hfind] at hloc
    exact .inl (Option.map_eq_none_iff.1 hloc.symm)
  | some e =>
    rw [hfind] at hloc
    obtain ⟨e', hfind', houtline⟩ := Option.map_eq_some_iff.1 hloc.symm
    rw [hfind']
    obtain rfl | ⟨mode, content, content', rfl, rfl⟩ := Entry.eq_or_exists_file houtline.symm
    · exact .inl rfl
    · exact .inr ⟨mode, content, content', rfl, rfl⟩

/-- Trees of one shape have the same directories. -/
theorem sameDirectories (h : SameShape tree tree') : SameDirectories tree tree' := fun loc => by
  obtain heq | ⟨mode, content, content', hfile, hfile'⟩ := h.find?_cases loc
  · rw [IsDirectory, IsDirectory, heq]
  · simp [IsDirectory, hfile, hfile', Entry.isDirectory]

/-! ## Paths -/

/-- A walk goes alike in trees of one shape, and is stopped alike. -/
theorem walk_eq (h : SameShape tree tree') (loc : Location) (names : List Text) :
    tree'.walk loc names = tree.walk loc names := by
  fun_induction walk tree loc names with
  | case1 loc => rfl
  | case2 loc names ih => rw [walk, if_pos rfl, ih]
  | case3 loc names hhere ih => rw [walk, if_neg hhere, if_pos rfl, ih]
  | case4 loc name names hhere habove hlong =>
    rw [walk, if_neg hhere, if_neg habove, if_pos hlong]
  | case5 loc name names hhere habove hlong hfind =>
    obtain heq | ⟨mode, content, content', hfile, -⟩ := h.find?_cases (name :: loc)
    · rw [walk, if_neg hhere, if_neg habove, if_neg hlong, heq, hfind]
    · cases hfind.symm.trans hfile
  | case6 loc name names hhere habove hlong mode content hfind =>
    obtain heq | ⟨mode, content, content', -, hfile'⟩ := h.find?_cases (name :: loc)
    · rw [walk, if_neg hhere, if_neg habove, if_neg hlong, heq, hfind]
    · rw [walk, if_neg hhere, if_neg habove, if_neg hlong, hfile']
  | case7 loc name names hhere habove hlong mode hfind ih =>
    obtain heq | ⟨mode, content, content', hfile, -⟩ := h.find?_cases (name :: loc)
    · rw [walk, if_neg hhere, if_neg habove, if_neg hlong, heq, hfind]
      exact ih
    · cases hfind.symm.trans hfile

/-- A path leads to the same place in trees of one shape, or is refused for the same cause. -/
theorem resolve_eq (h : SameShape tree tree') (cwd : Location) (path : Path) :
    tree'.resolve cwd path = tree.resolve cwd path :=
  resolve_congr fun before _ _ => h.walk_eq (path.start cwd) before

end SameShape

end Evidence.FileTree
