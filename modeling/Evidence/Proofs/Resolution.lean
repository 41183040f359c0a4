import Evidence.FileTree.Operations
import Evidence.Proofs.PathNames

/-!
# What a resolved path names

A path that is resolved leads where its names do, through directories that are there.  It is then
resolved alike in every tree that keeps the directories.

Main results:

- `FileTree.walk_eq_ok_iff`: when a walk succeeds, and where it ends.
- `FileTree.location_of_resolve`: a path names the location that it leads to.
- `FileTree.resolve_of_isDirectory`: what is resolved stays so while directories stay.
- `FileTree.isDirectory_of_mem_through`: a path to a directory leads through directories.
-/

namespace Evidence

theorem Text.byteLength_append (s t : Text) : byteLength (s ++ t) = byteLength s + byteLength t := by
  induction s with
  | nil => simp [byteLength]
  | cons c s ih =>
    calc byteLength (c :: (s ++ t)) = byteWidth c + byteLength (s ++ t) := rfl
      _ = byteLength (c :: s) + byteLength t := by
        rw [ih, ← Nat.add_assoc]
        rfl

namespace FileTree

variable {tree tree' : FileTree} {cwd loc dir l : Location} {path q : Path} {name last : Text}
  {names before : List Text} {target : Target} {cause : Cause}

/-! ## Walking -/

@[simp] theorem isTooLong_here : isTooLong Path.here = false := by
  decide

@[simp] theorem isTooLong_above : isTooLong Path.above = false := by
  decide

/-- What is no directory has no directory's entry. -/
theorem isDirectory_iff : tree.IsDirectory loc ↔ ∃ mode, tree.find? loc = some (.directory mode) := by
  rw [IsDirectory]
  cases h : tree.find? loc with
  | none => simp
  | some entry => cases entry <;> simp [Entry.isDirectory]

/-- A walk succeeds when every entry on the way is a directory and no name is too long. -/
theorem walk_eq_ok_iff :
    tree.walk loc names = .ok dir ↔ dir = Location.follow loc names ∧
      (∀ name ∈ names, isTooLong name = false) ∧
      ∀ l ∈ Location.through loc names, tree.IsDirectory l := by
  fun_induction walk tree loc names with
  | case1 loc =>
    constructor
    · intro h
      cases h
      exact ⟨rfl, by simp, by simp [Location.through]⟩
    · rintro ⟨rfl, -, -⟩
      rfl
  | case2 loc names ih => simp [ih, Location.follow, Location.through]
  | case3 loc names hne ih =>
    have hfollow : Location.follow loc (Path.above :: names) = Location.follow loc.tail names := by
      rw [Location.follow, if_neg hne, if_pos rfl]
    have hthrough :
        Location.through loc (Path.above :: names) = Location.through loc.tail names := by
      rw [Location.through, if_neg hne, if_pos rfl]
    rw [ih, hfollow, hthrough, List.forall_mem_cons]
    simp only [isTooLong_above, true_and]
  | case4 loc name names hhere habove hlong => simp [hlong]
  | case5 loc name names hhere habove hlong hfind =>
    simp [Location.through, hhere, habove, IsDirectory, hfind]
  | case6 loc name names hhere habove hlong mode content hfind =>
    simp [Location.through, hhere, habove, IsDirectory, hfind, Entry.isDirectory]
  | case7 loc name names hhere habove hlong mode hfind ih =>
    simp [ih, Location.follow, Location.through, hhere, habove, hlong, IsDirectory, hfind,
      Entry.isDirectory]

/-- A walk through directories goes alike, or is stopped alike, wherever they are there. -/
theorem walk_congr (h : ∀ l ∈ Location.through loc names, tree.IsDirectory l)
    (h' : ∀ l ∈ Location.through loc names, tree'.IsDirectory l) :
    tree'.walk loc names = tree.walk loc names := by
  fun_induction Location.through loc names with
  | case1 => rfl
  | case2 loc names ih =>
    rw [walk, walk, if_pos rfl, if_pos rfl]
    exact ih h h'
  | case3 loc names hhere ih =>
    rw [walk, walk, if_neg hhere, if_neg hhere, if_pos rfl, if_pos rfl]
    exact ih h h'
  | case4 loc name names hhere habove ih =>
    obtain ⟨mode, hfind⟩ := isDirectory_iff.1 (h _ List.mem_cons_self)
    obtain ⟨mode', hfind'⟩ := isDirectory_iff.1 (h' _ List.mem_cons_self)
    have hrest := ih (fun l hl => h l (List.mem_cons_of_mem _ hl))
      fun l hl => h' l (List.mem_cons_of_mem _ hl)
    simp only [walk, if_neg hhere, if_neg habove, hfind, hfind', hrest]

theorem walk_append (tree : FileTree) (loc : Location) (front back : List Text) :
    tree.walk loc (front ++ back) = (tree.walk loc front).bind fun dir => tree.walk dir back := by
  fun_induction walk tree loc front with
  | case1 => rfl
  | case2 loc names ih => rw [List.cons_append, walk, if_pos rfl, ih]
  | case3 loc names hhere ih => rw [List.cons_append, walk, if_neg hhere, if_pos rfl, ih]
  | case4 loc name names hhere habove hlong =>
    rw [List.cons_append, walk, if_neg hhere, if_neg habove, if_pos hlong]
    rfl
  | case5 loc name names hhere habove hlong hfind =>
    rw [List.cons_append, walk, if_neg hhere, if_neg habove, if_neg hlong, hfind]
    rfl
  | case6 loc name names hhere habove hlong mode content hfind =>
    rw [List.cons_append, walk, if_neg hhere, if_neg habove, if_neg hlong, hfind]
    rfl
  | case7 loc name names hhere habove hlong mode hfind ih =>
    rw [List.cons_append, walk, if_neg hhere, if_neg habove, if_neg hlong, hfind]
    exact ih

/-- The three causes that stop a walk. -/
theorem cause_of_walk (h : tree.walk loc names = .error cause) :
    cause = .notFound ∨ cause = .notDirectory ∨ cause = .nameTooLong := by
  fun_induction walk tree loc names with
  | case1 => cases h
  | case2 loc names ih => exact ih h
  | case3 loc names hhere ih => exact ih h
  | case4 => exact .inr (.inr (Except.error.inj h).symm)
  | case5 => exact .inl (Except.error.inj h).symm
  | case6 => exact .inr (.inl (Except.error.inj h).symm)
  | case7 loc name names hhere habove hlong mode hfind ih => exact ih h

/-! ## Resolving -/

/-- What a last name means in a directory. -/
def Target.at (dir : Location) (last : Text) : Target :=
  if last = Path.here then .directory dir
  else if last = Path.above then .directory dir.tail
  else .child dir last

theorem Target.location_at (dir : Location) (last : Text) :
    (Target.at dir last).location = Location.follow dir [last] := by
  rw [Target.at]
  split
  · next h => simp [Target.location, Location.follow, h]
  · next hhere =>
    split
    · next h => simp [Target.location, Location.follow, h, Path.above, Path.here]
    · next habove => simp [Target.location, Location.follow, hhere, habove]

/-- A path that a system takes: one that is not empty, not too long and without a NUL. -/
structure IsTaken (path : Path) : Prop where
  clean : '\x00' ∉ path.text
  ne_nil : path.text ≠ []
  short : Text.byteLength path.text < pathLimit

/-- The first part of a path that a system takes is a path that it takes. -/
theorem IsTaken.of_isPrefix (h : IsTaken path) (hfront : q.text <+: path.text) (hne : q.text ≠ []) :
    IsTaken q := by
  obtain ⟨more, htext⟩ := hfront
  refine ⟨fun hmem => h.clean (htext ▸ List.mem_append_left more hmem), hne, ?_⟩
  have hshort := h.short
  rw [← htext, Text.byteLength_append] at hshort
  exact Nat.lt_of_le_of_lt (Nat.le_add_right _ _) hshort

theorem isTaken_of_resolve (h : tree.resolve cwd path = .ok target) : IsTaken path := by
  rw [resolve] at h
  split at h
  · cases h
  · next hclean =>
    split at h
    · cases h
    · next hne =>
      split at h
      · cases h
      · next hshort => exact ⟨hclean, hne, Nat.lt_of_not_le hshort⟩

/-- Slashes alone name the root. -/
theorem resolve_of_names_eq_nil (htaken : IsTaken path) (hnames : path.names = []) :
    tree.resolve cwd path = .ok (.directory []) := by
  rw [resolve, if_neg htaken.clean, if_neg htaken.ne_nil, if_neg (Nat.not_le.2 htaken.short),
    hnames]
  rfl

/-- All names but the last are walked, and the last is looked at where the walk ends. -/
theorem resolve_of_names_eq_append (htaken : IsTaken path)
    (hnames : path.names = before ++ [last]) :
    tree.resolve cwd path = (tree.walk (path.start cwd) before).map (Target.at · last) := by
  rw [resolve, if_neg htaken.clean, if_neg htaken.ne_nil, if_neg (Nat.not_le.2 htaken.short),
    hnames, List.reverse_append, List.reverse_singleton, List.singleton_append]
  simp only [List.reverse_reverse]
  rw [← Path.start]
  cases tree.walk (path.start cwd) before with
  | error cause => rfl
  | ok dir =>
    simp only [bind, Except.bind, Except.map, Target.at, pure, Except.pure]
    split
    · rfl
    · split <;> rfl

/-- A path is resolved alike where the walk over all names but the last goes alike. -/
theorem resolve_congr (h : ∀ before last, path.names = before ++ [last] →
      tree'.walk (path.start cwd) before = tree.walk (path.start cwd) before) :
    tree'.resolve cwd path = tree.resolve cwd path := by
  rcases List.eq_nil_or_concat' path.names with hnames | ⟨before, last, hnames⟩
  · simp only [resolve, hnames, List.reverse_nil]
  · have hwalk := h before last hnames
    rw [Path.start] at hwalk
    simp only [resolve, hnames, List.reverse_append, List.reverse_singleton, List.singleton_append,
      List.reverse_reverse, hwalk]

/-- A resolved path names the root, or a name in the directory that a walk ends in. -/
theorem exists_walk_of_resolve (h : tree.resolve cwd path = .ok target) :
    path.names = [] ∧ target = .directory [] ∨
      ∃ before last dir, path.names = before ++ [last] ∧
        tree.walk (path.start cwd) before = .ok dir ∧ target = .at dir last := by
  have htaken := isTaken_of_resolve h
  rcases List.eq_nil_or_concat' path.names with hnames | ⟨before, last, hnames⟩
  · rw [resolve_of_names_eq_nil htaken hnames] at h
    cases h
    exact .inl ⟨hnames, rfl⟩
  · rw [resolve_of_names_eq_append htaken hnames] at h
    cases hwalk : tree.walk (path.start cwd) before with
    | error cause => simp [hwalk, Except.map] at h
    | ok dir =>
      rw [hwalk] at h
      cases h
      exact .inr ⟨before, last, dir, hnames, hwalk, rfl⟩

/-- Slashes alone start at the root. -/
theorem start_of_names_eq_nil (htaken : IsTaken path) (hnames : path.names = []) :
    path.start cwd = [] := by
  rw [Path.start, if_pos (Path.isAbsolute_of_names_eq_nil htaken.ne_nil hnames)]

/-- A path names the location that it leads to. -/
theorem location_of_resolve (h : tree.resolve cwd path = .ok target) :
    target.location = path.location cwd := by
  rcases exists_walk_of_resolve h with ⟨hnames, rfl⟩ | ⟨before, last, dir, hnames, hwalk, rfl⟩
  · rw [Path.location, hnames, start_of_names_eq_nil (isTaken_of_resolve h) hnames]
    rfl
  · rw [Target.location_at, Path.location, hnames, Location.follow_append,
      (walk_eq_ok_iff.1 hwalk).1]

/-- A name in a directory is the last entry that its path leads through. -/
theorem mem_through_of_resolve (h : tree.resolve cwd path = .ok (.child dir name)) :
    name :: dir ∈ path.through cwd := by
  rcases exists_walk_of_resolve h with ⟨-, htarget⟩ | ⟨before, last, dir', hnames, hwalk, htarget⟩
  · cases htarget
  · rw [Target.at] at htarget
    split at htarget
    · cases htarget
    · next hhere =>
      split at htarget
      · cases htarget
      · next habove =>
        cases htarget
        rw [Path.through, hnames, Location.through_append, ← (walk_eq_ok_iff.1 hwalk).1]
        simp [Location.through, hhere, habove]

/-- What a tree resolves, a tree that keeps its directories resolves alike. -/
theorem resolve_of_isDirectory (hkept : ∀ l, tree.IsDirectory l → tree'.IsDirectory l)
    (h : tree.resolve cwd path = .ok target) : tree'.resolve cwd path = .ok target := by
  have htaken := isTaken_of_resolve h
  rcases exists_walk_of_resolve h with ⟨hnames, rfl⟩ | ⟨before, last, dir, hnames, hwalk, rfl⟩
  · exact resolve_of_names_eq_nil htaken hnames
  · have hwalk' : tree'.walk (path.start cwd) before = .ok dir := by
      rcases walk_eq_ok_iff.1 hwalk with ⟨hdir, hshort, hthrough⟩
      exact walk_eq_ok_iff.2 ⟨hdir, hshort, fun l hl => hkept l (hthrough l hl)⟩
    rw [resolve_of_names_eq_append htaken hnames, hwalk']
    rfl

/-- A directory that is there is there in every tree that keeps the directories. -/
theorem isDirectoryAt_of_isDirectory (hkept : ∀ l, tree.IsDirectory l → tree'.IsDirectory l)
    (h : tree.isDirectoryAt cwd path = true) : tree'.isDirectoryAt cwd path = true := by
  rw [isDirectoryAt] at h ⊢
  cases hresolve : tree.resolve cwd path with
  | error cause => simp [hresolve] at h
  | ok target =>
    rw [hresolve] at h
    rw [resolve_of_isDirectory hkept hresolve]
    exact decide_eq_true (hkept _ (of_decide_eq_true h))

/-- A walk that ends shows that a directory is there. -/
theorem isDirectoryAt_of_walk (htaken : IsTaken path) (hstart : tree.IsDirectory (path.start cwd))
    (h : tree.walk (path.start cwd) path.names = .ok dir) : tree.isDirectoryAt cwd path = true := by
  have hdir := isDirectory_of_walk hstart h
  rw [isDirectoryAt]
  rcases List.eq_nil_or_concat' path.names with hnames | ⟨before, last, hnames⟩
  · rw [resolve_of_names_eq_nil htaken hnames]
    exact decide_eq_true tree.isDirectory_root
  · rw [hnames, walk_append] at h
    rw [resolve_of_names_eq_append htaken hnames]
    cases hwalk : tree.walk (path.start cwd) before with
    | error cause =>
      rw [hwalk] at h
      cases h
    | ok dir' =>
      rw [hwalk] at h
      have hlast := (walk_eq_ok_iff.1 (show tree.walk dir' [last] = .ok dir from h)).1
      apply decide_eq_true
      rwa [Target.location_at, ← hlast]

/-- A path that names a directory leads through directories to it. -/
theorem isDirectory_of_mem_through (h : tree.isDirectoryAt cwd path = true) :
    ∀ l ∈ path.through cwd, tree.IsDirectory l := by
  rw [isDirectoryAt] at h
  split at h
  · cases h
  · next target hresolve =>
    have hloc := of_decide_eq_true h
    rcases exists_walk_of_resolve hresolve with ⟨hnames, -⟩ | ⟨before, last, dir, hnames, hwalk, rfl⟩
    · simp [Path.through, hnames, Location.through]
    · rcases walk_eq_ok_iff.1 hwalk with ⟨rfl, -, hthrough⟩
      intro l hl
      rw [Path.through, hnames, Location.through_append] at hl
      rcases List.mem_append.1 hl with hl | hl
      · exact hthrough l hl
      · rwa [Target.location_at, ← Location.eq_follow_of_mem_through hl] at hloc

end FileTree

end Evidence
