import Evidence.Proofs.StoringAgain

/-!
# Prepared directories

A path whose names all lead further down meets no surprise on its way.  Either no file is in the
way, and all that is missing is made, or one is, and nothing is made at all.

Main definitions:

- `Path.IsOrdinary`: a path whose names lead further down, within the limits of a system.
- `Path.Passes`: the locations that some first names of a path lead to.
- `Path.Climbs`: paths that go up name by name.

Main results:

- `Path.climbs_ancestors`: so do the ancestors of a path without idle names.
- `FileTree.walk_of_isFile`: a file on the way down stops a walk.
- `FileTree.makeDirectories_of_file`: with a file in the way nothing is made.
- `FileTree.makeDirectories_of_free`: with no file in the way the directory is made.
- `Artifacts.prepare_exact`: when a directory is prepared, and what that changes.
-/

namespace Evidence

/-! ## Names that lead down -/

namespace Location

variable {loc l : Location} {names : List Text}

/-- Ordinary names lead through the locations of their first parts. -/
theorem mem_through_iff (h : ∀ name ∈ names, IsOrdinary name) :
    l ∈ through loc names ↔ ∃ front, front ≠ [] ∧ front <+: names ∧ l = front.reverse ++ loc := by
  induction names generalizing loc with
  | nil => simp [through]
  | cons name names ih =>
    have hname := h name List.mem_cons_self
    rw [through, if_neg hname.1, if_neg hname.2, List.mem_cons,
      ih fun name' hmem => h name' (List.mem_cons_of_mem _ hmem)]
    constructor
    · rintro (rfl | ⟨front, -, hfront, rfl⟩)
      · exact ⟨[name], by simp, by simp, rfl⟩
      · exact ⟨name :: front, by simp, (List.prefix_cons_inj name).2 hfront, by simp⟩
    · rintro ⟨front, hne, hfront, rfl⟩
      cases front with
      | nil => exact absurd rfl hne
      | cons first front =>
        obtain ⟨rfl, hback⟩ := List.cons_prefix_cons.1 hfront
        by_cases hempty : front = []
        · exact .inl (by simp [hempty])
        · exact .inr ⟨front, hempty, hback, by simp⟩

end Location

/-! ## Ancestors name by name -/

namespace Path

variable {p q : Path} {cwd loc : Location} {first last : Text}
  {names before backwards : List Text} {paths : List Path}

/-- Paths go up from some names when the first has these names, each has one name more than the
next, and the last has a single one. -/
inductive Climbs : List Text → List Path → Prop
  | top : Climbs [] []
  | step {before : List Text} {last : Text} {p : Path} {parents : List Path}
      (names : p.names = before ++ [last]) (rest : Climbs before parents) :
      Climbs (before ++ [last]) (p :: parents)

/-- Another path with the same names may stand in the first place. -/
theorem Climbs.replace (h : Climbs names (q :: paths)) (hp : p.names = names) :
    Climbs names (p :: paths) := by
  cases h with
  | step _ rest => exact .step hp rest

/-- The names of a path that is put together of parts. -/
theorem names_ofParts {parts : List Text} (h : ∀ part ∈ parts, '/' ∉ part) (hne : parts ≠ []) :
    (ofParts parts).names = parts.filter (· ≠ []) := by
  rw [names, parts_ofParts h hne]

/-- The chains of parts go up name by name when none of the parts means the directory itself. -/
theorem climbs_chains (hfirst : '/' ∉ first)
    (hparts : ∀ part ∈ backwards, '/' ∉ part ∧ part ≠ here) :
    Climbs ((first :: backwards.reverse).filter (· ≠ []))
      ((chains backwards ++ if first = [] then [] else [[]]).map fun (back : List Text) =>
        ofParts (first :: back.reverse)) := by
  have hclean : ∀ part ∈ first :: backwards.reverse, '/' ∉ part :=
    List.forall_mem_cons.2 ⟨hfirst, fun part hmem => (hparts part (List.mem_reverse.1 hmem)).1⟩
  induction backwards with
  | nil =>
    by_cases hempty : first = []
    · rw [if_pos hempty, hempty]
      exact .top
    · have hnames : [first].filter (· ≠ []) = [] ++ [first] := by simp [hempty]
      rw [if_neg hempty, List.reverse_nil, hnames]
      exact .step ((names_ofParts hclean (List.cons_ne_nil _ _)).trans hnames) .top
  | cons part before ih =>
    obtain ⟨⟨-, hhere⟩, hbefore⟩ := List.forall_mem_cons.1 hparts
    have hclimbs := ih hbefore <| List.forall_mem_cons.2
      ⟨hfirst, fun part' hmem => (hbefore part' (List.mem_reverse.1 hmem)).1⟩
    have hsplit : (first :: (part :: before).reverse).filter (· ≠ [])
        = (first :: before.reverse).filter (· ≠ []) ++ [part].filter (· ≠ []) := by
      rw [List.reverse_cons, ← List.cons_append, List.filter_append]
    rw [chains]
    by_cases hempty : part = []
    · rw [if_pos (by simp [isIdle, hempty]), hsplit, hempty]
      simpa using hclimbs
    · have hnames : (first :: (part :: before).reverse).filter (· ≠ [])
          = (first :: before.reverse).filter (· ≠ []) ++ [part] := by
        rw [hsplit]
        simp [hempty]
      rw [if_neg (by simp [isIdle, hempty, hhere]), hnames]
      exact .step ((names_ofParts hclean (List.cons_ne_nil _ _)).trans hnames) hclimbs

/-- The ancestors of a path go up name by name when no name means the directory itself. -/
theorem climbs_ancestors (h : here ∉ p.names) : Climbs p.names p.ancestors := by
  rcases exists_parts_eq_cons p with ⟨first, rest, hparts⟩
  have hmem : ∀ part ∈ first :: rest, part ∈ p.parts := fun part hpart => hparts ▸ hpart
  have hback : ∀ part ∈ rest.reverse, '/' ∉ part ∧ part ≠ here := by
    intro part hpart
    have hpart' := hmem part (List.mem_cons_of_mem _ (List.mem_reverse.1 hpart))
    refine ⟨not_mem_of_mem_parts hpart', ?_⟩
    rintro rfl
    exact h (List.mem_filter.2 ⟨hpart', by decide⟩)
  have hclimbs := climbs_chains (not_mem_of_mem_parts (hmem first List.mem_cons_self)) hback
  have hnames : (first :: rest.reverse.reverse).filter (· ≠ []) = p.names := by
    rw [List.reverse_reverse, names, hparts]
  have hfronts : (fronts first rest).map (fun front => ofParts (first :: front))
      = (chains rest.reverse ++ if first = [] then [] else [[]]).map fun (back : List Text) =>
        ofParts (first :: back.reverse) := by
    rw [fronts, List.map_map]
    rfl
  rw [hnames, ← hfronts] at hclimbs
  rw [ancestors_eq hparts]
  cases hcases : fronts first rest with
  | nil => simpa [hcases] using hclimbs
  | cons own parents =>
    rw [hcases, List.map_cons] at hclimbs
    exact hclimbs.replace rfl

/-! ## Ordinary paths -/

/-- A path is ordinary when no name of it means the directory itself or the one above, none is longer
than a name may be, and the whole is not longer than a path may be and holds no NUL. -/
structure IsOrdinary (p : Path) : Prop where
  not_here : here ∉ p.names
  not_above : above ∉ p.names
  names_short : ∀ name ∈ p.names, Text.byteLength name ≤ 255
  short : Text.byteLength p.text < 4096
  clean : '\x00' ∉ p.text

/-- A path passes the locations that some of its names lead to, from the first one on.  The last of
them is its own, and where it starts from is none of them. -/
def Passes (p : Path) (cwd loc : Location) : Prop :=
  ∃ front, front ≠ [] ∧ front <+: p.names ∧ loc = front.reverse ++ p.start cwd

namespace IsOrdinary

theorem ordinary (h : p.IsOrdinary) : ∀ name ∈ p.names, Location.IsOrdinary name :=
  fun _ hmem => ⟨fun heq => h.not_here (heq ▸ hmem), fun heq => h.not_above (heq ▸ hmem)⟩

theorem isTooLong (h : p.IsOrdinary) : ∀ name ∈ p.names, FileTree.isTooLong name = false :=
  fun name hmem => decide_eq_false (Nat.not_lt.2 (h.names_short name hmem))

/-- An ordinary path leads through the locations that it passes. -/
theorem mem_through_iff (h : p.IsOrdinary) : loc ∈ p.through cwd ↔ p.Passes cwd loc :=
  Location.mem_through_iff h.ordinary

/-- An ordinary path leads to its last name in the directory that the other names lead to. -/
theorem location_eq (h : p.IsOrdinary) (hnames : p.names = before ++ [last]) (cwd : Location) :
    p.location cwd = last :: Location.follow (p.start cwd) before := by
  have hlast := h.ordinary last (by simp [hnames])
  rw [location, hnames, Location.follow_append, Location.follow, if_neg hlast.1, if_neg hlast.2,
    Location.follow]

/-- An ordinary path leads through what its names but the last lead through, and to its own
location. -/
theorem through_eq (h : p.IsOrdinary) (hnames : p.names = before ++ [last]) (cwd : Location) :
    p.through cwd = Location.through (p.start cwd) before ++ [p.location cwd] := by
  have hlast := h.ordinary last (by simp [hnames])
  rw [h.location_eq hnames, through, hnames, Location.through_append, Location.through,
    if_neg hlast.1, if_neg hlast.2, Location.through]

/-- A system takes an ordinary path with a name. -/
theorem isTaken (h : p.IsOrdinary) (hne : p.names ≠ []) : FileTree.IsTaken p :=
  ⟨h.clean, text_ne_nil hne, h.short⟩

/-- A path that an ordinary path extends is ordinary. -/
theorem of_extends (h : p.IsOrdinary) (hextends : p.Extends q) : q.IsOrdinary := by
  obtain ⟨more, -, hnames⟩ := hextends.names
  have htaken := (h.isTaken (by simp [hnames, hextends.names_ne_nil])).of_isPrefix hextends.text
    (text_ne_nil hextends.names_ne_nil)
  have hsub : q.names ⊆ p.names := by
    rw [hnames]
    exact List.subset_append_left _ _
  exact ⟨fun hmem => h.not_here (hsub hmem), fun hmem => h.not_above (hsub hmem),
    fun name hmem => h.names_short name (hsub hmem), htaken.short, htaken.clean⟩

/-- The ancestors of an ordinary path are ordinary and start where it does. -/
theorem of_mem_ancestors (h : p.IsOrdinary) (hmem : q ∈ p.ancestors) (cwd : Location) :
    q.IsOrdinary ∧ q.start cwd = p.start cwd := by
  rcases eq_or_extends_of_mem_ancestors hmem with rfl | hextends
  · exact ⟨h, rfl⟩
  · exact ⟨h.of_extends hextends, by rw [start, start, hextends.isAbsolute]⟩

end IsOrdinary

end Path

namespace FileTree

variable {tree tree' after : FileTree} {cwd loc dir l : Location} {path : Path} {last : Text}
  {names before : List Text} {paths : List Path} {locs : List Location} {cause : Cause}

/-! ## Files in the way -/

/-- Whether there is a file at a location. -/
def IsFile (tree : FileTree) (loc : Location) : Prop :=
  ∃ mode content, tree.find? loc = some (.file mode content)

instance (tree : FileTree) (loc : Location) : Decidable (tree.IsFile loc) :=
  decidable_of_iff ((tree.find? loc).any (fun entry => !entry.isDirectory) = true) <| by
    rw [IsFile]
    cases tree.find? loc with
    | none => simp
    | some entry => cases entry <;> simp [Entry.isDirectory]

theorem IsFile.not_isDirectory (h : tree.IsFile loc) : ¬ tree.IsDirectory loc := by
  rcases h with ⟨mode, content, hfind⟩
  simp [IsDirectory, hfind, Entry.isDirectory]

theorem IsFile.isSome (h : tree.IsFile loc) : (tree.find? loc).isSome := by
  rcases h with ⟨mode, content, hfind⟩
  rw [hfind]
  rfl

/-- A location holds nothing, a directory or a file. -/
theorem find?_cases (tree : FileTree) (loc : Location) :
    tree.find? loc = none ∨ tree.IsDirectory loc ∨ tree.IsFile loc := by
  cases hfind : tree.find? loc with
  | none => exact .inl rfl
  | some entry =>
    cases entry with
    | file mode content => exact .inr (.inr ⟨mode, content, hfind⟩)
    | directory mode => exact .inr (.inl (isDirectory_iff.2 ⟨mode, hfind⟩))

/-- New directories are no files. -/
theorem Grows.isFile_iff (h : Grows locs tree after) : after.IsFile loc ↔ tree.IsFile loc :=
  exists_congr fun _ => exists_congr fun _ => h.find?_eq_file_iff

/-- A walk that is stopped by a file was to lead through it. -/
theorem exists_isFile_of_walk (h : tree.walk loc names = .error .notDirectory) :
    ∃ l ∈ Location.through loc names, tree.IsFile l := by
  fun_induction walk tree loc names with
  | case1 => cases h
  | case2 loc names ih =>
    rw [Location.through, if_pos rfl]
    exact ih h
  | case3 loc names hhere ih =>
    rw [Location.through, if_neg hhere, if_pos rfl]
    exact ih h
  | case4 => cases h
  | case5 => cases h
  | case6 loc name names hhere habove hlong mode content hfind =>
    rw [Location.through, if_neg hhere, if_neg habove]
    exact ⟨_, List.mem_cons_self, mode, content, hfind⟩
  | case7 loc name names hhere habove hlong mode hfind ih =>
    rw [Location.through, if_neg hhere, if_neg habove]
    obtain ⟨l, hl, hfile⟩ := ih h
    exact ⟨l, List.mem_cons_of_mem _ hl, hfile⟩

/-- A walk that leads through a file is stopped by it, unless a name before it is too long. -/
theorem walk_of_isFile (habove : Path.above ∉ names) (hshort : ∀ name ∈ names, isTooLong name = false)
    (hl : l ∈ Location.through loc names) (hfile : tree.IsFile l) :
    tree.walk loc names = .error .notDirectory := by
  fun_induction Location.through loc names with
  | case1 => cases hl
  | case2 loc names ih =>
    rw [walk, if_pos rfl]
    exact ih (fun h => habove (List.mem_cons_of_mem _ h))
      (fun name hmem => hshort name (List.mem_cons_of_mem _ hmem)) hl
  | case3 => exact absurd List.mem_cons_self habove
  | case4 loc name names hhere hup ih =>
    have hrest : Path.above ∉ names := fun h => habove (List.mem_cons_of_mem _ h)
    rw [walk, if_neg hhere, if_neg hup, if_neg (by simp [hshort name List.mem_cons_self])]
    rcases List.mem_cons.1 hl with rfl | hl
    · rcases hfile with ⟨mode, content, hfind⟩
      rw [hfind]
    · obtain ⟨mode, hfind⟩ :=
        isDirectory_iff.1 (isDirectory_of_find?_through hrest hl hfile.isSome)
      rw [hfind]
      exact ih hrest (fun name hmem => hshort name (List.mem_cons_of_mem _ hmem)) hl

/-- A walk over names that are not too long is not stopped by the length of one. -/
theorem walk_ne_nameTooLong (hshort : ∀ name ∈ names, isTooLong name = false) :
    tree.walk loc names ≠ .error .nameTooLong := by
  fun_induction walk tree loc names with
  | case1 => simp
  | case2 loc names ih => exact ih fun name hmem => hshort name (List.mem_cons_of_mem _ hmem)
  | case3 loc names _ ih => exact ih fun name hmem => hshort name (List.mem_cons_of_mem _ hmem)
  | case4 loc name names _ _ hlong => simp [hshort name List.mem_cons_self] at hlong
  | case5 => simp
  | case6 => simp
  | case7 loc name names _ _ _ mode _ ih =>
    exact ih fun name hmem => hshort name (List.mem_cons_of_mem _ hmem)

/-- What stops a walk down with no file in the way is something missing. -/
theorem eq_notFound_of_walk (hshort : ∀ name ∈ names, isTooLong name = false)
    (hfree : ∀ l ∈ Location.through loc names, ¬ tree.IsFile l)
    (h : tree.walk loc names = .error cause) : cause = .notFound := by
  rcases cause_of_walk h with rfl | rfl | rfl
  · rfl
  · obtain ⟨l, hl, hfile⟩ := exists_isFile_of_walk h
    exact absurd hfile (hfree l hl)
  · exact absurd h (walk_ne_nameTooLong hshort)

/-- A walk down to a directory that is there leads through directories. -/
theorem isDirectory_of_isDirectory_follow (habove : Path.above ∉ names)
    (h : tree.IsDirectory (Location.follow loc names)) :
    tree.IsDirectory loc ∧ ∀ l ∈ Location.through loc names, tree.IsDirectory l := by
  fun_induction Location.follow loc names with
  | case1 => exact ⟨h, by simp [Location.through]⟩
  | case2 loc names ih =>
    rw [Location.through, if_pos rfl]
    exact ih (fun hmem => habove (List.mem_cons_of_mem _ hmem)) h
  | case3 => exact absurd List.mem_cons_self habove
  | case4 loc name names hhere hup ih =>
    rw [Location.through, if_neg hhere, if_neg hup, List.forall_mem_cons]
    obtain ⟨hdir, hthrough⟩ := ih (fun hmem => habove (List.mem_cons_of_mem _ hmem)) h
    exact ⟨isDirectory_tail hdir, hdir, hthrough⟩

/-! ## One directory of an ordinary path -/

/-- An ordinary path names its last name in the directory that the others lead to. -/
theorem resolve_of_ordinary (h : path.IsOrdinary) (hnames : path.names = before ++ [last]) :
    tree.resolve cwd path = (tree.walk (path.start cwd) before).map (Target.child · last) := by
  have hlast := h.ordinary last (by simp [hnames])
  rw [resolve_of_names_eq_append (h.isTaken (by simp [hnames])) hnames]
  congr 1
  funext dir
  rw [Target.at, if_neg hlast.1, if_neg hlast.2]

/-- What stops the walk to the last name stops the making of the directory. -/
theorem ensureDirectory_of_walk_error (h : path.IsOrdinary) (hnames : path.names = before ++ [last])
    (hwalk : tree.walk (path.start cwd) before = .error cause) :
    tree.ensureDirectory cwd path = (tree, some cause) := by
  apply ensureDirectory_of_resolve_eq_error
  rw [resolve_of_ordinary h hnames, hwalk]
  rfl

/-- Where the walk to the last name ends, a file of this name is in the way. -/
theorem ensureDirectory_of_isFile (h : path.IsOrdinary) (hnames : path.names = before ++ [last])
    (hwalk : tree.walk (path.start cwd) before = .ok dir) (hfile : tree.IsFile (last :: dir)) :
    tree.ensureDirectory cwd path = (tree, some .alreadyThere) := by
  have hshort := h.isTooLong last (by simp [hnames])
  have hresolve : tree.resolve cwd path = .ok (.child dir last) := by
    rw [resolve_of_ordinary h hnames, hwalk]
    rfl
  have hmissing : tree.isDirectoryAt cwd path = false := by
    rw [isDirectoryAt, hresolve]
    exact decide_eq_false hfile.not_isDirectory
  have hmake : tree.makeDirectory cwd path = .error .alreadyThere := by
    rcases hfile with ⟨mode, content, hfind⟩
    rw [makeDirectory, hresolve]
    simp only [hshort, Bool.false_eq_true, if_false]
    split
    · rfl
    · next hnone => cases hfind.symm.trans hnone
  rw [ensureDirectory, hmake]
  simp [hmissing]

/-- Where the walk to the last name ends, the directory is there or can be made, unless a file has
the name. -/
theorem ensureDirectory_of_not_isFile (h : path.IsOrdinary)
    (hnames : path.names = before ++ [last]) (hstart : tree.IsDirectory (path.start cwd))
    (hwalk : tree.walk (path.start cwd) before = .ok dir) (hfree : ¬ tree.IsFile (last :: dir)) :
    (tree.ensureDirectory cwd path).2 = none := by
  have hshort := h.isTooLong last (by simp [hnames])
  have hresolve : tree.resolve cwd path = .ok (.child dir last) := by
    rw [resolve_of_ordinary h hnames, hwalk]
    rfl
  rcases tree.find?_cases (last :: dir) with hnone | hdir | hfile
  · have hmake : ∃ after, tree.makeDirectory cwd path = .ok after := by
      rw [makeDirectory, hresolve]
      simp only [hshort, Bool.false_eq_true, if_false, dif_pos (isDirectory_of_walk hstart hwalk)]
      split
      · next hsome => cases hnone.symm.trans hsome
      · exact ⟨_, rfl⟩
    obtain ⟨after, hmake⟩ := hmake
    rw [ensureDirectory, hmake]
  · have hthere : tree.isDirectoryAt cwd path = true := by
      rw [isDirectoryAt, hresolve]
      exact decide_eq_true hdir
    rw [ensureDirectory_of_isDirectoryAt hthere]
  · exact absurd hfile hfree

/-- A file that an ordinary path passes refuses the directory, and not because something is missing:
what is above the file is there, since every entry is in a directory. -/
theorem ensureDirectory_of_file (h : path.IsOrdinary) (hl : l ∈ path.through cwd)
    (hfile : tree.IsFile l) :
    tree.ensureDirectory cwd path = (tree,
      some (if tree.IsFile (path.location cwd) then .alreadyThere else .notDirectory)) := by
  obtain ⟨before, last, hnames⟩ := (List.eq_nil_or_concat' path.names).resolve_left fun hnil => by
    rw [Path.through, hnil] at hl
    cases hl
  have habove : Path.above ∉ before := fun hmem => h.not_above (by simp [hnames, hmem])
  have hshort : ∀ name ∈ before, isTooLong name = false := fun name hmem =>
    h.isTooLong name (by simp [hnames, hmem])
  rw [h.through_eq hnames] at hl
  by_cases hend : tree.IsFile (path.location cwd)
  · rw [if_pos hend]
    rw [h.location_eq hnames] at hend
    have hdirs := (isDirectory_of_isDirectory_follow habove (isDirectory_of_find? hend.isSome)).2
    exact ensureDirectory_of_isFile h hnames (walk_eq_ok_iff.2 ⟨rfl, hshort, hdirs⟩) hend
  · rw [if_neg hend]
    have hway : l ∈ Location.through (path.start cwd) before := by
      rcases List.mem_append.1 hl with hl | hl
      · exact hl
      · exact absurd (List.mem_singleton.1 hl ▸ hfile) hend
    exact ensureDirectory_of_walk_error h hnames (walk_of_isFile habove hshort hway hfile)

/-! ## All directories of an ordinary path -/

/-- With a file in the way nothing is made: the first step is refused for good. -/
theorem makeDirectories_of_file (h : path.IsOrdinary) (hl : l ∈ path.through cwd)
    (hfile : tree.IsFile l) :
    tree.makeDirectories cwd path = (tree,
      some (if tree.IsFile (path.location cwd) then .alreadyThere else .notDirectory)) := by
  rcases Path.ancestors_eq_nil_or_cons path with hnil | ⟨parents, hcons⟩
  · rw [Path.through_eq_nil hnil] at hl
    cases hl
  · rw [makeDirectories, hcons, makeChain, ensureDirectory_of_file h hl hfile]
    split
    · next hmissing => split at hmissing <;> cases hmissing
    · rfl

/-- Paths that go up name by name lead through directories once they are made. -/
theorem isDirectory_of_makeChain (h : Path.Climbs names paths)
    (hpaths : ∀ q ∈ paths, q.start cwd = loc) (hmade : (tree.makeChain cwd paths).2 = none) :
    ∀ l ∈ Location.through loc names, (tree.makeChain cwd paths).1.IsDirectory l := by
  cases h with
  | top => simp [Location.through]
  | @step before last path parents hnames _ =>
    obtain rfl := hpaths path List.mem_cons_self
    rw [← hnames]
    exact isDirectory_of_mem_through (isDirectoryAt_makeChain tree hmade)

/-- Paths that go up name by name are made, the last of them first, when they start from a directory
and no file is in the way. -/
theorem makeChain_of_free (h : Path.Climbs names paths)
    (hpaths : ∀ q ∈ paths, q.IsOrdinary ∧ q.start cwd = loc) (hstart : tree.IsDirectory loc)
    (hfree : ∀ l ∈ Location.through loc names, ¬ tree.IsFile l) :
    (tree.makeChain cwd paths).2 = none := by
  induction h with
  | top => rfl
  | @step before last path parents hnames hrest ih =>
    obtain ⟨hordinary, rfl⟩ := hpaths path List.mem_cons_self
    have hparents : ∀ q ∈ parents, q.IsOrdinary ∧ q.start cwd = path.start cwd := fun q hq =>
      hpaths q (List.mem_cons_of_mem _ hq)
    have hshort : ∀ name ∈ before, isTooLong name = false := fun name hmem =>
      hordinary.isTooLong name (by simp [hnames, hmem])
    rw [← hnames, ← Path.through, hordinary.through_eq hnames, List.forall_mem_append,
      List.forall_mem_singleton, hordinary.location_eq hnames] at hfree
    obtain ⟨hbefore, hend⟩ := hfree
    rw [makeChain]
    cases hwalk : tree.walk (path.start cwd) before with
    | ok dir =>
      obtain rfl := (walk_eq_ok_iff.1 hwalk).1
      have hfirst := ensureDirectory_of_not_isFile hordinary hnames hstart hwalk hend
      split
      · next hmissing =>
        rw [hmissing] at hfirst
        cases hfirst
      · exact hfirst
    | error cause =>
      -- Only something missing stops the walk, and that is there once the parents are made.
      obtain rfl := eq_notFound_of_walk hshort hbefore hwalk
      rw [ensureDirectory_of_walk_error hordinary hnames hwalk]
      have hmade := ih hparents hbefore
      have hdirs := isDirectory_of_makeChain hrest (fun q hq => (hparents q hq).2) hmade
      have hgrows : Grows (parents.flatMap fun q => q.through cwd) tree
          (tree.makeChain cwd parents).1 :=
        grows_makeChain tree fun q hq l hl => List.mem_flatMap.2 ⟨q, hq, hl⟩
      rcases hchain : tree.makeChain cwd parents with ⟨after, refused⟩
      rw [hchain] at hmade hdirs hgrows
      cases hmade
      simp only [hchain]
      exact ensureDirectory_of_not_isFile hordinary hnames (hgrows.isDirectory hstart)
        (walk_eq_ok_iff.2 ⟨rfl, hshort, hdirs⟩) fun hfile => hend (hgrows.isFile_iff.1 hfile)

/-- An ordinary path is made, with all that is missing above it, when it starts from a directory and
passes no file. -/
theorem makeDirectories_of_free (h : path.IsOrdinary) (hstart : tree.IsDirectory (path.start cwd))
    (hfree : ∀ l ∈ path.through cwd, ¬ tree.IsFile l) : (tree.makeDirectories cwd path).2 = none :=
  makeChain_of_free (Path.climbs_ancestors h.not_here) (fun _ hq => h.of_mem_ancestors hq cwd) hstart
    hfree

end FileTree

/-! ## Preparing a directory -/

namespace Artifacts

open FileTree

variable {tree : FileTree} {cwd : Location} {dir : Path}

/-- A directory on an ordinary path is prepared exactly when the path passes no file.  Then the tree
has a new directory with mode 775 wherever the path passed nothing, and is otherwise as it was.

A refusal names the path that was asked for, and leaves the tree as it was.  A file in the place of
the directory itself is there already; one further up is no directory. -/
theorem prepare_exact (hdir : dir.IsOrdinary) (hstart : tree.IsDirectory (dir.start cwd)) :
    let result := prepare cwd dir tree
    (result.2 = none ↔ ∀ loc, dir.Passes cwd loc → ¬ tree.IsFile loc) ∧
    (result.2 = none →
      (∀ loc, dir.Passes cwd loc → tree.find? loc = none →
        result.1.find? loc = some (.directory 0o775)) ∧
      ∀ loc, (dir.Passes cwd loc → tree.find? loc ≠ none) →
        result.1.find? loc = tree.find? loc) ∧
    ∀ e, result.2 = some e → result.1 = tree ∧ e = .directory dir
      (if tree.IsFile (dir.location cwd) then .alreadyThere else .notDirectory) := by
  intro result
  by_cases hfree : ∀ loc, dir.Passes cwd loc → ¬ tree.IsFile loc
  · have hmade := makeDirectories_of_free hdir hstart fun l hl =>
      hfree l (hdir.mem_through_iff.1 hl)
    have hfind := find?_makeDirectories hmade
    have hresult : result = ((tree.makeDirectories cwd dir).1, none) := by
      simp only [result, prepare, hmade, Option.map_none]
    rw [hresult]
    refine ⟨iff_of_true rfl hfree, fun _ => ⟨fun loc hpasses hnone => ?_, fun loc hkept => ?_⟩,
      fun e he => ?_⟩
    · rw [hfind, if_pos ⟨hnone, hdir.mem_through_iff.2 hpasses⟩]
    · rw [hfind, if_neg fun h => hkept (hdir.mem_through_iff.1 h.2) h.1]
    · cases he
  · obtain ⟨loc, hfile⟩ := Classical.not_forall.1 hfree
    obtain ⟨hpasses, hfile⟩ := Classical.not_imp.1 hfile
    have hmade := makeDirectories_of_file hdir (hdir.mem_through_iff.2 hpasses)
      (Classical.not_not.1 hfile)
    have hresult : result = (tree, some (.directory dir
        (if tree.IsFile (dir.location cwd) then .alreadyThere else .notDirectory))) := by
      simp only [result, prepare, hmade, Option.map_some]
    rw [hresult]
    refine ⟨iff_of_false (Option.some_ne_none _) hfree, fun hnone => ?_, fun e he => ?_⟩
    · cases hnone
    · exact ⟨rfl, (Option.some.inj he).symm⟩

/-- Below a directory of mode 700 two directories are new, and a file in their way would leave the
tree as it was. -/
theorem prepare_exact_in_working_directory :
    let tree := ofFound [([['w']], .directory 0o700), ([['f'], ['w']], .file 0o600 [1])]
    (prepare [['w']] ⟨"m//n/".toList⟩ tree).2 = none ∧
      (prepare [['w']] ⟨"m//n/".toList⟩ tree).1.find? [['n'], ['m'], ['w']]
        = some (.directory 0o775) ∧
      (prepare [['w']] ⟨"m//n/".toList⟩ tree).1.find? [['w']] = some (.directory 0o700) ∧
      prepare [['w']] ⟨"/w/f/x/y".toList⟩ tree
        = (tree, some (.directory ⟨"/w/f/x/y".toList⟩ .notDirectory)) := by
  intro tree
  have hdown : (⟨"m//n/".toList⟩ : Path).IsOrdinary :=
    ⟨by decide, by decide, by decide, by decide, by decide⟩
  have hbelow : (⟨"/w/f/x/y".toList⟩ : Path).IsOrdinary :=
    ⟨by decide, by decide, by decide, by decide, by decide⟩
  have hmade : (prepare [['w']] ⟨"m//n/".toList⟩ tree).2 = none := by decide
  obtain ⟨hnew, hkept⟩ := (@prepare_exact tree [['w']] _ hdown (by decide)).2.1 hmade
  have hrefused : (prepare [['w']] ⟨"/w/f/x/y".toList⟩ tree).2
      = some (.directory ⟨"/w/f/x/y".toList⟩ .notDirectory) := by decide
  have hsame := ((@prepare_exact tree [['w']] _ hbelow (by decide)).2.2 _ hrefused).1
  refine ⟨hmade, hnew _ ⟨[['m'], ['n']], by decide, by decide, by decide⟩ (by decide), ?_,
    Prod.ext hsame hrefused⟩
  exact hkept [['w']] fun _ => by decide

end Artifacts

end Evidence
