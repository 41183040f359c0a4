import Evidence.Proofs.Storing

/-!
# Storing again

What a refused or a finished storing leaves behind is such that the same storing changes nothing
more, and ends as it did before.

Main results:

- `FileTree.ensureDirectory_again`: what stops the making of an ancestor stops that of the path.
- `FileTree.makeDirectories_again`: making the same directories again.
- `Artifacts.write_again`: writing the same artifacts again.
- `Artifacts.save_again`: storing again changes nothing.
-/

namespace Evidence

namespace FileTree

variable {tree tree' after : FileTree} {cwd loc dir l : Location} {path p q : Path}
  {names : List Text} {locs : List Location} {paths : List Path} {cause : Cause}

/-! ## Where a walk stops -/

/-- Names that lead through an entry start from a directory, unless they lead back. -/
theorem isDirectory_of_find?_through (habove : Path.above ∉ names)
    (hl : l ∈ Location.through loc names) (hfind : (tree.find? l).isSome) :
    tree.IsDirectory loc := by
  fun_induction Location.through loc names with
  | case1 => cases hl
  | case2 loc names ih => exact ih (fun h => habove (List.mem_cons_of_mem _ h)) hl
  | case3 => exact absurd List.mem_cons_self habove
  | case4 loc name names _ _ ih =>
    rcases List.mem_cons.1 hl with rfl | hl
    · exact isDirectory_of_find? hfind
    · exact isDirectory_tail (ih (fun h => habove (List.mem_cons_of_mem _ h)) hl)

/-- A file that stops a walk was there before new directories were, and stopped the walk then. -/
theorem Grows.walk_eq_notDirectory (h : Grows locs tree tree') (habove : Path.above ∉ names)
    (hwalk : tree'.walk loc names = .error .notDirectory) :
    tree.IsDirectory loc ∧ tree.walk loc names = .error .notDirectory := by
  fun_induction walk tree' loc names with
  | case1 => cases hwalk
  | case2 loc names ih =>
    rw [walk, if_pos rfl]
    exact ih (fun h => habove (List.mem_cons_of_mem _ h)) hwalk
  | case3 => exact absurd List.mem_cons_self habove
  | case4 => cases hwalk
  | case5 => cases hwalk
  | case6 loc name names hhere hup hlong mode content hfind =>
    have hfile := h.find?_eq_file_iff.1 hfind
    rw [walk, if_neg hhere, if_neg hup, if_neg hlong, hfile]
    refine ⟨?_, rfl⟩
    apply isDirectory_of_find?
    rw [hfile]
    rfl
  | case7 loc name names hhere hup hlong mode hfind ih =>
    obtain ⟨hdir, hstop⟩ := ih (fun h => habove (List.mem_cons_of_mem _ h)) hwalk
    obtain ⟨mode', hfind'⟩ := isDirectory_iff.1 hdir
    rw [walk, if_neg hhere, if_neg hup, if_neg hlong, hfind']
    exact ⟨isDirectory_tail hdir, hstop⟩

/-! ## One directory again -/

/-- A directory that is there need not be made. -/
theorem ensureDirectory_of_isDirectoryAt (h : tree.isDirectoryAt cwd path = true) :
    tree.ensureDirectory cwd path = (tree, none) := by
  rw [ensureDirectory]
  split
  · next made hmake =>
    rw [makeDirectory] at hmake
    rw [isDirectoryAt] at h
    split at hmake
    · cases hmake
    · cases hmake
    · next dir name hresolve =>
      rw [hresolve] at h
      split at hmake
      · cases hmake
      · split at hmake
        · cases hmake
        · next hnone => simp [Target.location, IsDirectory, hnone] at h
  · rw [if_pos h]

/-- A directory that is refused could not be made, is not there, and leaves the tree as it was. -/
theorem of_ensureDirectory_eq_some (h : tree.ensureDirectory cwd path = (tree', some cause)) :
    tree' = tree ∧ tree.makeDirectory cwd path = .error cause ∧
      tree.isDirectoryAt cwd path = false := by
  rw [ensureDirectory] at h
  split at h
  · cases h
  · next reason hmake =>
    split at h
    · cases h
    · next hmissing =>
      cases h
      exact ⟨rfl, hmake, Bool.eq_false_iff.2 hmissing⟩

/-- A path that is not resolved makes no directory. -/
theorem ensureDirectory_of_resolve_eq_error (h : tree.resolve cwd path = .error cause) :
    tree.ensureDirectory cwd path = (tree, some cause) := by
  simp [ensureDirectory, makeDirectory, isDirectoryAt, h]

/-- What stops the walk to a path stops the making of every path that goes on from there. -/
theorem ensureDirectory_of_walk_eq_error (htaken : IsTaken p) (hextends : p.Extends q)
    (h : tree.walk (q.start cwd) q.names = .error cause) :
    tree.ensureDirectory cwd p = (tree, some cause) := by
  obtain ⟨more, hmore, hnames⟩ := hextends.names
  obtain ⟨mid, last, rfl⟩ := (List.eq_nil_or_concat' more).resolve_left hmore
  apply ensureDirectory_of_resolve_eq_error
  rw [← List.append_assoc] at hnames
  rw [resolve_of_names_eq_append htaken hnames, Path.start, ← hextends.isAbsolute, ← Path.start,
    walk_append, h]
  rfl

/-- A name that is too long is refused as such, unless a directory has it. -/
theorem eq_nameTooLong_of_makeDirectory (htaken : IsTaken path)
    (hwalk : tree.walk (path.start cwd) path.names = .error .nameTooLong)
    (h : tree.makeDirectory cwd path = .error cause) : cause = .nameTooLong := by
  obtain ⟨before, last, hnames⟩ := (List.eq_nil_or_concat' path.names).resolve_left fun hnil => by
    rw [hnil] at hwalk
    cases hwalk
  rw [makeDirectory, resolve_of_names_eq_append htaken hnames] at h
  rw [hnames, walk_append] at hwalk
  cases hbefore : tree.walk (path.start cwd) before with
  | error reason =>
    rw [hbefore] at h hwalk
    cases hwalk
    exact (Except.error.inj h).symm
  | ok dir =>
    rw [hbefore] at h hwalk
    simp only [Except.bind, walk] at hwalk
    split at hwalk
    · cases hwalk
    · next hhere =>
      split at hwalk
      · cases hwalk
      · next habove =>
        split at hwalk
        · next hlong =>
          simp only [Except.map, Target.at, if_neg hhere, if_neg habove, if_pos hlong] at h
          exact (Except.error.inj h).symm
        · split at hwalk <;> cases hwalk

/-- A path of which a part is missing is one that a system takes, unless it is empty. -/
theorem isTaken_of_makeDirectory (hne : path.text ≠ [])
    (h : tree.makeDirectory cwd path = .error .notFound) : IsTaken path := by
  rw [makeDirectory, resolve] at h
  by_cases hclean : '\x00' ∈ path.text
  · simp [hclean] at h
  · by_cases hlong : pathLimit ≤ Text.byteLength path.text
    · simp [hclean, hne, hlong] at h
    · exact ⟨hclean, hne, Nat.lt_of_not_le hlong⟩

/-! ## A chain of directories again -/

/-- A tree that has grown has a new directory, or is as it was. -/
theorem Grows.eq_or_exists (h : Grows locs tree tree') :
    tree' = tree ∨ ∃ l ∈ locs, (tree'.find? l).isSome := by
  by_cases hsame : ∀ loc, tree'.find? loc = tree.find? loc
  · exact .inl (ext_find? hsame)
  · obtain ⟨loc, hne⟩ := Classical.not_forall.1 hsame
    cases hold : tree.find? loc with
    | some entry => exact absurd ((h.kept hold).trans hold.symm) hne
    | none =>
      rcases h.made hold with hnone | ⟨hmem, hsome⟩
      · exact absurd (hnone.trans hold.symm) hne
      · exact .inr ⟨loc, hmem, by rw [hsome]; rfl⟩

/-- What stops the making of an ancestor stops that of a path in the same way, or the path is still
found missing.

A file cannot be the reason for the former: it would have been in the way of the path before. -/
theorem ensureDirectory_again (hextends : p.Extends q) (habove : Path.above ∉ p.names)
    (hgrows : Grows (p.through cwd) tree tree')
    (hmissing : tree.ensureDirectory cwd p = (tree, some .notFound))
    (hrefused : tree'.ensureDirectory cwd q = (tree', some cause)) :
    tree'.ensureDirectory cwd p = (tree', some .notFound) ∨
      tree'.ensureDirectory cwd p = (tree', some cause) := by
  obtain ⟨more, hmore, hnames⟩ := hextends.names
  have hp : IsTaken p := by
    refine isTaken_of_makeDirectory (Path.text_ne_nil ?_) (of_ensureDirectory_eq_some hmissing).2.1
    rw [hnames]
    exact List.append_ne_nil_of_left_ne_nil hextends.names_ne_nil more
  have hq : IsTaken q := hp.of_isPrefix hextends.text (Path.text_ne_nil hextends.names_ne_nil)
  have hfront : Path.above ∉ q.names := fun h => habove (hnames ▸ List.mem_append_left more h)
  obtain ⟨-, hmake, hnotThere⟩ := of_ensureDirectory_eq_some hrefused
  rcases hgrows.eq_or_exists with rfl | ⟨l, hl, hfind⟩
  · exact .inl hmissing
  · have hstart : tree'.IsDirectory (q.start cwd) := by
      rw [Path.start, hextends.isAbsolute, ← Path.start]
      exact isDirectory_of_find?_through habove hl hfind
    cases hwalk : tree'.walk (q.start cwd) q.names with
    | ok dir => simp [isDirectoryAt_of_walk hq hstart hwalk] at hnotThere
    | error reason =>
      rw [ensureDirectory_of_walk_eq_error hp hextends hwalk]
      rcases cause_of_walk hwalk with rfl | rfl | rfl
      · exact .inl rfl
      · have hbefore := (hgrows.walk_eq_notDirectory hfront hwalk).2
        rw [ensureDirectory_of_walk_eq_error hp hextends hbefore] at hmissing
        cases hmissing
      · exact .inr (by rw [eq_nameTooLong_of_makeDirectory hq hwalk hmake])

/-- A chain that is refused is refused over one of its paths, in the tree that it leaves. -/
theorem exists_of_makeChain_eq_some (h : tree.makeChain cwd paths = (tree', some cause)) :
    ∃ q ∈ paths, tree'.ensureDirectory cwd q = (tree', some cause) := by
  induction paths generalizing tree with
  | nil => cases h
  | cons path parents ih =>
    rw [makeChain] at h
    split at h
    · split at h
      · next hchain =>
        cases h
        obtain ⟨q, hq, hrefused⟩ := ih hchain
        exact ⟨q, List.mem_cons_of_mem path hq, hrefused⟩
      · next after hchain =>
        obtain rfl := (of_ensureDirectory_eq_some h).1
        exact ⟨path, List.mem_cons_self, h⟩
    · obtain rfl := (of_ensureDirectory_eq_some h).1
      exact ⟨path, List.mem_cons_self, h⟩

/-- Where nothing changes, a chain whose first path is refused ends as the others do when this path
is missing, and in its refusal otherwise. -/
theorem makeChain_cons_of_refused {result : Option Cause}
    (hparents : tree.makeChain cwd paths = (tree, result))
    (hpath : tree.ensureDirectory cwd p = (tree, some cause)) :
    tree.makeChain cwd (p :: paths)
      = (tree, some (if cause = .notFound then result.getD cause else cause)) := by
  rw [makeChain, hpath]
  split
  · next hmissing =>
    cases hmissing
    rw [hparents, if_pos rfl]
    cases result with
    | none => exact hpath
    | some reason => rfl
  · next hother =>
    rw [if_neg]
    intro hmissing
    exact hother tree (by rw [hmissing])

/-- Making a chain of directories again changes nothing, and ends as it did. -/
theorem makeChain_again (hpairwise : paths.Pairwise Path.Extends)
    (habove : ∀ q ∈ paths, Path.above ∉ q.names) {result : Option Cause}
    (h : tree.makeChain cwd paths = (tree', result)) :
    tree'.makeChain cwd paths = (tree', result) := by
  induction paths generalizing tree tree' result with
  | nil =>
    cases h
    rfl
  | cons path parents ih =>
    obtain ⟨hextends, hparents⟩ := List.pairwise_cons.1 hpairwise
    have hrest : ∀ q ∈ parents, Path.above ∉ q.names := fun q hq =>
      habove q (List.mem_cons_of_mem path hq)
    cases result with
    | none =>
      have hthere := isDirectoryAt_makeChain tree (by rw [h])
      rw [h] at hthere
      rw [makeChain, ensureDirectory_of_isDirectoryAt hthere]
    | some cause =>
      rw [makeChain] at h
      split at h
      · next mid hmissing =>
        obtain rfl := (of_ensureDirectory_eq_some hmissing).1
        split at h
        · next after reason hchain =>
          cases h
          obtain ⟨q, hq, hrefused⟩ := exists_of_makeChain_eq_some hchain
          have hgrows := grows_makeChain mid fun q hq => (hextends q hq).through_subset cwd
          rw [hchain] at hgrows
          rcases ensureDirectory_again (hextends q hq) (habove path List.mem_cons_self) hgrows
            hmissing hrefused with hagain | hagain
          · rw [makeChain_cons_of_refused (ih hparents hrest hchain) hagain]
            rfl
          · rw [makeChain_cons_of_refused (ih hparents hrest hchain) hagain]
            simp
        · next after hchain =>
          obtain rfl := (of_ensureDirectory_eq_some h).1
          rw [makeChain_cons_of_refused (ih hparents hrest hchain) h]
          simp
      · next hother =>
        obtain rfl := (of_ensureDirectory_eq_some h).1
        rw [makeChain, h]
        split
        · next hmissing => exact absurd (h.trans hmissing) (hother _)
        · rfl

/-- Making a directory, and those above it, again changes nothing and ends as it did. -/
theorem makeDirectories_again (tree : FileTree) (cwd : Location) (habove : Path.above ∉ path.names) :
    (tree.makeDirectories cwd path).1.makeDirectories cwd path = tree.makeDirectories cwd path := by
  refine makeChain_again (Path.pairwise_ancestors path) (fun q hq => ?_) rfl
  rcases Path.eq_or_extends_of_mem_ancestors hq with rfl | hextends
  · exact habove
  · obtain ⟨more, -, hnames⟩ := hextends.names
    exact fun h => habove (hnames ▸ List.mem_append_left more h)

/-- Directories that were made need not be made again while the directories stay. -/
theorem makeDirectories_of_made (hmade : tree.makeDirectories cwd path = (tree', none))
    (hsame : SameDirectories tree' after) : after.makeDirectories cwd path = (after, none) := by
  rw [makeDirectories] at hmade ⊢
  rcases Path.ancestors_eq_nil_or_cons path with hnil | ⟨parents, hcons⟩
  · rw [hnil, makeChain]
  · rw [hcons] at hmade ⊢
    have hthere := isDirectoryAt_makeChain tree (congrArg Prod.snd hmade)
    rw [hmade] at hthere
    have hkept := isDirectoryAt_of_isDirectory (fun l => (hsame l).2) hthere
    rw [makeChain, ensureDirectory_of_isDirectoryAt hkept]

end FileTree

namespace Artifacts

open FileTree

variable {artifacts : Artifacts} {settings : Settings} {testName : Option Text} {base : Option Path}
  {cwd : Location} {dir : Path} {tree tree' after : FileTree} {entries : List (Text × Blob)}

/-! ## Files again -/

/-- Writing artifacts again after a success changes nothing. -/
theorem write_again_of_success (h : write cwd dir tree entries = (tree', none)) :
    write cwd dir tree' entries = (tree', none) := by
  have hsame : SameDirectories tree tree' := by
    have hwrite := sameDirectories_write cwd dir tree entries
    rwa [h] at hwrite
  have hfree := write_snd_eq_none_iff.1 (congrArg Prod.snd h)
  have hagain : (write cwd dir tree' entries).2 = none :=
    write_snd_eq_none_iff.2 fun e he => hsame.refusal?_eq_none (hfree e he)
  refine Prod.ext (ext_find? fun loc => ?_) hagain
  rw [find?_write (Prod.ext rfl hagain) loc, find?_write h loc]
  cases hcontent : contentAt? cwd dir loc entries with
  | none => rfl
  | some content => rw [fileModeAt_write h]

/-- Writing artifacts again changes nothing, and ends as it did.

A refusal comes after a success with the artifacts before it, which are written again first. -/
theorem write_again (cwd : Location) (dir : Path) (tree : FileTree) (entries : List (Text × Blob)) :
    write cwd dir (write cwd dir tree entries).1 entries = write cwd dir tree entries := by
  rcases hwrite : write cwd dir tree entries with ⟨tree', refused⟩
  cases refused with
  | none => exact write_again_of_success hwrite
  | some e =>
    obtain ⟨front, name, content, back, cause, rfl, hfront, hrefused, rfl⟩ :=
      exists_of_write_eq_some hwrite
    rw [write_append, write_again_of_success hfront]
    simp only [write, hrefused]

/-! ## Storing again -/

/-- In a directory that was made artifacts are only written. -/
theorem store_of_made (hmade : tree.makeDirectories cwd dir = (tree', none))
    (hsame : SameDirectories tree' after) (artifacts : Artifacts) :
    artifacts.store cwd dir after = write cwd dir after artifacts.entries := by
  rw [store_eq, makeDirectories_of_made hmade hsame]

/-- Storing artifacts again in a directory changes nothing, and ends as it did. -/
theorem store_again (artifacts : Artifacts) (cwd : Location) (tree : FileTree)
    (habove : Path.above ∉ dir.names) :
    artifacts.store cwd dir (artifacts.store cwd dir tree).1 = artifacts.store cwd dir tree := by
  have hdirs := makeDirectories_again tree cwd habove
  rcases hmade : tree.makeDirectories cwd dir with ⟨made, refused⟩
  rw [hmade] at hdirs
  cases refused with
  | some cause => simp only [store_eq, hmade, hdirs]
  | none =>
    have hstore : artifacts.store cwd dir tree = write cwd dir made artifacts.entries := by
      rw [store_eq, hmade]
    rw [hstore, store_of_made hmade (sameDirectories_write cwd dir made artifacts.entries),
      write_again]

/-- Storing artifacts again changes nothing, whether or not it succeeded: the second answer is the
first one, and the tree stays as the first left it.  The directory must not lead back, the names of
the artifacts may. -/
theorem save_again (artifacts : Artifacts) (settings : Settings) (testName : Option Text)
    (base : Option Path) (cwd : Location) (tree : FileTree)
    (habove : Path.above ∉ (base.getD (settings.testDir testName)).names) :
    let save := artifacts.save settings testName base cwd
    save (save tree).1 = save tree := by
  intro save
  have hagain := store_again artifacts cwd tree habove
  apply Prod.ext
  · rw [save_fst, save_fst, hagain]
  · rw [save_snd, save_fst, hagain, save_snd]

/-- The first file that is stored stands in the way of the second one, and still does when they are
stored again. -/
theorem save_again_with_file_in_the_way :
    let artifacts : Artifacts := (single ['a'] [1]).insert ['a', '/', 'b'] [2]
    let save := artifacts.save ⟨.standalone, ⟨['/']⟩, ⟨['/']⟩⟩ none (some ⟨['d', '/', 'e']⟩) []
    (save .empty).2 = .error (.file ⟨['d', '/', 'e', '/', 'a', '/', 'b']⟩ .notDirectory) ∧
      save (save .empty).1 = save .empty := by
  intro artifacts save
  exact ⟨by decide, save_again artifacts _ none (some ⟨['d', '/', 'e']⟩) [] .empty (by decide)⟩

/-- A directory that leads back over one that it makes meets another file the second time. -/
example :
    let tree := ofFound [([['f']], .file 0o644 [])]
    let save := single ['a'] [] |>.save ⟨.standalone, ⟨['/']⟩, ⟨['/']⟩⟩ none
      (some ⟨"/m/../f/x".toList⟩) []
    (save tree).2 = .error (.directory ⟨"/m/../f/x".toList⟩ .alreadyThere) ∧
      (save (save tree).1).2 = .error (.directory ⟨"/m/../f/x".toList⟩ .notDirectory) := by
  decide

end Artifacts

end Evidence
