import Evidence.FileTree.Snapshot
import Evidence.Proofs.ByteOrder
import Evidence.Proofs.WrittenFiles

/-!
# Storing artifacts

What is left behind when artifacts are stored, and when that is refused half-way.

Main definitions:

- `Artifacts.below`: the artifacts whose names are smaller than a given one.

Main results:

- `Artifacts.save_cases`: the three ways in which storing ends.
- `Artifacts.save_partial_failure`: what a refusal leaves behind.
- `Artifacts.save_success`: what success leaves behind.
-/

namespace Evidence.Artifacts

open FileTree

variable {artifacts : Artifacts} {settings : Settings} {testName : Option Text} {base : Option Path}
  {cwd loc : Location} {tree mid after : FileTree} {dir answer path : Path} {name key : Text}
  {content value : Blob} {cause : Cause} {e : Text × Blob} {front back : List (Text × Blob)}

/-! ## How storing ends -/

/-- Either the directory cannot be made, or all artifacts are written, or one of them is refused. -/
theorem save_cases (artifacts : Artifacts) (cwd : Location) (tree : FileTree)
    (hdir : base.getD (settings.testDir testName) = dir) :
    (∃ cause, (tree.makeDirectories cwd dir).2 = some cause ∧
      artifacts.save settings testName base cwd tree
        = ((tree.makeDirectories cwd dir).1, .error (.directory dir cause))) ∨
    ((tree.makeDirectories cwd dir).2 = none ∧ ∃ after,
      write cwd dir (tree.makeDirectories cwd dir).1 artifacts.entries = (after, none) ∧
      artifacts.save settings testName base cwd tree = (after, .ok dir)) ∨
    ((tree.makeDirectories cwd dir).2 = none ∧ ∃ after e,
      write cwd dir (tree.makeDirectories cwd dir).1 artifacts.entries = (after, some e) ∧
      artifacts.save settings testName base cwd tree = (after, .error e)) := by
  rw [save, store_eq, hdir]
  rcases tree.makeDirectories cwd dir with ⟨ready, refused⟩
  cases refused with
  | some cause => exact .inl ⟨cause, rfl, rfl⟩
  | none =>
    right
    rcases hwrite : write cwd dir ready artifacts.entries with ⟨after, refused⟩
    cases refused with
    | none => exact .inl ⟨rfl, after, rfl, by simp only [hwrite]⟩
    | some e => exact .inr ⟨rfl, after, e, rfl, by simp only [hwrite]⟩

/-- Storing succeeds when the directory is made and all artifacts are written. -/
theorem save_eq_ok_iff :
    artifacts.save settings testName base cwd tree = (after, .ok answer) ↔
      base.getD (settings.testDir testName) = answer ∧
        (tree.makeDirectories cwd answer).2 = none ∧
        write cwd answer (tree.makeDirectories cwd answer).1 artifacts.entries = (after, none) := by
  generalize hdir : base.getD (settings.testDir testName) = dir
  rcases save_cases artifacts cwd tree hdir with
    ⟨cause, hmade, hsave⟩ | ⟨hmade, stored, hwrite, hsave⟩ | ⟨hmade, stored, e, hwrite, hsave⟩
  all_goals
    rw [hsave]
    constructor
  · nofun
  · rintro ⟨rfl, hnone, -⟩
    simp [hmade] at hnone
  · intro h
    cases h
    exact ⟨rfl, hmade, hwrite⟩
  · rintro ⟨rfl, -, hafter⟩
    rw [hwrite] at hafter
    cases hafter
    rfl
  · nofun
  · rintro ⟨rfl, -, hafter⟩
    simp [hwrite] at hafter

/-- The tree of a directory's choice is that of the directory. -/
theorem save_fst (artifacts : Artifacts) (settings : Settings) (testName : Option Text)
    (base : Option Path) (cwd : Location) (tree : FileTree) :
    (artifacts.save settings testName base cwd tree).1
      = (artifacts.store cwd (base.getD (settings.testDir testName)) tree).1 := by
  simp only [save]
  rcases artifacts.store cwd (base.getD (settings.testDir testName)) tree with ⟨after, refused⟩
  cases refused <;> rfl

/-- The answer is the directory unless the storing is refused. -/
theorem save_snd (artifacts : Artifacts) (settings : Settings) (testName : Option Text)
    (base : Option Path) (cwd : Location) (tree : FileTree) :
    (artifacts.save settings testName base cwd tree).2
      = match (artifacts.store cwd (base.getD (settings.testDir testName)) tree).2 with
        | some e => .error e
        | none => .ok (base.getD (settings.testDir testName)) := by
  simp only [save]
  rcases artifacts.store cwd (base.getD (settings.testDir testName)) tree with ⟨after, refused⟩
  cases refused <;> rfl

/-- Storing in a directory is saving with the directory given. -/
theorem save_of_store (settings : Settings) (testName : Option Text)
    (h : artifacts.store cwd dir tree = (after, none)) :
    artifacts.save settings testName (some dir) cwd tree = (after, .ok dir) := by
  simp only [save, Option.getD_some, h]

/-- A directory that cannot be made ends the storing. -/
theorem save_of_makeDirectories_eq_some
    (h : (tree.makeDirectories cwd (base.getD (settings.testDir testName))).2 = some cause) :
    artifacts.save settings testName base cwd tree
      = ((tree.makeDirectories cwd (base.getD (settings.testDir testName))).1,
        .error (.directory (base.getD (settings.testDir testName)) cause)) := by
  rcases save_cases artifacts cwd tree rfl with
    ⟨cause', hmade, hsave⟩ | ⟨hmade, -⟩ | ⟨hmade, -⟩
  · cases h.symm.trans hmade
    exact hsave
  · cases h.symm.trans hmade
  · cases h.symm.trans hmade

/-- A refusal over a file comes from the run over the artifacts. -/
theorem write_of_save_eq_file
    (h : artifacts.save settings testName base cwd tree = (after, .error (.file path cause)))
    (hdir : base.getD (settings.testDir testName) = dir) :
    (tree.makeDirectories cwd dir).2 = none ∧
      write cwd dir (tree.makeDirectories cwd dir).1 artifacts.entries
        = (after, some (.file path cause)) := by
  rcases save_cases artifacts cwd tree hdir with
    ⟨cause', hmade, hsave⟩ | ⟨hmade, stored, hwrite, hsave⟩ | ⟨hmade, stored, e, hwrite, hsave⟩
  all_goals
    rw [hsave] at h
    cases h
  exact ⟨hmade, hwrite⟩

/-! ## The artifacts before one of them -/

/-- The artifacts whose names are smaller than a given one, byte by byte. -/
def below (artifacts : Artifacts) (name : Text) : Artifacts where
  entries := artifacts.entries.filter fun e => compare (Utf8.encode e.1) (Utf8.encode name) = .lt
  ascending := artifacts.ascending.filter _

theorem mem_entries_below : e ∈ (artifacts.below name).entries ↔
    e ∈ artifacts.entries ∧ compare (Utf8.encode e.1) (Utf8.encode name) = .lt := by
  simp [below]

/-- In the order of the artifacts, those with smaller names come before the one with the name. -/
theorem entries_below (h : artifacts.entries = front ++ (name, content) :: back) :
    (artifacts.below name).entries = front := by
  have hascending := artifacts.ascending
  rw [h] at hascending
  rcases List.pairwise_append.1 hascending with ⟨-, hback, hfront⟩
  show artifacts.entries.filter _ = front
  simp only [h, List.filter_append, Utf8.compare_encode]
  have hall : front.filter (fun e => compare e.1 name = .lt) = front :=
    List.filter_eq_self.2 fun e he => by simpa using hfront e he (name, content) List.mem_cons_self
  have hnone : ((name, content) :: back).filter (fun e => compare e.1 name = .lt) = [] := by
    refine List.filter_eq_nil_iff.2 fun e he => ?_
    rcases List.mem_cons.1 he with rfl | he
    · simp [Std.ReflOrd.compare_self]
    · have hgt := Std.OrientedCmp.gt_of_lt (List.rel_of_pairwise_cons hback he)
      simp [hgt]
  rw [hall, hnone, List.append_nil]

/-- What a run over the artifacts has done before it comes to one of them is what storing those
before it does. -/
theorem save_below (h : artifacts.entries = front ++ (name, content) :: back)
    (hdir : base.getD (settings.testDir testName) = dir)
    (hmade : (tree.makeDirectories cwd dir).2 = none)
    (hfront : write cwd dir (tree.makeDirectories cwd dir).1 front = (mid, none)) :
    (artifacts.below name).save settings testName base cwd tree = (mid, .ok dir) :=
  save_eq_ok_iff.2 ⟨hdir, hmade, by rwa [entries_below h]⟩

/-- An artifact of a run that succeeds is read back, unless the path of a later one leads to the
same file. -/
theorem readFile_of_write (h : write cwd dir tree (front ++ (name, content) :: back) = (after, none))
    (hback : ∀ e ∈ back, (dir.join name).location cwd ≠ (dir.join e.1).location cwd) :
    after.readFile cwd (dir.join name) = .ok content := by
  have hleads := (leadsToFile_of_write h (List.mem_append_right front List.mem_cons_self)).1
  have hfind := find?_write h ((dir.join name).location cwd)
  rw [contentAt?_append_cons front hback] at hfind
  exact hleads.readFile hfind

/-- A plain name that a file is written under is neither empty nor one of the two that stand for
directories. -/
theorem ordinary_of_leadsToFile (hname : '/' ∉ name) (h : tree.LeadsToFile cwd (dir.join name)) :
    name ≠ [] ∧ Location.IsOrdinary name := by
  rcases h with ⟨loc, last, hresolve, hlast, -, -⟩
  have htaken := isTaken_of_resolve hresolve
  have hhead : name.head? ≠ some '/' := fun heq => hname (List.mem_of_head? heq)
  have hne : name ≠ [] := by
    rintro rfl
    exact hlast (Path.getLast?_join_nil htaken.ne_nil)
  have hnames : (dir.join name).names = dir.names ++ [name] := by
    rw [Path.names_join hhead, Path.names_of_not_mem hname hne]
  rw [resolve_of_names_eq_append htaken hnames] at hresolve
  cases hwalk : tree.walk ((dir.join name).start cwd) dir.names with
  | error cause => simp [hwalk, Except.map] at hresolve
  | ok d =>
    rw [hwalk] at hresolve
    have htarget : Target.at d name = .child loc last := Except.ok.inj hresolve
    refine ⟨hne, ?_, ?_⟩
    · rintro rfl
      simp [Target.at] at htarget
    · rintro rfl
      simp [Target.at, Path.above, Path.here] at htarget

/-! ## Refusals -/

/-- An artifact that a run has come past was written in its turn, after those with smaller names.  It
is read back in the end unless the path of a later one leads to the same file. -/
theorem stored_of_mem_front (hentries : artifacts.entries = front ++ back)
    (hdir : base.getD (settings.testDir testName) = dir)
    (hmade : (tree.makeDirectories cwd dir).2 = none)
    (hfront : write cwd dir (tree.makeDirectories cwd dir).1 front = (after, none))
    (hmem : (name, content) ∈ front) :
    ∃ before stored,
      (artifacts.below name).save settings testName base cwd tree = (before, .ok dir) ∧
      before.writeFile cwd (dir.join name) content = .ok stored ∧
      stored.readFile cwd (dir.join name) = .ok content ∧
      ((∀ e ∈ front, compare (Utf8.encode name) (Utf8.encode e.1) = .lt →
        (dir.join name).location cwd ≠ (dir.join e.1).location cwd) →
        after.readFile cwd (dir.join name) = .ok content) := by
  obtain ⟨first, rest, rfl⟩ := List.append_of_mem hmem
  obtain ⟨before, stored, hfirst, hstep, -⟩ := exists_of_write_append_cons hfront
  have hentries' : artifacts.entries = first ++ (name, content) :: (rest ++ back) := by
    simp [hentries]
  refine ⟨before, stored, save_below hentries' hdir hmade hfirst, hstep,
    readFile_writeFile hstep, fun hothers => readFile_of_write hfront fun e he => ?_⟩
  have hascending := artifacts.ascending
  rw [hentries'] at hascending
  have hlt : compare name e.1 = .lt :=
    List.rel_of_pairwise_cons (List.pairwise_append.1 hascending).2.1 (List.mem_append_left _ he)
  exact hothers e (by simp [he]) ((Utf8.compare_encode name e.1).trans hlt)

/-- Artifacts are stored in the order of their names, up to the first that is refused.

A directory that cannot be made is named by the answer, and no file is new or changed.  A file that
cannot be written is named by the answer too: it is that of the first name, in the order of bytes,
that is refused whatever its content, and the tree is the one that storing the artifacts before it
leaves.  Each of these was written in full in its turn, and is still there unless the path of one
after it leads to the same file. -/
theorem save_partial_failure (artifacts : Artifacts) (settings : Settings) (testName : Option Text)
    (base : Option Path) (cwd : Location) (tree : FileTree) :
    let save (a : Artifacts) := a.save settings testName base cwd tree
    let dir := base.getD (settings.testDir testName)
    (∀ cause, (tree.makeDirectories cwd dir).2 = some cause →
      (save artifacts).2 = .error (.directory dir cause) ∧
        ∀ loc mode content, (save artifacts).1.find? loc = some (.file mode content) ↔
          tree.find? loc = some (.file mode content)) ∧
    (∀ after path cause, save artifacts = (after, .error (.file path cause)) →
      ∃ key, (artifacts.get? key).isSome ∧ path = dir.join key ∧
        (∀ content, after.writeFile cwd (dir.join key) content = .error cause) ∧
        save (artifacts.below key) = (after, .ok dir) ∧
        ∀ name content, artifacts.get? name = some content →
          compare (Utf8.encode name) (Utf8.encode key) = .lt →
          ∃ before stored, save (artifacts.below name) = (before, .ok dir) ∧
            before.writeFile cwd (dir.join name) content = .ok stored ∧
            stored.readFile cwd (dir.join name) = .ok content ∧
            ((∀ other value, artifacts.get? other = some value →
              compare (Utf8.encode name) (Utf8.encode other) = .lt →
              compare (Utf8.encode other) (Utf8.encode key) = .lt →
              (dir.join name).location cwd ≠ (dir.join other).location cwd) →
              after.readFile cwd (dir.join name) = .ok content)) := by
  intro save dir
  constructor
  · intro cause hmade
    have hsave : save artifacts
        = ((tree.makeDirectories cwd dir).1, .error (.directory dir cause)) :=
      save_of_makeDirectories_eq_some hmade
    rw [hsave]
    exact ⟨rfl, fun loc mode content => (grows_makeDirectories tree cwd dir).find?_eq_file_iff⟩
  · intro after path cause h
    obtain ⟨hmade, hwrite⟩ := write_of_save_eq_file h rfl
    obtain ⟨front, key, refused, back, cause, hentries, hfront, hrefused, heq⟩ :=
      exists_of_write_eq_some hwrite
    cases heq
    have hkey : artifacts.get? key = some refused :=
      SortedMap.mem_entries_iff.1 (by simp [hentries])
    have hmem : ∀ e, e ∈ front ↔ artifacts.get? e.1 = some e.2 ∧
        compare (Utf8.encode e.1) (Utf8.encode key) = .lt := fun e => by
      rw [← entries_below hentries, mem_entries_below, SortedMap.mem_entries_iff]
    refine ⟨key, by simp [hkey], rfl, writeFile_eq_error hrefused,
      save_below hentries rfl hmade hfront, fun name content hget hlt => ?_⟩
    obtain ⟨before, stored, hbelow, hstep, hread, hlater⟩ :=
      stored_of_mem_front hentries rfl hmade hfront ((hmem (name, content)).2 ⟨hget, hlt⟩)
    refine ⟨before, stored, hbelow, hstep, hread, fun hothers => hlater fun e he hle => ?_⟩
    obtain ⟨hvalue, hbefore⟩ := (hmem e).1 he
    exact hothers e.1 e.2 hvalue hle hbefore

/-- A name that leads into a missing directory stops the storing: what comes before it is there, and
what comes after it is not. -/
theorem save_partial_failure_into_missing_directory :
    let artifacts : Artifacts :=
      ((single ['a'] [1]).insert ['m', '/', 'b'] [2]).insert ['z'] [3]
    let save (a : Artifacts) := a.save ⟨.standalone, ⟨['/']⟩, ⟨['/']⟩⟩ none (some ⟨['/', 'd']⟩) []
      .empty
    let after := (save artifacts).1
    (save artifacts).2 = .error (.file ⟨['/', 'd', '/', 'm', '/', 'b']⟩ .notFound) ∧
      save (artifacts.below ['m', '/', 'b']) = (after, .ok ⟨['/', 'd']⟩) ∧
      after.readFile [] ⟨['/', 'd', '/', 'a']⟩ = .ok [1] ∧ after.find? [['z'], ['d']] = none := by
  intro artifacts save after
  have hsave : save artifacts
      = (after, .error (.file ⟨['/', 'd', '/', 'm', '/', 'b']⟩ .notFound)) := rfl
  obtain ⟨key, hkey, hpath, -, hbelow, hearlier⟩ := (save_partial_failure artifacts
    ⟨.standalone, ⟨['/']⟩, ⟨['/']⟩⟩ none (some ⟨['/', 'd']⟩) [] .empty).2 _ _ _ hsave
  -- The path in the answer is that of one name only.
  have hname : key = ['m', '/', 'b'] := by
    have hall : ∀ e ∈ artifacts.entries, (⟨['/', 'd', '/', 'm', '/', 'b']⟩ : Path)
        = (⟨['/', 'd']⟩ : Path).join e.1 → e.1 = ['m', '/', 'b'] := by decide
    obtain ⟨content, hget⟩ := Option.isSome_iff_exists.1 hkey
    exact hall (key, content) (SortedMap.mem_entries_iff.2 hget) hpath
  subst hname
  obtain ⟨before, stored, -, -, -, hkept⟩ := hearlier ['a'] [1] rfl (by decide)
  refine ⟨rfl, hbelow, hkept fun other value hget hafter hbefore => ?_, rfl⟩
  have hnone : ∀ e ∈ artifacts.entries, ¬ (compare (Utf8.encode ['a']) (Utf8.encode e.1) = .lt ∧
      compare (Utf8.encode e.1) (Utf8.encode ['m', '/', 'b']) = .lt) := by decide
  exact absurd ⟨hafter, hbefore⟩ (hnone (other, value) (SortedMap.mem_entries_iff.2 hget))

/-! ## Success -/

/-- After a success a tree holds the artifacts where their paths lead, new directories on the way to
the directory, and elsewhere what it held. -/
theorem find?_save (h : artifacts.save settings testName base cwd tree = (after, .ok dir))
    (loc : Location) :
    after.find? loc = match contentAt? cwd dir loc artifacts.entries with
      | some content => some (.file (tree.fileModeAt loc) content)
      | none => if tree.find? loc = none ∧ loc ∈ dir.through cwd then some (.directory 0o775)
        else tree.find? loc := by
  obtain ⟨-, hmade, hwrite⟩ := save_eq_ok_iff.1 h
  rw [find?_write hwrite loc, (grows_makeDirectories tree cwd dir).fileModeAt]
  cases contentAt? cwd dir loc artifacts.entries with
  | some content => rfl
  | none => exact find?_makeDirectories hmade loc

/-- Every artifact that is stored has a place for its file, and no directory is in it. -/
theorem leadsToFile_of_save (h : artifacts.save settings testName base cwd tree = (after, .ok dir))
    (hmem : (name, content) ∈ artifacts.entries) :
    after.LeadsToFile cwd (dir.join name) ∧ ¬ tree.IsDirectory ((dir.join name).location cwd) := by
  obtain ⟨-, -, hwrite⟩ := save_eq_ok_iff.1 h
  obtain ⟨hleads, hfree⟩ := leadsToFile_of_write hwrite hmem
  exact ⟨hleads, fun hdir => hfree ((grows_makeDirectories tree cwd dir).isDirectory hdir)⟩

/-- A plain name that a file is stored under leads to an entry of the directory. -/
theorem location_join_of_save (h : artifacts.save settings testName base cwd tree = (after, .ok dir))
    (hmem : (name, content) ∈ artifacts.entries) (hname : '/' ∉ name) :
    (dir.join name).location cwd = name :: dir.location cwd := by
  obtain ⟨hne, hord⟩ := ordinary_of_leadsToFile hname (leadsToFile_of_save h hmem).1
  exact Path.location_join hname hne hord

/-- Artifacts whose names lead to entries of the directory are left under their names. -/
theorem contentAt?_eq_some_iff
    (hjoin : ∀ e ∈ artifacts.entries, (dir.join e.1).location cwd = e.1 :: dir.location cwd) :
    contentAt? cwd dir loc artifacts.entries = some content ↔
      ∃ name, (name, content) ∈ artifacts.entries ∧ loc = name :: dir.location cwd := by
  constructor
  · intro h
    obtain ⟨name, hmem, hloc⟩ := exists_of_contentAt?_eq_some h
    exact ⟨name, hmem, hloc.trans (hjoin _ hmem)⟩
  · rintro ⟨name, hmem, rfl⟩
    rw [← hjoin _ hmem]
    obtain ⟨front, back, hentries⟩ := List.append_of_mem hmem
    rw [hentries]
    refine contentAt?_append_cons front fun e he heq => ?_
    have hascending := artifacts.ascending
    rw [hentries] at hascending
    have hlt := List.rel_of_pairwise_cons (List.pairwise_append.1 hascending).2.1 he
    rw [hjoin e (by simp [hentries, he]), hjoin _ hmem] at heq
    have hname : name = e.1 := List.head_eq_of_cons_eq heq
    simp [hname, Std.ReflOrd.compare_self] at hlt

/-- An artifact with a plain name is left under its name. -/
theorem contentAt?_of_save (h : artifacts.save settings testName base cwd tree = (after, .ok dir))
    (hplain : ∀ e ∈ artifacts.entries, '/' ∉ e.1) (hmem : (name, content) ∈ artifacts.entries) :
    contentAt? cwd dir ((dir.join name).location cwd) artifacts.entries = some content := by
  have hjoin : ∀ e ∈ artifacts.entries, (dir.join e.1).location cwd = e.1 :: dir.location cwd :=
    fun e he => location_join_of_save h he (hplain e he)
  exact (contentAt?_eq_some_iff hjoin).2 ⟨name, hmem, hjoin _ hmem⟩

/-- An artifact with a plain name that was stored is read back. -/
theorem readFile_of_save (h : artifacts.save settings testName base cwd tree = (after, .ok dir))
    (hplain : ∀ e ∈ artifacts.entries, '/' ∉ e.1) (hmem : (name, content) ∈ artifacts.entries) :
    after.readFile cwd (dir.join name) = .ok content := by
  have hfind := find?_save h ((dir.join name).location cwd)
  rw [contentAt?_of_save h hplain hmem] at hfind
  exact (leadsToFile_of_save h hmem).1.readFile hfind

/-- The directories that a path leads through are there once artifacts are stored in it. -/
theorem isDirectory_of_save (h : artifacts.save settings testName base cwd tree = (after, .ok dir)) :
    ∀ l ∈ dir.through cwd, after.IsDirectory l := by
  obtain ⟨-, hmade, hwrite⟩ := save_eq_ok_iff.1 h
  intro l hl
  have hkept := sameDirectories_write cwd dir (tree.makeDirectories cwd dir).1 artifacts.entries l
  rw [hwrite] at hkept
  exact hkept.2 (isDirectory_of_makeDirectories hmade l hl)

/-- Storing artifacts with plain names leaves them in the directory, and nothing else is new but the
directories on the way to it.

A file that was there keeps its mode and none of its content; one that was not has mode 644.  Every
other file and directory is as it was. -/
theorem save_success
    (hplain : ∀ e ∈ artifacts.entries, '/' ∉ e.1)
    (h : artifacts.save settings testName base cwd tree = (after, .ok answer)) :
    let dir := base.getD (settings.testDir testName)
    answer = dir ∧
    (∀ name content, artifacts.get? name = some content →
      after.readFile cwd (dir.join name) = .ok content ∧
      ∃ mode, after.find? (name :: dir.location cwd) = some (.file mode content) ∧
        (tree.find? (name :: dir.location cwd) = none ∧ mode = 0o644 ∨
          ∃ old, tree.find? (name :: dir.location cwd) = some (.file mode old))) ∧
    (∀ l ∈ dir.through cwd, after.IsDirectory l) ∧
    ∀ loc, (∀ name content, artifacts.get? name = some content → loc ≠ name :: dir.location cwd) →
      after.find? loc = if tree.find? loc = none ∧ loc ∈ dir.through cwd
        then some (.directory 0o775) else tree.find? loc := by
  intro dir
  obtain rfl : dir = answer := (save_eq_ok_iff.1 h).1
  have hjoin : ∀ e ∈ artifacts.entries, (dir.join e.1).location cwd = e.1 :: dir.location cwd :=
    fun e he => location_join_of_save h he (hplain e he)
  refine ⟨rfl, fun name content hget => ?_, isDirectory_of_save h, fun loc hother => ?_⟩
  · have hmem := SortedMap.mem_entries_iff.2 hget
    have hfind := find?_save h ((dir.join name).location cwd)
    have hfree := (leadsToFile_of_save h hmem).2
    rw [contentAt?_of_save h hplain hmem] at hfind
    rw [hjoin _ hmem] at hfind hfree
    refine ⟨readFile_of_save h hplain hmem, _, hfind, ?_⟩
    exact fileModeAt_of_not_isDirectory hfree
  · have hnone : contentAt? cwd dir loc artifacts.entries = none :=
      contentAt?_eq_none fun e he => by
        rw [hjoin e he]
        exact hother e.1 e.2 (SortedMap.mem_entries_iff.1 he)
    rw [find?_save h loc, hnone]

/-- An artifact takes the place of a longer file, another one is new beside it. -/
theorem save_success_over_longer_file :
    let tree := ofFound [([['d']], .directory 0o700), ([['a'], ['d']], .file 0o600 [1, 2, 3])]
    let artifacts : Artifacts := (single ['a'] [7]).insert ['b'] []
    ∃ after, artifacts.save ⟨.standalone, ⟨['/']⟩, ⟨['/']⟩⟩ none (some ⟨['d']⟩) [] tree
        = (after, .ok ⟨['d']⟩) ∧
      after.readFile [] ⟨['d', '/', 'a']⟩ = .ok [7] ∧
      after.find? [['d']] = some (.directory 0o700) := by
  intro tree artifacts
  have hplain : ∀ e ∈ artifacts.entries, '/' ∉ e.1 := by decide
  have h : artifacts.save ⟨.standalone, ⟨['/']⟩, ⟨['/']⟩⟩ none (some ⟨['d']⟩) [] tree
      = ((artifacts.save ⟨.standalone, ⟨['/']⟩, ⟨['/']⟩⟩ none (some ⟨['d']⟩) [] tree).1,
        .ok ⟨['d']⟩) := rfl
  obtain ⟨-, hstored, -, hframe⟩ := save_success hplain h
  refine ⟨_, h, (hstored ['a'] [7] rfl).1, ?_⟩
  have hother : ∀ name : Text, [['d']] ≠ name :: (⟨['d']⟩ : Path).location [] := fun name heq =>
    absurd (List.cons.inj heq).2 (by decide)
  exact (hframe [['d']] fun name content _ => hother name).trans rfl

end Evidence.Artifacts
