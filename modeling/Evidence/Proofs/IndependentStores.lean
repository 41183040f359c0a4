import Evidence.Kubernetes.Dump
import Evidence.Proofs.AskedNamespaces
import Evidence.Proofs.StoringAgain
import Evidence.Report
import Mathlib.Data.List.TakeWhile

/-!
# Independent stores

Artifacts with different plain names that are stored in one directory do not get in each other's
way, so that it does not matter in which order they are stored.

Main definitions:

- `FileTree.Independent` and `FileTree.inTurn`: actions whose order does not matter, and a run of
  several actions.
- `Artifacts.accepted`: the artifacts before the first that is refused.
- `Exhibit` and `Exhibit.store`: what is kept about a test in its directory.

Main results:

- `FileTree.inTurn_of_perm`: independent actions leave the same tree in any order.
- `Artifacts.write_accepted`: what a run over artifacts leaves is what the accepted ones leave.
- `Artifacts.independent_save`: artifacts with different plain names are stored independently.
- `Artifacts.save_union`: storing two maps of artifacts stores their union.
- `Exhibit.stores_in_any_order`: what is kept about a test may be stored in any order.
-/

namespace Evidence

namespace FileTree

/-! ## Actions -/

section Actions

variable {α β : Type} {f g : FileTree → FileTree × α} {fs fs' : List (FileTree → FileTree × α)}

/-- Actions on a tree are independent when both orders leave the same tree, and each gives the
answer that it gives alone. -/
structure Independent (f g : FileTree → FileTree × α) : Prop where
  trees : ∀ tree, (g (f tree).1).1 = (f (g tree).1).1
  first : ∀ tree, (f (g tree).1).2 = (f tree).2
  second : ∀ tree, (g (f tree).1).2 = (g tree).2

theorem Independent.symm (h : Independent f g) : Independent g f :=
  ⟨fun tree => (h.trees tree).symm, h.second, h.first⟩

/-- An action that only answers is independent of all others. -/
theorem independent_of_answer (f : FileTree → FileTree × α) (answer : α) :
    Independent (fun tree => (tree, answer)) f :=
  ⟨fun _ => rfl, fun _ => rfl, fun _ => rfl⟩

/-- Run actions one after the other, and keep their answers. -/
def inTurn : List (FileTree → FileTree × α) → FileTree → FileTree × List α
  | [], tree => (tree, [])
  | f :: rest, tree => ((inTurn rest (f tree).1).1, (f tree).2 :: (inTurn rest (f tree).1).2)

/-- In a run of independent actions each gives the answer that it gives alone. -/
theorem inTurn_snd (h : fs.Pairwise Independent) (tree : FileTree) :
    (inTurn fs tree).2 = fs.map fun f => (f tree).2 := by
  induction fs generalizing tree with
  | nil => rfl
  | cons f rest ih =>
    obtain ⟨hfirst, hrest⟩ := List.pairwise_cons.1 h
    have hsame : (rest.map fun g => (g (f tree).1).2) = rest.map fun g => (g tree).2 :=
      List.map_congr_left fun g hg => (hfirst g hg).second tree
    rw [inTurn, ih hrest, hsame, List.map_cons]

/-- Independent actions leave the same tree in any order. -/
theorem inTurn_of_perm (hperm : fs.Perm fs') (h : fs.Pairwise Independent) (tree : FileTree) :
    (inTurn fs tree).1 = (inTurn fs' tree).1 := by
  induction hperm generalizing tree with
  | nil => rfl
  | cons f hperm ih => exact ih (List.pairwise_cons.1 h).2 (f tree).1
  | swap f g rest =>
    have hpair : Independent g f := (List.pairwise_cons.1 h).1 f List.mem_cons_self
    simp only [inTurn, hpair.trees]
  | trans hperm hperm' ih ih' =>
    have hmiddle := h.perm hperm fun hpair => hpair.symm
    exact (ih h tree).trans (ih' hmiddle tree)

end Actions

/-! ## Refusals of plain names -/

variable {tree tree' : FileTree} {cwd : Location} {dir : Path} {name : Text}

/-- Where the directories on the way are there, a plain name is refused for a reason that lies in
the directories. -/
theorem SameDirectories.refusal?_join (h : SameDirectories tree tree')
    (hthere : ∀ l ∈ dir.through cwd, tree.IsDirectory l) (hname : '/' ∉ name) :
    tree'.refusal? cwd (dir.join name) = tree.refusal? cwd (dir.join name) := by
  have hhead : name.head? ≠ some '/' := fun heq => hname (List.mem_of_head? heq)
  apply h.refusal?_eq
  apply resolve_congr
  intro before last hnames
  -- The walk goes no further than to the directory.
  have hbefore : before <+: dir.names := by
    rw [Path.names_join hhead] at hnames
    by_cases hne : name = []
    · subst hne
      rw [show (⟨[]⟩ : Path).names = [] from rfl, List.append_nil] at hnames
      exact ⟨[last], hnames.symm⟩
    · rw [Path.names_of_not_mem hname hne] at hnames
      obtain ⟨rfl, -⟩ := List.append_inj' hnames rfl
      exact List.prefix_rfl
  have hstart : (dir.join name).start cwd = dir.start cwd := by
    rw [Path.start, Path.start, Path.isAbsolute_join hhead]
  have hway : ∀ l ∈ Location.through ((dir.join name).start cwd) before, tree.IsDirectory l := by
    intro l hl
    rw [hstart] at hl
    exact hthere l (Location.through_subset_of_isPrefix _ hbefore hl)
  exact walk_congr hway fun l hl => (h l).2 (hway l hl)

end FileTree

namespace Artifacts

open FileTree

variable {artifacts others : Artifacts} {settings : Settings} {testName : Option Text}
  {base : Option Path} {cwd loc : Location} {dir : Path} {tree tree' : FileTree}
  {entries front back : List (Text × Blob)} {name : Text} {content : Blob}

/-! ## Accepted artifacts -/

/-- The artifacts before the first that is refused. -/
def accepted (cwd : Location) (dir : Path) (tree : FileTree) (entries : List (Text × Blob)) :
    List (Text × Blob) :=
  entries.takeWhile fun e => tree.refusal? cwd (dir.join e.1) = none

/-- Some artifacts are refused alike in all trees with the same directories. -/
def Steady (cwd : Location) (dir : Path) (tree : FileTree) (entries : List (Text × Blob)) : Prop :=
  ∀ tree', SameDirectories tree tree' → ∀ e ∈ entries,
    tree'.refusal? cwd (dir.join e.1) = tree.refusal? cwd (dir.join e.1)

/-- Artifacts with plain names are refused alike once their directory is there. -/
theorem steady_of_plain (hthere : ∀ l ∈ dir.through cwd, tree.IsDirectory l)
    (hplain : ∀ e ∈ entries, '/' ∉ e.1) : Steady cwd dir tree entries :=
  fun _ hsame e he => hsame.refusal?_join hthere (hplain e he)

/-- Artifacts that are refused alike end a run alike. -/
theorem write_snd_of_steady (hsteady : Steady cwd dir tree entries)
    (hsame : SameDirectories tree tree') :
    (write cwd dir tree' entries).2 = (write cwd dir tree entries).2 := by
  -- Both runs are compared with one from any tree with the same directories.
  suffices h : ∀ s t, SameDirectories tree s → SameDirectories tree t →
      (write cwd dir s entries).2 = (write cwd dir t entries).2 from
    h tree' tree hsame fun _ => Iff.rfl
  clear hsame
  induction entries with
  | nil => exact fun s t hs ht => rfl
  | cons entry rest ih =>
    intro s t hs ht
    rcases entry with ⟨name, content⟩
    have hrefusal : s.refusal? cwd (dir.join name) = t.refusal? cwd (dir.join name) :=
      (hsteady s hs _ List.mem_cons_self).trans (hsteady t ht _ List.mem_cons_self).symm
    rw [write, write]
    cases hstep : s.writeFile cwd (dir.join name) content with
    | error cause =>
      rw [writeFile_eq_error_iff, hrefusal, ← writeFile_eq_error_iff] at hstep
      rw [hstep]
    | ok s' =>
      have hfree := (exists_writeFile_eq_ok_iff content).1 ⟨s', hstep⟩
      rw [hrefusal] at hfree
      obtain ⟨t', hstep'⟩ := (exists_writeFile_eq_ok_iff content).2 hfree
      rw [hstep']
      refine ih (fun u hu e he => hsteady u hu e (List.mem_cons_of_mem _ he)) s' t' ?_ ?_
      · exact fun l => (sameDirectories_writeFile hstep l).trans (hs l)
      · exact fun l => (sameDirectories_writeFile hstep' l).trans (ht l)

/-- What a run over artifacts leaves is what the accepted ones leave, whatever files are there. -/
theorem write_accepted (hsteady : Steady cwd dir tree entries)
    (hsame : SameDirectories tree tree') :
    write cwd dir tree' (accepted cwd dir tree entries)
      = ((write cwd dir tree' entries).1, none) := by
  induction entries generalizing tree' with
  | nil => rfl
  | cons entry rest ih =>
    rcases entry with ⟨name, content⟩
    have hrefusal := hsteady tree' hsame _ List.mem_cons_self
    rw [accepted, List.takeWhile_cons]
    cases hstep : tree'.writeFile cwd (dir.join name) content with
    | error cause =>
      have hrefused := hrefusal.symm.trans (writeFile_eq_error_iff.1 hstep)
      simp [hrefused, write, hstep]
    | ok mid =>
      have hfree := hrefusal.symm.trans ((exists_writeFile_eq_ok_iff content).1 ⟨mid, hstep⟩)
      have hrest := ih (fun u hu e he => hsteady u hu e (List.mem_cons_of_mem _ he))
        fun l => (sameDirectories_writeFile hstep l).trans (hsame l)
      rw [accepted] at hrest
      simp only [hfree, decide_true, if_true, write, hstep]
      exact hrest

/-- What is there after a run over artifacts: the accepted ones, and elsewhere what was there. -/
theorem find?_write_of_steady (hsteady : Steady cwd dir tree entries)
    (hsame : SameDirectories tree tree') (loc : Location) :
    (write cwd dir tree' entries).1.find? loc
      = match contentAt? cwd dir loc (accepted cwd dir tree entries) with
        | some content => some (.file (tree'.fileModeAt loc) content)
        | none => tree'.find? loc :=
  find?_write (write_accepted hsteady hsame) loc

/-- Files keep their modes, however a run over artifacts ends. -/
theorem fileModeAt_write_fst (cwd : Location) (dir : Path) (tree : FileTree)
    (entries : List (Text × Blob)) (loc : Location) :
    (write cwd dir tree entries).1.fileModeAt loc = tree.fileModeAt loc := by
  obtain ⟨front, -, hfront⟩ := exists_front_of_write cwd dir tree entries
  exact fileModeAt_write hfront loc

/-- A plain name that is not refused leads to an entry of the directory. -/
theorem location_join_of_refusal?_eq_none (hname : '/' ∉ name)
    (hfree : tree.refusal? cwd (dir.join name) = none) :
    (dir.join name).location cwd = name :: dir.location cwd := by
  obtain ⟨hne, hord⟩ := ordinary_of_leadsToFile hname (refusal?_eq_none_iff.1 hfree).1
  exact Path.location_join hname hne hord

/-- No accepted artifact is refused. -/
theorem refusal?_of_accepted (h : (name, content) ∈ accepted cwd dir tree entries) :
    tree.refusal? cwd (dir.join name) = none := by
  simpa using List.mem_takeWhile_imp h

/-- Two runs over artifacts with different plain names leave nothing at the same place. -/
theorem contentAt?_accepted_eq_none (hplain : ∀ e ∈ front, '/' ∉ e.1)
    (hplain' : ∀ e ∈ back, '/' ∉ e.1) (hdisjoint : ∀ e ∈ front, ∀ e' ∈ back, e.1 ≠ e'.1)
    (loc : Location) :
    contentAt? cwd dir loc (accepted cwd dir tree front) = none ∨
      contentAt? cwd dir loc (accepted cwd dir tree back) = none := by
  cases hfront : contentAt? cwd dir loc (accepted cwd dir tree front) with
  | none => exact .inl rfl
  | some content =>
    right
    obtain ⟨name, hmem, hloc⟩ := exists_of_contentAt?_eq_some hfront
    have hname := List.takeWhile_subset _ hmem
    apply contentAt?_eq_none
    rintro ⟨name', content'⟩ hmem' hloc'
    have hname' := List.takeWhile_subset _ hmem'
    rw [location_join_of_refusal?_eq_none (hplain _ hname) (refusal?_of_accepted hmem)] at hloc
    rw [location_join_of_refusal?_eq_none (hplain' _ hname') (refusal?_of_accepted hmem'), hloc]
      at hloc'
    exact hdisjoint _ hname _ hname' (List.head_eq_of_cons_eq hloc')

/-- Runs over artifacts with different plain names in a directory that is there leave the same tree
in both orders. -/
theorem write_comm (hthere : ∀ l ∈ dir.through cwd, tree.IsDirectory l)
    (hplain : ∀ e ∈ front, '/' ∉ e.1) (hplain' : ∀ e ∈ back, '/' ∉ e.1)
    (hdisjoint : ∀ e ∈ front, ∀ e' ∈ back, e.1 ≠ e'.1) :
    (write cwd dir (write cwd dir tree front).1 back).1
      = (write cwd dir (write cwd dir tree back).1 front).1 := by
  have hfront := steady_of_plain hthere hplain
  have hback := steady_of_plain hthere hplain'
  have hsame : SameDirectories tree tree := fun _ => Iff.rfl
  apply ext_find?
  intro loc
  rw [find?_write_of_steady hback (sameDirectories_write cwd dir tree front),
    find?_write_of_steady hfront (sameDirectories_write cwd dir tree back),
    find?_write_of_steady hfront hsame, find?_write_of_steady hback hsame,
    fileModeAt_write_fst, fileModeAt_write_fst]
  rcases contentAt?_accepted_eq_none hplain hplain' hdisjoint loc with hnone | hnone
  · rw [hnone]
  · rw [hnone]

/-! ## Independent maps of artifacts -/

/-- Storing artifacts after others with different plain names ends as it does without them, and both
orders leave the same tree. -/
theorem store_store (habove : Path.above ∉ dir.names) (tree : FileTree)
    (hplain : ∀ e ∈ artifacts.entries, '/' ∉ e.1) (hplain' : ∀ e ∈ others.entries, '/' ∉ e.1)
    (hdisjoint : ∀ e ∈ artifacts.entries, ∀ e' ∈ others.entries, e.1 ≠ e'.1) :
    (others.store cwd dir (artifacts.store cwd dir tree).1).1
      = (artifacts.store cwd dir (others.store cwd dir tree).1).1 ∧
    (others.store cwd dir (artifacts.store cwd dir tree).1).2 = (others.store cwd dir tree).2 := by
  have hagain := makeDirectories_again tree cwd habove
  rcases hmade : tree.makeDirectories cwd dir with ⟨made, refused⟩
  rw [hmade] at hagain
  cases refused with
  | some cause => simp only [store_eq, hmade, hagain, and_self]
  | none =>
    have hthere : ∀ l ∈ dir.through cwd, made.IsDirectory l := by
      have hdirs := isDirectory_of_makeDirectories (congrArg Prod.snd hmade)
      rwa [hmade] at hdirs
    have hstore : ∀ x : Artifacts, x.store cwd dir tree = write cwd dir made x.entries := by
      intro x
      rw [store_eq, hmade]
    rw [hstore, hstore, store_of_made hmade (sameDirectories_write cwd dir made _),
      store_of_made hmade (sameDirectories_write cwd dir made _)]
    refine ⟨write_comm hthere hplain hplain' hdisjoint, ?_⟩
    exact write_snd_of_steady (steady_of_plain hthere hplain') (sameDirectories_write cwd dir made _)

/-- Maps of artifacts with different plain names are stored independently in one directory. -/
theorem independent_save
    (habove : Path.above ∉ (base.getD (settings.testDir testName)).names)
    (hplain : ∀ e ∈ artifacts.entries, '/' ∉ e.1) (hplain' : ∀ e ∈ others.entries, '/' ∉ e.1)
    (hdisjoint : ∀ e ∈ artifacts.entries, ∀ e' ∈ others.entries, e.1 ≠ e'.1) :
    Independent (artifacts.save settings testName base cwd)
      (others.save settings testName base cwd) := by
  have hother : ∀ e ∈ others.entries, ∀ e' ∈ artifacts.entries, e.1 ≠ e'.1 :=
    fun e he e' he' heq => hdisjoint e' he' e he heq.symm
  constructor
  · intro tree
    simp only [save_fst]
    exact (store_store habove tree hplain hplain' hdisjoint).1
  · intro tree
    rw [save_snd, save_fst, (store_store habove tree hplain' hplain hother).2, save_snd]
  · intro tree
    rw [save_snd, save_fst, (store_store habove tree hplain hplain' hdisjoint).2, save_snd]

end Artifacts

/-! ## Unions -/

namespace SortedMap

/-- A map has one entry for a key. -/
theorem eq_of_mem_entries {α β : Type} [Ord α] [Std.LawfulEqOrd α] {m : SortedMap α β}
    {e e' : α × β} (he : e ∈ m.entries) (he' : e' ∈ m.entries) (hkey : e.1 = e'.1) : e = e' := by
  have hget : m.get? e.1 = some e.2 := mem_entries_iff.1 he
  have hget' : m.get? e'.1 = some e'.2 := mem_entries_iff.1 he'
  rw [hkey, hget'] at hget
  exact Prod.ext hkey (Option.some.inj hget).symm

variable {α β : Type} [Ord α] [DecidableEq α] [Std.TransOrd α] [Std.LawfulEqOrd α]
  {m n : SortedMap α β} {e : α × β}

/-- The entries of two maps; where both have a key, that of the second counts. -/
def union (m n : SortedMap α β) : SortedMap α β :=
  ofList (m.entries ++ n.entries)

/-- The union of maps with different keys holds the entries of both. -/
theorem mem_entries_union (hdisjoint : ∀ e ∈ m.entries, ∀ e' ∈ n.entries, e.1 ≠ e'.1) :
    e ∈ (m.union n).entries ↔ e ∈ m.entries ∨ e ∈ n.entries := by
  rw [← List.mem_append]
  refine ⟨mem_of_mem_ofList, fun hmem => ?_⟩
  -- The entry that is found under the key is the only one with the key.
  have hkey : e.1 ∈ (m.union n).keys := mem_keys_ofList.2 (List.mem_map_of_mem hmem)
  obtain ⟨value, hget⟩ := Option.isSome_iff_exists.1 (mem_keys_iff.1 hkey)
  have hfound := mem_entries_iff.2 hget
  have hsame : (e.1, value) = e := by
    rcases List.mem_append.1 (mem_of_mem_ofList hfound) with hm | hn
    · rcases List.mem_append.1 hmem with hm' | hn'
      · exact eq_of_mem_entries hm hm' rfl
      · exact absurd rfl (hdisjoint (e.1, value) hm e hn')
    · rcases List.mem_append.1 hmem with hm' | hn'
      · exact absurd rfl (hdisjoint e hm' (e.1, value) hn)
      · exact eq_of_mem_entries hn hn' rfl
  rwa [hsame] at hfound

end SortedMap

namespace Artifacts

open FileTree

variable {artifacts others : Artifacts} {settings : Settings} {testName : Option Text}
  {base : Option Path} {cwd : Location} {dir : Path} {tree mid after : FileTree}

/-- Writing two maps of artifacts with different plain names, one after the other, writes their
union. -/
theorem write_union (hplain : ∀ e ∈ artifacts.entries, '/' ∉ e.1)
    (hplain' : ∀ e ∈ others.entries, '/' ∉ e.1)
    (hdisjoint : ∀ e ∈ artifacts.entries, ∀ e' ∈ others.entries, e.1 ≠ e'.1)
    (h : write cwd dir tree artifacts.entries = (mid, none))
    (h' : write cwd dir mid others.entries = (after, none)) :
    write cwd dir tree (artifacts.union others).entries = (after, none) := by
  have hsame : SameDirectories tree mid := by
    have hstep := sameDirectories_write cwd dir tree artifacts.entries
    rwa [h] at hstep
  have hfree : ∀ e ∈ artifacts.entries, tree.refusal? cwd (dir.join e.1) = none :=
    write_snd_eq_none_iff.1 (congrArg Prod.snd h)
  have hfree' : ∀ e ∈ others.entries, tree.refusal? cwd (dir.join e.1) = none := fun e he =>
    hsame.symm.refusal?_eq_none (write_snd_eq_none_iff.1 (congrArg Prod.snd h') e he)
  have hunion : ∀ e ∈ (artifacts.union others).entries,
      '/' ∉ e.1 ∧ tree.refusal? cwd (dir.join e.1) = none := by
    intro e he
    rcases (SortedMap.mem_entries_union hdisjoint).1 he with he | he
    · exact ⟨hplain e he, hfree e he⟩
    · exact ⟨hplain' e he, hfree' e he⟩
  have hall : (write cwd dir tree (artifacts.union others).entries).2 = none :=
    write_snd_eq_none_iff.2 fun e he => (hunion e he).2
  refine Prod.ext (ext_find? fun loc => ?_) hall
  have hcontent : ∀ content, contentAt? cwd dir loc (artifacts.union others).entries = some content ↔
      contentAt? cwd dir loc artifacts.entries = some content ∨
        contentAt? cwd dir loc others.entries = some content := by
    intro content
    rw [contentAt?_eq_some_iff fun e he =>
        location_join_of_refusal?_eq_none (hunion e he).1 (hunion e he).2,
      contentAt?_eq_some_iff fun e he =>
        location_join_of_refusal?_eq_none (hplain e he) (hfree e he),
      contentAt?_eq_some_iff fun e he =>
        location_join_of_refusal?_eq_none (hplain' e he) (hfree' e he), ← exists_or]
    simp only [SortedMap.mem_entries_union hdisjoint, or_and_right]
  rw [find?_write (Prod.ext rfl hall) loc, find?_write h' loc, find?_write h loc, fileModeAt_write h]
  cases hother : contentAt? cwd dir loc others.entries with
  | some content => rw [(hcontent content).2 (.inr hother)]
  | none =>
    cases hone : contentAt? cwd dir loc artifacts.entries with
    | some content => rw [(hcontent content).2 (.inl hone)]
    | none =>
      have hnone : contentAt? cwd dir loc (artifacts.union others).entries = none :=
        Option.eq_none_iff_forall_ne_some.2 fun content hsome => by
          simpa [hone, hother] using (hcontent content).1 hsome
      rw [hnone]

/-- Storing two maps of artifacts with different plain names, one after the other, stores their
union. -/
theorem save_union (hplain : ∀ e ∈ artifacts.entries, '/' ∉ e.1)
    (hplain' : ∀ e ∈ others.entries, '/' ∉ e.1)
    (hdisjoint : ∀ e ∈ artifacts.entries, ∀ e' ∈ others.entries, e.1 ≠ e'.1)
    (h : artifacts.save settings testName base cwd tree = (mid, .ok dir))
    (h' : others.save settings testName base cwd mid = (after, .ok dir)) :
    save (artifacts.union others) settings testName base cwd tree = (after, .ok dir) := by
  obtain ⟨hbase, hmade, hwrite⟩ := save_eq_ok_iff.1 h
  obtain ⟨-, -, hwrite'⟩ := save_eq_ok_iff.1 h'
  have hsame := sameDirectories_write cwd dir (tree.makeDirectories cwd dir).1 artifacts.entries
  rw [hwrite] at hsame
  rw [makeDirectories_of_made (Prod.ext rfl hmade) hsame] at hwrite'
  exact save_eq_ok_iff.2 ⟨hbase, hmade, write_union hplain hplain' hdisjoint hwrite hwrite'⟩

end Artifacts

/-! ## What is kept about a test -/

open FileTree

/-- What is kept about a test in its directory: collected logs, the report on the test, or a
document with the pods of a namespace. -/
inductive Exhibit where
  | logs (collected : List NamespaceLog)
  | report (entries : List Report.Entry)
  | pods (ns : Text) (resource : Except Text Yaml.Value)

namespace Exhibit

variable {x y : Exhibit} {settings : Settings} {testName : Option Text} {cwd : Location}

/-- Keep an exhibit in the directory of a test.  The answer is the directory. -/
def store (x : Exhibit) (settings : Settings) (testName : Option Text) (cwd : Location)
    (tree : FileTree) : FileTree × Except StoreError Path :=
  match x with
  | logs collected => (Collection.artifacts collected).save settings testName none cwd tree
  | report entries => (Report.artifacts entries).save settings testName none cwd tree
  | pods ns resource =>
    match Document.store resource (Kubernetes.Dump.name ns) settings testName cwd tree with
    | (tree, some e) => (tree, .error e)
    | (tree, none) => (tree, .ok (settings.testDir testName))

/-- The namespaces that give names to the artifacts of an exhibit. -/
def namespaces : Exhibit → List Text
  | logs collected => collected.map fun log => log.ns.name
  | report _ => []
  | pods ns _ => [ns]

/-- The character that the artifacts of an exhibit have at the end of their names. -/
def mark : Exhibit → Char
  | logs _ => 'g'
  | report _ => 't'
  | pods .. => 'l'

/-- The names of the artifacts of an exhibit are plain when its namespaces are, and end in its
mark. -/
def Names (x : Exhibit) (artifacts : Artifacts) : Prop :=
  ∀ e ∈ artifacts.entries, '/' ∉ e.1 ∧ e.1.getLast? = some x.mark

/-- An exhibit is stored as artifacts that it names, or cannot be made into artifacts. -/
theorem exists_artifacts (x : Exhibit) (hplain : ∀ ns ∈ x.namespaces, '/' ∉ ns)
    (settings : Settings) (testName : Option Text) (cwd : Location) :
    (∃ artifacts, x.Names artifacts ∧
      x.store settings testName cwd = artifacts.save settings testName none cwd) ∨
    ∃ answer, x.store settings testName cwd = fun tree => (tree, answer) := by
  cases x with
  | logs collected =>
    refine .inl ⟨Collection.artifacts collected, ?_, rfl⟩
    intro e he
    obtain ⟨log, hlog, rfl⟩ := Collection.exists_of_mem_artifacts he
    have hns := hplain _ (List.mem_map_of_mem hlog)
    exact ⟨Collection.plain_artifactName hns, by simp [Collection.artifactName, mark]⟩
  | report entries =>
    refine .inl ⟨Report.artifacts entries, ?_, rfl⟩
    intro e he
    rw [List.mem_singleton.1 he]
    have hplain : '/' ∉ Report.artifactName ∧ Report.artifactName.getLast? = some 't' := by decide
    exact hplain
  | pods ns resource =>
    cases resource with
    | error reason => exact .inr ⟨.error (.yaml (Kubernetes.Dump.name ns) reason), rfl⟩
    | ok value =>
      refine .inl ⟨Document.artifacts (Kubernetes.Dump.name ns) value, ?_, rfl⟩
      intro e he
      rw [List.mem_singleton.1 he]
      have hname : '/' ∉ Kubernetes.Dump.name ns :=
        List.not_mem_append (by decide) (hplain ns List.mem_cons_self)
      exact ⟨List.not_mem_append hname (by decide), by simp [Document.artifactName, mark]⟩

/-- Exhibits with different marks are stored independently. -/
theorem independent_store (habove : Path.above ∉ (settings.testDir testName).names)
    (hx : ∀ ns ∈ x.namespaces, '/' ∉ ns) (hy : ∀ ns ∈ y.namespaces, '/' ∉ ns)
    (hmark : x.mark ≠ y.mark) :
    Independent (x.store settings testName cwd) (y.store settings testName cwd) := by
  rcases exists_artifacts x hx settings testName cwd with ⟨a, ha, hstore⟩ | ⟨answer, hanswer⟩
  · rcases exists_artifacts y hy settings testName cwd with ⟨b, hb, hstore'⟩ | ⟨answer, hanswer⟩
    · rw [hstore, hstore']
      apply @Artifacts.independent_save a b settings testName none cwd habove
      · exact fun e he => (ha e he).1
      · exact fun e he => (hb e he).1
      · intro e he e' he' hname
        have hlast := (ha e he).2
        rw [hname, (hb e' he').2] at hlast
        exact hmark (Option.some.inj hlast).symm
    · rw [hanswer]
      exact (independent_of_answer _ answer).symm
  · rw [hanswer]
    exact independent_of_answer _ answer

/-- Logs, a report and the pods of a namespace are stored independently. -/
theorem pairwise_independent (cwd : Location) {collected : List NamespaceLog}
    (entries : List Report.Entry) {ns : Text} (resource : Except Text Yaml.Value)
    (habove : Path.above ∉ (settings.testDir testName).names)
    (hlogs : ∀ log ∈ collected, '/' ∉ log.ns.name) (hns : '/' ∉ ns) :
    ([.logs collected, .report entries, .pods ns resource] : List Exhibit).Pairwise fun x y =>
      Independent (x.store settings testName cwd) (y.store settings testName cwd) := by
  have hnames : ∀ name ∈ (logs collected).namespaces, '/' ∉ name := by
    simpa [namespaces] using hlogs
  have hreport : ∀ name ∈ (report entries).namespaces, '/' ∉ name := by
    simp [namespaces]
  have hpods : ∀ name ∈ (pods ns resource).namespaces, '/' ∉ name := by
    simpa [namespaces] using hns
  refine .cons ?_ (.cons ?_ (.cons nofun .nil))
  · intro y hy
    rcases List.mem_pair.1 hy with rfl | rfl
    · exact independent_store habove hnames hreport (by simp [mark])
    · exact independent_store habove hnames hpods (by simp [mark])
  · intro y hy
    rw [List.mem_singleton.1 hy]
    exact independent_store habove hreport hpods (by simp [mark])

/-- What is kept about a test may be stored in any order: the logs, the report and the pods of a
namespace each get the answer that they get alone, and the tree is the same in the end.  The same
holds of any two maps of artifacts with different plain names that go to one directory, and if both
are stored, so is their union. -/
theorem stores_in_any_order (settings : Settings) (testName : Option Text) (cwd : Location)
    (tree : FileTree) (collected : List NamespaceLog) (entries : List Report.Entry) (ns : Text)
    (resource : Except Text Yaml.Value)
    (habove : Path.above ∉ (settings.testDir testName).names)
    (hlogs : ∀ log ∈ collected, '/' ∉ log.ns.name) (hns : '/' ∉ ns) :
    (∀ order : List Exhibit, order.Perm [.logs collected, .report entries, .pods ns resource] →
      let run (xs : List Exhibit) := inTurn (xs.map fun x => x.store settings testName cwd) tree
      (run order).1 = (run [.logs collected, .report entries, .pods ns resource]).1 ∧
        (run order).2 = order.map fun x => (x.store settings testName cwd tree).2) ∧
    ∀ (base : Option Path) (a b : Artifacts),
      Path.above ∉ (base.getD (settings.testDir testName)).names →
      (∀ e ∈ a.entries, '/' ∉ e.1) → (∀ e ∈ b.entries, '/' ∉ e.1) →
      (∀ e ∈ a.entries, ∀ e' ∈ b.entries, e.1 ≠ e'.1) →
      let save (artifacts : Artifacts) := artifacts.save settings testName base cwd
      Independent (save a) (save b) ∧
        ∀ dir, (save a tree).2 = .ok dir → (save b tree).2 = .ok dir →
          save (a.union b) tree = ((save b (save a tree).1).1, .ok dir) := by
  constructor
  · intro order hperm run
    have hpairwise := pairwise_independent cwd entries resource habove hlogs hns
    have hmap : (order.map fun x => x.store settings testName cwd).Pairwise Independent :=
      List.pairwise_map.2 (hpairwise.perm hperm.symm fun h => h.symm)
    refine ⟨inTurn_of_perm (hperm.map _) hmap tree, ?_⟩
    rw [inTurn_snd hmap, List.map_map]
    rfl
  · intro base a b hbase ha hb hdisjoint save
    have hpair : Independent (save a) (save b) :=
      Artifacts.independent_save hbase ha hb hdisjoint
    refine ⟨hpair, fun dir hfirst hsecond => ?_⟩
    apply Artifacts.save_union ha hb hdisjoint (Prod.ext rfl hfirst)
    exact Prod.ext rfl ((hpair.second tree).trans hsecond)

/-- A directory is in the way of the pods alone, and two more artifacts may be stored as one map. -/
theorem stores_in_any_order_with_directory_in_the_way :
    let settings : Settings := ⟨.standalone, ⟨['t']⟩, ⟨['t']⟩⟩
    let tree := ofFound
      [([['t']], .directory 0o775), (["pods-n.yaml".toList, ['t']], .directory 0o775)]
    let collected : Exhibit := .logs [⟨⟨['n'], ['n']⟩, ['x']⟩]
    let dumped : Exhibit := .pods ['n'] (.ok (.list []))
    let run (xs : List Exhibit) := inTurn (xs.map fun x => x.store settings none []) tree
    let save (artifacts : Artifacts) := artifacts.save settings none none []
    let a := Artifacts.single ['a'] [1]
    let b := Artifacts.single ['b'] []
    (run [dumped, .report [], collected]).1 = (run [collected, .report [], dumped]).1 ∧
      (run [dumped, .report [], collected]).2
        = [.error (.file ⟨"t/pods-n.yaml".toList⟩ .isDirectory), .ok ⟨['t']⟩, .ok ⟨['t']⟩] ∧
      save (a.union b) tree = ((save b (save a tree).1).1, .ok ⟨['t']⟩) := by
  intro settings tree collected dumped run save a b
  obtain ⟨horder, hmaps⟩ := stores_in_any_order settings none [] tree [⟨⟨['n'], ['n']⟩, ['x']⟩] []
    ['n'] (.ok (.list [])) (by decide) (by decide) (by decide)
  obtain ⟨htree, hanswers⟩ := horder [dumped, .report [], collected]
    (List.reverse_perm [collected, .report [], dumped])
  have hunion := (hmaps none a b (by decide) (by decide) (by decide) (by decide)).2
  exact ⟨htree, hanswers.trans (by decide), hunion ⟨['t']⟩ (by decide) (by decide)⟩

end Exhibit

end Evidence
