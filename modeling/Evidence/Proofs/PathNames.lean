import Evidence.FileTree.Resolve
import Mathlib.Data.List.Basic

/-!
# Where paths lead

Without links, the names of a path alone say where it leads, whatever is there.

Main definitions:

- `Location.follow` and `Location.through`: where names lead from a location, and the entries that
  they lead through.
- `Path.location` and `Path.through`: the same for a path, seen from a working directory.
- `Path.Extends`: a path that begins with another one and goes on.

Main results:

- `Path.names_join` and `Path.location_join`: a name appended to a path leads one step further.
- `Path.pairwise_ancestors`: each of the ancestors of a path extends those that follow it.
- `Path.through_subset_of_mem_ancestors`: the ancestors of a path lead through nothing else.
-/

namespace Evidence

/-! ## Following names -/

namespace Location

variable {loc l : Location} {name : Text} {names front back : List Text}

/-- The location that names lead to. -/
def follow (loc : Location) : List Text → Location
  | [] => loc
  | name :: names =>
    if name = Path.here then follow loc names
    else if name = Path.above then follow loc.tail names
    else follow (name :: loc) names

/-- The locations of the entries that names lead through, the last one included.  A name that means
the directory itself or the one above leads through no entry of its own. -/
def through (loc : Location) : List Text → List Location
  | [] => []
  | name :: names =>
    if name = Path.here then through loc names
    else if name = Path.above then through loc.tail names
    else (name :: loc) :: through (name :: loc) names

/-- A name that means an entry of a directory. -/
def IsOrdinary (name : Text) : Prop :=
  name ≠ Path.here ∧ name ≠ Path.above

theorem follow_append (loc : Location) (front back : List Text) :
    follow loc (front ++ back) = follow (follow loc front) back := by
  fun_induction follow loc front with
  | case1 => rfl
  | case2 loc names ih => simpa [follow] using ih
  | case3 loc names _ ih => simpa [follow, Path.above, Path.here] using ih
  | case4 loc name names hhere habove ih => simpa [follow, hhere, habove] using ih

theorem through_append (loc : Location) (front back : List Text) :
    through loc (front ++ back) = through loc front ++ through (follow loc front) back := by
  fun_induction follow loc front with
  | case1 => rfl
  | case2 loc names ih => simpa [through] using ih
  | case3 loc names _ ih => simpa [through, Path.above, Path.here] using ih
  | case4 loc name names hhere habove ih => simpa [through, hhere, habove] using ih

/-- The first of some names lead through nothing that all of them do not lead through. -/
theorem through_subset_of_isPrefix (loc : Location) (h : front <+: names) :
    through loc front ⊆ through loc names := by
  obtain ⟨back, rfl⟩ := h
  rw [through_append]
  exact List.subset_append_left _ _

/-- A single name leads through no other entry than the one that it leads to. -/
theorem eq_follow_of_mem_through (h : l ∈ through loc [name]) : l = follow loc [name] := by
  rw [through] at h
  split at h
  · cases h
  · next hhere =>
    split at h
    · cases h
    · next habove => simpa [through, follow, hhere, habove] using h

theorem through_eq_nil_of_here (loc : Location) (h : ∀ name ∈ names, name = Path.here) :
    through loc names = [] := by
  induction names with
  | nil => rfl
  | cons name names ih =>
    rw [through, if_pos (h name List.mem_cons_self)]
    exact ih fun name' hmem => h name' (List.mem_cons_of_mem _ hmem)

end Location

namespace Path

variable {p q : Path} {cwd : Location} {name t : Text} {back backwards first : List Text}

/-! ## Names of a joined path -/

/-- A path that is a single name. -/
theorem names_of_not_mem (h : '/' ∉ name) (hne : name ≠ []) : (⟨name⟩ : Path).names = [name] := by
  have hparts : (⟨name⟩ : Path).parts = [name] := List.splitOn_eq_singleton h
  rw [names, hparts]
  simp [hne]

/-- A path that is open but not empty ends in a slash. -/
theorem exists_eq_append_slash (h : p.isOpen = true) (hne : p.text ≠ []) :
    ∃ front, p.text = front ++ ['/'] := by
  rcases List.eq_nil_or_concat p.text with hnil | ⟨front, c, hconcat⟩
  · exact absurd hnil hne
  · rw [isOpen, hconcat] at h
    refine ⟨front, ?_⟩
    rw [hconcat]
    simpa using h

/-- The empty name appended to a path makes it end in a slash. -/
theorem getLast?_join_nil (hne : (p.join []).text ≠ []) :
    (p.join []).text.getLast? = some '/' := by
  rw [join, if_neg (by simp)] at hne ⊢
  split at hne
  · next hopen =>
    rw [if_pos hopen]
    rcases exists_eq_append_slash hopen (by simpa using hne) with ⟨front, htext⟩
    simp [htext]
  · next hclosed => simp [if_neg hclosed]

/-- A slash between two paths parts their names. -/
theorem names_append_slash (s t : Text) :
    (⟨s ++ '/' :: t⟩ : Path).names = (⟨s⟩ : Path).names ++ (⟨t⟩ : Path).names := by
  have hparts : (⟨s ++ '/' :: t⟩ : Path).parts = (⟨s⟩ : Path).parts ++ (⟨t⟩ : Path).parts :=
    List.splitOn_append_cons_self s t
  rw [names, hparts, List.filter_append]
  rfl

/-- The names of a joined path are those of the path, followed by what was appended. -/
theorem names_join (h : name.head? ≠ some '/') :
    (p.join name).names = p.names ++ (⟨name⟩ : Path).names := by
  rw [join, if_neg h]
  split
  · next hopen =>
    by_cases hne : p.text = []
    · obtain rfl : p = ⟨[]⟩ := congrArg Path.mk hne
      rfl
    · rcases exists_eq_append_slash hopen hne with ⟨front, htext⟩
      obtain rfl : p = ⟨front ++ ['/']⟩ := congrArg Path.mk htext
      have hend := names_append_slash front []
      have hmid := names_append_slash front name
      have hnil : (⟨[]⟩ : Path).names = [] := rfl
      rw [hnil, List.append_nil] at hend
      simpa [hend] using hmid
  · exact names_append_slash p.text name

/-- A joined path starts where the path does. -/
theorem isAbsolute_join (h : name.head? ≠ some '/') : (p.join name).isAbsolute = p.isAbsolute := by
  rw [join, if_neg h]
  rcases p with ⟨text⟩
  cases text with
  | nil => simpa [isOpen, isAbsolute] using h
  | cons c text => split <;> rfl

/-- A path with names is not empty. -/
theorem text_ne_nil (h : p.names ≠ []) : p.text ≠ [] := by
  intro htext
  obtain rfl : p = ⟨[]⟩ := congrArg mk htext
  exact h rfl

/-! ## Where a path leads -/

/-- Where the names of a path start from. -/
def start (p : Path) (cwd : Location) : Location :=
  if p.isAbsolute then [] else cwd

/-- The location that a path leads to, seen from a working directory. -/
def location (p : Path) (cwd : Location) : Location :=
  Location.follow (p.start cwd) p.names

/-- The locations of the entries that a path leads through: those above what it names, and that one
too. -/
def through (p : Path) (cwd : Location) : List Location :=
  Location.through (p.start cwd) p.names

/-- What is appended to a path is followed from where the path leads. -/
theorem location_join_eq_follow (h : name.head? ≠ some '/') :
    (p.join name).location cwd = Location.follow (p.location cwd) (⟨name⟩ : Path).names := by
  rw [location, start, isAbsolute_join h, names_join h, Location.follow_append, location, start]

/-- A plain name appended to a path leads to the entry of that name. -/
theorem location_join (h : '/' ∉ name) (hne : name ≠ []) (hord : Location.IsOrdinary name) :
    (p.join name).location cwd = name :: p.location cwd := by
  rw [location_join_eq_follow fun heq => h (List.mem_of_head? heq), names_of_not_mem h hne]
  simp [Location.follow, hord.1, hord.2]

/-! ## Ancestors -/

/-- The parts of a path that is put together of parts without slashes. -/
theorem parts_ofParts {parts : List Text} (h : ∀ part ∈ parts, '/' ∉ part) (hne : parts ≠ []) :
    (ofParts parts).parts = parts :=
  List.splitOn_intercalate '/' h hne

/-- A chain goes on as the parts do, from one that is not empty on. -/
theorem isSuffix_of_mem_chains (h : back ∈ chains backwards) :
    back <:+ backwards ∧ ∃ part mid, part ≠ [] ∧ back = part :: mid := by
  fun_induction chains backwards with
  | case1 => cases h
  | case2 part before hidle ih =>
    exact ⟨(ih h).1.trans (List.suffix_cons part before), (ih h).2⟩
  | case3 part before hidle ih =>
    rcases List.mem_cons.1 h with rfl | h
    · refine ⟨List.suffix_rfl, part, before, ?_, rfl⟩
      rintro rfl
      exact hidle rfl
    · exact ⟨(ih h).1.trans (List.suffix_cons part before), (ih h).2⟩

/-- Of two chains the later one is shorter by a part that is not empty, at least. -/
theorem pairwise_chains (backwards : List Text) :
    (chains backwards).Pairwise fun back back' =>
      ∃ part mid, part ≠ [] ∧ back = part :: (mid ++ back') := by
  fun_induction chains backwards with
  | case1 => exact .nil
  | case2 part before hidle ih => exact ih
  | case3 part before hidle ih =>
    refine List.pairwise_cons.2 ⟨fun back' hback' => ?_, ih⟩
    obtain ⟨mid, hmid⟩ := (isSuffix_of_mem_chains hback').1
    have hne : part ≠ [] := by
      rintro rfl
      exact hidle rfl
    exact ⟨part, mid, hne, by rw [hmid]⟩

/-- Parts without a chain are idle. -/
theorem isIdle_of_chains_eq_nil (h : chains backwards = []) :
    ∀ part ∈ backwards, isIdle part = true := by
  fun_induction chains backwards with
  | case1 => simp
  | case2 part before hidle ih => simpa [hidle] using ih h
  | case3 part before hidle ih => cases h

/-- No part of a path holds a slash. -/
theorem not_mem_of_mem_parts {part : Text} (h : part ∈ p.parts) : '/' ∉ part :=
  Text.not_mem_of_mem_splitOn h

/-- A path has at least one part. -/
theorem exists_parts_eq_cons (p : Path) : ∃ first rest, p.parts = first :: rest :=
  List.exists_cons_of_ne_nil (List.splitOn_ne_nil '/' p.text)

/-- A path is absolute when its first part is empty and not the only one. -/
theorem isAbsolute_iff {first : Text} {rest : List Text} (hparts : p.parts = first :: rest) :
    p.isAbsolute = true ↔ first = [] ∧ rest ≠ [] := by
  have htext : ['/'].intercalate (first :: rest) = p.text := by
    rw [← hparts]
    exact List.intercalate_splitOn '/'
  have hfirst : '/' ∉ first := not_mem_of_mem_parts (hparts ▸ List.mem_cons_self)
  rw [isAbsolute, ← htext]
  cases first with
  | nil => cases rest <;> simp
  | cons c first =>
    have hc : c ≠ '/' := fun heq => hfirst (by simp [heq])
    cases rest <;> simp [hc]

/-- A path of slashes alone is absolute. -/
theorem isAbsolute_of_names_eq_nil (hne : p.text ≠ []) (h : p.names = []) :
    p.isAbsolute = true := by
  rcases exists_parts_eq_cons p with ⟨first, rest, hparts⟩
  have hempty : ∀ part ∈ p.parts, part = [] := by simpa [names] using h
  have hfirst : first = [] := hempty first (by simp [hparts])
  refine (isAbsolute_iff hparts).2 ⟨hfirst, ?_⟩
  rintro rfl
  have htext := ofParts_parts p
  rw [hparts, hfirst] at htext
  exact hne (congrArg Path.text htext).symm

/-- Joined parts begin as fewer of them do. -/
theorem text_ofParts_isPrefix (first : Text) {front rest : List Text} (h : front <+: rest) :
    (ofParts (first :: front)).text <+: (ofParts (first :: rest)).text := by
  obtain ⟨more, rfl⟩ := h
  induction front generalizing first with
  | nil =>
    cases more with
    | nil => exact List.prefix_rfl
    | cons next more => simp [ofParts]
  | cons next front ih =>
    have hcons (parts : List Text) : (ofParts (first :: next :: parts)).text
        = first ++ '/' :: (ofParts (next :: parts)).text := by
      simp [ofParts]
    rw [List.cons_append, hcons, hcons]
    exact (List.prefix_append_right_inj first).2 ((List.prefix_cons_inj '/').2 (ih next))

/-- The lists of parts, behind the first one, of a path without idle parts at its end, of its parent,
and so on. -/
def fronts (first : Text) (rest : List Text) : List (List Text) :=
  (chains rest.reverse ++ if first = [] then [] else [[]]).map List.reverse

/-- The path stands in the place of the first of the shorter ones, and its ancestors are the others. -/
theorem ancestors_eq {first : Text} {rest : List Text} (hparts : p.parts = first :: rest) :
    p.ancestors = match fronts first rest with
      | [] => []
      | _ :: parents => p :: parents.map fun front => ofParts (first :: front) := by
  have hall : (if first = [] then (chains rest.reverse).map fun back => ofParts (first :: back.reverse)
      else ((chains rest.reverse).map fun back => ofParts (first :: back.reverse))
        ++ [ofParts [first]])
      = (fronts first rest).map fun front => ofParts (first :: front) := by
    rw [fronts]
    split <;> simp
  rw [ancestors, hparts]
  simp only [hall]
  cases fronts first rest with
  | nil => rfl
  | cons front parents => rfl

/-- Every list of parts begins the parts of the path, and holds one that is not empty. -/
theorem isPrefix_of_mem_fronts {first : Text} {rest front : List Text}
    (h : front ∈ fronts first rest) : front <+: rest ∧ ∃ part ∈ first :: front, part ≠ [] := by
  obtain ⟨back, hback, rfl⟩ := List.mem_map.1 h
  rcases List.mem_append.1 hback with hback | hback
  · obtain ⟨hsuffix, part, mid, hne, rfl⟩ := isSuffix_of_mem_chains hback
    exact ⟨List.reverse_suffix.1 (by simpa using hsuffix), part, by simp, hne⟩
  · split at hback
    · cases hback
    · next hfirst =>
      rw [List.mem_singleton.1 hback]
      exact ⟨List.nil_prefix, first, List.mem_cons_self, hfirst⟩

/-- Of two lists of parts the later one lacks a part that is not empty, at least. -/
theorem pairwise_fronts (first : Text) (rest : List Text) :
    (fronts first rest).Pairwise fun front front' =>
      ∃ more, front = front' ++ more ∧ ∃ part ∈ more, part ≠ [] := by
  have hbacks : (chains rest.reverse ++ if first = [] then [] else [[]]).Pairwise
      fun back back' => ∃ part mid, part ≠ [] ∧ back = part :: (mid ++ back') := by
    refine List.pairwise_append.2 ⟨pairwise_chains _, ?_, fun back hback back' hback' => ?_⟩
    · split <;> simp
    · obtain rfl : back' = [] := by
        split at hback'
        · cases hback'
        · exact List.mem_singleton.1 hback'
      obtain ⟨-, part, mid, hne, rfl⟩ := isSuffix_of_mem_chains hback
      exact ⟨part, mid, hne, by rw [List.append_nil]⟩
  refine List.pairwise_map.2 (hbacks.imp fun ⟨part, mid, hne, hback⟩ => ?_)
  exact ⟨mid.reverse ++ [part], by simp [hback], part, by simp, hne⟩

/-- A path extends another when it begins with it and goes on with further names. -/
structure Extends (p q : Path) : Prop where
  isAbsolute : q.isAbsolute = p.isAbsolute
  text : q.text <+: p.text
  names_ne_nil : q.names ≠ []
  names : ∃ more, more ≠ [] ∧ p.names = q.names ++ more

/-- A path leads through all that a path leads through which it extends. -/
theorem Extends.through_subset (h : p.Extends q) (cwd : Location) :
    q.through cwd ⊆ p.through cwd := by
  obtain ⟨more, -, hnames⟩ := h.names
  rw [through, through, start, start, h.isAbsolute]
  exact Location.through_subset_of_isPrefix _ ⟨more, hnames.symm⟩

/-- A path extends that of its first parts, when one of them is not empty and neither is one of those
that are left out. -/
theorem extends_ofParts {first : Text} {front more : List Text}
    (hparts : p.parts = first :: (front ++ more)) (hmore : ∃ part ∈ more, part ≠ [])
    (hne : ∃ name ∈ first :: front, name ≠ []) : p.Extends (ofParts (first :: front)) := by
  obtain ⟨part, hpart, hfull⟩ := hmore
  have hclean : ∀ name ∈ first :: front, '/' ∉ name := by
    intro name hmem
    apply @not_mem_of_mem_parts p
    rw [hparts]
    exact List.mem_append_left more hmem
  have hqparts := parts_ofParts hclean (List.cons_ne_nil first front)
  constructor
  · rw [Bool.eq_iff_iff, isAbsolute_iff hqparts, isAbsolute_iff hparts]
    refine and_congr_right fun hfirst => iff_of_true ?_ ?_
    · rintro rfl
      obtain ⟨name, hmem, hname⟩ := hne
      exact hname (by rwa [hfirst, List.mem_singleton] at hmem)
    · exact List.ne_nil_of_mem (List.mem_append_right front hpart)
  · have htext := text_ofParts_isPrefix first (List.prefix_append front more)
    rwa [← hparts, ofParts_parts] at htext
  · obtain ⟨name, hmem, hname⟩ := hne
    have hmem' : name ∈ (ofParts (first :: front)).names := by
      rw [names, hqparts]
      exact List.mem_filter.2 ⟨hmem, by simpa using hname⟩
    exact List.ne_nil_of_mem hmem'
  · have hmem' : part ∈ more.filter (· ≠ []) := List.mem_filter.2 ⟨hpart, by simpa using hfull⟩
    refine ⟨more.filter (· ≠ []), List.ne_nil_of_mem hmem', ?_⟩
    rw [names, names, hqparts, hparts, ← List.cons_append, List.filter_append]

/-- Each of the ancestors of a path extends all those that follow it. -/
theorem pairwise_ancestors (p : Path) : p.ancestors.Pairwise Extends := by
  rcases exists_parts_eq_cons p with ⟨first, rest, hparts⟩
  have hclean : ∀ name ∈ first :: rest, '/' ∉ name := fun name hmem =>
    not_mem_of_mem_parts (hparts ▸ hmem)
  have hpairwise := pairwise_fronts first rest
  have hmem : ∀ front ∈ fronts first rest, front <+: rest ∧ ∃ part ∈ first :: front, part ≠ [] :=
    fun front => isPrefix_of_mem_fronts
  rw [ancestors_eq hparts]
  cases hfronts : fronts first rest with
  | nil => exact .nil
  | cons own parents =>
    rw [hfronts] at hpairwise hmem
    obtain ⟨hown, hparents⟩ := List.pairwise_cons.1 hpairwise
    refine List.pairwise_cons.2 ⟨?_, List.pairwise_map.2 (hparents.imp_of_mem ?_)⟩
    · rintro q hq
      obtain ⟨front, hfront, rfl⟩ := List.mem_map.1 hq
      obtain ⟨more, rfl, part, hpart, hfull⟩ := hown front hfront
      obtain ⟨rest', hrest⟩ := (hmem _ List.mem_cons_self).1
      rw [← hrest, List.append_assoc] at hparts
      exact extends_ofParts hparts ⟨part, List.mem_append_left rest' hpart, hfull⟩
        (hmem front (List.mem_cons_of_mem _ hfront)).2
    · rintro front front' hfront hfront' ⟨more, rfl, hmore⟩
      have hsub := (hmem _ (List.mem_cons_of_mem own hfront)).1.subset
      refine extends_ofParts (parts_ofParts (fun name hname => ?_) (by simp)) hmore
        (hmem front' (List.mem_cons_of_mem _ hfront')).2
      rcases List.mem_cons.1 hname with rfl | hname
      · exact hclean _ List.mem_cons_self
      · exact hclean name (List.mem_cons_of_mem _ (hsub hname))

/-- A path comes first among its ancestors, if it has any. -/
theorem ancestors_eq_nil_or_cons (p : Path) :
    p.ancestors = [] ∨ ∃ parents, p.ancestors = p :: parents := by
  rcases exists_parts_eq_cons p with ⟨first, rest, hparts⟩
  rw [ancestors_eq hparts]
  cases fronts first rest with
  | nil => exact .inl rfl
  | cons own parents => exact .inr ⟨_, rfl⟩

/-- A path extends those of its ancestors that are not the path itself. -/
theorem eq_or_extends_of_mem_ancestors (h : q ∈ p.ancestors) : q = p ∨ p.Extends q := by
  have hpairwise := pairwise_ancestors p
  rcases ancestors_eq_nil_or_cons p with hnil | ⟨parents, hcons⟩
  · rw [hnil] at h
    cases h
  · rw [hcons] at h hpairwise
    exact (List.mem_cons.1 h).imp id fun hmem => List.rel_of_pairwise_cons hpairwise hmem

/-- The ancestors of a path lead through nothing that the path does not lead through. -/
theorem through_subset_of_mem_ancestors (h : q ∈ p.ancestors) (cwd : Location) :
    q.through cwd ⊆ p.through cwd := by
  rcases eq_or_extends_of_mem_ancestors h with rfl | hextends
  · exact List.Subset.refl _
  · exact hextends.through_subset cwd

/-- A path without ancestors leads through no entry. -/
theorem through_eq_nil (h : p.ancestors = []) (cwd : Location) : p.through cwd = [] := by
  rcases exists_parts_eq_cons p with ⟨first, rest, hparts⟩
  rw [ancestors_eq hparts] at h
  cases hfronts : fronts first rest with
  | cons own parents =>
    rw [hfronts] at h
    cases h
  | nil =>
    obtain ⟨hchains, hfirst⟩ := List.append_eq_nil_iff.1 (List.map_eq_nil_iff.1 hfronts)
    have hidle := isIdle_of_chains_eq_nil hchains
    have hempty : first = [] := by
      by_contra hne
      rw [if_neg hne] at hfirst
      cases hfirst
    refine Location.through_eq_nil_of_here _ fun name hmem => ?_
    rw [names, hparts, hempty] at hmem
    have hrest : name ∈ rest ∧ name ≠ [] := by simpa using hmem
    simpa [isIdle, hrest.2] using hidle name (by simpa using hrest.1)

end Path

end Evidence
