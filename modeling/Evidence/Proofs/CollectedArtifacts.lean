import Evidence.Collection
import Mathlib.Data.List.Forall2

/-!
# Collected artifacts

A collection has one text for each namespace that it is given, and its artifacts keep the last text
of each.

Main definitions:

- `PodSource.IsSteady`: a source whose answers do not depend on what it was asked before.
- `Collection.lastNamed?`: the last of some namespaces with a name.

Main results:

- `SortedMap.get?_ofList`: in a map that is made of entries the last one with a key counts.
- `Collection.get?_artifacts`: the artifact of a namespace holds the last text of it.
- `Collection.ofNamespaces_of_isSteady`: what is collected from a steady source.
- `Collection.get?_artifacts_ofNamespaces`: the artifacts of a steady source.
-/

namespace Evidence

/-! ## Maps made of entries -/

namespace SortedMap

variable {α β : Type} [Ord α] {key : α} {value : β} {e : α × β} {entries : List (α × β)}

/-- Looking up in two lists of entries, one after the other. -/
theorem lookup_append (key : α) (front back : List (α × β)) :
    lookup key (front ++ back) = (lookup key front).or (lookup key back) := by
  induction front with
  | nil => rfl
  | cons first front ih =>
    rcases first with ⟨k, v⟩
    simp only [List.cons_append, lookup]
    split
    · rfl
    · exact ih

/-- What is looked up is among the entries. -/
theorem mem_of_lookup_eq_some [Std.LawfulEqOrd α] (h : lookup key entries = some value) :
    (key, value) ∈ entries := by
  induction entries with
  | nil => cases h
  | cons first entries ih =>
    rcases first with ⟨k, v⟩
    rw [lookup] at h
    split at h
    · next heq =>
      obtain rfl : key = k := Std.LawfulEqOrd.eq_of_compare heq
      cases h
      exact List.mem_cons_self
    · exact List.mem_cons_of_mem _ (ih h)

variable [DecidableEq α] [Std.TransOrd α] [Std.LawfulEqOrd α]

/-- Of the entries that a map is made of the last one with a key counts. -/
theorem get?_ofList (entries : List (α × β)) (key : α) :
    (ofList entries).get? key = lookup key entries.reverse := by
  have hfold : ∀ (m : SortedMap α β),
      (entries.foldl (fun m e => m.insert e.1 e.2) m).get? key
        = (lookup key entries.reverse).or (m.get? key) := by
    induction entries with
    | nil => exact fun m => rfl
    | cons first entries ih =>
      intro m
      rw [List.foldl_cons, ih, get?_insert, List.reverse_cons, lookup_append, Option.or_assoc]
      congr 1
      simp only [lookup, Std.LawfulEqOrd.compare_eq_iff_eq]
      split <;> rfl
  rw [ofList, hfold, get?_empty, Option.or_none]

/-- The entries of a map are among those that it is made of. -/
theorem mem_of_mem_ofList (h : e ∈ (ofList entries).entries) : e ∈ entries := by
  have hget := mem_entries_iff.1 (show (e.1, e.2) ∈ (ofList entries).entries from h)
  rw [get?_ofList] at hget
  exact List.mem_reverse.1 (mem_of_lookup_eq_some hget)

end SortedMap

/-! ## Artifacts of a collection -/

namespace Collection

variable {σ : Type} {source : PodSource σ} {capture : Capture} {logs : List NamespaceLog}

/-- There is one text for each namespace, in their order. -/
theorem map_ns_ofNamespaces (source : PodSource σ) (capture : Capture)
    (namespaces : List ControllerNamespace) (s : σ) :
    (ofNamespaces source capture namespaces s).1.map NamespaceLog.ns = namespaces := by
  induction namespaces generalizing s with
  | nil => rfl
  | cons ns namespaces ih =>
    have hrest := ih (ofNamespace source capture ns s).2
    exact congrArg (ns :: ·) hrest

/-- The texts belong to the names of the namespaces. -/
theorem map_name_ofNamespaces (source : PodSource σ) (capture : Capture)
    (namespaces : List ControllerNamespace) (s : σ) :
    (ofNamespaces source capture namespaces s).1.map (fun log => log.ns.name)
      = namespaces.map ControllerNamespace.name := by
  conv_rhs => rw [← map_ns_ofNamespaces source capture namespaces s, List.map_map]
  rfl

/-- Artifacts of different namespaces have different names. -/
theorem artifactName_inj {ns ns' : Text} : artifactName ns = artifactName ns' ↔ ns = ns' :=
  List.append_left_inj _

/-- The artifact of a namespace with a plain name has a plain name. -/
theorem plain_artifactName {ns : Text} (h : '/' ∉ ns) : '/' ∉ artifactName ns :=
  List.not_mem_append h (by decide)

/-- Every artifact is named after a namespace that is collected. -/
theorem exists_of_mem_artifacts {e : Text × Blob} (h : e ∈ (artifacts logs).entries) :
    ∃ log ∈ logs, e = (artifactName log.ns.name, Utf8.encode log.text) := by
  rcases List.mem_map.1 (SortedMap.mem_of_mem_ofList h) with ⟨log, hmem, heq⟩
  exact ⟨log, hmem, heq.symm⟩

/-- The artifacts of a collection are named after the namespaces that it is given. -/
theorem mem_names_of_mem_artifacts {namespaces : List ControllerNamespace} {s : σ}
    {e : Text × Blob}
    (h : e ∈ (artifacts (ofNamespaces source capture namespaces s).1).entries) :
    e.1 ∈ namespaces.map fun ns => artifactName ns.name := by
  rcases exists_of_mem_artifacts h with ⟨log, hmem, rfl⟩
  have hns := List.mem_map_of_mem (f := NamespaceLog.ns) hmem
  rw [map_ns_ofNamespaces] at hns
  exact List.mem_map.2 ⟨log.ns, hns, rfl⟩

/-- Artifacts have plain names when the namespaces that are collected have. -/
theorem plain_of_mem_artifacts (h : ∀ name ∈ logs.map (fun log => log.ns.name), '/' ∉ name)
    {e : Text × Blob} (he : e ∈ (artifacts logs).entries) : '/' ∉ e.1 := by
  rcases exists_of_mem_artifacts he with ⟨log, hmem, rfl⟩
  exact plain_artifactName (h _ (List.mem_map_of_mem hmem))

/-- The artifact of a namespace holds the last text that was collected for it. -/
theorem get?_artifacts (logs : List NamespaceLog) (ns : Text) :
    (artifacts logs).get? (artifactName ns)
      = (logs.reverse.find? fun log => log.ns.name = ns).map fun log => Utf8.encode log.text := by
  rw [artifacts, SortedMap.get?_ofList, ← List.map_reverse]
  induction logs.reverse with
  | nil => rfl
  | cons log logs ih =>
    simp only [List.map_cons, SortedMap.lookup, Std.LawfulEqOrd.compare_eq_iff_eq,
      artifactName_inj, ih]
    by_cases heq : log.ns.name = ns
    · simp [heq]
    · simp [heq, Ne.symm heq]

end Collection

/-! ## Steady sources -/

/-- A source is steady when its answers do not depend on what it was asked before. -/
structure PodSource.IsSteady {σ : Type} (source : PodSource σ) : Prop where
  listPods : ∀ ns s s', (source.listPods ns s).1 = (source.listPods ns s').1
  containerLog : ∀ ns pod container s s',
    (source.containerLog ns pod container s).1 = (source.containerLog ns pod container s').1

namespace Collection

variable {σ : Type} {source : PodSource σ} {capture : Capture}

/-- The text of one more container comes first. -/
theorem ofContainers_cons_fst (source : PodSource σ) (capture : Capture) (ns : Text)
    (asked : Text × Text) (rest : List (Text × Text)) (s : σ) :
    (ofContainers source capture ns (asked :: rest) s).1
      = (match (source.containerLog ns asked.1 asked.2 s).1 with
          | .ok log => piece capture log
          | .error e => logFailure e)
        ++ (ofContainers source capture ns rest (source.containerLog ns asked.1 asked.2 s).2).1 := by
  rcases asked with ⟨pod, container⟩
  simp only [ofContainers, bind, StateT.bind]
  rcases source.containerLog ns pod container s with ⟨answer, mid⟩
  cases answer <;> rfl

/-- The text of a namespace is its header and what follows from the listing. -/
theorem ofNamespace_fst (source : PodSource σ) (capture : Capture) (ns : ControllerNamespace)
    (s : σ) :
    (ofNamespace source capture ns s).1
      = header capture ns ++ match (source.listPods ns.name s).1 with
          | .error e => listFailure e
          | .ok pods => (ofContainers source capture ns.name (containersOf pods)
              (source.listPods ns.name s).2).1 := by
  simp only [ofNamespace, bind, StateT.bind]
  rcases source.listPods ns.name s with ⟨answer, mid⟩
  cases answer <;> rfl

theorem ofContainers_of_isSteady (h : source.IsSteady) (ns : Text) (asked : List (Text × Text))
    (s s' : σ) :
    (ofContainers source capture ns asked s).1 = (ofContainers source capture ns asked s').1 := by
  induction asked generalizing s s' with
  | nil => rfl
  | cons first rest ih =>
    rw [ofContainers_cons_fst, ofContainers_cons_fst, h.containerLog ns first.1 first.2 s s']
    exact congrArg _ (ih _ _)

/-- The text of a namespace does not depend on what a steady source was asked before. -/
theorem ofNamespace_of_isSteady (h : source.IsSteady) (ns : ControllerNamespace) (s s' : σ) :
    (ofNamespace source capture ns s).1 = (ofNamespace source capture ns s').1 := by
  rw [ofNamespace_fst, ofNamespace_fst, h.listPods ns.name s s']
  congr 1
  split
  · rfl
  · exact ofContainers_of_isSteady h ns.name _ _ _

/-- A steady source gives each namespace the text that it gives it alone. -/
theorem ofNamespaces_of_isSteady (h : source.IsSteady) (namespaces : List ControllerNamespace)
    (s s' : σ) :
    (ofNamespaces source capture namespaces s).1
      = namespaces.map fun ns => ⟨ns, (ofNamespace source capture ns s').1⟩ := by
  induction namespaces generalizing s with
  | nil => rfl
  | cons ns namespaces ih =>
    have hrest := ih (ofNamespace source capture ns s).2
    rw [List.map_cons, ← hrest, ofNamespace_of_isSteady h ns s' s]
    rfl

/-! ## Whole logs -/

/-- Whole logs that are all read follow each other. -/
theorem ofContainers_whole {ns : Text} {asked : List (Text × Text)} {texts : List Text}
    (h : List.Forall₂ (fun asked text =>
      ∀ s, (source.containerLog ns asked.1 asked.2 s).1 = .ok text) asked texts) (s : σ) :
    (ofContainers source .whole ns asked s).1 = texts.flatten := by
  induction h generalizing s with
  | nil => rfl
  | cons hfirst hrest ih =>
    rw [ofContainers_cons_fst, hfirst, ih]
    rfl

/-- The text of a namespace whose logs are all read is these logs. -/
theorem ofNamespace_whole {ns : ControllerNamespace} {pods : List PodContainers}
    {texts : List Text} {s : σ} (hpods : (source.listPods ns.name s).1 = .ok pods)
    (h : List.Forall₂ (fun asked text =>
      ∀ s, (source.containerLog ns.name asked.1 asked.2 s).1 = .ok text)
      (containersOf pods) texts) :
    (ofNamespace source .whole ns s).1 = texts.flatten := by
  rw [ofNamespace_fst, hpods]
  exact ofContainers_whole h _

/-- Without a header the label of a namespace does not matter. -/
theorem ofNamespace_whole_congr {ns ns' : ControllerNamespace} (h : ns.name = ns'.name) (s : σ) :
    (ofNamespace source .whole ns s).1 = (ofNamespace source .whole ns' s).1 := by
  rw [ofNamespace_fst, ofNamespace_fst, h]
  rfl

/-! ## The last of several namespaces -/

/-- The last of some namespaces that has a name. -/
def lastNamed? (name : Text) (namespaces : List ControllerNamespace) :
    Option ControllerNamespace :=
  namespaces.reverse.find? fun ns => ns.name = name

/-- The last namespace with a name has this name. -/
theorem name_of_lastNamed? {name : Text} {namespaces : List ControllerNamespace}
    {ns : ControllerNamespace} (h : lastNamed? name namespaces = some ns) : ns.name = name := by
  simpa using List.find?_some h

/-- There is a last namespace with a name when there is one at all. -/
theorem isSome_lastNamed? {name : Text} {namespaces : List ControllerNamespace} :
    (lastNamed? name namespaces).isSome ↔ ∃ ns ∈ namespaces, ns.name = name := by
  simp [lastNamed?]

/-- The artifact of a namespace holds the text that a steady source gives alone to the last of the
namespaces that has its name. -/
theorem get?_artifacts_ofNamespaces (h : source.IsSteady) (capture : Capture)
    (namespaces : List ControllerNamespace) (name : Text) (s s' : σ) :
    (artifacts (ofNamespaces source capture namespaces s).1).get? (artifactName name)
      = (lastNamed? name namespaces).map fun ns =>
          Utf8.encode (ofNamespace source capture ns s').1 := by
  rw [get?_artifacts, ofNamespaces_of_isSteady h namespaces s s', ← List.map_reverse,
    List.find?_map, Option.map_map]
  rfl

/-- The artifact of a namespace holds the text that a steady source gives the namespace alone,
however often the namespace is given. -/
theorem get?_artifacts_of_isSteady (h : source.IsSteady) {namespaces : List ControllerNamespace}
    {ns : ControllerNamespace} (hns : ns ∈ namespaces) (s s' : σ) :
    (artifacts (ofNamespaces source .whole namespaces s).1).get? (artifactName ns.name)
      = some (Utf8.encode (ofNamespace source .whole ns s').1) := by
  rw [get?_artifacts_ofNamespaces h .whole namespaces ns.name s s']
  obtain ⟨last, hlast⟩ := Option.isSome_iff_exists.1 (isSome_lastNamed?.2 ⟨ns, hns, rfl⟩)
  rw [hlast, Option.map_some, ofNamespace_whole_congr (name_of_lastNamed? hlast) s']

end Collection

end Evidence
