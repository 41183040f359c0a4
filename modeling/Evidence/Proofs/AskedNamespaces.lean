import Evidence.Proofs.ByteOrder
import Evidence.Proofs.CollectedArtifacts
import Mathlib.Data.List.Sort

/-!
# Which namespaces are asked

The artifacts of a collection have one entry for each name that is asked for.  When the source is
steady, neither the order of the names nor their repeats show through, and of the labels at most the
last one of each name.

Main definitions:

- `SortedMap.keys`: the keys of a map, in their order.

Main results:

- `SortedMap.keys_ext`: maps with the same set of keys have the same list of keys.
- `Collection.mem_keys_artifacts`: under which names a collection is stored.
- `Collection.artifacts_of_asked`: what the artifacts of a steady source depend on.
-/

namespace Evidence

/-! ## Keys of a map -/

namespace SortedMap

variable {α β γ : Type} [Ord α] {key : α}

/-- The keys of a map, in ascending order. -/
def keys (m : SortedMap α β) : List α :=
  m.entries.map Prod.fst

/-- The keys of a map ascend, so that none of them is there twice. -/
theorem pairwise_keys (m : SortedMap α β) : m.keys.Pairwise fun a b => compare a b = .lt :=
  List.pairwise_map.2 m.ascending

/-- The keys of a map are those that it gives a value to. -/
theorem mem_keys_iff [Std.LawfulEqOrd α] {m : SortedMap α β} :
    key ∈ m.keys ↔ (m.get? key).isSome := by
  rw [Option.isSome_iff_exists]
  constructor
  · intro h
    obtain ⟨⟨k, value⟩, hmem, rfl⟩ := List.mem_map.1 h
    exact ⟨value, mem_entries_iff.1 hmem⟩
  · rintro ⟨value, hget⟩
    exact List.mem_map_of_mem (f := Prod.fst) (mem_entries_iff.2 hget)

/-- What has no value in a list of entries is not a key of it. -/
theorem lookup_eq_none_iff [DecidableEq α] [Std.LawfulEqOrd α] {entries : List (α × β)} :
    lookup key entries = none ↔ key ∉ entries.map Prod.fst := by
  induction entries with
  | nil => simp [lookup]
  | cons first entries ih =>
    obtain ⟨k, v⟩ := first
    simp only [lookup, Std.LawfulEqOrd.compare_eq_iff_eq, List.map_cons, List.mem_cons, not_or]
    by_cases heq : key = k
    · simp [heq]
    · simp [heq, ih]

variable [Std.TransOrd α] [Std.LawfulEqOrd α]

/-- Maps with the same set of keys have the same list of keys, whatever they hold. -/
theorem keys_ext {m : SortedMap α β} {n : SortedMap α γ} (h : ∀ key, key ∈ m.keys ↔ key ∈ n.keys) :
    m.keys = n.keys := by
  have hirrefl : Std.Irrefl fun a b : α => compare a b = .lt :=
    ⟨fun a h => by simp [Std.ReflOrd.compare_self] at h⟩
  have hantisymm : Std.Antisymm fun a b : α => compare a b = .lt :=
    ⟨fun a b hab hba => absurd (Std.TransCmp.lt_trans hab hba) (hirrefl.irrefl a)⟩
  exact m.pairwise_keys.eq_of_mem_iff n.pairwise_keys h

/-- The keys of a map are the keys of the entries that it is made of. -/
theorem mem_keys_ofList [DecidableEq α] {entries : List (α × β)} :
    key ∈ (ofList entries).keys ↔ key ∈ entries.map Prod.fst := by
  rw [mem_keys_iff, get?_ofList, ← Option.ne_none_iff_isSome, Ne, lookup_eq_none_iff, not_not,
    List.map_reverse, List.mem_reverse]

end SortedMap

namespace Collection

variable {σ : Type} {source : PodSource σ} {capture : Capture} {logs logs' : List NamespaceLog}
  {namespaces namespaces' : List ControllerNamespace} {ns : ControllerNamespace} {key : Text}

/-! ## Names of artifacts -/

/-- A collection is stored under the names of the namespaces that it is given. -/
theorem mem_keys_artifacts {s : σ} :
    key ∈ (artifacts (ofNamespaces source capture namespaces s).1).keys ↔
      ∃ ns ∈ namespaces, key = ns.name ++ ".log".toList := by
  have hnames : ((ofNamespaces source capture namespaces s).1.map fun log =>
      (artifactName log.ns.name, Utf8.encode log.text)).map Prod.fst
        = (namespaces.map ControllerNamespace.name).map artifactName := by
    rw [← map_name_ofNamespaces source capture namespaces s, List.map_map, List.map_map]
    rfl
  rw [artifacts, SortedMap.mem_keys_ofList, hnames, List.map_map, List.mem_map]
  constructor
  · rintro ⟨ns, hns, rfl⟩
    exact ⟨ns, hns, rfl⟩
  · rintro ⟨ns, hns, rfl⟩
    exact ⟨ns, hns, rfl⟩

/-- The names of artifacts do not depend on what the source answers, nor on how much of each log is
collected. -/
theorem keys_artifacts_congr {τ : Type} (source : PodSource σ) (other : PodSource τ)
    (capture capture' : Capture) (namespaces : List ControllerNamespace) (s : σ) (t : τ) :
    (artifacts (ofNamespaces source capture namespaces s).1).keys
      = (artifacts (ofNamespaces other capture' namespaces t).1).keys := by
  apply SortedMap.keys_ext
  intro key
  rw [mem_keys_artifacts, mem_keys_artifacts]

/-- Artifacts are equal when they hold the same for every namespace. -/
theorem artifacts_ext
    (h : ∀ name, (artifacts logs).get? (artifactName name)
      = (artifacts logs').get? (artifactName name)) : artifacts logs = artifacts logs' := by
  apply SortedMap.ext_get?
  intro key
  by_cases hname : ∃ name, key = artifactName name
  · obtain ⟨name, rfl⟩ := hname
    exact h name
  · have hnone : ∀ logs : List NamespaceLog, (artifacts logs).get? key = none := by
      intro logs
      by_contra hsome
      obtain ⟨value, hvalue⟩ := Option.ne_none_iff_exists'.1 hsome
      obtain ⟨log, -, heq⟩ := exists_of_mem_artifacts (SortedMap.mem_entries_iff.2 hvalue)
      exact hname ⟨log.ns.name, congrArg Prod.fst heq⟩
    rw [hnone, hnone]

/-! ## The last namespace of a name -/

/-- A namespace is the last of its name when no later one has the name. -/
theorem lastNamed?_append_cons {back : List ControllerNamespace}
    (front : List ControllerNamespace) (h : ∀ later ∈ back, later.name ≠ ns.name) :
    lastNamed? ns.name (front ++ ns :: back) = some ns := by
  have hback : back.reverse.find? (fun later => later.name = ns.name) = none := by
    simpa using h
  rw [lastNamed?, List.reverse_append, List.reverse_cons, List.append_assoc, List.find?_append,
    hback]
  simp

/-- The last namespaces of a name are the same when they have the same label. -/
theorem lastNamed?_congr {name : Text}
    (h : (lastNamed? name namespaces).map ControllerNamespace.label
      = (lastNamed? name namespaces').map ControllerNamespace.label) :
    lastNamed? name namespaces = lastNamed? name namespaces' := by
  cases hlast : lastNamed? name namespaces with
  | none => simpa [hlast, eq_comm] using h
  | some ns =>
    rw [hlast] at h
    obtain ⟨ns', hlast', hlabel⟩ := Option.map_eq_some_iff.1 h.symm
    rw [hlast']
    have hname : ns.name = ns'.name :=
      (name_of_lastNamed? hlast).trans (name_of_lastNamed? hlast').symm
    cases ns
    cases ns'
    simp_all

/-! ## What artifacts depend on -/

/-- The artifacts of whole logs depend on the set of names that are asked for. -/
theorem artifacts_whole_congr (h : source.IsSteady)
    (hnames : ∀ name, name ∈ namespaces.map (·.name) ↔ name ∈ namespaces'.map (·.name))
    (s s' : σ) :
    artifacts (ofNamespaces source .whole namespaces s).1
      = artifacts (ofNamespaces source .whole namespaces' s').1 := by
  apply artifacts_ext
  intro name
  by_cases hmem : name ∈ namespaces.map (·.name)
  · obtain ⟨ns, hns, rfl⟩ := List.mem_map.1 hmem
    obtain ⟨ns', hns', hname⟩ := List.mem_map.1 ((hnames ns.name).1 hmem)
    have hleft := get?_artifacts_of_isSteady h hns s s
    have hright := get?_artifacts_of_isSteady h hns' s' s
    rw [hname, ofNamespace_whole_congr hname] at hright
    rw [hleft, hright]
  · have hnone : ∀ l : List ControllerNamespace, name ∉ l.map (·.name) →
        lastNamed? name l = none := by
      intro l hl
      simpa [lastNamed?] using hl
    rw [get?_artifacts_ofNamespaces h .whole namespaces name s s,
      get?_artifacts_ofNamespaces h .whole namespaces' name s' s, hnone _ hmem,
      hnone _ (mt (hnames name).2 hmem)]

/-- The artifacts of a collection depend on the last namespace of each name. -/
theorem artifacts_congr (h : source.IsSteady)
    (hlast : ∀ name, lastNamed? name namespaces = lastNamed? name namespaces') (s s' : σ) :
    artifacts (ofNamespaces source capture namespaces s).1
      = artifacts (ofNamespaces source capture namespaces' s').1 := by
  apply artifacts_ext
  intro name
  rw [get?_artifacts_ofNamespaces h capture namespaces name s s,
    get?_artifacts_ofNamespaces h capture namespaces' name s' s, hlast]

/-- The artifacts of a steady source depend on which names are asked for.

Whole logs do so on nothing else: two lists of namespaces with the same set of names give the same
artifacts, whatever the order, the repeats and the labels.  Logs from an instant on show a label,
and it is the last one that each name was given.  There is one artifact for each name, in the order
of their bytes, with the text of the last namespace of this name. -/
theorem artifacts_of_asked (h : source.IsSteady)
    (hnames : ∀ name, name ∈ namespaces.map (·.name) ↔ name ∈ namespaces'.map (·.name))
    (s s' : σ) :
    let stored (capture : Capture) := artifacts (ofNamespaces source capture namespaces s).1
    let stored' (capture : Capture) := artifacts (ofNamespaces source capture namespaces' s').1
    stored .whole = stored' .whole ∧
    ((∀ name, (lastNamed? name namespaces).map (·.label)
        = (lastNamed? name namespaces').map (·.label)) →
      ∀ start, stored (.since start) = stored' (.since start)) ∧
    ∀ capture,
      (∀ key, key ∈ (stored capture).keys ↔ ∃ ns ∈ namespaces, key = ns.name ++ ".log".toList) ∧
      (stored capture).keys.Pairwise
        (fun a b => compare (Utf8.encode a) (Utf8.encode b) = .lt) ∧
      ∀ front ns back, namespaces = front ++ ns :: back →
        (∀ later ∈ back, later.name ≠ ns.name) →
        ∃ text, (ofNamespaces source capture namespaces s).1[front.length]? = some ⟨ns, text⟩ ∧
          (stored capture).get? (ns.name ++ ".log".toList) = some (Utf8.encode text) := by
  intro stored stored'
  refine ⟨artifacts_whole_congr h hnames s s', fun hlabels start => ?_, fun capture => ?_⟩
  · exact artifacts_congr h (fun name => lastNamed?_congr (hlabels name)) s s'
  · refine ⟨fun key => mem_keys_artifacts, ?_, ?_⟩
    · simp only [Utf8.compare_encode]
      exact SortedMap.pairwise_keys _
    · intro front ns back hsplit hlater
      refine ⟨(ofNamespace source capture ns s).1, ?_, ?_⟩
      · rw [ofNamespaces_of_isSteady h namespaces s s, hsplit]
        simp
      · have hget := get?_artifacts_ofNamespaces h capture namespaces ns.name s s
        have hlast : lastNamed? ns.name namespaces = some ns := by
          rw [hsplit]
          exact lastNamed?_append_cons front hlater
        rw [hlast] at hget
        exact hget

/-- A repeated name is collected under its last label, wherever the name stands. -/
theorem artifacts_of_asked_repeatedly :
    let start : Instant := ⟨0, 0, by decide⟩
    let source :=
      (PodSource.constant (fun _ => .ok [⟨['p'], [], [['c']]⟩]) fun ns _ _ => .ok ns).recorded
    let stored (namespaces : List ControllerNamespace) :=
      artifacts (ofNamespaces source (.since start) namespaces ((), [])).1
    stored [⟨['A'], ['n']⟩, ⟨['B'], ['m']⟩, ⟨['C'], ['n']⟩]
      = stored [⟨['C'], ['n']⟩, ⟨['B'], ['m']⟩] := by
  intro start source stored
  have hsteady : source.IsSteady := ⟨fun _ _ _ => rfl, fun _ _ _ _ _ => rfl⟩
  let asked : List ControllerNamespace := [⟨['A'], ['n']⟩, ⟨['B'], ['m']⟩, ⟨['C'], ['n']⟩]
  let asked' : List ControllerNamespace := [⟨['C'], ['n']⟩, ⟨['B'], ['m']⟩]
  have hnames : ∀ name, name ∈ asked.map (·.name) ↔ name ∈ asked'.map (·.name) := by
    intro name
    simp [asked, asked']
    tauto
  have hlabels : ∀ name, (lastNamed? name asked).map (·.label)
      = (lastNamed? name asked').map (·.label) := by
    intro name
    by_cases hn : ['n'] = name
    · subst hn
      rfl
    · by_cases hm : ['m'] = name
      · subst hm
        rfl
      · simp [lastNamed?, asked, asked', hn, hm]
  exact (artifacts_of_asked hsteady hnames ((), []) ((), [])).2.1 hlabels start

end Collection

end Evidence
