/-!
# Sorted maps

Finite maps as lists of entries in strictly ascending order of their keys.  The order is part of
the type, so two maps with the same values are equal, and the entries come out sorted.

Main definitions:

- `SortedMap`: the entries and the proof that their keys ascend.
- `SortedMap.get?`, `SortedMap.insert` and `SortedMap.ofList`.

Main results:

- `SortedMap.get?_insert`: what a map holds after an insertion.
- `SortedMap.mem_entries_iff`: the entries are what can be looked up.
- `SortedMap.ext_get?`: maps that hold the same are equal.
-/

namespace Evidence

/-- A finite map, as its entries in strictly ascending order of their keys. -/
structure SortedMap (α β : Type) [Ord α] where
  entries : List (α × β)
  ascending : entries.Pairwise fun a b => compare a.1 b.1 = .lt

namespace SortedMap

variable {α β : Type} [Ord α]

/-- The map without entries. -/
def empty : SortedMap α β :=
  ⟨[], .nil⟩

/-- Maps with the same entries are equal. -/
theorem ext_entries {m n : SortedMap α β} (h : m.entries = n.entries) : m = n := by
  cases m
  cases n
  cases h
  rfl

instance [DecidableEq α] [DecidableEq β] : DecidableEq (SortedMap α β) := fun m n =>
  decidable_of_iff (m.entries = n.entries) ⟨ext_entries, fun h => h ▸ rfl⟩

/-! ## Look-up and insertion -/

/-- The value that a list of entries gives to a key. -/
def lookup (key : α) : List (α × β) → Option β
  | [] => none
  | (k, v) :: rest => if compare key k = .eq then some v else lookup key rest

/-- The value that a map gives to a key. -/
def get? (m : SortedMap α β) (key : α) : Option β :=
  lookup key m.entries

/-- Put an entry where its key belongs, over the one that has the key. -/
def place (key : α) (value : β) : List (α × β) → List (α × β)
  | [] => [(key, value)]
  | (k, v) :: rest =>
    match compare key k with
    | .lt => (key, value) :: (k, v) :: rest
    | .eq => (key, value) :: rest
    | .gt => (k, v) :: place key value rest

/-- A placed key comes from the entry or from the list. -/
theorem mem_place {key : α} {value : β} {entries : List (α × β)} {e : α × β}
    (h : e ∈ place key value entries) : e = (key, value) ∨ e ∈ entries := by
  induction entries with
  | nil => simpa [place] using h
  | cons first rest ih =>
    obtain ⟨k, v⟩ := first
    simp only [place] at h
    split at h
    · simpa using h
    · simp only [List.mem_cons] at h
      rcases h with h | h
      · exact .inl h
      · exact .inr (List.mem_cons_of_mem _ h)
    · simp only [List.mem_cons] at h
      rcases h with h | h
      · exact .inr (by simp [h])
      · rcases ih h with h | h
        · exact .inl h
        · exact .inr (List.mem_cons_of_mem _ h)

/-- Placing an entry keeps the keys ascending. -/
theorem pairwise_place [Std.TransOrd α] [Std.LawfulEqOrd α] (key : α) (value : β)
    {entries : List (α × β)}
    (h : entries.Pairwise fun a b => compare a.1 b.1 = .lt) :
    (place key value entries).Pairwise fun a b => compare a.1 b.1 = .lt := by
  induction entries with
  | nil => simp [place]
  | cons first rest ih =>
    obtain ⟨k, v⟩ := first
    obtain ⟨hfirst, hrest⟩ := List.pairwise_cons.1 h
    simp only [place]
    split
    · next hlt =>
      refine List.pairwise_cons.2 ⟨fun e he => ?_, h⟩
      rcases List.mem_cons.1 he with rfl | he
      · exact hlt
      · exact Std.TransCmp.lt_trans hlt (hfirst e he)
    · next heq =>
      have hk : key = k := Std.LawfulEqOrd.eq_of_compare heq
      exact List.pairwise_cons.2 ⟨fun e he => hk ▸ hfirst e he, hrest⟩
    · next hgt =>
      refine List.pairwise_cons.2 ⟨fun e he => ?_, ih hrest⟩
      rcases mem_place he with rfl | he
      · exact Std.OrientedCmp.lt_of_gt hgt
      · exact hfirst e he

/-- Give a key a value, over the one that it has. -/
def insert [Std.TransOrd α] [Std.LawfulEqOrd α] (m : SortedMap α β) (key : α) (value : β) :
    SortedMap α β :=
  ⟨place key value m.entries, pairwise_place key value m.ascending⟩

/-- The map of a list of entries; of two with one key the later counts. -/
def ofList [Std.TransOrd α] [Std.LawfulEqOrd α] (entries : List (α × β)) : SortedMap α β :=
  entries.foldl (fun m e => m.insert e.1 e.2) empty

/-! ## Laws -/

/-- The empty map holds nothing. -/
@[simp] theorem get?_empty (key : α) : (empty : SortedMap α β).get? key = none :=
  rfl

/-- Looking up behind a placed entry. -/
theorem lookup_place [DecidableEq α] [Std.LawfulEqOrd α] (key : α) (value : β)
    (entries : List (α × β)) (wanted : α) :
    lookup wanted (place key value entries)
      = if wanted = key then some value else lookup wanted entries := by
  induction entries with
  | nil => simp [place, lookup]
  | cons first rest ih =>
    obtain ⟨k, v⟩ := first
    simp only [place]
    split
    · simp [lookup]
    · next heq =>
      have hk : key = k := Std.LawfulEqOrd.eq_of_compare heq
      subst hk
      by_cases h : wanted = key <;> simp [lookup, h]
    · next hgt =>
      have hne : k ≠ key := fun h => by simp [h, Std.ReflOrd.compare_self] at hgt
      simp only [lookup, ih, Std.LawfulEqOrd.compare_eq_iff_eq]
      by_cases h : wanted = key
      · subst h
        simp [hne.symm]
      · simp [h]

/-- After an insertion a map holds the value at the key, and elsewhere what it held before. -/
theorem get?_insert [DecidableEq α] [Std.TransOrd α] [Std.LawfulEqOrd α] (m : SortedMap α β)
    (key : α) (value : β) (wanted : α) :
    (m.insert key value).get? wanted = if wanted = key then some value else m.get? wanted :=
  lookup_place key value m.entries wanted

/-- A key below all keys of a list is not found in it. -/
theorem lookup_eq_none {key : α} {entries : List (α × β)}
    (h : ∀ e ∈ entries, compare key e.1 = .lt) : lookup key entries = none := by
  induction entries with
  | nil => rfl
  | cons first rest ih =>
    have hlt := h first (by simp)
    simp [lookup, hlt, ih fun e he => h e (by simp [he])]

/-- The entries of a map are what can be looked up in it. -/
theorem mem_entries_iff [Std.LawfulEqOrd α] {m : SortedMap α β} {key : α} {value : β} :
    (key, value) ∈ m.entries ↔ m.get? key = some value := by
  obtain ⟨entries, h⟩ := m
  simp only [get?]
  induction entries with
  | nil => simp [lookup]
  | cons first rest ih =>
    obtain ⟨k, v⟩ := first
    obtain ⟨hfirst, hrest⟩ := List.pairwise_cons.1 h
    simp only [List.mem_cons, Prod.mk.injEq, lookup, Std.LawfulEqOrd.compare_eq_iff_eq, ih hrest]
    by_cases hk : key = k
    · subst hk
      simp [lookup_eq_none hfirst, eq_comm]
    · simp [hk]

/-- Maps that hold the same are equal. -/
theorem ext_get? [Std.TransOrd α] [Std.LawfulEqOrd α] {m n : SortedMap α β}
    (h : ∀ key, m.get? key = n.get? key) : m = n := by
  apply ext_entries
  have hmem : ∀ e, e ∈ m.entries ↔ e ∈ n.entries := fun e => by
    rw [show e = (e.1, e.2) from rfl, mem_entries_iff, mem_entries_iff, h]
  obtain ⟨xs, hxs⟩ := m
  obtain ⟨ys, hys⟩ := n
  simp only at hmem ⊢
  clear h
  induction xs generalizing ys with
  | nil =>
    cases ys with
    | nil => rfl
    | cons y ys => exact absurd ((hmem y).2 (by simp)) (by simp)
  | cons x xs ih =>
    cases ys with
    | nil => exact absurd ((hmem x).1 (by simp)) (by simp)
    | cons y ys =>
      obtain ⟨hx, hxs'⟩ := List.pairwise_cons.1 hxs
      obtain ⟨hy, hys'⟩ := List.pairwise_cons.1 hys
      have hirr : ∀ z : α × β, ¬ compare z.1 z.1 = .lt := fun z => by
        simp [Std.ReflOrd.compare_self]
      have hxy : x = y := by
        rcases List.mem_cons.1 ((hmem x).1 (by simp)) with hxy | hxy
        · exact hxy
        · rcases List.mem_cons.1 ((hmem y).2 (by simp)) with hyx | hyx
          · exact hyx.symm
          · exact absurd (Std.TransCmp.lt_trans (hx y hyx) (hy x hxy)) (hirr x)
      subst hxy
      congr 1
      apply ih hxs' ys hys'
      intro e
      constructor
      · intro he
        rcases List.mem_cons.1 ((hmem e).1 (by simp [he])) with heq | he'
        · exact absurd (heq ▸ hx e he) (hirr x)
        · exact he'
      · intro he
        rcases List.mem_cons.1 ((hmem e).2 (by simp [he])) with heq | he'
        · exact absurd (heq ▸ hy e he) (hirr x)
        · exact he'

end SortedMap

end Evidence
