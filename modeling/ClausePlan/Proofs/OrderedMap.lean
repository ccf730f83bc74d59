import ClausePlan.OrderedMap
import Mathlib.Data.List.Induction
import Mathlib.Data.List.Perm.Subperm
import Mathlib.Tactic.Lemma
/-!
# Maps that keep the order of insertion: laws of insertion

A map is determined by its keys in order and by the value under each key, so an equation between
maps is checked on these two views. Putting the entries of one map into another is associative,
and the map of a list of entries turns concatenation into it.

## Main definitions

* `ClausePlan.OrderedMap.ofList` — the map of some entries, put in from left to right.

## Main results

* `ClausePlan.OrderedMap.ext_keys` — maps with equal keys and equal values are equal.
* `ClausePlan.OrderedMap.keys_insertAll`, `ClausePlan.OrderedMap.get?_insertAll` — the two views of
  a map with all entries of another one put in.
* `ClausePlan.OrderedMap.insertAll_assoc` — putting maps into one another is associative.
* `ClausePlan.OrderedMap.ofList_append` — concatenation becomes insertion of all entries.
* `ClausePlan.OrderedMap.keys_ofList_eq_eraseDups`, `ClausePlan.OrderedMap.get?_ofList_eq_getLast?`,
  `ClausePlan.OrderedMap.size_ofList_eq_length_iff` — keys, values and size of the map of any list, with
  keys that may repeat.
-/

namespace ClausePlan.OrderedMap

variable {α β γ : Type} [DecidableEq α]

/-! ## The two views -/

/-- The first entry is found under its key, and under another key what comes behind it. -/
lemma lookup_cons_eq_ite (key k : α) (v : β) (l : List (α × β)) :
    ((k, v) :: l).lookup key = if key = k then some v else l.lookup key := by
  by_cases h : key = k
  · simp [h]
  · simp [List.lookup_cons, h, beq_eq_false_iff_ne.2 h]

/-- Something is found under the keys of the entries. -/
lemma isSome_lookup_iff {l : List (α × β)} {key : α} :
    (l.lookup key).isSome ↔ key ∈ l.map Prod.fst := by
  rw [List.lookup_isSome_iff, List.mem_map]
  constructor
  · rintro ⟨entry, hentry, he⟩
    exact ⟨entry, hentry, (eq_of_beq he).symm⟩
  · rintro ⟨entry, hentry, rfl⟩
    exact ⟨entry, hentry, beq_self_eq_true _⟩

/-- Nothing is found under a key that no entry has. -/
private lemma lookup_eq_none_of_notMem {l : List (α × β)} {key : α} (h : key ∉ l.map Prod.fst) :
    l.lookup key = none := by
  rwa [← isSome_lookup_iff, Option.not_isSome_iff_eq_none] at h

/-- Two lists of entries with the same distinct keys in order, and with the same value found under
each key, are equal. -/
lemma entries_eq_of_lookup :
    ∀ l l' : List (α × β), (l.map Prod.fst).Nodup → l.map Prod.fst = l'.map Prod.fst →
      (∀ key, l.lookup key = l'.lookup key) → l = l'
  | [], l', _, hkeys, _ => (List.map_eq_nil_iff.1 hkeys.symm).symm
  | (k, v) :: l, l', hnodup, hkeys, hlookup => by
    obtain ⟨⟨k', v'⟩, l'', rfl, rfl, hkeys'⟩ := List.map_eq_cons_iff.1 hkeys.symm
    obtain ⟨hk, hnodup'⟩ := List.nodup_cons.1 hnodup
    have hvalue : v = v' := by simpa using hlookup k'
    subst hvalue
    congr 1
    refine entries_eq_of_lookup l l'' hnodup' hkeys'.symm fun key => ?_
    by_cases hkey : key = k'
    · -- the first key occurs in neither rest
      subst hkey
      rw [lookup_eq_none_of_notMem hk, lookup_eq_none_of_notMem (hkeys' ▸ hk)]
    · simpa [lookup_cons_eq_ite, hkey] using hlookup key

/-- Maps with the same keys in order and the same value under each key are equal. -/
lemma ext_keys {m n : OrderedMap α β} (hkeys : m.keys = n.keys)
    (hget : ∀ key, m.get? key = n.get? key) : m = n := by
  obtain ⟨entries, hnodup⟩ := m
  obtain ⟨entries', hnodup'⟩ := n
  have : entries = entries' := entries_eq_of_lookup entries entries' hnodup hkeys hget
  subst this
  rfl

/-! ## Putting in all entries of a map -/

/-- Entries with distinct keys, put in one after the other, add the keys that are new. -/
private lemma keys_foldl_insert :
    ∀ (l : List (α × β)) (m : OrderedMap α β), (l.map Prod.fst).Nodup →
      (l.foldl (fun m entry => m.insert entry.1 entry.2) m).keys =
        m.keys ++ (l.map Prod.fst).filter (· ∉ m.keys)
  | [], m, _ => by simp
  | (k, v) :: l, m, hnodup => by
    obtain ⟨hk, hnodup'⟩ := List.nodup_cons.1 hnodup
    rw [List.foldl_cons, keys_foldl_insert l _ hnodup', keys_insert]
    by_cases hmem : k ∈ m.keys
    · simp [hmem]
    · have hfilter : (l.map Prod.fst).filter (· ∉ m.keys ++ [k]) =
          (l.map Prod.fst).filter (· ∉ m.keys) := by
        refine List.filter_congr fun key hkey => ?_
        have hne : key ≠ k := fun he => hk (he ▸ hkey)
        simp [hne]
      simp only [hmem, if_false, hfilter]
      simp [hmem]

/-- Entries with distinct keys, put in one after the other, are found in the result, and where there
is none the old value is. -/
private lemma get?_foldl_insert (key : α) :
    ∀ (l : List (α × β)) (m : OrderedMap α β), (l.map Prod.fst).Nodup →
      (l.foldl (fun m entry => m.insert entry.1 entry.2) m).get? key =
        (l.lookup key).or (m.get? key)
  | [], m, _ => by simp
  | (k, v) :: l, m, hnodup => by
    obtain ⟨hk, hnodup'⟩ := List.nodup_cons.1 hnodup
    rw [List.foldl_cons, get?_foldl_insert key l _ hnodup', get?_insert]
    by_cases hkey : key = k
    · subst hkey
      simp [lookup_eq_none_of_notMem hk]
    · simp [lookup_cons_eq_ite, hkey]

/-- The keys of a map with another one put in: first its own, then those that are new. -/
lemma keys_insertAll (m n : OrderedMap α β) :
    (m.insertAll n).keys = m.keys ++ n.keys.filter (· ∉ m.keys) :=
  keys_foldl_insert n.entries m n.nodup_keys

/-- The values of the map that is put in hold, and the old ones where it has none. -/
lemma get?_insertAll (m n : OrderedMap α β) (key : α) :
    (m.insertAll n).get? key = (n.get? key).or (m.get? key) :=
  get?_foldl_insert key n.entries m n.nodup_keys

@[simp] lemma insertAll_empty (m : OrderedMap α β) : m.insertAll ∅ = m := rfl

@[simp] lemma empty_insertAll (m : OrderedMap α β) : (∅ : OrderedMap α β).insertAll m = m := by
  apply ext_keys
  · simp [keys_insertAll]
  · simp [get?_insertAll]

/-- An entry put in before or after the whole map is moved makes no difference. -/
lemma insertAll_insert (m n : OrderedMap α β) (key : α) (value : β) :
    m.insertAll (n.insert key value) = (m.insertAll n).insert key value := by
  apply ext_keys
  · simp only [keys_insertAll, keys_insert]
    by_cases hn : key ∈ n.keys
    · by_cases hm : key ∈ m.keys <;> simp [hn, hm]
    · by_cases hm : key ∈ m.keys <;> simp [hn, hm]
  · intro key'
    simp only [get?_insertAll, get?_insert]
    by_cases h : key' = key <;> simp [h]

/-- Putting in a map that some entries were put into is putting in the map and then the entries. -/
lemma insertAll_foldl (m : OrderedMap α β) :
    ∀ (l : List (α × β)) (n : OrderedMap α β),
      m.insertAll (l.foldl (fun n entry => n.insert entry.1 entry.2) n) =
        l.foldl (fun n entry => n.insert entry.1 entry.2) (m.insertAll n)
  | [], _ => rfl
  | entry :: l, n => by
    rw [List.foldl_cons, List.foldl_cons, insertAll_foldl m l, insertAll_insert]

/-- Putting maps into one another is associative. -/
lemma insertAll_assoc (m n o : OrderedMap α β) :
    (m.insertAll n).insertAll o = m.insertAll (n.insertAll o) :=
  (insertAll_foldl m o.entries n).symm

/-! ## The map of a list of entries -/

/-- The map of some entries, put in from left to right. -/
def ofList (entries : List (α × β)) : OrderedMap α β :=
  entries.foldl (fun m entry => m.insert entry.1 entry.2) ∅

@[simp] lemma ofList_nil : ofList ([] : List (α × β)) = ∅ := rfl

/-- The map of two lists in a row is that of the first one with the second one put in. -/
lemma ofList_append (l l' : List (α × β)) :
    ofList (l ++ l') = (ofList l).insertAll (ofList l') := by
  rw [ofList, List.foldl_append, ofList, ofList, insertAll_foldl, insertAll_empty]

/-- An entry behind a list is put into its map last. -/
lemma ofList_concat (l : List (α × β)) (entry : α × β) :
    ofList (l ++ [entry]) = (ofList l).insert entry.1 entry.2 := by
  rw [ofList, List.foldl_append]
  rfl

/-- **The keys of any list of entries** are in the order in which each of them occurs first. -/
lemma keys_ofList_eq_eraseDups (l : List (α × β)) :
    (ofList l).keys = (l.map Prod.fst).eraseDups := by
  induction l using List.reverseRecOn with
  | nil => rfl
  | append_singleton l entry ih =>
    rw [ofList_concat, keys_insert, ih, List.map_append, List.eraseDups_append]
    simp only [List.mem_eraseDups, List.map_cons, List.map_nil, List.removeAll, List.filter_cons,
      List.filter_nil]
    by_cases hkey : entry.1 ∈ l.map Prod.fst
    · simp [hkey]
    · simp [hkey, List.eraseDups_cons]

/-- **The value under a key of any list of entries** is that of the last entry with this key. -/
lemma get?_ofList_eq_getLast? (l : List (α × β)) (key : α) :
    (ofList l).get? key = ((l.filter fun entry => entry.1 = key).getLast?).map Prod.snd := by
  induction l using List.reverseRecOn with
  | nil => rfl
  | append_singleton l entry ih =>
    rw [ofList_concat, get?_insert, ih, List.filter_append, List.getLast?_append]
    by_cases hkey : key = entry.1
    · simp [hkey]
    · simp [hkey, Ne.symm hkey]

/-- The keys of a list of entries with distinct keys stay in their order. -/
lemma keys_ofList {l : List (α × β)} (h : (l.map Prod.fst).Nodup) :
    (ofList l).keys = l.map Prod.fst := by
  rw [ofList, keys_foldl_insert l ∅ h]
  simp

/-- **A list has as many entries as its map** iff its keys are distinct.

**Proof sketch.** The keys of the map are distinct and occur in the list. If they are as many as the
entries of the list, then they are the keys of the list in another order. -/
lemma size_ofList_eq_length_iff (l : List (α × β)) :
    (ofList l).size = l.length ↔ (l.map Prod.fst).Nodup := by
  have hsize : (ofList l).size = (ofList l).keys.length := (List.length_map _).symm
  constructor
  · intro h
    have hsub : (ofList l).keys ⊆ l.map Prod.fst := by
      intro key hkey
      rwa [keys_ofList_eq_eraseDups, List.mem_eraseDups] at hkey
    have hnodup : (ofList l).keys.Nodup := (ofList l).nodup_keys
    have hlength : (l.map Prod.fst).length = (ofList l).keys.length := by
      rw [List.length_map, ← h, hsize]
    have hperm := (List.subperm_of_subset hnodup hsub).perm_of_length_le (Nat.le_of_eq hlength)
    exact hperm.nodup_iff.1 hnodup
  · intro h
    rw [hsize, keys_ofList h, List.length_map]

/-- The entries of a list with distinct keys are those of its map. -/
lemma entries_ofList {l : List (α × β)} (h : (l.map Prod.fst).Nodup) : (ofList l).entries = l := by
  refine entries_eq_of_lookup _ l (ofList l).nodup_keys (keys_ofList h) fun key => ?_
  show (ofList l).get? key = l.lookup key
  rw [ofList, get?_foldl_insert key l ∅ h, get?_empty, Option.or_none]

/-- Each value of a list of entries with distinct keys is found under its key. -/
lemma get?_ofList {l : List (α × β)} (h : (l.map Prod.fst).Nodup) {key : α} {value : β}
    (hmem : (key, value) ∈ l) : (ofList l).get? key = some value := by
  obtain ⟨before, after, rfl⟩ := List.append_of_mem hmem
  have hlookup : (before ++ (key, value) :: after).lookup key = some value := by
    refine List.lookup_eq_some_iff.2 ⟨before, after, rfl, fun entry hentry => ?_⟩
    rw [List.map_append, List.map_cons] at h
    -- an earlier entry with this key would repeat it
    have hne := (List.nodup_append.1 h).2.2 _ (List.mem_map_of_mem hentry) key List.mem_cons_self
    simpa using Ne.symm hne
  rw [ofList, get?_foldl_insert key _ ∅ h, hlookup]
  rfl

/-- The map of the entries of a map. -/
@[simp] lemma ofList_entries (m : OrderedMap α β) : ofList m.entries = m :=
  empty_insertAll m

/-! ## Changing all values -/

/-- The values are changed where they stand. -/
lemma get?_mapValues (f : β → γ) (m : OrderedMap α β) (key : α) :
    (m.mapValues f).get? key = (m.get? key).map f := by
  have hentries : ∀ l : List (α × β),
      (l.map fun entry => (entry.1, f entry.2)).lookup key = (l.lookup key).map f := by
    intro l
    induction l with
    | nil => rfl
    | cons entry l ih =>
      obtain ⟨k, v⟩ := entry
      rw [List.map_cons, lookup_cons_eq_ite, lookup_cons_eq_ite, ih]
      split <;> rfl
  exact hentries m.entries

/-- Changing all values and putting in an entry commute. -/
lemma mapValues_insert (f : β → γ) (m : OrderedMap α β) (key : α) (value : β) :
    (m.insert key value).mapValues f = (m.mapValues f).insert key (f value) := by
  have hentries : ∀ l : List (α × β),
      (insertEntry key value l).map (fun entry => (entry.1, f entry.2)) =
        insertEntry key (f value) (l.map fun entry => (entry.1, f entry.2)) := by
    intro l
    induction l with
    | nil => rfl
    | cons entry l ih =>
      simp only [insertEntry, List.map_cons]
      split <;> simp [ih]
  simp only [mapValues, insert, hentries]

/-- Changing all values and putting in a map commute. -/
lemma mapValues_insertAll (f : β → γ) (m n : OrderedMap α β) :
    (m.insertAll n).mapValues f = (m.mapValues f).insertAll (n.mapValues f) := by
  apply ext_keys
  · simp only [keys_mapValues, keys_insertAll]
  · intro key
    simp only [get?_mapValues, get?_insertAll, Option.map_or]

/-- The map of a list with all values changed is the map of the changed list. -/
lemma mapValues_ofList (f : β → γ) (l : List (α × β)) :
    (ofList l).mapValues f = ofList (l.map fun entry => (entry.1, f entry.2)) := by
  induction l using List.reverseRecOn with
  | nil => rfl
  | append_singleton l entry ih =>
    simp only [ofList, List.map_append, List.foldl_append] at ih ⊢
    rw [List.foldl_cons, List.foldl_nil, mapValues_insert, ih]
    rfl

end ClausePlan.OrderedMap
