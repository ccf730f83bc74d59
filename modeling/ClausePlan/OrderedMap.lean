/-!
# Maps that keep the order of insertion

A key that is new goes to the end; a key that is present keeps its place and takes the new value.

## Main definitions

* `OrderedMap`: entries in order, no two with one key.
* `OrderedMap.insert`, `OrderedMap.insertAll`, `OrderedMap.mapValues`: the operations.
* `OrderedMap.get?`: the value under a key.

## Main results

* `OrderedMap.get?_insert`: an insertion changes the value under its key and under no other.
* `OrderedMap.keys_insert`: an insertion adds its key at the end, if it is new.
-/

namespace ClausePlan

/-- A map whose entries have an order. -/
structure OrderedMap (α β : Type) where
  /-- The entries in order. -/
  entries : List (α × β) := []
  /-- No two entries have the same key. -/
  nodup_keys : (entries.map Prod.fst).Nodup := by simp

namespace OrderedMap

variable {α β γ : Type}

instance : EmptyCollection (OrderedMap α β) where
  emptyCollection := {}

/-- The keys in order. -/
def keys (m : OrderedMap α β) : List α :=
  m.entries.map Prod.fst

/-- The number of entries. -/
def size (m : OrderedMap α β) : Nat :=
  m.entries.length

/-- The map with the same keys and the values changed by `f`. -/
def mapValues (f : β → γ) (m : OrderedMap α β) : OrderedMap α γ where
  entries := m.entries.map fun entry => (entry.1, f entry.2)
  nodup_keys := by
    have := m.nodup_keys
    simpa [List.map_map, Function.comp_def] using this

@[simp] theorem keys_empty : (∅ : OrderedMap α β).keys = [] := rfl

@[simp] theorem keys_mapValues (f : β → γ) (m : OrderedMap α β) : (m.mapValues f).keys = m.keys := by
  simp [keys, mapValues, Function.comp_def]

variable [DecidableEq α]

/-- The value under a key. -/
def get? (m : OrderedMap α β) (key : α) : Option β :=
  m.entries.lookup key

/-- The entries with one more: in the place of an entry with the same key, or else at the end. -/
def insertEntry (key : α) (value : β) : List (α × β) → List (α × β)
  | [] => [(key, value)]
  | (k, v) :: entries =>
    if k = key then (k, value) :: entries else (k, v) :: insertEntry key value entries

theorem keys_insertEntry (key : α) (value : β) (entries : List (α × β)) :
    (insertEntry key value entries).map Prod.fst =
      if key ∈ entries.map Prod.fst then entries.map Prod.fst
      else entries.map Prod.fst ++ [key] := by
  induction entries with
  | nil => simp [insertEntry]
  | cons entry entries ih =>
    obtain ⟨k, v⟩ := entry
    by_cases h : k = key
    · simp [insertEntry, h]
    · have h' : ¬key = k := fun e => h e.symm
      simp only [insertEntry, h, h', ih, List.map_cons, List.mem_cons, false_or, if_false]
      split <;> simp

/-- The map with a value put under a key. -/
def insert (m : OrderedMap α β) (key : α) (value : β) : OrderedMap α β where
  entries := insertEntry key value m.entries
  nodup_keys := by
    have h := m.nodup_keys
    rw [keys_insertEntry]
    split
    · exact h
    · next hk =>
      refine List.nodup_append.2 ⟨h, by simp, fun a ha b hb e => ?_⟩
      obtain rfl := List.mem_singleton.1 hb
      exact hk (e ▸ ha)

/-- The map with all entries of another one put in, in their order. -/
def insertAll (m n : OrderedMap α β) : OrderedMap α β :=
  n.entries.foldl (fun m entry => m.insert entry.1 entry.2) m

/-! ### What the operations do -/

@[simp] theorem get?_empty (key : α) : (∅ : OrderedMap α β).get? key = none := rfl

/-- A new key goes to the end, and a present one moves nothing. -/
theorem keys_insert (m : OrderedMap α β) (key : α) (value : β) :
    (m.insert key value).keys = if key ∈ m.keys then m.keys else m.keys ++ [key] :=
  keys_insertEntry key value m.entries

/-- The value put in is found under its key, and all other values are found as before. -/
theorem get?_insert (m : OrderedMap α β) (key : α) (value : β) (key' : α) :
    (m.insert key value).get? key' = if key' = key then some value else m.get? key' := by
  show (insertEntry key value m.entries).lookup key' = _
  simp only [get?]
  induction m.entries with
  | nil =>
    by_cases h : key' = key
    · simp [insertEntry, h]
    · simp [insertEntry, List.lookup_cons, h, beq_eq_false_iff_ne.2 h]
  | cons entry entries ih =>
    obtain ⟨k, v⟩ := entry
    by_cases hk : k = key
    · by_cases h : key' = key
      · simp [insertEntry, hk, h]
      · simp [insertEntry, hk, h, List.lookup_cons, beq_eq_false_iff_ne.2 h]
    · by_cases h : key' = k
      · subst h
        simp [insertEntry, hk]
      · simp [insertEntry, hk, List.lookup_cons, ih, beq_eq_false_iff_ne.2 h]

end OrderedMap

end ClausePlan
