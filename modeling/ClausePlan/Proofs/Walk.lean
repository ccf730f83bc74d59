import ClausePlan.Proofs.OrderedMap
import ClausePlan.Proofs.Steps
import Mathlib.Data.List.Range
/-!
# The walk through the requested fields

A walk goes through a request from left to right, each to-one relation before the fields below it.
It does not enter to-many relations, whose fields belong to another query. Each stop of the walk
knows which to-one relations lie around it and how many aliases the stops before it ask for, so a
plan can be written down from the list of stops and the list of aliases alone.

## Main definitions

* `ClausePlan.Stop` — a node that the walk meets, with its place in the tree.
* `ClausePlan.Field.walk`, `ClausePlan.Field.walkAll` — the walk through a field, or through some.
* `ClausePlan.WalkInvariant` — what has to be shown of a property so that all walks have it.

## Main results

* `ClausePlan.WalkInvariant.walkAll` — induction on the walk.
* `ClausePlan.Field.numbers_stops` — the stops that ask for an alias are numbered in order.
* `ClausePlan.Field.hangsFrom_invariant` — a stop below a relation comes after the stop of that
  relation, and its trail is one collection longer.
-/

namespace ClausePlan

/-! ## Stops -/

/-- What the alias of a field is made from: the column, the function with its column, or the
collection that is joined in. Nothing is named after a to-many relation. -/
def Field.seed? : Field → Option String
  | .column name => some name
  | .computed fn name => some (fn.aliasSeed name)
  | .toOne relation _ => some relation.collection
  | .toMany _ _ => none

/-- A node that the walk meets. -/
structure Stop where
  /-- The node. -/
  field : Field
  /-- The collections behind the to-one relations around the node, from the outside in. -/
  trail : Path
  /-- The number of the innermost of these relations, if there is any. -/
  parent : Option Nat
  /-- How many aliases the stops before this one ask for; also the number of its own alias. -/
  number : Nat

namespace Stop

/-- What the alias of a stop is made from, if it asks for one. -/
def seed? (s : Stop) : Option String := s.field.seed?

/-- The to-one relation of a stop. -/
def relation? (s : Stop) : Option Relation :=
  match s.field with
  | .toOne relation _ => some relation
  | _ => none

/-- The stop as one that lies below a to-one relation to a collection. -/
def below (collection : String) (s : Stop) : Stop :=
  { s with trail := collection :: s.trail }

@[simp] lemma seed?_below (collection : String) (s : Stop) :
    (s.below collection).seed? = s.seed? := rfl

/-- A stop has a relation if it is that of a to-one relation. -/
lemma relation?_eq_some_iff {s : Stop} {r : Relation} :
    s.relation? = some r ↔ ∃ fields, s.field = .toOne r fields := by
  obtain ⟨_ | _ | _ | _, trail, parent, number⟩ := s <;> simp [relation?]

/-- A relation that is joined in has an alias, made from the name of its collection. -/
lemma seed?_of_relation? {s : Stop} {r : Relation} (h : s.relation? = some r) :
    s.seed? = some r.collection := by
  obtain ⟨fields, hfield⟩ := relation?_eq_some_iff.1 h
  rw [seed?, hfield]
  rfl

end Stop

/-- What the aliases of some stops are made from, in order. -/
def Stop.seeds (stops : List Stop) : List String :=
  stops.filterMap Stop.seed?

/-! ## The walk -/

mutual

/-- The stops of a field that hangs below the relation numbered `parent`, where `number` aliases are
asked for before it. -/
def Field.walk (parent : Option Nat) (number : Nat) : Field → List Stop
  | .column name => [⟨.column name, [], parent, number⟩]
  | .computed fn name => [⟨.computed fn name, [], parent, number⟩]
  | .toOne relation fields =>
    ⟨.toOne relation fields, [], parent, number⟩ ::
      (Field.walkAll (some number) (number + 1) fields).map (Stop.below relation.collection)
  | .toMany relation fields => [⟨.toMany relation fields, [], parent, number⟩]

/-- The stops of some fields, one field after the other. -/
def Field.walkAll (parent : Option Nat) (number : Nat) : List Field → List Stop
  | [] => []
  | field :: fields =>
    Field.walk parent number field ++
      Field.walkAll parent (number + (Stop.seeds (Field.walk parent number field)).length) fields

end

/-- The stops of a request. -/
def Field.stops (fields : List Field) : List Stop :=
  Field.walkAll none 0 fields

/-- A property of the walks below a relation, from a number on, that the walk through any fields
has: it holds of no stops, of a single stop that is no to-one relation, of two walks in a row, and
of a to-one relation before the walk below it. -/
structure WalkInvariant (P : Option Nat → Nat → List Stop → Prop) : Prop where
  nil (parent : Option Nat) (number : Nat) : P parent number []
  single (parent : Option Nat) (number : Nat) (field : Field) :
    Stop.relation? ⟨field, [], parent, number⟩ = none →
      P parent number [⟨field, [], parent, number⟩]
  append (parent : Option Nat) (number : Nat) (stops stops' : List Stop) :
    P parent number stops → P parent (number + (Stop.seeds stops).length) stops' →
      P parent number (stops ++ stops')
  relation (parent : Option Nat) (number : Nat) (r : Relation) (fields : List Field)
    (stops : List Stop) :
    P (some number) (number + 1) stops →
      P parent number (⟨.toOne r fields, [], parent, number⟩ :: stops.map (Stop.below r.collection))

mutual

/-- The walk through a field has every invariant of walks. -/
lemma WalkInvariant.walk {P : Option Nat → Nat → List Stop → Prop} (h : WalkInvariant P)
    (parent : Option Nat) (number : Nat) : ∀ field, P parent number (Field.walk parent number field)
  | .column _ => h.single parent number _ rfl
  | .computed _ _ => h.single parent number _ rfl
  | .toOne r fields =>
    h.relation parent number r fields _ (h.walkAll (some number) (number + 1) fields)
  | .toMany _ _ => h.single parent number _ rfl

/-- **Induction on the walk**: the walk through any fields has every invariant of walks. -/
lemma WalkInvariant.walkAll {P : Option Nat → Nat → List Stop → Prop} (h : WalkInvariant P)
    (parent : Option Nat) (number : Nat) :
    ∀ fields, P parent number (Field.walkAll parent number fields)
  | [] => h.nil parent number
  | field :: fields =>
    h.append parent number _ _ (h.walk parent number field) (h.walkAll parent _ fields)

end

/-! ## The numbers of stops -/

namespace Stop

/-- The numbers of the stops that ask for an alias. -/
def numbers (stops : List Stop) : List Nat :=
  stops.filterMap fun s => s.seed?.map fun _ => s.number

@[simp] lemma seeds_append (stops stops' : List Stop) :
    seeds (stops ++ stops') = seeds stops ++ seeds stops' :=
  List.filterMap_append

lemma seeds_cons {s : Stop} {seed : String} (h : s.seed? = some seed) (stops : List Stop) :
    seeds (s :: stops) = seed :: seeds stops :=
  List.filterMap_cons_some h

@[simp] lemma seeds_map_below (collection : String) (stops : List Stop) :
    seeds (stops.map (below collection)) = seeds stops := by
  simp [seeds, List.filterMap_map, Function.comp_def]

@[simp] lemma numbers_append (stops stops' : List Stop) :
    numbers (stops ++ stops') = numbers stops ++ numbers stops' :=
  List.filterMap_append

lemma numbers_cons {s : Stop} {seed : String} (h : s.seed? = some seed) (stops : List Stop) :
    numbers (s :: stops) = s.number :: numbers stops := by
  simp [numbers, h]

/-- As many stops are numbered as aliases are asked for. -/
lemma length_numbers (stops : List Stop) : (numbers stops).length = (seeds stops).length := by
  simp only [numbers, seeds, List.length_filterMap_eq_countP, Option.isSome_map]

@[simp] lemma numbers_map_below (collection : String) (stops : List Stop) :
    numbers (stops.map (below collection)) = numbers stops := by
  simp only [numbers, List.filterMap_map, Function.comp_def, seed?_below]
  rfl

end Stop

/-- The stops that ask for an alias are numbered in order, from the number that the walk starts with.

**Proof sketch.** Two walks in a row number two intervals that meet, and a relation takes the number
before those of the walk below it. -/
lemma Field.numbers_invariant : WalkInvariant fun _ number stops =>
    Stop.numbers stops = List.range' number (Stop.seeds stops).length where
  nil := by
    intro _ _
    rfl
  single := by
    intro parent number field _
    cases field <;> rfl
  append := by
    intro _ number stops stops' ih ih'
    rw [Stop.numbers_append, Stop.seeds_append, ih, ih', List.length_append,
      List.range'_append_1]
  relation := by
    intro parent number r fields stops ih
    rw [Stop.numbers_cons rfl, Stop.seeds_cons rfl, Stop.numbers_map_below, Stop.seeds_map_below, ih,
      List.length_cons, List.range'_succ]

/-- The stops of a request that ask for an alias are numbered from zero, without gaps. -/
lemma Field.numbers_stops (fields : List Field) :
    Stop.numbers (Field.stops fields) = List.range (Stop.seeds (Field.stops fields)).length := by
  rw [Field.stops, Field.numbers_invariant.walkAll none 0 fields, List.range_eq_range']

/-- A stop of a request that asks for an alias has the number of aliases asked for before it. -/
lemma Field.number_of_stops_eq {fields : List Field} {before after : List Stop} {s : Stop}
    (h : Field.stops fields = before ++ s :: after) (hs : s.seed?.isSome) :
    s.number = (Stop.seeds before).length := by
  obtain ⟨seed, hseed⟩ := Option.isSome_iff_exists.1 hs
  have hnumbers := Field.numbers_stops fields
  rw [h, Stop.numbers_append, Stop.numbers_cons hseed] at hnumbers
  -- both sides at the position of the stop among those that ask for an alias
  have hat := congrArg (fun numbers => numbers[(Stop.numbers before).length]?) hnumbers
  simp only [List.getElem?_append_right (Nat.le_refl _), Nat.sub_self, List.getElem?_cons_zero] at hat
  obtain ⟨_, hat⟩ := List.getElem?_eq_some_iff.1 hat.symm
  rw [← Stop.length_numbers, ← hat, List.getElem_range]

/-! ## What lies around a stop -/

/-- The stop hangs from the place where the walk starts, or from a to-one relation among the stops
before it. In the second case its trail is that of the relation with one more collection. -/
def Stop.HangsFrom (parent : Option Nat) (before : List Stop) (s : Stop) : Prop :=
  (s.parent = parent ∧ s.trail = []) ∨
    ∃ t ∈ before, ∃ r, t.relation? = some r ∧ s.parent = some t.number ∧
      s.trail = t.trail ++ [r.collection]

lemma Stop.HangsFrom.mono {parent : Option Nat} {before before' : List Stop} {s : Stop}
    (h : s.HangsFrom parent before) (hsub : before ⊆ before') : s.HangsFrom parent before' := by
  rcases h with h | ⟨t, ht, h⟩
  · exact .inl h
  · exact .inr ⟨t, hsub ht, h⟩

/-- Every stop hangs from the place where the walk starts, or from a to-one relation that the walk
meets before it.

**Proof sketch.** In two walks in a row the stops before a stop of the second one only get more. Below
a relation, a stop that hangs from the start of the inner walk hangs from the relation itself, whose
trail is empty, and for all others both trails get one collection longer. -/
lemma Field.hangsFrom_invariant : WalkInvariant fun parent _ stops =>
    ∀ before s after, stops = before ++ s :: after → s.HangsFrom parent before where
  nil := by
    intro _ _ before s after h
    simp at h
  single := by
    intro parent number field _ before s after h
    obtain ⟨rfl, rfl, rfl⟩ : before = [] ∧ s = ⟨field, [], parent, number⟩ ∧ after = [] := by
      simpa [List.singleton_eq_append_iff] using h
    exact .inl ⟨rfl, rfl⟩
  append := by
    intro parent number stops stops' ih ih' before s after h
    rcases List.append_eq_append_iff.1 h with ⟨mid, rfl, hstops'⟩ | ⟨mid, hstops, hafter⟩
    · exact (ih' mid s after hstops').mono (List.subset_append_right _ _)
    · rcases List.cons_eq_append_iff.1 hafter with ⟨rfl, hstops'⟩ | ⟨after', rfl, -⟩
      · exact (ih' [] s after hstops').mono (List.nil_subset _)
      · exact ih before s after' hstops
  relation := by
    intro parent number r fields stops ih before s after h
    rcases List.cons_eq_append_iff.1 h with ⟨rfl, hhead⟩ | ⟨before', rfl, hrest⟩
    · obtain ⟨rfl, -⟩ := List.cons_eq_cons.1 hhead
      exact .inl ⟨rfl, rfl⟩
    · obtain ⟨before'', rest, rfl, rfl, hrest'⟩ := List.map_eq_append_iff.1 hrest
      obtain ⟨s', after', rfl, rfl, rfl⟩ := List.map_eq_cons_iff.1 hrest'
      right
      rcases ih before'' s' after' rfl with ⟨hparent, htrail⟩ | ⟨t, ht, r', hr', hparent, htrail⟩
      · exact ⟨_, List.mem_cons_self, r, rfl, hparent, by simp [Stop.below, htrail]⟩
      · refine ⟨t.below r.collection, ?_, r', hr', hparent, by simp [Stop.below, htrail]⟩
        exact List.mem_cons_of_mem _ (List.mem_map_of_mem ht)

end ClausePlan
