import ClausePlan.Proofs.Walk
import Mathlib.Data.List.GetD
/-!
# The plan that stops amount to

Given the stops of a walk and the aliases that they get, a plan can be written down at once: the
output columns, joins and deferred queries are those of the stops, in order, and the table of each
is the alias of the innermost relation around it. Such plans are put together, and moved below a
collection, as the walks are.

## Main definitions

* `ClausePlan.Stop.table`, `ClausePlan.Stop.label` — the table and the alias of a stop.
* `ClausePlan.SelectItem.shown`, `ClausePlan.Field.shown?` — the column that is shown, with its function.
* `ClausePlan.Stop.item?`, `ClausePlan.Stop.join?`, `ClausePlan.Stop.deferred?`,
  `ClausePlan.Stop.place?` — what a stop adds to a plan.
* `ClausePlan.Plan.ofStops` — the plan of some stops.

## Main results

* `ClausePlan.Plan.append_assoc` — putting plans one behind the other is associative.
* `ClausePlan.Plan.ofStops_append`, `ClausePlan.Plan.ofStops_below` — plans of walks in a row, and
  of a walk below a relation.
* `ClausePlan.Plan.ofStops_eq_of_isPrefix` — later aliases do not matter.
-/

namespace ClausePlan

/-! ## Plans one behind the other -/

namespace Plan

@[simp] lemma select_append (p q : Plan) : (p ++ q).select = p.select ++ q.select := rfl

@[simp] lemma joins_append (p q : Plan) : (p ++ q).joins = p.joins ++ q.joins := rfl

@[simp] lemma parameters_append (p q : Plan) :
    (p ++ q).parameters = p.parameters ++ q.parameters := rfl

@[simp] lemma paths_append (p q : Plan) : (p ++ q).paths = p.paths.insertAll q.paths := rfl

@[simp] lemma deferred_append (p q : Plan) : (p ++ q).deferred = p.deferred ++ q.deferred := rfl

/-- Plans with equal parts are equal. -/
lemma eq_of_parts {p q : Plan} (hselect : p.select = q.select) (hjoins : p.joins = q.joins)
    (hparameters : p.parameters = q.parameters) (hpaths : p.paths = q.paths)
    (hdeferred : p.deferred = q.deferred) : p = q := by
  cases p
  cases q
  simp only [mk.injEq]
  exact ⟨hselect, hjoins, hparameters, hpaths, hdeferred⟩

/-- Putting plans one behind the other is associative. -/
lemma append_assoc (p q r : Plan) : p ++ q ++ r = p ++ (q ++ r) := by
  apply eq_of_parts <;> simp [OrderedMap.insertAll_assoc]

@[simp] lemma append_empty (p : Plan) : p ++ ∅ = p := by
  apply eq_of_parts
  · exact List.append_nil _
  · exact List.append_nil _
  · exact List.append_nil _
  · exact OrderedMap.insertAll_empty _
  · exact List.append_nil _

@[simp] lemma empty_append (p : Plan) : ∅ ++ p = p := by
  apply eq_of_parts
  · rfl
  · rfl
  · rfl
  · exact OrderedMap.empty_insertAll _
  · rfl

end Plan

/-! ## What a stop adds to a plan -/

/-- What an output column shows: a column, and the function that is applied to it, if any. -/
def SelectItem.shown (item : SelectItem) : Option ScalarFunction × String :=
  (item.fn, item.column)

/-- What a field asks to be shown, if it asks for a column. -/
def Field.shown? : Field → Option (Option ScalarFunction × String)
  | .column name => some (none, name)
  | .computed fn name => some (some fn, name)
  | .toOne _ _ | .toMany _ _ => none

namespace Stop

/-- The table below a relation: its alias, or the collection `root` where there is no relation. -/
def tableBelow (root : String) (labels : List String) : Option Nat → String
  | none => root
  | some number => labels.getD number ""

/-- The table of a stop: the alias of the innermost relation around it, or the collection `root`
where there is none. -/
def table (root : String) (labels : List String) (s : Stop) : String :=
  tableBelow root labels s.parent

/-- The alias of a stop. -/
def label (labels : List String) (s : Stop) : String :=
  labels.getD s.number ""

/-- The output column of a stop. -/
def item? (root : String) (labels : List String) (s : Stop) : Option SelectItem :=
  match s.field with
  | .column name =>
    some { table := s.table root labels, column := name, label := s.label labels }
  | .computed fn name =>
    some { fn := some fn, table := s.table root labels, column := name, label := s.label labels }
  | _ => none

/-- The alias of the output column of a stop, with its place in the nested result. -/
def place? (labels : List String) (s : Stop) : Option (String × Path) :=
  match s.field with
  | .column name => some (s.label labels, s.trail ++ [name])
  | .computed _ name => some (s.label labels, s.trail ++ [name])
  | _ => none

/-- The output column of a stop shows what the field asks for. -/
lemma map_shown_item? (root : String) (labels : List String) (s : Stop) :
    (s.item? root labels).map SelectItem.shown = s.field.shown? := by
  obtain ⟨_ | _ | _ | _, trail, parent, number⟩ := s <;> rfl

/-- The place of an output column is where its column lies, below the collections around its stop. -/
lemma place?_of_item? {root : String} {labels : List String} {s : Stop} {item : SelectItem}
    (h : s.item? root labels = some item) :
    s.place? labels = some (item.label, s.trail ++ [item.column]) := by
  obtain ⟨field, trail, parent, number⟩ := s
  cases field with
  | column name =>
    obtain rfl := Option.some_inj.1 h
    rfl
  | computed fn name =>
    obtain rfl := Option.some_inj.1 h
    rfl
  | toOne _ _ => simp [item?] at h
  | toMany _ _ => simp [item?] at h

/-- The join of a stop. -/
def join? (root : String) (labels : List String) (s : Stop) : Option JoinClause :=
  match s.field with
  | .toOne r _ =>
    some {
      table := r.collection
      on := r.condition (s.table root labels) (s.label labels)
      label := s.label labels }
  | _ => none

/-- The deferred query of a stop. -/
def deferred? (s : Stop) : Option Deferred :=
  match s.field with
  | .toMany r fields => some (r.deferral fields)
  | _ => none

end Stop

/-- The plan of the stops of a walk through the fields of the collection `root`, where `labels` are
the aliases in the order in which the stops ask for them. -/
def Plan.ofStops (root : String) (labels : List String) (stops : List Stop) : Plan where
  select := stops.filterMap (Stop.item? root labels)
  joins := stops.filterMap (Stop.join? root labels)
  paths := .ofList (stops.filterMap (Stop.place? labels))
  deferred := stops.filterMap Stop.deferred?

/-! ## Plans of walks -/

namespace Plan

variable (root : String) (labels : List String)

@[simp] lemma ofStops_nil : ofStops root labels [] = ∅ := rfl

lemma ofStops_append (stops stops' : List Stop) :
    ofStops root labels (stops ++ stops') =
      ofStops root labels stops ++ ofStops root labels stops' := by
  apply eq_of_parts <;> simp [ofStops, List.filterMap_append, OrderedMap.ofList_append]

lemma ofStops_cons (s : Stop) (stops : List Stop) :
    ofStops root labels (s :: stops) = ofStops root labels [s] ++ ofStops root labels stops :=
  ofStops_append root labels [s] stops

/-- Below a relation, the plan of a walk has the collection of the relation in front of all
places. -/
lemma ofStops_below (collection : String) (stops : List Stop) :
    ofStops root labels (stops.map (Stop.below collection)) =
      (ofStops root labels stops).below collection := by
  have hplace : ∀ s : Stop, (s.below collection).place? labels =
      (s.place? labels).map fun entry => (entry.1, collection :: entry.2) := by
    rintro ⟨_ | _ | _ | _, trail, parent, number⟩ <;> rfl
  apply eq_of_parts
  · simp only [ofStops, below, List.filterMap_map]
    rfl
  · simp only [ofStops, below, List.filterMap_map]
    rfl
  · rfl
  · simp only [ofStops, below, List.filterMap_map, Function.comp_def, hplace,
      OrderedMap.mapValues_ofList, List.map_filterMap]
  · simp only [ofStops, below, List.filterMap_map]
    rfl

variable {root labels}

/-- The plan of some stops is the same for two lists of aliases that give every stop the same table
and the same alias, if it asks for one. -/
private lemma ofStops_congr {labels' : List String} {stops : List Stop}
    (htable : ∀ s ∈ stops, s.table root labels = s.table root labels')
    (hlabel : ∀ s ∈ stops, s.seed?.isSome → s.label labels = s.label labels') :
    ofStops root labels stops = ofStops root labels' stops := by
  apply eq_of_parts
  · refine List.filterMap_congr fun s hs => ?_
    have ht := htable s hs
    have hl := hlabel s hs
    obtain ⟨_ | _ | _ | _, trail, parent, number⟩ := s <;>
      simp_all [Stop.item?, Stop.seed?, Field.seed?]
  · refine List.filterMap_congr fun s hs => ?_
    have ht := htable s hs
    have hl := hlabel s hs
    obtain ⟨_ | _ | _ | _, trail, parent, number⟩ := s <;>
      simp_all [Stop.join?, Stop.seed?, Field.seed?]
  · rfl
  · refine congrArg OrderedMap.ofList (List.filterMap_congr fun s hs => ?_)
    have hl := hlabel s hs
    obtain ⟨_ | _ | _ | _, trail, parent, number⟩ := s <;>
      simp_all [Stop.place?, Stop.seed?, Field.seed?]
  · rfl

end Plan

/-! ## Later aliases -/

/-- An alias stays the same when more aliases follow. -/
lemma getD_eq_of_isPrefix {labels labels' : List String} (h : labels <+: labels') {number : Nat}
    (hlt : number < labels.length) : labels.getD number "" = labels'.getD number "" := by
  obtain ⟨rest, rfl⟩ := h
  exact (List.getD_append labels rest "" number hlt).symm

/-- The table below a relation stays the same when more aliases follow. -/
lemma Stop.tableBelow_eq_of_isPrefix (root : String) {labels labels' : List String}
    (h : labels <+: labels') {parent : Option Nat} (hparent : ∀ k ∈ parent, k < labels.length) :
    tableBelow root labels parent = tableBelow root labels' parent := by
  cases parent with
  | none => rfl
  | some k => exact getD_eq_of_isPrefix h (hparent k rfl)

/-- The first `count` aliases are enough for the stop: the one of the relation around it is among
them, and its own one. -/
def Stop.NamedBy (count : Nat) (s : Stop) : Prop :=
  (∀ k ∈ s.parent, k < count) ∧ (s.seed?.isSome → s.number < count)

/-- More aliases are enough as well. -/
lemma Stop.NamedBy.mono {count count' : Nat} {s : Stop} (h : s.NamedBy count)
    (hle : count ≤ count') : s.NamedBy count' :=
  ⟨fun k hk => (h.1 k hk).trans_le hle, fun hseed => (h.2 hseed).trans_le hle⟩

/-- The aliases that a walk asks for are enough for it, together with those before it. -/
lemma Field.namedBy_invariant : WalkInvariant fun parent number stops =>
    (∀ k ∈ parent, k < number) → ∀ s ∈ stops, s.NamedBy (number + (Stop.seeds stops).length) where
  nil := by
    intro parent number _ s hs
    simp at hs
  single := by
    intro parent number field _ hparent s hs
    obtain rfl := List.mem_singleton.1 hs
    refine ⟨fun k hk => (hparent k hk).trans_le (Nat.le_add_right _ _), fun hseed => ?_⟩
    obtain ⟨seed, hseed⟩ := Option.isSome_iff_exists.1 hseed
    simp [Stop.seeds, hseed]
  append := by
    intro parent number stops stops' ih ih' hparent s hs
    rw [Stop.seeds_append, List.length_append]
    rcases List.mem_append.1 hs with hs | hs
    · exact (ih hparent s hs).mono (by omega)
    · have hparent' : ∀ k ∈ parent, k < number + (Stop.seeds stops).length :=
        fun k hk => (hparent k hk).trans_le (Nat.le_add_right _ _)
      exact (ih' hparent' s hs).mono (by omega)
  relation := by
    intro parent number r fields stops ih hparent s hs
    rw [Stop.seeds_cons rfl, Stop.seeds_map_below, List.length_cons]
    rcases List.mem_cons.1 hs with rfl | hs
    · have hself : number < number + ((Stop.seeds stops).length + 1) := by omega
      exact ⟨fun k hk => (hparent k hk).trans hself, fun _ => hself⟩
    · obtain ⟨s', hs', rfl⟩ := List.mem_map.1 hs
      have hself : ∀ k ∈ some number, k < number + 1 := by
        intro k hk
        obtain rfl := Option.mem_some_iff.1 hk
        omega
      -- only the trail differs below the relation
      have hnamed : (s'.below r.collection).NamedBy (number + 1 + (Stop.seeds stops).length) :=
        ih hself s' hs'
      exact hnamed.mono (by omega)

/-- The plan of some stops for which the aliases are enough does not change when more follow. -/
lemma Plan.ofStops_eq_of_isPrefix (root : String) {labels labels' : List String}
    {stops : List Stop} (hnamed : ∀ s ∈ stops, s.NamedBy labels.length) (h : labels <+: labels') :
    ofStops root labels stops = ofStops root labels' stops :=
  ofStops_congr
    (fun s hs => Stop.tableBelow_eq_of_isPrefix root h (hnamed s hs).1)
    (fun s hs hseed => getD_eq_of_isPrefix h ((hnamed s hs).2 hseed))

end ClausePlan
