import ClausePlan.Proofs.PlanOfStops
/-!
# Plans put together by hand

A plan can be put together without planning anything: output columns are pushed one by one, and plans
that have been put together in the same way are merged in. Nothing keeps the output columns of such a
plan from sharing an alias. What the plan then holds can be read off the pushes, listed in the order in
which their columns are selected, each with the merges that it went through.

## Main definitions

* `ClausePlan.Edit` — a push, or a merge with the edits of the plan that is merged in.
* `ClausePlan.Edit.apply`, `ClausePlan.Edit.applyAll` — the plan after an edit, or after some.
* `ClausePlan.Pushed`, `ClausePlan.Edit.pushedAll` — the pushes of some edits, at any depth, in order.

## Main results

* `ClausePlan.Plan.push_eq_append`, `ClausePlan.Plan.merge_eq_append` — what pushing and merging have to
  do with plans one behind the other.
* `ClausePlan.Edit.applyAll_eq` — edits put the plan of their pushes behind a plan.
* `ClausePlan.Edit.applyAll_represents` — aliases and places of a plan that was put together by hand.
-/

namespace ClausePlan

/-! ## Pushing and merging -/

namespace Plan

/-- A pushed output column is a plan of its own behind the others. -/
lemma push_eq_append (p : Plan) (item : SelectItem) (path : Path) :
    p.push item path = p ++ ofSelect item path := by
  apply eq_of_parts
  · rfl
  · exact (List.append_nil _).symm
  · exact (List.append_nil _).symm
  · rfl
  · exact (List.append_nil _).symm

/-- A plan that is merged in stands behind the others, below its collection. -/
lemma merge_eq_append (p child : Plan) (collection : String) :
    p.merge child collection = p ++ child.below collection := by
  apply eq_of_parts
  · rfl
  · rfl
  · rfl
  · simp only [merge, paths_append, below, OrderedMap.insertAll, OrderedMap.mapValues, List.foldl_map]
  · rfl

end Plan

/-! ## Edits -/

/-- A call that adds to a plan. -/
inductive Edit where
  /-- An output column is pushed, whose value has the given place. -/
  | push (item : SelectItem) (path : Path)
  /-- A plan is merged in that some edits have put together, as that of a relation to a collection. -/
  | merge (edits : List Edit) (collection : String)

/-- An output column that has been pushed. -/
structure Pushed where
  /-- The output column. -/
  item : SelectItem
  /-- The path that it was pushed with. -/
  path : Path
  /-- The collections of the merges that it went through, the last merge first. -/
  merges : List String

namespace Pushed

/-- The place of the value: the collections of all merges, from the outside in, and then the path. -/
def place (e : Pushed) : Path :=
  e.merges ++ e.path

/-- The output column after one more merge. -/
def through (collection : String) (e : Pushed) : Pushed :=
  { e with merges := collection :: e.merges }

end Pushed

namespace Edit

mutual

/-- The plan after an edit. -/
def apply (p : Plan) : Edit → Plan
  | push item path => p.push item path
  | merge edits collection => p.merge (applyAll ∅ edits) collection

/-- The plan after some edits, one after the other. -/
def applyAll (p : Plan) : List Edit → Plan
  | [] => p
  | edit :: edits => applyAll (apply p edit) edits

end

mutual

/-- The output columns that an edit adds. -/
def pushed : Edit → List Pushed
  | push item path => [⟨item, path, []⟩]
  | merge edits collection => (pushedAll edits).map (Pushed.through collection)

/-- The output columns that some edits add, in order. -/
def pushedAll : List Edit → List Pushed
  | [] => []
  | edit :: edits => pushed edit ++ pushedAll edits

end

end Edit

/-! ## The plan of some pushes -/

namespace Plan

/-- The plan in which some output columns have been pushed. -/
def ofPushed (es : List Pushed) : Plan where
  select := es.map Pushed.item
  paths := .ofList (es.map fun e => (e.item.label, e.place))

/-- The plans of two lists of pushes stand one behind the other. -/
lemma ofPushed_append (es es' : List Pushed) : ofPushed (es ++ es') = ofPushed es ++ ofPushed es' := by
  apply eq_of_parts <;> simp [ofPushed, OrderedMap.ofList_append]

/-- Pushes that go through one more merge have their places below its collection. -/
lemma ofPushed_through (collection : String) (es : List Pushed) :
    ofPushed (es.map (Pushed.through collection)) = (ofPushed es).below collection := by
  apply eq_of_parts
  · simp [ofPushed, below, Pushed.through, Function.comp_def]
  · rfl
  · rfl
  · simp only [ofPushed, below, OrderedMap.mapValues_ofList, List.map_map]
    rfl
  · rfl

end Plan

namespace Edit

mutual

/-- An edit puts the plan of its pushes behind a plan. -/
lemma apply_eq (p : Plan) : ∀ edit : Edit, apply p edit = p ++ .ofPushed (pushed edit)
  | push item path => p.push_eq_append item path
  | merge edits collection => by
    rw [apply, pushed, Plan.merge_eq_append, applyAll_eq ∅ edits, Plan.empty_append,
      Plan.ofPushed_through]

/-- **Edits put the plan of their pushes behind a plan**, at any depth of merges. -/
lemma applyAll_eq (p : Plan) : ∀ edits : List Edit, applyAll p edits = p ++ .ofPushed (pushedAll edits)
  | [] => (Plan.append_empty p).symm
  | edit :: edits => by
    rw [applyAll, pushedAll, apply_eq p edit, applyAll_eq _ edits, Plan.ofPushed_append,
      Plan.append_assoc]

end

/-- **Aliases and places of a plan that was put together by hand**, also where aliases repeat. The output
columns are those of the pushes, in order. Places are kept under the distinct aliases, in the order in
which each of them occurs first. The place under an alias is that of the last push with this alias, which
is the path of the push behind the collections of all merges that it went through. And there are as many
places as output columns iff no alias repeats.

**Proof sketch.** The edits amount to the plan of their pushes, so this is about the map of a list of
entries. -/
theorem applyAll_represents (edits : List Edit) :
    (applyAll ∅ edits).select = (pushedAll edits).map Pushed.item ∧
    (applyAll ∅ edits).paths.keys =
      ((applyAll ∅ edits).select.map SelectItem.label).eraseDups ∧
    (∀ label, (applyAll ∅ edits).path? label =
      (((pushedAll edits).filter fun e => e.item.label = label).getLast?).map Pushed.place) ∧
    ((applyAll ∅ edits).paths.size = (applyAll ∅ edits).select.length ↔
      ((applyAll ∅ edits).select.map SelectItem.label).Nodup) := by
  have hedits : applyAll ∅ edits = .ofPushed (pushedAll edits) := by
    rw [applyAll_eq, Plan.empty_append]
  have hlabels : ((pushedAll edits).map fun e => (e.item.label, e.place)).map Prod.fst =
      ((pushedAll edits).map Pushed.item).map SelectItem.label := by
    simp [Function.comp_def]
  rw [hedits]
  refine ⟨rfl, ?_, fun label => ?_, ?_⟩
  · exact (OrderedMap.keys_ofList_eq_eraseDups _).trans (congrArg List.eraseDups hlabels)
  · show (OrderedMap.ofList _).get? label = _
    rw [OrderedMap.get?_ofList_eq_getLast?, List.filter_map, List.getLast?_map, Option.map_map]
    rfl
  · have hsize := OrderedMap.size_ofList_eq_length_iff
      ((pushedAll edits).map fun e => (e.item.label, e.place))
    rw [hlabels, List.length_map] at hsize
    simpa [Plan.ofPushed] using hsize

/-- Two output columns with one alias, the second of which goes through two merges. -/
def repeatedAlias : List Edit :=
  [.push { table := "articles", column := "title", label := "a" } ["title"],
    .merge [
      .push { table := "users", column := "name", label := "b" } ["name"],
      .merge [.push { table := "roles", column := "label", label := "a" } ["label"]] "roles"]
      "users"]

/-- The repeated alias keeps its first position and takes the last place. -/
theorem applyAll_represents_repeatedAlias :
    (applyAll ∅ repeatedAlias).paths.keys = ["a", "b"] ∧
    (applyAll ∅ repeatedAlias).path? "a" = some ["users", "roles", "label"] ∧
    (applyAll ∅ repeatedAlias).paths.size ≠ (applyAll ∅ repeatedAlias).select.length := by
  obtain ⟨hselect, hkeys, hplace, hsize⟩ := applyAll_represents repeatedAlias
  refine ⟨hkeys.trans ?_, (hplace "a").trans rfl, mt hsize.1 ?_⟩
  · rw [hselect]
    rfl
  · rw [hselect]
    decide

end Edit

end ClausePlan
