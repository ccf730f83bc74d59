import ClausePlan.Proofs.Conditions
import ClausePlan.Proofs.Preorder
/-!
# Planned queries

A query is planned in one of two ways: from the fields of a collection, or for the rows that belong
to given key values. Both come down to one walk through the fields. The second one adds a filter on
the key columns, and numbers the parameters of the filter on its own. The aliases of a query are
those that the source gives out during the walk.

## Main definitions

* `ClausePlan.RelationQuery.filter`, `ClausePlan.RelationQuery.subQuery` — what is added for given key
  values.
* `ClausePlan.Query` — the part of a plan that names tables.
* `ClausePlan.Query.Planned` — a query is what planning some fields yields, in either way.
* `ClausePlan.Query.labels` — the aliases of a query.

## Main results

* `ClausePlan.Plan.exec_ofFields_snd` — planning changes nothing in the context but the alias source.
* `ClausePlan.RelationQuery.exec_generate` — the query for given key values, on every outcome.
* `ClausePlan.Query.Planned.exists_labels` — either way, a query is made up of the stops of one walk.
* `ClausePlan.Query.Planned.exists_drawn` — the aliases of a query are those that are drawn for it.
* `ClausePlan.Query.Planned.keys_paths` — the places of a query are listed in the order of its output
  columns.
-/

namespace ClausePlan

variable {σ : Type} [AliasSource σ]

/-! ## The context after planning -/

namespace Plan

/-- Planning leaves all of the context as it was, except for the alias source. -/
lemma exec_ofFields_snd (collection : String) (fields : List Field) (context : Context σ) :
    (exec (ofFields collection fields) context).2 =
      { context with aliases := (exec (ofFields collection fields) context).2.aliases } := by
  rw [exec_ofFields]
  split_ifs <;> rfl

/-- Planning does not look at the parameter slots. -/
lemma exec_ofFields_slots (collection : String) (fields : List Field) (context : Context σ)
    (slots : SlotCounter) :
    exec (ofFields collection fields) { context with slots } =
      ((exec (ofFields collection fields) context).1,
        { (exec (ofFields collection fields) context).2 with slots }) := by
  rw [exec_ofFields, exec_ofFields]
  split_ifs <;> rfl

end Plan

/-! ## Queries for given key values -/

namespace RelationQuery

/-- The condition on given key values: each key column equals the parameter in a slot of its own. -/
def filter (q : RelationQuery) : Condition :=
  (Condition.columnsBound q.collection q.foreignColumns {}).1.1

/-- The plan of the fields as the query for the rows with given key values. -/
def subQuery (q : RelationQuery) (keys : List Json) (plan : Plan) : SubQuery where
  store := q.store
  source := q.collection
  select := plan.select
  joins := plan.joins
  filter := some q.filter
  parameters :=
    bindSlots plan.parameters (Condition.columnsBound q.collection q.foreignColumns {}).1.2 keys
  paths := plan.paths
  deferred := plan.deferred

/-- **The query for given key values is the plan of the fields with a filter**, if there is a value
for each key column, and otherwise nothing is done. -/
lemma exec_generate (q : RelationQuery) (keys : List Json) (context : Context σ) :
    exec (q.generate keys) context =
      if keys.length = q.foreignColumns.length then
        ((exec (Plan.ofFields q.collection q.fields) context).1.map (q.subQuery keys),
          (exec (Plan.ofFields q.collection q.fields) context).2)
      else (.error (.keyValueCount q.foreignColumns.length keys.length), context) := by
  rw [generate]
  split_ifs with h
  · -- the plan leaves the fresh slots as they are, so the filter takes the first ones
    have hplan := Plan.exec_ofFields_slots q.collection q.fields context {}
    have hframe := Plan.exec_ofFields_snd q.collection q.fields context
    simp only [exec_pure, PlanM.exec_withFreshSlots, exec_bind, hplan, exec_get, exec_set]
    rcases hr : exec (Plan.ofFields q.collection q.fields) context with
      ⟨_ | plan, ⟨aliases, slots, settings, depth⟩⟩
    · rw [hr] at hframe
      obtain rfl : slots = context.slots := congrArg Context.slots hframe
      rfl
    · rw [hr] at hframe
      obtain rfl : slots = context.slots := congrArg Context.slots hframe
      rfl
  · rw [exec_bind, exec_throw]

/-- A query for given key values fails if their number is wrong, and else as the plan of the fields
does. -/
lemma exec_generate_error_iff {q : RelationQuery} {keys : List Json} {context context' : Context σ}
    {fault : Fault} :
    exec (q.generate keys) context = (.error fault, context') ↔
      (keys.length ≠ q.foreignColumns.length ∧
        fault = .keyValueCount q.foreignColumns.length keys.length ∧ context' = context) ∨
      (keys.length = q.foreignColumns.length ∧
        exec (Plan.ofFields q.collection q.fields) context = (.error fault, context')) := by
  rw [exec_generate]
  split_ifs with h
  · rcases exec (Plan.ofFields q.collection q.fields) context with ⟨fault' | plan, context''⟩
    · simp [h, Except.map]
    · simp [h, Except.map]
  · simp [h, eq_comm]

end RelationQuery

/-! ## Both ways to plan -/

/-- The part of a plan that names tables. -/
structure Query where
  /-- The collection that the query starts from. -/
  root : String
  /-- The output columns. -/
  select : List SelectItem
  /-- The joined tables. -/
  joins : List JoinClause
  /-- Which rows are wanted. -/
  filter : Option Condition
  /-- The place of each output column in the nested result, by its alias. -/
  paths : OrderedMap String Path

/-- The query of a plan for a collection. -/
def Plan.query (collection : String) (plan : Plan) : Query where
  root := collection
  select := plan.select
  joins := plan.joins
  filter := none
  paths := plan.paths

/-- The query of a sub-query. -/
def SubQuery.query (sub : SubQuery) : Query where
  root := sub.source
  select := sub.select
  joins := sub.joins
  filter := sub.filter
  paths := sub.paths

namespace Query

/-- A query is what planning some fields in a context yields, with the context that is left: either
the fields are planned as those of a collection, or for the rows that belong to given key values. -/
inductive Planned (context : Context σ) : List Field → Query → Context σ → Prop
  /-- The fields of a collection. -/
  | ofFields {collection : String} {fields : List Field} {plan : Plan} {context' : Context σ} :
    exec (Plan.ofFields collection fields) context = (.ok plan, context') →
      Planned context fields (plan.query collection) context'
  /-- The rows that belong to given key values. -/
  | generate {q : RelationQuery} {keys : List Json} {sub : SubQuery} {context' : Context σ} :
    exec (q.generate keys) context = (.ok sub, context') →
      Planned context q.fields sub.query context'

namespace Planned

variable {context context' : Context σ} {fields : List Field} {query : Query}

/-- A query for given key values is planned from the fields of its collection. -/
lemma exists_plan_of_generate {q : RelationQuery} {keys : List Json} {sub : SubQuery}
    (h : exec (q.generate keys) context = (.ok sub, context')) :
    ∃ plan, exec (Plan.ofFields q.collection q.fields) context = (.ok plan, context') ∧
      sub = q.subQuery keys plan := by
  rw [RelationQuery.exec_generate] at h
  split_ifs at h
  · rcases hr : exec (Plan.ofFields q.collection q.fields) context with ⟨_ | plan, context''⟩
    · simp [hr, Except.map] at h
    · obtain ⟨rfl, rfl⟩ : q.subQuery keys plan = sub ∧ context'' = context' := by
        simpa [hr, Except.map] using h
      exact ⟨plan, rfl, rfl⟩
  · simp at h

/-- A planned query has the clauses of a plan for the fields of its root. -/
lemma exists_plan (h : Planned context fields query context') :
    ∃ plan, exec (Plan.ofFields query.root fields) context = (.ok plan, context') ∧
      query.select = plan.select ∧ query.joins = plan.joins ∧ query.paths = plan.paths := by
  cases h with
  | ofFields h => exact ⟨_, h, rfl, rfl, rfl⟩
  | generate h =>
    obtain ⟨plan, hplan, rfl⟩ := exists_plan_of_generate h
    exact ⟨plan, hplan, rfl, rfl, rfl⟩

/-- **A planned query is made up of the stops of one walk** through the fields, with the aliases that
the source gives out for their seeds. -/
lemma exists_labels (h : Planned context fields query context') :
    ∃ labels, exec (AliasM.drawAll (Stop.seeds (Field.stops fields))) context.aliases =
        (.ok labels, context'.aliases) ∧
      query.select = (Field.stops fields).filterMap (Stop.item? query.root labels) ∧
      query.joins = (Field.stops fields).filterMap (Stop.join? query.root labels) ∧
      query.paths = .ofList ((Field.stops fields).filterMap (Stop.place? labels)) := by
  obtain ⟨plan, hplan, hselect, hjoins, hpaths⟩ := h.exists_plan
  obtain ⟨labels, hdraw, rfl, -⟩ := Plan.drawAll_of_ofFields hplan
  exact ⟨labels, hdraw, hselect, hjoins, hpaths⟩

/-- The relations that are joined in by a planned query have sound keys. -/
lemma key (h : Planned context fields query context') {s : Stop} (hs : s ∈ Field.stops fields)
    {r : Relation} (hr : s.relation? = some r) :
    r.localColumns.length = r.foreignColumns.length ∧ r.localColumns ≠ [] := by
  obtain ⟨plan, hplan, -⟩ := h.exists_plan
  obtain ⟨-, labels, aliases', hask, -⟩ := Plan.exec_ofFields_ok_iff.1 hplan
  exact Stop.key_of_askAll hask hs hr

/-- The filter of a planned query, if there is one, compares columns of the root with parameters. -/
lemma leaf_filter (h : Planned context fields query context') {condition : Condition}
    (hfilter : condition ∈ query.filter) {leaf : Comparison} (hleaf : leaf ∈ condition.leaves) :
    leaf.target.table = query.root ∧ ∃ slot, leaf.operand = .slot slot := by
  cases h with
  | ofFields h => simp [Plan.query] at hfilter
  | @generate q keys sub context' h =>
    obtain ⟨plan, hplan, rfl⟩ := exists_plan_of_generate h
    obtain rfl : q.filter = condition := by
      simpa [SubQuery.query, RelationQuery.subQuery] using hfilter
    rw [RelationQuery.filter, Condition.leaves_columnsBound] at hleaf
    obtain ⟨pair, -, rfl⟩ := List.mem_map.1 hleaf
    exact ⟨rfl, pair.2, rfl⟩

end Planned

end Query

/-! ## The aliases of a query -/

namespace Stop

variable (root : String) (labels : List String)

/-- The aliases of the stops that ask for one. -/
def given (stops : List Stop) : List String :=
  stops.filterMap fun s => s.seed?.map fun _ => s.label labels

/-- The stops of a request get all of the aliases, in order, if there are as many as they ask for. -/
lemma given_stops {fields : List Field} (h : labels.length = (seeds (Field.stops fields)).length) :
    given labels (Field.stops fields) = labels := by
  have hnumbers : given labels (Field.stops fields) =
      (numbers (Field.stops fields)).map fun number => labels.getD number "" := by
    simp only [given, numbers, List.map_filterMap, Option.map_map]
    rfl
  rw [hnumbers, Field.numbers_stops, ← h]
  refine List.ext_getElem (by simp) fun i hi _ => ?_
  simp at hi
  simp [hi]

/-- The alias of a stop is what the source answers to its seed after those before it. -/
lemma draw_of_stops_eq {fields : List Field} {before after : List Stop} {s : Stop}
    (hsplit : Field.stops fields = before ++ s :: after) {seed : String} (hseed : s.seed? = some seed)
    {labels : List String} {aliases aliases' : σ}
    (hdraw : exec (AliasM.drawAll (seeds (Field.stops fields))) aliases = (.ok labels, aliases')) :
    ∃ earlier aliases₁, exec (AliasM.drawAll (seeds before)) aliases = (.ok earlier, aliases₁) ∧
      (AliasSource.draw seed aliases₁).1 = .ok (s.label labels) := by
  have hnumber := Field.number_of_stops_eq hsplit (by simp [hseed])
  have hseeds : seeds (Field.stops fields) = seeds before ++ seed :: seeds after := by
    rw [hsplit, seeds_append, seeds_cons hseed]
  rw [hseeds, AliasM.drawAll_append_ok_iff] at hdraw
  obtain ⟨earlier, aliases₁, hearlier, later, hlater, rfl⟩ := hdraw
  obtain ⟨own, aliases₂, hown, rest, -, rfl⟩ := AliasM.drawAll_cons_ok_iff.1 hlater
  refine ⟨earlier, aliases₁, hearlier, ?_⟩
  rw [label, hnumber, ← AliasM.length_of_drawAll hearlier, hown]
  simp

/-- Each alias is that of an output column or of a join. -/
lemma given_perm (stops : List Stop) :
    ((stops.filterMap (item? root labels)).map SelectItem.label ++
      (stops.filterMap (join? root labels)).map JoinClause.label).Perm (given labels stops) := by
  induction stops with
  | nil => exact .nil
  | cons s stops ih =>
    obtain ⟨field, trail, parent, number⟩ := s
    cases field with
    | column name => exact ih.cons _
    | computed fn name => exact ih.cons _
    | toOne r fields => exact List.perm_middle.trans (ih.cons _)
    | toMany r fields => exact ih

/-- Each output column has a place under its alias. -/
lemma map_label_item? (stops : List Stop) :
    (stops.filterMap (item? root labels)).map SelectItem.label =
      (stops.filterMap (place? labels)).map Prod.fst := by
  rw [List.map_filterMap, List.map_filterMap]
  refine List.filterMap_congr fun s _ => ?_
  obtain ⟨_ | _ | _ | _, trail, parent, number⟩ := s <;> rfl

end Stop

namespace Query

/-- The aliases of a query: those of its output columns, and those of its joins. -/
def labels (query : Query) : List String :=
  query.select.map SelectItem.label ++ query.joins.map JoinClause.label

variable {context context' : Context σ} {fields : List Field} {query : Query}

/-- The aliases of a planned query are those that planning draws, in another order. -/
lemma Planned.exists_drawn (h : Planned context fields query context') :
    ∃ drawn, exec (AliasM.drawAll (Stop.seeds (Field.stops fields))) context.aliases =
      (.ok drawn, context'.aliases) ∧ drawn.Perm query.labels := by
  obtain ⟨drawn, hdraw, hselect, hjoins, -⟩ := h.exists_labels
  refine ⟨drawn, hdraw, ?_⟩
  have hgiven := Stop.given_perm query.root drawn (Field.stops fields)
  rw [Stop.given_stops drawn (AliasM.length_of_drawAll hdraw), ← hselect, ← hjoins] at hgiven
  exact hgiven.symm

/-- The places of a planned query are listed under the aliases of its output columns, in order, if
these differ. -/
lemma Planned.keys_paths (h : Planned context fields query context')
    (hnodup : (query.select.map SelectItem.label).Nodup) :
    query.paths.keys = query.select.map SelectItem.label := by
  obtain ⟨drawn, -, hselect, -, hpaths⟩ := h.exists_labels
  rw [hselect, Stop.map_label_item?] at hnodup ⊢
  rw [hpaths, OrderedMap.keys_ofList hnodup]

end Query

end ClausePlan
