import ClausePlan.Proofs.Chains
/-!
# What places tell of output columns

The place of an output column names the collections on the way to it, and the column. It names neither
the function that is applied to the column nor the keys along which the collections are joined in. So
two output columns at one place have the same column and come from the same collections, but they may
show different values, unless the request asks for all that is on the way to this place in one way only.

## Main definitions

* `ClausePlan.Query.ShowsSame` — two output columns show the same value.
* `ClausePlan.Query.IsReversible` — no two different values have one place.
* `ClausePlan.Field.IsUnclashingAt` — a request asks for nothing on the way to a place in two ways.

## Main results

* `ClausePlan.Query.Planned.link_eq_of_within` — stops with the same trail lie below the same relations,
  if nothing clashes on the way to a place beyond them.
* `ClausePlan.Query.Planned.alike_of_place_eq` — what output columns at one place have in common.
* `ClausePlan.Query.Planned.not_isReversible` — a query that sends different values to one place.
-/

namespace ClausePlan

/-! ## Requests without clashes -/

/-- A request asks for nothing on the way to a place in two ways: neither for the column there under two
functions, nor for a collection that the place lies below along two keys. -/
structure Field.IsUnclashingAt (fields : List Field) (place : Path) : Prop where
  /-- The column at the place is asked for under one function. -/
  columns : ∀ s ∈ Field.stops fields, ∀ s' ∈ Field.stops fields,
    ∀ shown ∈ s.field.shown?, ∀ shown' ∈ s'.field.shown?,
      s.trail ++ [shown.2] = place → s'.trail ++ [shown'.2] = place → shown.1 = shown'.1
  /-- A collection that the place lies below is joined in along one key. -/
  relations : ∀ s ∈ Field.stops fields, ∀ s' ∈ Field.stops fields, s.trail = s'.trail →
    ∀ r ∈ s.relation?, ∀ r' ∈ s'.relation?, r.collection = r'.collection →
      s.trail ++ [r.collection] <+: place.dropLast → r.link = r'.link

namespace Query

/-- Two output columns of a query show the same value: the same function of the same column, and the
joins between their tables and the root make the same links, step by step. -/
def ShowsSame (query : Query) (item item' : SelectItem) : Prop :=
  item.shown = item'.shown ∧
    ∃ chain chain', query.Chain item.table chain ∧ query.Chain item'.table chain' ∧
      chain.map JoinClause.link = chain'.map JoinClause.link

/-- Places tell values apart: output columns whose aliases have one place show the same value. -/
def IsReversible (query : Query) : Prop :=
  ∀ item ∈ query.select, ∀ item' ∈ query.select,
    query.paths.get? item.label = query.paths.get? item'.label → query.ShowsSame item item'

variable {σ : Type} [AliasSource σ] {context context' : Context σ} {fields : List Field}
  {query : Query}

/-- The joins of the relations around two stops with the same trail make the same links, if nothing
clashes on the way to a place on or below the trail.

**Proof sketch.** Induction on the relations around the first stop. The last collections of the two
trails are equal and so are the trails of the innermost relations, so these lie at one place and have
one link. -/
lemma Planned.link_eq_of_within (h : Planned context fields query context') {place : Path}
    (hclash : Field.IsUnclashingAt fields place) (labels : List String) {s s' : Stop}
    {around around' : List Stop} (hwithin : Stop.Within (Field.stops fields) s around)
    (hwithin' : Stop.Within (Field.stops fields) s' around') (htrail : s.trail = s'.trail)
    (hplace : s.trail <+: place.dropLast) :
    (around.filterMap (Stop.join? query.root labels)).map JoinClause.link =
      (around'.filterMap (Stop.join? query.root labels)).map JoinClause.link := by
  induction hwithin generalizing s' around' with
  | outermost _ hnil =>
    cases hwithin' with
    | outermost _ _ => rfl
    | inside _ _ _ hcons _ => simp [hnil, hcons] at htrail
  | @inside s t r around ht hr _ hcons _ ih =>
    cases hwithin' with
    | outermost _ hnil => simp [hnil, hcons] at htrail
    | @inside _ t' r' around' ht' hr' _ hcons' hwithin' =>
      rw [hcons, hcons'] at htrail
      rw [hcons] at hplace
      obtain ⟨htrail, hcollection⟩ := List.append_singleton_inj.1 htrail
      have hlink := hclash.relations t ht t' ht' htrail r hr r' hr' hcollection hplace
      have habove := (List.prefix_append _ _).trans hplace
      rw [List.filterMap_append, List.filterMap_append, List.map_append, List.map_append,
        ih hwithin' htrail habove,
        List.filterMap_cons_some (Stop.join?_of_relation? query.root labels hr),
        List.filterMap_cons_some (Stop.join?_of_relation? query.root labels hr')]
      simp only [List.filterMap_nil, List.map_cons, List.map_nil, Relation.link_join (h.key ht hr).1,
        Relation.link_join (h.key ht' hr').1, hlink]

/-- **Output columns at one place** have the same column, and chains of joins that lead to the same
collections, step by step. If nothing in the request clashes on the way to this place, they show the
same value.

**Proof sketch.** The place is the trail of the stop, with the column at the end. So both stops have
one trail, which names the collections that the chains lead to. -/
theorem Planned.alike_of_place_eq (h : Planned context fields query context')
    (hnodup : (query.select.map SelectItem.label).Nodup) {item item' : SelectItem}
    (hitem : item ∈ query.select) (hitem' : item' ∈ query.select)
    (hplace : query.paths.get? item.label = query.paths.get? item'.label) :
    item.column = item'.column ∧
      (∃ chain chain', query.Chain item.table chain ∧ query.Chain item'.table chain' ∧
        chain.map JoinClause.table = chain'.map JoinClause.table) ∧
      (∀ place ∈ query.paths.get? item.label, Field.IsUnclashingAt fields place →
        query.ShowsSame item item') := by
  obtain ⟨labels, hchains⟩ := h.exists_chain hnodup
  obtain ⟨s, hs, around, hwithin, hshown, hchain, -, hpath⟩ := hchains item hitem
  obtain ⟨s', hs', around', hwithin', hshown', hchain', -, hpath'⟩ := hchains item' hitem'
  rw [hpath, hpath', Option.some_inj] at hplace
  obtain ⟨htrail, hcolumn⟩ := List.append_singleton_inj.1 hplace
  refine ⟨hcolumn, ⟨_, _, hchain, hchain', ?_⟩, fun place hget hclash => ?_⟩
  · rw [Stop.map_table_of_within hwithin, Stop.map_table_of_within hwithin', htrail]
  · obtain rfl : s.trail ++ [item.column] = place := by
      rw [hpath] at hget
      exact Option.some_inj.1 hget
    have hfn : item.fn = item'.fn :=
      hclash.columns s hs s' hs' item.shown hshown item'.shown hshown' rfl hplace.symm
    refine ⟨Prod.ext hfn hcolumn, _, _, hchain, hchain', ?_⟩
    exact h.link_eq_of_within hclash labels hwithin hwithin' htrail (by simp)

/-- A request that follows one relation twice, and at another place asks for a column as it is and under
a function. -/
def repeatedRequest : List Field :=
  [.toOne ⟨["author"], "pg", "users", ["id"]⟩ [.column "name"],
    .toOne ⟨["author"], "pg", "users", ["id"]⟩ [.column "name"],
    .column "created", .computed (.extract .month) "created"]

/-- The query for `repeatedRequest` with a counter. -/
def repeatedQuery : Query :=
  (Plan.ofStops "articles" ["users_1", "name_2", "users_3", "name_4", "created_5", "month_created_6"]
    (Field.stops repeatedRequest)).query "articles"

/-- The two names in `repeatedRequest` come from different tables and show the same value. -/
theorem Planned.alike_of_place_eq_repeatedRequest :
    ∃ query context', Planned { aliases := BuiltinAliases.sequential {} } repeatedRequest query
        context' ∧
      ∃ item ∈ query.select, ∃ item' ∈ query.select,
        item.table = "users_1" ∧ item'.table = "users_3" ∧
        query.paths.get? item.label = query.paths.get? item'.label ∧ query.ShowsSame item item' :=
  have h : Planned { aliases := BuiltinAliases.sequential {} } repeatedRequest repeatedQuery
    { aliases := .sequential ⟨6⟩ } := .ofFields rfl
  have hfirst := List.mem_cons_self
  have hsecond := List.mem_cons_of_mem _ List.mem_cons_self
  have halike := Planned.alike_of_place_eq h (by decide) hfirst hsecond rfl
  ⟨_, _, h, _, hfirst, _, hsecond, rfl, rfl, rfl,
    halike.2.2 ["users", "name"] rfl ⟨by decide, by decide⟩⟩

/-- A request that asks for a column as it is and under a function, and follows two relations to the
same collection. -/
def clashingRequest : List Field :=
  [.column "created", .computed (.extract .month) "created",
    .toOne ⟨["author"], "pg", "users", ["id"]⟩ [.column "name"],
    .toOne ⟨["editor"], "pg", "users", ["id"]⟩ [.column "name"]]

/-- The query for `clashingRequest` with a counter. -/
def clashingQuery : Query :=
  (Plan.ofStops "articles" ["created_1", "month_created_2", "users_3", "name_4", "users_5", "name_6"]
    (Field.stops clashingRequest)).query "articles"

/-- **Places need not tell values apart.** In `clashingRequest` the date of creation and its month have
one place, and so have the names of author and editor, though all aliases differ. Where a source gives
out an alias twice, even different columns have one place. -/
theorem Planned.not_isReversible :
    (∃ context', Planned { aliases := BuiltinAliases.sequential {} } clashingRequest clashingQuery
        context' ∧
      (clashingQuery.select.map SelectItem.label).Nodup ∧ clashingQuery.sources.Nodup ∧
      (∃ item ∈ clashingQuery.select, ∃ item' ∈ clashingQuery.select,
        clashingQuery.paths.get? item.label = clashingQuery.paths.get? item'.label ∧
          item.column = item'.column ∧ item.fn ≠ item'.fn) ∧
      (∃ item ∈ clashingQuery.select, ∃ item' ∈ clashingQuery.select,
        clashingQuery.paths.get? item.label = clashingQuery.paths.get? item'.label ∧
          item.shown = item'.shown ∧ ¬clashingQuery.ShowsSame item item') ∧
      ¬clashingQuery.IsReversible) ∧
    ∃ query context', Planned { aliases := ListedAliases.mk ["a", "a"] 0 }
        [.column "id", .column "title"] query context' ∧
      ∃ item ∈ query.select, ∃ item' ∈ query.select,
        query.paths.get? item.label = query.paths.get? item'.label ∧ item.column ≠ item'.column := by
  have hsources : clashingQuery.sources.Nodup := by decide
  have hcreated : ∃ item ∈ clashingQuery.select, ∃ item' ∈ clashingQuery.select,
      clashingQuery.paths.get? item.label = clashingQuery.paths.get? item'.label ∧
        item.column = item'.column ∧ item.fn ≠ item'.fn := by decide
  refine ⟨⟨{ aliases := .sequential ⟨6⟩ }, .ofFields rfl, by decide, hsources, hcreated, ?_, ?_⟩, ?_⟩
  · -- the joins of author and editor differ in their keys
    have hleads : ∀ join ∈ clashingQuery.joins, join.LeadsFrom "articles" := by
      unfold JoinClause.LeadsFrom
      decide
    have hstep : ∀ join ∈ clashingQuery.joins, clashingQuery.Chain join.label [join] :=
      fun join hjoin => .join hjoin (hleads join hjoin) .root
    have hauthor := hstep clashingQuery.joins[0] (List.getElem_mem _)
    have heditor := hstep clashingQuery.joins[1] (List.getElem_mem _)
    refine ⟨clashingQuery.select[2], by decide, clashingQuery.select[3], by decide, rfl, rfl, ?_⟩
    rintro ⟨-, chain, chain', hchain, hchain', hlinks⟩
    rw [hchain.unique hsources hauthor, hchain'.unique hsources heditor] at hlinks
    exact absurd hlinks (by decide)
  · intro hreversible
    obtain ⟨item, hitem, item', hitem', hplace, -, hfn⟩ := hcreated
    exact hfn (congrArg Prod.fst (hreversible item hitem item' hitem' hplace).1)
  · have h : Planned { aliases := ListedAliases.mk ["a", "a"] 0 } [.column "id", .column "title"]
      (Plan.query "articles" _) _ := .ofFields rfl
    exact ⟨_, _, h, _, List.mem_cons_self, _, List.mem_cons_of_mem _ List.mem_cons_self, rfl,
      by decide⟩

end Query

end ClausePlan
