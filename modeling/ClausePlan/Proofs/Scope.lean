import ClausePlan.Proofs.Query
/-!
# Joins in scope

The condition of a join compares columns of the joined table with columns of one other table. That
table is in scope when the join is read: it is the root of the query or was joined in before. The
reason is that a stop of the walk hangs from a stop before it.

## Main definitions

* `ClausePlan.Query.sources` — the root of a query and the aliases of its joins.
* `ClausePlan.Query.IsScoped` — all joins and output columns refer to tables that are in scope.

## Main results

* `ClausePlan.Query.Planned.exists_relation_of_joins_eq` — each join follows a relation from a table
  that is in scope.
* `ClausePlan.Query.Planned.isScoped` — planned queries are scoped.
-/

namespace ClausePlan

/-! ## The tables of stops -/

namespace Stop

variable (root : String) (labels : List String)

/-- A stop has a join if it has a to-one relation. The join follows the relation from the table of
the stop. -/
lemma join?_eq_map (s : Stop) :
    s.join? root labels = s.relation?.map fun r =>
      { table := r.collection
        on := r.condition (s.table root labels) (s.label labels)
        label := s.label labels } := by
  obtain ⟨_ | _ | _ | _, trail, parent, number⟩ := s <;> rfl

lemma join?_of_relation? {s : Stop} {r : Relation} (h : s.relation? = some r) :
    s.join? root labels =
      some ⟨r.collection, r.condition (s.table root labels) (s.label labels), s.label labels⟩ := by
  rw [join?_eq_map, h]
  rfl

/-- The output column of a stop belongs to the table of the stop. -/
lemma table_of_item? {root : String} {labels : List String} {s : Stop} {item : SelectItem}
    (h : s.item? root labels = some item) :
    item.table = s.table root labels := by
  obtain ⟨field, trail, parent, number⟩ := s
  cases field with
  | column name =>
    obtain rfl := Option.some_inj.1 h
    rfl
  | computed fn name =>
    obtain rfl := Option.some_inj.1 h
    rfl
  | toOne _ _ => simp [item?] at h
  | toMany _ _ => simp [item?] at h

/-- **The table of a stop is in scope**: it is the root, or the alias of a join before the stop. -/
lemma table_mem {fields : List Field} {before after : List Stop} {s : Stop}
    (h : Field.stops fields = before ++ s :: after) :
    s.table root labels ∈
      root :: (before.filterMap (join? root labels)).map JoinClause.label := by
  rcases Field.hangsFrom_invariant.walkAll none 0 fields before s after h with
    ⟨hparent, -⟩ | ⟨t, ht, r, hr, hparent, -⟩
  · rw [table, hparent]
    exact List.mem_cons_self
  · -- the relation around the stop has its join before it
    have hjoin : _ ∈ before.filterMap (join? root labels) :=
      List.mem_filterMap.2 ⟨t, ht, join?_of_relation? root labels hr⟩
    rw [table, hparent]
    exact List.mem_cons_of_mem _ (List.mem_map_of_mem (f := JoinClause.label) hjoin)

end Stop

/-! ## Scoped queries -/

namespace Query

/-- The names of the tables in a query: the root and the aliases of the joins. -/
def sources (query : Query) : List String :=
  query.root :: query.joins.map JoinClause.label

/-- All joins and output columns of a query refer to tables that are in scope. -/
structure IsScoped (query : Query) : Prop where
  /-- The condition of a join compares columns of one table, the root or one joined in before it, with
  columns of the joined table. Nothing in it is negated. -/
  joins : ∀ before join after, query.joins = before ++ join :: after →
    join.on.isPositive ∧ ∃ source ∈ query.root :: before.map JoinClause.label,
      ∀ leaf ∈ join.on.leaves, leaf.target.table = source ∧
        ∃ name, leaf.operand = .column ⟨join.label, name⟩
  /-- An output column is one of the root or of a joined table. -/
  select : ∀ item ∈ query.select, item.table ∈ query.sources

variable {σ : Type} [AliasSource σ] {context context' : Context σ} {fields : List Field}
  {query : Query}

/-- **Each join of a planned query follows a relation** with a sound key, from a table that is in
scope.

**Proof sketch.** A join is that of a stop, and the joins before it are those of the stops before.
The table of the stop is in scope there. -/
lemma Planned.exists_relation_of_joins_eq (h : Planned context fields query context')
    {before after : List JoinClause} {join : JoinClause}
    (hjoins : query.joins = before ++ join :: after) :
    ∃ source ∈ query.root :: before.map JoinClause.label, ∃ r : Relation,
      join.on = r.condition source join.label ∧
        r.localColumns.length = r.foreignColumns.length ∧ r.localColumns ≠ [] := by
  obtain ⟨labels, -, -, hstops, -⟩ := h.exists_labels
  rw [hstops] at hjoins
  obtain ⟨stops, rest, hsplit, rfl, hrest⟩ := List.filterMap_eq_append_iff.1 hjoins
  obtain ⟨skipped, s, stops', rfl, hskipped, hs, -⟩ := List.filterMap_eq_cons_iff.1 hrest
  have hsplit' : Field.stops fields = (stops ++ skipped) ++ s :: stops' := by
    rw [hsplit, List.append_assoc]
  have htable := Stop.table_mem query.root labels hsplit'
  rw [List.filterMap_append, List.filterMap_eq_nil_iff.2 hskipped, List.append_nil] at htable
  rw [Stop.join?_eq_map] at hs
  obtain ⟨r, hr, rfl⟩ := Option.map_eq_some_iff.1 hs
  exact ⟨_, htable, r, rfl, h.key (hsplit' ▸ by simp) hr⟩

/-- Each output column of a planned query is one of the root or of a joined table. -/
lemma Planned.table_mem_sources (h : Planned context fields query context') {item : SelectItem}
    (hitem : item ∈ query.select) : item.table ∈ query.sources := by
  obtain ⟨labels, -, hselect, hjoins, -⟩ := h.exists_labels
  rw [hselect] at hitem
  obtain ⟨s, hs, hitem⟩ := List.mem_filterMap.1 hitem
  obtain ⟨before, after, hsplit⟩ := List.append_of_mem hs
  rw [Stop.table_of_item? hitem, sources, hjoins]
  -- the joins of the stops before are among all joins
  refine List.cons_subset_cons _ ?_ (Stop.table_mem query.root labels hsplit)
  refine List.map_subset _ (List.filterMap_subset _ ?_)
  rw [hsplit]
  exact List.subset_append_left _ _

/-- **Planned queries are scoped**, for every source of aliases and however relations are nested.

**Proof sketch.** Each join follows a relation from a table that is in scope, and the condition of a
relation is positive and compares columns of that table with columns of the joined one. -/
theorem Planned.isScoped (h : Planned context fields query context') : query.IsScoped where
  joins := by
    intro before join after hjoins
    obtain ⟨source, hsource, r, hon, -⟩ := h.exists_relation_of_joins_eq hjoins
    rw [hon]
    refine ⟨r.isPositive_condition source join.label, source, hsource, fun leaf hleaf => ?_⟩
    rw [Relation.leaves_condition] at hleaf
    obtain ⟨pair, -, rfl⟩ := List.mem_map.1 hleaf
    exact ⟨rfl, pair.2, rfl⟩
  select := fun _ hitem => h.table_mem_sources hitem

/-- A request in which a relation hangs below a relation, with another one beside it. -/
def nestedRequest : List Field :=
  [.toOne ⟨["author"], "pg", "users", ["id"]⟩
      [.toOne ⟨["role", "site"], "pg", "roles", ["id", "site"]⟩ [.column "title"]],
    .toOne ⟨["editor"], "pg", "users", ["id"]⟩ []]

/-- The rows of `nestedRequest` for a given key value, with aliases from a list. -/
theorem Planned.isScoped_nestedRequest :
    ∃ query context', Planned { aliases := ListedAliases.mk ["a", "b", "c", "d"] 0 } nestedRequest
        query context' ∧
      query.sources = ["articles", "a", "b", "d"] ∧ query.IsScoped :=
  have h := RelationQuery.exec_generate ⟨"pg", "articles", nestedRequest, ["id"]⟩ [.null]
    { aliases := ListedAliases.mk ["a", "b", "c", "d"] 0 }
  ⟨_, _, .generate (h.trans rfl), rfl, Planned.isScoped (.generate (h.trans rfl))⟩

end Query

end ClausePlan
