import ClausePlan.Proofs.Scope
import ClausePlan.Proofs.Session
/-!
# What qualifiers refer to

A qualifier refers to a table of its query by name. The aliases of joins differ from each other, but
the name of the root collection comes from outside: it may look like an alias, and the sources of
aliases do not know it. So a query is unambiguous unless a relation happens to get the name of the
root.

## Main definitions

* `ClausePlan.Query.qualifiers` — the table names that occur in a query.
* `ClausePlan.AliasSource.Names` — a source gives a name to one of the relations that are joined in.

## Main results

* `ClausePlan.Query.Planned.mem_label_joins_iff` — the aliases of joins are the names that the source
  gives to relations.
* `ClausePlan.Query.Planned.unambiguous_iff` — when all qualifiers of a planned query are
  unambiguous.
* `ClausePlan.Query.Planned.ambiguous_numberedRoot` — a query that joins its root with a table of the
  same name.
-/

namespace ClausePlan

/-! ## Qualifiers -/

/-- The table names in an equality. -/
def Comparison.qualifiers (c : Comparison) : List String :=
  match c.operand with
  | .column column => [c.target.table, column.table]
  | .slot _ => [c.target.table]

namespace Query

/-- The conditions of a query: those of its joins, and its filter. -/
def conditions (query : Query) : List Condition :=
  query.joins.map JoinClause.on ++ query.filter.toList

/-- The table names that occur in a query, in output columns and in conditions. -/
def qualifiers (query : Query) : List String :=
  query.select.map SelectItem.table ++
    (query.conditions.flatMap Condition.leaves).flatMap Comparison.qualifiers

variable {σ : Type} [AliasSource σ] {context context' : Context σ} {fields : List Field}
  {query : Query}

/-- The table names in the condition of a join are the joined table and a table in scope. -/
private lemma Planned.mem_sources_of_join (h : Planned context fields query context')
    {join : JoinClause} (hjoin : join ∈ query.joins) {leaf : Comparison}
    (hleaf : leaf ∈ join.on.leaves) {name : String} (hname : name ∈ leaf.qualifiers) :
    name ∈ query.sources := by
  obtain ⟨before, after, hsplit⟩ := List.append_of_mem hjoin
  obtain ⟨source, hsource, r, hon, -⟩ := h.exists_relation_of_joins_eq hsplit
  have hscope : query.root :: before.map JoinClause.label ⊆ query.sources := by
    rw [sources, hsplit, List.map_append]
    exact List.cons_subset_cons _ (List.subset_append_left _ _)
  rw [hon, Relation.leaves_condition] at hleaf
  obtain ⟨pair, -, rfl⟩ := List.mem_map.1 hleaf
  rcases List.mem_cons.1 hname with rfl | hname
  · exact hscope hsource
  · obtain rfl := List.mem_singleton.1 hname
    exact List.mem_cons_of_mem _ (List.mem_map_of_mem hjoin)

/-- Every qualifier of a planned query refers to a table of the query. -/
lemma Planned.qualifiers_subset (h : Planned context fields query context') :
    query.qualifiers ⊆ query.sources := by
  intro name hname
  rcases List.mem_append.1 hname with hname | hname
  · obtain ⟨item, hitem, rfl⟩ := List.mem_map.1 hname
    exact h.table_mem_sources hitem
  · obtain ⟨leaf, hleaf, hname⟩ := List.mem_flatMap.1 hname
    obtain ⟨condition, hcondition, hleaf⟩ := List.mem_flatMap.1 hleaf
    rcases List.mem_append.1 hcondition with hcondition | hcondition
    · obtain ⟨join, hjoin, rfl⟩ := List.mem_map.1 hcondition
      exact h.mem_sources_of_join hjoin hleaf hname
    · obtain ⟨htable, slot, hoperand⟩ := h.leaf_filter (Option.mem_toList.1 hcondition) hleaf
      rw [Comparison.qualifiers, hoperand] at hname
      rw [List.mem_singleton.1 hname, htable]
      exact List.mem_cons_self

/-- The alias of every join occurs as a qualifier, since the key of the join is not empty. -/
lemma Planned.label_mem_qualifiers (h : Planned context fields query context') {join : JoinClause}
    (hjoin : join ∈ query.joins) : join.label ∈ query.qualifiers := by
  obtain ⟨before, after, hsplit⟩ := List.append_of_mem hjoin
  obtain ⟨source, -, r, hon, hlength, hkey⟩ := h.exists_relation_of_joins_eq hsplit
  obtain ⟨pair, hpair⟩ : ∃ pair, pair ∈ r.localColumns.zip r.foreignColumns := by
    refine List.exists_mem_of_ne_nil _ fun hnil => ?_
    rcases List.zip_eq_nil_iff.1 hnil with hnil | hnil
    · exact hkey hnil
    · rw [hnil, List.length_nil] at hlength
      exact hkey (List.eq_nil_of_length_eq_zero hlength)
  refine List.mem_append_right _ (List.mem_flatMap.2
    ⟨⟨⟨source, pair.1⟩, .column ⟨join.label, pair.2⟩⟩, ?_, by simp [Comparison.qualifiers]⟩)
  refine List.mem_flatMap.2 ⟨join.on, List.mem_append_left _ (List.mem_map_of_mem hjoin), ?_⟩
  rw [hon, Relation.leaves_condition]
  exact List.mem_map.2 ⟨pair, hpair, rfl⟩

end Query

/-! ## The names of relations -/

/-- Planning some fields from a state of a source, the source answers to a relation with this name. -/
def AliasSource.Names {σ : Type} [AliasSource σ] (aliases : σ) (fields : List Field) (name : String) :
    Prop :=
  ∃ before s after r, Field.stops fields = before ++ s :: after ∧ s.relation? = some r ∧
    (draw r.collection (exec (AliasM.drawAll (Stop.seeds before)) aliases).2).1 = .ok name

namespace Query

variable {σ : Type} [AliasSource σ] {context context' : Context σ} {fields : List Field}
  {query : Query}

/-- The aliases of the joins of a planned query are the names that the source gives to relations. -/
lemma Planned.mem_label_joins_iff (h : Planned context fields query context') {name : String} :
    name ∈ query.joins.map JoinClause.label ↔ AliasSource.Names context.aliases fields name := by
  obtain ⟨labels, hdraw, -, hjoins, -⟩ := h.exists_labels
  -- whatever the stop of a relation is answered, is its alias
  have hanswer : ∀ before s after r, Field.stops fields = before ++ s :: after →
      s.relation? = some r → (AliasSource.draw r.collection
        (exec (AliasM.drawAll (Stop.seeds before)) context.aliases).2).1 = .ok (s.label labels) := by
    intro before s after r hsplit hr
    obtain ⟨earlier, aliases₁, hearlier, hown⟩ :=
      Stop.draw_of_stops_eq hsplit (Stop.seed?_of_relation? hr) hdraw
    rwa [hearlier]
  rw [hjoins]
  constructor
  · intro hname
    obtain ⟨join, hjoin, rfl⟩ := List.mem_map.1 hname
    obtain ⟨s, hs, hjoin⟩ := List.mem_filterMap.1 hjoin
    obtain ⟨before, after, hsplit⟩ := List.append_of_mem hs
    rw [Stop.join?_eq_map] at hjoin
    obtain ⟨r, hr, rfl⟩ := Option.map_eq_some_iff.1 hjoin
    exact ⟨before, s, after, r, hsplit, hr, hanswer before s after r hsplit hr⟩
  · rintro ⟨before, s, after, r, hsplit, hr, hname⟩
    rw [hanswer before s after r hsplit hr] at hname
    obtain rfl := Except.ok.inj hname
    have hs : s ∈ Field.stops fields := hsplit ▸ by simp
    exact List.mem_map.2 ⟨_, List.mem_filterMap.2 ⟨s, hs, Stop.join?_of_relation? _ _ hr⟩, rfl⟩

end Query

namespace BuiltinAliases

/-- A counter that gives out an alias for each of some seeds counts them. -/
lemma sequential_of_drawAll {seeds labels : List String} {source : SequentialAliases}
    {aliases : BuiltinAliases}
    (h : exec (AliasM.drawAll seeds) (sequential source) = (.ok labels, aliases)) :
    aliases = sequential ⟨source.count + seeds.length⟩ := by
  induction seeds generalizing labels source with
  | nil =>
    obtain ⟨-, rfl⟩ := AliasM.drawAll_nil_ok_iff.1 h
    rfl
  | cons seed seeds ih =>
    obtain ⟨label, aliases₁, hdraw, rest, hrest, -⟩ := AliasM.drawAll_cons_ok_iff.1 h
    have hroom := (SequentialAliases.draw_eq_ok_iff.1 (congrArg Prod.fst hdraw)).1
    have hcount := SequentialAliases.count_draw seed source
    have hnext : (AliasSource.draw seed source).2 = ⟨source.count + 1⟩ := by
      rw [if_pos hroom] at hcount
      rw [← hcount]
    obtain rfl : sequential (AliasSource.draw seed source).2 = aliases₁ := congrArg Prod.snd hdraw
    rw [hnext] at hrest
    rw [ih hrest, List.length_cons, Nat.add_assoc, Nat.add_comm 1]

end BuiltinAliases

namespace Query

section Builtin

variable {context context' : Context BuiltinAliases} {fields : List Field} {query : Query}

/-- A counter gives a relation the name that has the number of its stop. -/
lemma Planned.names_sequential_iff {source : SequentialAliases}
    (h : Planned context fields query context') (hsource : context.aliases = .sequential source)
    {name : String} :
    AliasSource.Names context.aliases fields name ↔
      ∃ s ∈ Field.stops fields, ∃ r, s.relation? = some r ∧
        name = SequentialAliases.aliasOf r.collection (source.count + s.number + 1) := by
  obtain ⟨labels, hdraw, -⟩ := h.exists_labels
  -- the counter has been raised by one for each seed before the stop, and it has room for one more
  have hanswer : ∀ before s after r, Field.stops fields = before ++ s :: after →
      s.relation? = some r →
        ((AliasSource.draw r.collection
            (exec (AliasM.drawAll (Stop.seeds before)) context.aliases).2).1 = .ok name ↔
          name = SequentialAliases.aliasOf r.collection (source.count + s.number + 1)) := by
    intro before s after r hsplit hr
    have hseed := Stop.seed?_of_relation? hr
    obtain ⟨earlier, aliases₁, hearlier, hown⟩ := Stop.draw_of_stops_eq hsplit hseed hdraw
    rw [hsource] at hearlier ⊢
    obtain rfl := BuiltinAliases.sequential_of_drawAll hearlier
    rw [hearlier, Field.number_of_stops_eq hsplit (by simp [hseed])]
    have hroom := (SequentialAliases.draw_eq_ok_iff.1 hown).1
    exact SequentialAliases.draw_eq_ok_iff.trans (and_iff_right hroom)
  constructor
  · rintro ⟨before, s, after, r, hsplit, hr, hname⟩
    exact ⟨s, hsplit ▸ by simp, r, hr, (hanswer before s after r hsplit hr).1 hname⟩
  · rintro ⟨s, hs, r, hr, hname⟩
    obtain ⟨before, after, hsplit⟩ := List.append_of_mem hs
    exact ⟨before, s, after, r, hsplit, hr, (hanswer before s after r hsplit hr).2 hname⟩

/-- The tables of a planned query have different names unless the root has the name of a joined
table. -/
lemma Planned.nodup_sources_iff (h : Planned context fields query context') :
    query.sources.Nodup ↔ query.root ∉ query.joins.map JoinClause.label := by
  have hlabels := (BuiltinAliases.neverRepeats.issues_of_planned h).nodup
  rw [sources, List.nodup_cons]
  exact and_iff_left hlabels.of_append_right

/-- **When a planned query is unambiguous**, with a built-in source of aliases: exactly if no relation
gets the name of the root. With a counter that is a matter of the collections and their place in the
walk.

**Proof sketch.** The aliases of joins differ from each other, so only the root can have the name of
another table. All qualifiers refer to tables of the query; they refer to one only if names differ.
Conversely, where a joined table has the name of the root, its own condition mentions that name. -/
theorem Planned.unambiguous_iff (h : Planned context fields query context') :
    (query.sources.Nodup ↔ ¬AliasSource.Names context.aliases fields query.root) ∧
      ((∀ name ∈ query.qualifiers, query.sources.count name = 1) ↔
        ¬AliasSource.Names context.aliases fields query.root) ∧
      ∀ source, context.aliases = .sequential source →
        (AliasSource.Names context.aliases fields query.root ↔
          ∃ s ∈ Field.stops fields, ∃ r, s.relation? = some r ∧
            query.root = SequentialAliases.aliasOf r.collection (source.count + s.number + 1)) := by
  have hnodup : query.sources.Nodup ↔ ¬AliasSource.Names context.aliases fields query.root := by
    rw [h.nodup_sources_iff, h.mem_label_joins_iff]
  refine ⟨hnodup, ?_, fun source hsource => h.names_sequential_iff hsource⟩
  constructor
  · intro hcount hnames
    obtain ⟨join, hjoin, hlabel⟩ := List.mem_map.1 (h.mem_label_joins_iff.2 hnames)
    have hone := hcount _ (h.label_mem_qualifiers hjoin)
    rw [hlabel, sources, List.count_cons_self] at hone
    have hpos : 0 < (query.joins.map JoinClause.label).count query.root :=
      List.count_pos_iff.2 (h.mem_label_joins_iff.2 hnames)
    omega
  · intro hnames name hname
    exact List.count_eq_one_of_mem (hnodup.2 hnames) (h.qualifiers_subset hname)

/-- A request that joins in the table of users. -/
def usersRequest : List Field :=
  [.toOne ⟨["manager"], "pg", "users", ["id"]⟩ [.column "name"]]

/-- With a counter the joined table is called `users_1`, which leaves `users_2` for the root. -/
theorem Planned.unambiguous_iff_usersRequest :
    ∃ query context', Planned { aliases := BuiltinAliases.sequential {} } usersRequest query context' ∧
      query.sources = ["users_2", "users_1"] ∧
      ∀ name ∈ query.qualifiers, query.sources.count name = 1 :=
  have h : Planned { aliases := BuiltinAliases.sequential {} } usersRequest (Plan.query "users_2" _) _ :=
    .ofFields rfl
  ⟨_, _, h, rfl, (Planned.unambiguous_iff h).2.1.2 (mt h.mem_label_joins_iff.2 (by decide))⟩

/-- **A collection called `users_1` is joined with a table of the same name.** Its condition compares
columns of `users_1` with columns of `users_1`. -/
theorem Planned.ambiguous_numberedRoot :
    ∃ query context', Planned { aliases := BuiltinAliases.sequential {} } usersRequest query context' ∧
      query.sources = ["users_1", "users_1"] ∧ ¬query.sources.Nodup ∧
      "users_1" ∈ query.qualifiers ∧ query.sources.count "users_1" = 2 :=
  have h : Planned { aliases := BuiltinAliases.sequential {} } usersRequest (Plan.query "users_1" _) _ :=
    .ofFields rfl
  ⟨_, _, h, rfl, by decide, by decide, by decide⟩

end Builtin

end Query

end ClausePlan
