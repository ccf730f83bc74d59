import ClausePlan.Proofs.Scope
import Mathlib.Data.List.Nodup
/-!
# Chains of joins

From each table of a query one can go up, from a join to the table that its condition leads away from,
until the root is reached. The collections that are met on the way are the place of the columns of the
table in the nested result: what the joins say and what the places say is the same tree.

## Main definitions

* `ClausePlan.Stop.Within` — the to-one relations around a stop, from the outside in.
* `ClausePlan.JoinClause.LeadsFrom` — the table that a join leads away from.
* `ClausePlan.Query.Chain` — the joins between a table and the root, from the root on.

## Main results

* `ClausePlan.Stop.exists_within` — the relations around a stop come before it, the outer ones first.
* `ClausePlan.Query.Chain.unique` — there is one way up, if the tables of the query have different names.
* `ClausePlan.Query.Planned.exists_chain` — each output column is reached by a chain.
* `ClausePlan.Query.Planned.place_eq_chain` — the place of an output column is read off its chain.
-/

namespace ClausePlan

/-! ## The relations around a stop -/

namespace Stop

/-- The to-one relations around a stop, from the outside in, all of which are among some stops. The
trail of the stop names their collections. -/
inductive Within (stops : List Stop) : Stop → List Stop → Prop
  /-- Around a stop at the top there are none. -/
  | outermost {s : Stop} : s.parent = none → s.trail = [] → Within stops s []
  /-- Around a stop below a relation there is this relation, and there are those around it. -/
  | inside {s t : Stop} {r : Relation} {around : List Stop} :
    t ∈ stops → t.relation? = some r → s.parent = some t.number →
      s.trail = t.trail ++ [r.collection] → Within stops t around → Within stops s (around ++ [t])

/-- **The relations around a stop come before it**, the outer ones first.

**Proof sketch.** Induction on the number of stops before. A stop that does not hang from the start of
the walk hangs from a relation before it, which has fewer stops before it. -/
lemma exists_within {fields : List Field} {before after : List Stop} {s : Stop}
    (h : Field.stops fields = before ++ s :: after) :
    ∃ around, Within (Field.stops fields) s around ∧ around.Sublist before := by
  induction hn : before.length using Nat.strong_induction_on generalizing before s after with
  | _ n ih =>
    rcases Field.hangsFrom_invariant.walkAll none 0 fields before s after h with
      ⟨hparent, htrail⟩ | ⟨t, ht, r, hr, hparent, htrail⟩
    · exact ⟨[], .outermost hparent htrail, List.nil_sublist before⟩
    · obtain ⟨outer, inner, rfl⟩ := List.append_of_mem ht
      have hsplit : Field.stops fields = outer ++ t :: (inner ++ s :: after) := by
        simpa using h
      have hshorter : outer.length < n := by
        rw [← hn, List.length_append, List.length_cons]
        omega
      obtain ⟨around, hwithin, hsub⟩ := ih outer.length hshorter hsplit rfl
      have hmem : t ∈ Field.stops fields := hsplit ▸ by simp
      exact ⟨around ++ [t], .inside hmem hr hparent htrail hwithin,
        hsub.append (List.singleton_sublist.2 List.mem_cons_self)⟩

end Stop

/-! ## Chains -/

/-- The condition of a join compares columns of the table `source`, and of no other one, with those of
the joined table. -/
def JoinClause.LeadsFrom (join : JoinClause) (source : String) : Prop :=
  join.on.leaves ≠ [] ∧ ∀ leaf ∈ join.on.leaves, leaf.target.table = source

/-- A join leads away from one table at most. -/
lemma JoinClause.LeadsFrom.unique {join : JoinClause} {source source' : String}
    (h : join.LeadsFrom source) (h' : join.LeadsFrom source') : source = source' := by
  obtain ⟨leaf, hleaf⟩ := List.exists_mem_of_ne_nil _ h.1
  exact (h.2 leaf hleaf).symm.trans (h'.2 leaf hleaf)

/-- The join of a relation with a sound key leads away from the table of the relation. -/
lemma Relation.leadsFrom_join {r : Relation} (h : r.localColumns.length = r.foreignColumns.length)
    (hkey : r.localColumns ≠ []) (source label : String) :
    JoinClause.LeadsFrom { table := r.collection, on := r.condition source label, label } source := by
  constructor
  · intro hnil
    have hlength := congrArg List.length hnil
    rw [leaves_condition, List.length_map, List.length_zip, ← h, Nat.min_self] at hlength
    exact hkey (List.eq_nil_of_length_eq_zero hlength)
  · intro leaf hleaf
    rw [leaves_condition] at hleaf
    obtain ⟨pair, -, rfl⟩ := List.mem_map.1 hleaf
    rfl

namespace Query

/-- The joins that are passed on the way from a table up to the root, listed from the root on. A step
leads from the alias of a join to the table that the join leads away from, and the way ends at the
root. -/
inductive Chain (query : Query) : String → List JoinClause → Prop
  /-- At the root nothing has been passed. -/
  | root : Chain query query.root []
  /-- From the alias of a join the way goes on at the table that the join leads away from. -/
  | join {join : JoinClause} {source : String} {chain : List JoinClause} :
    join ∈ query.joins → join.LeadsFrom source → Chain query source chain →
      Chain query join.label (chain ++ [join])

/-- **There is one way up** from each table, if the tables of the query have different names. -/
lemma Chain.unique {query : Query} (hsources : query.sources.Nodup) {table : String}
    {chain chain' : List JoinClause} (h : query.Chain table chain) (h' : query.Chain table chain') :
    chain = chain' := by
  obtain ⟨hroot, hlabels⟩ := List.nodup_cons.1 hsources
  induction h generalizing chain' with
  | root =>
    generalize htable : query.root = table at h'
    cases h' with
    | root => rfl
    | join hjoin _ _ => exact absurd (htable ▸ List.mem_map_of_mem hjoin) hroot
  | @join join source chain hjoin hleads _ ih =>
    generalize htable : join.label = table at h'
    cases h' with
    | root => exact absurd (htable ▸ List.mem_map_of_mem hjoin) hroot
    | @join join' source' chain' hjoin' hleads' hchain' =>
      -- a table has one join, and that leads away from one table
      obtain rfl := List.inj_on_of_nodup_map hlabels hjoin hjoin' htable
      obtain rfl := hleads.unique hleads'
      rw [ih hchain']

end Query

/-! ## Chains of planned queries -/

/-- The joins of the relations around a stop lead to the collections on its trail. -/
lemma Stop.map_table_of_within {stops around : List Stop} {s : Stop} (h : Within stops s around)
    (root : String) (labels : List String) :
    (around.filterMap (join? root labels)).map JoinClause.table = s.trail := by
  induction h with
  | outermost _ htrail => rw [htrail, List.filterMap_nil, List.map_nil]
  | inside _ hr _ htrail _ ih =>
    rw [htrail, List.filterMap_append, List.map_append, ih,
      List.filterMap_cons_some (join?_of_relation? root labels hr)]
    rfl

namespace Query

variable {σ : Type} [AliasSource σ] {context context' : Context σ} {fields : List Field}
  {query : Query}

/-- The joins of the relations around a stop are a chain from the table of the stop. -/
lemma Planned.chain_of_within (h : Planned context fields query context') {labels : List String}
    (hjoins : query.joins = (Field.stops fields).filterMap (Stop.join? query.root labels))
    {s : Stop} {around : List Stop} (hwithin : Stop.Within (Field.stops fields) s around) :
    query.Chain (s.table query.root labels) (around.filterMap (Stop.join? query.root labels)) := by
  induction hwithin with
  | outermost hparent _ =>
    rw [Stop.table, hparent]
    exact .root
  | @inside s t r around ht hr hparent _ _ ih =>
    obtain ⟨hlength, hkey⟩ := h.key ht hr
    have hjoin := Stop.join?_of_relation? query.root labels hr
    have htable : s.table query.root labels = t.label labels := by
      rw [Stop.table, hparent]
      rfl
    rw [htable, List.filterMap_append, List.filterMap_cons_some hjoin, List.filterMap_nil]
    exact .join (hjoins ▸ List.mem_filterMap.2 ⟨t, ht, hjoin⟩)
      (r.leadsFrom_join hlength hkey _ _) ih

/-- **Each output column of a planned query is reached by a chain**: the joins of the relations around
its stop. They are listed in the query in the same order. The place of the column is on the trail of
the stop, if no other output column has its alias. -/
lemma Planned.exists_chain (h : Planned context fields query context')
    (hnodup : (query.select.map SelectItem.label).Nodup) :
    ∃ labels, ∀ item ∈ query.select, ∃ s ∈ Field.stops fields, ∃ around,
      Stop.Within (Field.stops fields) s around ∧
        s.field.shown? = some item.shown ∧
        query.Chain item.table (around.filterMap (Stop.join? query.root labels)) ∧
        (around.filterMap (Stop.join? query.root labels)).Sublist query.joins ∧
        query.paths.get? item.label = some (s.trail ++ [item.column]) := by
  obtain ⟨labels, -, hselect, hjoins, hpaths⟩ := h.exists_labels
  refine ⟨labels, fun item hitem => ?_⟩
  rw [hselect] at hitem
  obtain ⟨s, hs, hitem⟩ := List.mem_filterMap.1 hitem
  obtain ⟨before, after, hsplit⟩ := List.append_of_mem hs
  obtain ⟨around, hwithin, hsub⟩ := Stop.exists_within hsplit
  have hbefore : before.Sublist (Field.stops fields) := hsplit ▸ List.sublist_append_left _ _
  rw [hselect, Stop.map_label_item?] at hnodup
  refine ⟨s, hs, around, hwithin, ?_, ?_, ?_, ?_⟩
  · rw [← Stop.map_shown_item? query.root labels, hitem]
    rfl
  · rw [Stop.table_of_item? hitem]
    exact h.chain_of_within hjoins hwithin
  · exact hjoins ▸ (hsub.trans hbefore).filterMap _
  · rw [hpaths]
    exact OrderedMap.get?_ofList hnodup (List.mem_filterMap.2 ⟨s, hs, Stop.place?_of_item? hitem⟩)

/-- **The place of an output column is read off its chain of joins.** From the table of the column one
way leads up to the root, and the joins that it passes are met from the last one on, none of them
twice. The collections that they join in, from the root on, and then the column itself, are the place
of the output column in the nested result.

**Proof sketch.** Both the joins that are passed and the trail of the stop of the column are those of
the relations around the stop. The way up is the only one since each alias is that of one table. -/
theorem Planned.place_eq_chain (h : Planned context fields query context')
    (hsources : query.sources.Nodup) (hnodup : (query.select.map SelectItem.label).Nodup)
    {item : SelectItem} (hitem : item ∈ query.select) :
    ∃ chain, query.Chain item.table chain ∧
      (∀ other, query.Chain item.table other → other = chain) ∧
      chain.Sublist query.joins ∧
      query.paths.get? item.label = some (chain.map JoinClause.table ++ [item.column]) := by
  obtain ⟨labels, hchains⟩ := h.exists_chain hnodup
  obtain ⟨s, -, around, hwithin, -, hchain, hsub, hpath⟩ := hchains item hitem
  refine ⟨_, hchain, fun other hother => hother.unique hsources hchain, hsub, ?_⟩
  rw [Stop.map_table_of_within hwithin]
  exact hpath

/-- The title of a role in `nestedRequest`, two joins away from the root. -/
theorem Planned.place_eq_chain_nestedRequest :
    ∃ query context', Planned { aliases := ListedAliases.mk ["a", "b", "c", "d"] 0 } nestedRequest
        query context' ∧
      ∃ item ∈ query.select, item.table = "b" ∧
        query.paths.get? item.label = some ["users", "roles", "title"] ∧
        ∃ chain, query.Chain item.table chain ∧
          (∀ other, query.Chain item.table other → other = chain) ∧
          chain.Sublist query.joins ∧
          query.paths.get? item.label = some (chain.map JoinClause.table ++ [item.column]) :=
  have h : Planned { aliases := ListedAliases.mk ["a", "b", "c", "d"] 0 } nestedRequest
    (Plan.query "articles" _) _ := .ofFields rfl
  ⟨_, _, h, _, List.mem_cons_self, rfl, rfl,
    Planned.place_eq_chain h (by decide) (by decide) List.mem_cons_self⟩

end Query

end ClausePlan
