import ClausePlan.Proofs.Faults
import ClausePlan.Proofs.Frame
import ClausePlan.Proofs.Sources
/-!
# Tables without a name

A collection without a name is refused where planning begins. Below a to-one relation the check is made
as well, but there it looks at the alias of the relation, not at the name of its collection. So all
names that a query is qualified with are those of something, and yet the table of a join may have no
name at all: that of a to-one relation to a collection without a name.

## Main results

* `ClausePlan.Query.Planned.ne_empty_of_mem_sources` — no table is known by an empty name in a query.
* `ClausePlan.Query.Planned.table_ne_empty_iff` — the joined tables of a query have names iff all to-one
  relations that planning meets lead to collections with names.
* `ClausePlan.Query.names_ne_empty` — which names in a query are not empty, and which may be.
* `ClausePlan.Query.planned_unnamedJoin` — a query that joins a table without a name.
-/

namespace ClausePlan

variable {σ : Type} [AliasSource σ]

namespace Query

variable {context context' : Context σ} {fields : List Field} {query : Query}

/-- No table of a planned query is known by an empty name: the root has been checked, and each relation
has been entered under its alias. -/
lemma Planned.ne_empty_of_mem_sources (h : Planned context fields query context') {name : String}
    (hname : name ∈ query.sources) : name ≠ "" := by
  obtain ⟨plan, hplan, -, hjoins, -⟩ := h.exists_plan
  obtain ⟨hroot, labels, aliases', hask, rfl, -⟩ := Plan.exec_ofFields_ok_iff.1 hplan
  rcases List.mem_cons.1 hname with rfl | hname
  · exact mt String.isEmpty_iff.2 (by simp [hroot])
  · obtain ⟨join, hjoin, rfl⟩ := List.mem_map.1 hname
    rw [hjoins] at hjoin
    obtain ⟨s, hs, hjoin⟩ := List.mem_filterMap.1 hjoin
    rw [Stop.join?_eq_map] at hjoin
    obtain ⟨r, hr, rfl⟩ := Option.map_eq_some_iff.1 hjoin
    exact (Stop.entered_of_askAll hask hs hr).2

/-- **The joined tables of a planned query have names** iff all to-one relations that planning meets lead
to collections with names. -/
lemma Planned.table_ne_empty_iff (h : Planned context fields query context') :
    (∀ join ∈ query.joins, join.table ≠ "") ↔
      ∀ s ∈ Field.stops fields, ∀ r ∈ s.relation?, r.collection ≠ "" := by
  obtain ⟨labels, -, -, hjoins, -⟩ := h.exists_labels
  rw [hjoins]
  constructor
  · intro htables s hs r hr
    exact htables _ (List.mem_filterMap.2 ⟨s, hs, Stop.join?_of_relation? query.root labels hr⟩)
  · intro hnames join hjoin
    obtain ⟨s, hs, hjoin⟩ := List.mem_filterMap.1 hjoin
    rw [Stop.join?_eq_map] at hjoin
    obtain ⟨r, hr, rfl⟩ := Option.map_eq_some_iff.1 hjoin
    exact hnames s hs r hr

/-- **Which names in a query are not empty.** A collection without a name is refused where planning
begins, be it for the fields of a collection or for given key values. In a query that has been planned,
the root has a name, and so has each table that an output column or a condition is qualified with. The
tables that are joined in have names exactly if all to-one relations that planning meets lead to
collections with names: this is not checked.

**Proof sketch.** All qualifiers are the root or aliases of joins. The root is checked at the beginning,
and each alias when its relation is entered. The table of a join is the collection of its relation. -/
theorem names_ne_empty (context : Context σ) :
    (∀ fields, exec (Plan.ofFields "" fields) context =
      (.error (.malformed .unnamedCollection), context)) ∧
    (∀ (q : RelationQuery) (keys : List Json), q.collection = "" →
      keys.length = q.foreignColumns.length →
        exec (q.generate keys) context = (.error (.malformed .unnamedCollection), context)) ∧
    ∀ fields query context', Planned context fields query context' →
      query.root ≠ "" ∧ (∀ name ∈ query.qualifiers, name ≠ "") ∧
      ((∀ join ∈ query.joins, join.table ≠ "") ↔
        ∀ s ∈ Field.stops fields, ∀ r ∈ s.relation?, r.collection ≠ "") := by
  refine ⟨fun fields => Plan.exec_ofFields_unnamed fields context, fun q keys hname hcount => ?_,
    fun fields query context' h => ⟨?_, ?_, ?_⟩⟩
  · rw [RelationQuery.exec_generate_error_iff, hname]
    exact .inr ⟨hcount, Plan.exec_ofFields_unnamed q.fields context⟩
  · exact h.ne_empty_of_mem_sources List.mem_cons_self
  · exact fun name hname => h.ne_empty_of_mem_sources (h.qualifiers_subset hname)
  · exact h.table_ne_empty_iff

/-- A request for the names of the authors, whose collection has no name itself. -/
def namelessRequest : List Field :=
  [.toOne ⟨["author"], "pg", "", ["id"]⟩ [.column "name"]]

/-- Where the collection has no name, `namelessRequest` is refused, as fields and for given key values.
Planned for articles it is qualified with names only, but its join has a table without one. -/
theorem names_ne_empty_namelessRequest :
    exec (Plan.ofFields "" namelessRequest) { aliases := BuiltinAliases.sequential {} } =
      (.error (.malformed .unnamedCollection), { aliases := .sequential {} }) ∧
    exec (RelationQuery.generate ⟨"pg", "", namelessRequest, ["id"]⟩ [.null])
        { aliases := BuiltinAliases.sequential {} } =
      (.error (.malformed .unnamedCollection), { aliases := .sequential {} }) ∧
    ∃ query context', Planned { aliases := BuiltinAliases.sequential {} } namelessRequest query context' ∧
      query.root ≠ "" ∧ (∀ name ∈ query.qualifiers, name ≠ "") ∧
      ¬∀ join ∈ query.joins, join.table ≠ "" := by
  obtain ⟨hfields, hkeys, hplanned⟩ := names_ne_empty { aliases := BuiltinAliases.sequential {} }
  have h : Planned { aliases := BuiltinAliases.sequential {} } namelessRequest
      (Plan.query "articles" _) _ := .ofFields rfl
  obtain ⟨hroot, hqualifiers, hjoins⟩ := hplanned _ _ _ h
  exact ⟨hfields _, hkeys ⟨"pg", "", namelessRequest, ["id"]⟩ [.null] rfl rfl, _, _, h, hroot,
    hqualifiers, fun htables => hjoins.1 htables _ List.mem_cons_self _ rfl rfl⟩

/-- **A table without a name is joined in.** The relation gets the alias `_1`, which is not blank, and
planning succeeds. -/
theorem planned_unnamedJoin :
    ∃ query context', Planned { aliases := BuiltinAliases.sequential {} } namelessRequest query context' ∧
      query.root = "articles" ∧ query.joins.map JoinClause.table = [""] ∧
      query.sources = ["articles", "_1"] :=
  have h : Planned { aliases := BuiltinAliases.sequential {} } namelessRequest
      (Plan.query "articles" _) _ := .ofFields rfl
  ⟨_, _, h, rfl, rfl, rfl⟩

end Query

end ClausePlan
