import ClausePlan.Proofs.Faults
import ClausePlan.Proofs.Query
/-!
# The query for the rows of given key values

The query for given key values is the plan of its fields with a filter on the key columns. Each column
is compared with the parameter in a slot, the slots are counted from zero, and in each slot there is the
key value at the position of the column. The values are put into their slots one after the other. That
keeps them in order, because planning binds no parameters itself and leaves all slots free, and because
there are no more key columns in any memory than there are slots.

## Main definitions

* `ClausePlan.RelationQuery.correlations` — the equalities of the key columns with their slots.
* `ClausePlan.RelationQuery.HasSlots` — there is a slot for each key column.
* `ClausePlan.Comparison.bound?` — the value of the parameter that a column is compared with.
* `ClausePlan.SubQuery.Correlates` — a query is a plan restricted to given key values.

## Main results

* `ClausePlan.bindSlots_range'` — values that are put into the slots behind some parameters are put
  behind them.
* `ClausePlan.RelationQuery.filter_eq_all` — the filter is the conjunction of the equalities.
* `ClausePlan.RelationQuery.generate_correlates` — the query for given key values, on every outcome.
-/

namespace ClausePlan

/-! ## Values in slots -/

/-- The first slot behind some parameters holds a value behind them. -/
lemma bindSlot_length (parameters : List Json) (value : Json) :
    bindSlot parameters parameters.length value = parameters ++ [value] := by
  have hroom : parameters.length + 1 - parameters.length = 1 := by omega
  rw [bindSlot, hroom, List.replicate_one, List.set_append_right _ _ (Nat.le_refl _), Nat.sub_self,
    List.set_cons_zero]

/-- **Values that are put into the slots behind some parameters are put behind them**, in order. -/
lemma bindSlots_range' (parameters values : List Json) :
    bindSlots parameters (List.range' parameters.length values.length) values =
      parameters ++ values := by
  induction values generalizing parameters with
  | nil => exact (List.append_nil parameters).symm
  | cons value values ih =>
    have hrest := ih (parameters ++ [value])
    rw [List.length_append, List.length_singleton, List.append_assoc, List.singleton_append] at hrest
    rw [List.length_cons, List.range'_succ, bindSlots, List.zip_cons_cons, List.foldl_cons]
    show bindSlots (bindSlot parameters parameters.length value) _ _ = _
    rw [bindSlot_length, hrest]

/-! ## The filter -/

namespace RelationQuery

/-- The equalities of the key columns with their slots, in the order of the columns. -/
def correlations (q : RelationQuery) : List Comparison :=
  q.foreignColumns.mapIdx fun i column => ⟨⟨q.collection, column⟩, .slot i⟩

/-- There is a slot for each key column. A list that is longer does not fit into a memory with addresses
of 64 bits. -/
def HasSlots (q : RelationQuery) : Prop :=
  q.foreignColumns.length ≤ UInt64.size

/-- The slots of the filter are counted from zero. -/
lemma slots_eq_range' {q : RelationQuery} (h : q.HasSlots) :
    (Condition.columnsBound q.collection q.foreignColumns {}).1.2 =
      List.range' 0 q.foreignColumns.length :=
  @SlotCounter.fst_take_eq_range' {} _ ((Nat.zero_add _).trans_le h)

/-- The filter is the conjunction of the equalities of the key columns with their slots, none of them
negated. -/
lemma filter_eq_all {q : RelationQuery} (h : q.HasSlots) :
    q.filter = .all (q.correlations.map fun equality => .leaf equality false) := by
  show Condition.all (List.zipWith _ _
    (Condition.columnsBound q.collection q.foreignColumns {}).1.2) = _
  rw [slots_eq_range' h]
  refine congrArg Condition.all (List.ext_getElem ?_ fun i _ _ => ?_)
  · simp [correlations]
  · simp [correlations, Condition.equals]

end RelationQuery

/-- The value of the parameter that a column is compared with, if it is compared with one. -/
def Comparison.bound? (parameters : List Json) (equality : Comparison) : Option Json :=
  match equality.operand with
  | .slot i => parameters[i]?
  | .column _ => none

/-- Among as many key values as there are key columns, each equality finds the one at its position. -/
lemma RelationQuery.map_bound?_correlations {q : RelationQuery} {keys : List Json}
    (h : keys.length = q.foreignColumns.length) :
    q.correlations.map (Comparison.bound? keys) = keys.map some := by
  refine List.ext_getElem (by simp [correlations, h]) fun i _ hi => ?_
  have hkey : i < keys.length := by simpa using hi
  simp [correlations, Comparison.bound?, hkey]

/-! ## The query -/

/-- The query is the plan of the fields, restricted to the rows with the given key values. -/
structure SubQuery.Correlates (sub : SubQuery) (q : RelationQuery) (keys : List Json) (plan : Plan) :
    Prop where
  /-- The store is that of the collection. -/
  store : sub.store = q.store
  /-- The query starts from the collection itself, not from an alias. -/
  source : sub.source = q.collection
  /-- The output columns are those of the plan. -/
  select : sub.select = plan.select
  /-- The joined tables are those of the plan. -/
  joins : sub.joins = plan.joins
  /-- The places of the output columns are those of the plan. -/
  paths : sub.paths = plan.paths
  /-- The deferred queries are those of the plan. -/
  deferred : sub.deferred = plan.deferred
  /-- The filter is the conjunction of the equalities of the key columns with their slots, in order and
  not negated, if there are none or several of them. -/
  filter : q.HasSlots → q.foreignColumns.length ≠ 1 →
    sub.filter = some (.conjunction (q.correlations.map fun equality => .leaf equality false) false)
  /-- A single equality is the filter itself, and it is not negated either. -/
  filter_single : ∀ column, q.foreignColumns = [column] →
    sub.filter = some (.leaf ⟨⟨q.collection, column⟩, .slot 0⟩ false)
  /-- The parameters are the key values, and nothing else. -/
  parameters : q.HasSlots → sub.parameters = keys
  /-- The value that a key column is compared with is the one at its position. -/
  bound : q.HasSlots → q.correlations.map (Comparison.bound? sub.parameters) = keys.map some

namespace RelationQuery

variable {σ : Type} [AliasSource σ]

/-- A plan binds no parameters, so its query has the key values as parameters. -/
lemma correlates_subQuery {q : RelationQuery} {keys : List Json}
    (hcount : keys.length = q.foreignColumns.length) {plan : Plan} (hplan : plan.parameters = []) :
    (q.subQuery keys plan).Correlates q keys plan := by
  have hparameters : q.HasSlots → (q.subQuery keys plan).parameters = keys := by
    intro hslots
    have hbound := bindSlots_range' [] keys
    rw [List.length_nil, hcount, ← slots_eq_range' hslots, List.nil_append] at hbound
    rw [subQuery, hplan, hbound]
  exact {
    store := rfl
    source := rfl
    select := rfl
    joins := rfl
    paths := rfl
    deferred := rfl
    filter := by
      intro hslots hseveral
      have hlength : (q.correlations.map fun equality => Condition.leaf equality false).length ≠ 1 := by
        simpa [correlations] using hseveral
      rw [subQuery, filter_eq_all hslots, Condition.all_of_length_ne hlength]
    filter_single := by
      intro column hcolumn
      have hslots : q.HasSlots := by
        rw [HasSlots, hcolumn, List.length_singleton]
        decide
      rw [subQuery, filter_eq_all hslots, correlations, hcolumn]
      rfl
    parameters := hparameters
    bound := fun hslots => (hparameters hslots).symm ▸ map_bound?_correlations hcount }

/-- **The query for given key values is the plan of the fields with a filter that binds the values.** If
their number is wrong then that is the fault, and nothing else happens. Otherwise the query fails
exactly if planning the fields of the collection does, in the same way, and if planning succeeds it
is the plan restricted to the key values. What the number of slots taken before is, does not matter:
the slots are counted anew, and they suffice for all key columns that a memory can hold.
The number of key values is refused in no other case, unless the source of aliases says so.

**Proof sketch.** Planning neither takes a slot nor binds a parameter, at any depth. So the filter takes
the slots from zero on, and the loop that puts the values into their slots only appends them. -/
theorem generate_correlates (q : RelationQuery) (keys : List Json) (context : Context σ) :
    (keys.length ≠ q.foreignColumns.length →
      exec (q.generate keys) context =
        (.error (.keyValueCount q.foreignColumns.length keys.length), context)) ∧
    (keys.length = q.foreignColumns.length →
      (∀ fault context', exec (q.generate keys) context = (.error fault, context') ↔
        exec (Plan.ofFields q.collection q.fields) context = (.error fault, context')) ∧
      (∀ plan context',
        exec (Plan.ofFields q.collection q.fields) context = (.ok plan, context') →
          ∃ sub, exec (q.generate keys) context = (.ok sub, context') ∧
            sub.Correlates q keys plan)) ∧
    ∀ expected actual,
      (exec (q.generate keys) context).1 = .error (.keyValueCount expected actual) →
        keys.length ≠ q.foreignColumns.length ∨
          AliasSource.Raises context.aliases (.keyValueCount expected actual) := by
  refine ⟨fun hcount => ?_, fun hcount => ⟨fun fault context' => ?_, fun plan context' hplan => ?_⟩,
    fun expected actual hfault => ?_⟩
  · exact exec_generate_error_iff.2 (.inl ⟨hcount, rfl, rfl⟩)
  · rw [exec_generate_error_iff]
    exact ⟨fun h => (h.resolve_left fun h => h.1 hcount).2, fun h => .inr ⟨hcount, h⟩⟩
  · refine ⟨q.subQuery keys plan, ?_, ?_⟩
    · rw [exec_generate, if_pos hcount, hplan]
      rfl
    · obtain ⟨labels, -, rfl, -⟩ := Plan.drawAll_of_ofFields hplan
      exact correlates_subQuery hcount rfl
  · rcases exec_generate_error_iff.1 (Prod.ext hfault rfl) with ⟨hcount, -⟩ | ⟨-, hplan⟩
    · exact .inl hcount
    · -- planning has no fault of this kind, so it comes from the source
      cases Plan.fails_of_ofFields (congrArg Prod.fst hplan) with
      | raised hraises => exact .inr hraises

/-- The deferred query for the days of a shop, which has two key columns. -/
def daysOfShop : RelationQuery :=
  ⟨"pg", "days", [.column "date", .toOne ⟨["manager"], "pg", "users", ["id"]⟩ [.column "name"]],
    ["shop", "year"]⟩

/-- In a context that has given out seven slots, the days of a shop in a year are found through slots
zero and one. -/
theorem generate_correlates_daysOfShop :
    ∃ plan sub context', exec (daysOfShop.generate [.string "north", .ofNat 2024])
        { aliases := BuiltinAliases.sequential {}, slots := ⟨7⟩ } = (.ok sub, context') ∧
      sub.Correlates daysOfShop [.string "north", .ofNat 2024] plan ∧
      sub.filter = some (.conjunction [.leaf ⟨⟨"days", "shop"⟩, .slot 0⟩ false,
        .leaf ⟨⟨"days", "year"⟩, .slot 1⟩ false] false) ∧
      sub.parameters = [.string "north", .ofNat 2024] ∧ context'.slots = ⟨7⟩ ∧
      exec (daysOfShop.generate [.null])
          { aliases := BuiltinAliases.sequential {}, slots := ⟨7⟩ } =
        (.error (.keyValueCount 2 1), { aliases := BuiltinAliases.sequential {}, slots := ⟨7⟩ }) := by
  have hplan : exec (Plan.ofFields daysOfShop.collection daysOfShop.fields)
      { aliases := BuiltinAliases.sequential {}, slots := ⟨7⟩ } = (.ok _, _) := rfl
  obtain ⟨sub, hsub, h⟩ := ((generate_correlates daysOfShop [.string "north", .ofNat 2024]
    { aliases := BuiltinAliases.sequential {}, slots := ⟨7⟩ }).2.1 rfl).2 _ _ hplan
  have hslots : daysOfShop.HasSlots := by
    unfold HasSlots
    decide
  have hfew := (generate_correlates daysOfShop [.null]
    { aliases := BuiltinAliases.sequential {}, slots := ⟨7⟩ }).1 (by decide)
  exact ⟨_, sub, _, hsub, h, h.filter hslots (by decide), h.parameters hslots, rfl, hfew⟩

end RelationQuery

end ClausePlan
