import ClausePlan.Plan.OfFields
/-!
# Queries for to-many relations

Given the key values of a row, a deferred query becomes a query that stands on its own: the plan of
its fields, restricted to the rows whose key columns equal those values.

## Main definitions

* `SubQuery`: a query that stands on its own.
* `RelationQuery.generate`, `Deferred.generate`: the query for given key values.
-/

namespace ClausePlan

/-- A query for a collection that stands on its own. Its parameter slots start from zero, and each
holds the value at the same position of `parameters`. -/
structure SubQuery where
  /-- The store of the collection. -/
  store : String
  /-- The collection. -/
  source : String
  /-- The output columns. -/
  select : List SelectItem
  /-- The joined tables. -/
  joins : List JoinClause
  /-- Which rows are wanted. -/
  filter : Option Condition
  /-- The values of the parameters, by slot. -/
  parameters : List Json
  /-- The place of each output column in the nested result, by its alias. -/
  paths : OrderedMap String Path
  /-- The deferred queries. -/
  deferred : List Deferred

/-- The parameters with a value put into a slot. Slots before it that have no value hold `null`. -/
def bindSlot (parameters : List Json) (slot : Nat) (value : Json) : List Json :=
  (parameters ++ List.replicate (slot + 1 - parameters.length) Json.null).set slot value

/-- The parameters with values put into slots, one after the other. -/
def bindSlots (parameters : List Json) (slots : List Nat) (values : List Json) : List Json :=
  (slots.zip values).foldl (fun parameters (slot, value) => bindSlot parameters slot value)
    parameters

variable {σ : Type} [AliasSource σ]

/-- The query for the rows whose key columns equal the given values. -/
def RelationQuery.generate (q : RelationQuery) (keys : List Json) : PlanM σ SubQuery := do
  unless keys.length = q.foreignColumns.length do
    throw (.keyValueCount q.foreignColumns.length keys.length)
  PlanM.withFreshSlots do
    let plan ← Plan.ofFields q.collection q.fields
    let context ← get
    let ((filter, slots), counter) :=
      Condition.columnsBound q.collection q.foreignColumns context.slots
    set { context with slots := counter }
    return {
      store := q.store
      source := q.collection
      select := plan.select
      joins := plan.joins
      filter := some filter
      parameters := bindSlots plan.parameters slots keys
      paths := plan.paths
      deferred := plan.deferred }

/-- The query for the rows that belong to a row with the given key values. -/
def Deferred.generate (d : Deferred) (keys : List Json) : PlanM σ SubQuery :=
  d.query.generate keys

end ClausePlan
