import ClausePlan.Context
import ClausePlan.Plan.Basic
/-!
# The plan of requested fields

Columns become output columns and to-one relations become joins, in the order in which a walk
through the tree meets them. A relation is joined in under a fresh alias, which then stands for its
collection in all that hangs below it. The fields below a to-many relation are left for its deferred
query.

## Main definitions

* `Plan.ofFields`: the plan of some fields of a collection.
* `Plan.withSlots`: the same in a context of its own.
-/

namespace ClausePlan

variable {σ : Type} [AliasSource σ]

/-- Runs a step for a table, unless that has no name. -/
def PlanM.named {α : Type} (table : String) (step : PlanM σ α) : PlanM σ α :=
  if table.isEmpty then throw (.malformed .unnamedCollection) else step

mutual

/-- The plan of a field of a table. -/
def Field.plan (table : String) : Field → PlanM σ Plan
  | .column name => do
    let label ← PlanM.newAlias name
    return .ofSelect { table, column := name, label } [name]
  | .computed fn name => do
    let label ← PlanM.newAlias (fn.aliasSeed name)
    return .ofSelect { fn := some fn, table, column := name, label } [name]
  | .toOne relation fields => do
    let _ ← MonadExcept.ofExcept (relation.arity table)
    let label ← PlanM.newAlias relation.collection
    let join ← MonadExcept.ofExcept (relation.joinClause table label)
    -- the label stands for the foreign collection from here on
    let nested ← PlanM.deeper relation.collection
      (PlanM.named label (Field.planAll label ∅ fields))
    return .ofJoin join ++ nested.below relation.collection
  | .toMany relation fields => do
    return .ofDeferred (← MonadExcept.ofExcept (Deferred.ofRelation table relation fields))

/-- The plan of some fields of a table, put behind the plan of the fields before them. -/
def Field.planAll (table : String) (before : Plan) : List Field → PlanM σ Plan
  | [] => return before
  | field :: fields => do
    let p ← Field.plan table field
    Field.planAll table (before ++ p) fields

end

namespace Plan

/-- The plan of some fields of a collection, given the name by which the query knows the
collection. -/
def ofFields (collection : String) (fields : List Field) : PlanM σ Plan :=
  PlanM.named collection (Field.planAll collection ∅ fields)

/-- The plan of some fields in a fresh context that starts from the given slots, and those slots as
planning leaves them. -/
def withSlots (settings : Settings) (tokens : Nat → Token) (collection : String)
    (fields : List Field) (slots : SlotCounter) : Except Fault Plan × SlotCounter :=
  let (outcome, context) :=
    (ofFields collection fields).run (Context.ofSettings settings tokens slots)
  (outcome, context.slots)

end Plan

end ClausePlan
