import ClausePlan.Condition
import ClausePlan.Relation
import ClausePlan.ScalarFunction
/-!
# Clauses of a query

A query selects output columns and joins tables in. Rows of two tables belong together when they agree
in every pair of columns of a key; the rows that belong to a given row are those whose key columns equal
given values.

## Main definitions

* `SelectItem`: one output column.
* `JoinClause`: a table that is joined in under an alias.
* `Condition.columnsEqual`: two tables agree in the columns of a key.
* `Condition.columnsBound`: the columns of a key equal parameters.
* `Relation.joinClause`: the join that follows a relation.
-/

namespace ClausePlan

/-- One output column of a select list. -/
structure SelectItem where
  /-- The function applied to the column, if it is a computed one. -/
  fn : Option ScalarFunction := none
  /-- The table of the column, or the alias under which that table was joined in. -/
  table : String
  /-- The name of the column. -/
  column : String
  /-- The alias of the column in the result. -/
  label : String
deriving DecidableEq, Repr

/-- A table that is joined in under an alias. -/
structure JoinClause where
  /-- The table. -/
  table : String
  /-- Which of its rows go with which rows of the other tables. -/
  on : Condition
  /-- The alias of the table in the query. -/
  label : String
deriving Repr

/-! ### Conditions on keys -/

namespace Condition

/-- The condition that the columns of the local table equal those of the foreign table, pair by
pair. -/
def columnsEqual (localTable : String) (localColumns : List String) (foreignTable : String)
    (foreignColumns : List String) : Except Fault Condition :=
  if localColumns.length ≠ foreignColumns.length then
    .error (.keyLengths localTable localColumns.length foreignColumns.length)
  else
    .ok <| all <| List.zipWith
      (fun l f => equals ⟨localTable, l⟩ (.column ⟨foreignTable, f⟩)) localColumns foreignColumns

/-- The condition that each column of a table equals the parameter in a slot of its own, with those
slots in the order of the columns. -/
def columnsBound (table : String) (columns : List String) (slots : SlotCounter) :
    (Condition × List Nat) × SlotCounter :=
  let (indices, slots) := slots.take columns.length
  let condition := all (List.zipWith (fun c i => equals ⟨table, c⟩ (.slot i)) columns indices)
  ((condition, indices), slots)

end Condition

/-- The join that leads from a table along a relation to the foreign collection, which gets the
alias `label`. -/
def Relation.joinClause (r : Relation) (source label : String) : Except Fault JoinClause := do
  let _ ← r.arity source
  let on ← Condition.columnsEqual source r.localColumns label r.foreignColumns
  return { table := r.collection, on, label }

end ClausePlan
