import ClausePlan.Clause
import ClausePlan.Field.Basic
import ClausePlan.OrderedMap
/-!
# Plans

A plan holds all that the fields of one collection need: output columns, joins, parameters, the
place of each output column in the nested result, and queries that are deferred until key values
are known. Plans of several fields are put together one behind the other.

## Main definitions

* `RelationQuery`, `Deferred`: a query for the far side of a to-many relation.
* `Plan`: a plan, with `++` to put plans together.
* `Plan.below`: a plan as part of the plan of an enclosing collection.
* `Plan.push`, `Plan.merge`: a plan with an output column more, or with the plan of a relation taken in.
-/

namespace ClausePlan

/-! ### Deferred queries -/

/-- A query for the rows of a collection that belong to a row elsewhere. -/
structure RelationQuery where
  /-- The store of the collection. -/
  store : String
  /-- The collection. -/
  collection : String
  /-- The fields that are asked for. -/
  fields : List Field
  /-- The columns that have to equal the key values of the row. -/
  foreignColumns : List String
deriving Repr

/-- A query that waits for the key values of a row. -/
structure Deferred where
  /-- The query. -/
  query : RelationQuery
  /-- The columns of the row that hold the key values. -/
  localColumns : List String
  /-- The columns of the foreign collection that equal them. -/
  foreignColumns : List String
  /-- The name of the foreign collection. -/
  name : String
deriving Repr

/-- Defers the query for the far side of a to-many relation of the collection `source`, if the key
of the relation is sound. The fields are kept as they are. -/
def Deferred.ofRelation (source : String) (r : Relation) (fields : List Field) :
    Except Fault Deferred := do
  let _ ← r.arity source
  return {
    query := ⟨r.store, r.collection, fields, r.foreignColumns⟩
    localColumns := r.localColumns
    foreignColumns := r.foreignColumns
    name := r.collection }

/-! ### Plans -/

/-- The names that lead to a value in the nested result, from the outside in. -/
abbrev Path := List String

/-- What the fields of a collection need. -/
structure Plan where
  /-- The output columns. -/
  select : List SelectItem := []
  /-- The joined tables. A table comes after the one that its condition refers to. -/
  joins : List JoinClause := []
  /-- The values of the parameters, by slot. -/
  parameters : List Json := []
  /-- The place of each output column in the nested result, by its alias. -/
  paths : OrderedMap String Path := ∅
  /-- The deferred queries. -/
  deferred : List Deferred := []

namespace Plan

instance : EmptyCollection Plan where
  emptyCollection := {}

/-- Puts a plan behind another one. If both use one alias, the place that the second one gives it
holds. -/
protected def append (p q : Plan) : Plan where
  select := p.select ++ q.select
  joins := p.joins ++ q.joins
  parameters := p.parameters ++ q.parameters
  paths := p.paths.insertAll q.paths
  deferred := p.deferred ++ q.deferred

instance : Append Plan where
  append := Plan.append

/-- The plan of a single output column, whose value has the given place. -/
def ofSelect (item : SelectItem) (path : Path) : Plan :=
  { select := [item], paths := (∅ : OrderedMap String Path).insert item.label path }

/-- The plan of a single join. -/
def ofJoin (join : JoinClause) : Plan :=
  { joins := [join] }

/-- The plan of a single deferred query. -/
def ofDeferred (query : Deferred) : Plan :=
  { deferred := [query] }

/-- The plan with the place of every output column moved below a collection. -/
def below (collection : String) (p : Plan) : Plan :=
  { p with paths := p.paths.mapValues (collection :: ·) }

/-- The plan with an output column more, whose value has the given place. -/
def push (p : Plan) (item : SelectItem) (path : Path) : Plan :=
  { p with select := p.select ++ [item], paths := p.paths.insert item.label path }

/-- The plan with the plan of a relation to a collection taken in. All parts go to the end, and the
places of its output columns are moved below the collection, one after the other. -/
def merge (p child : Plan) (collection : String) : Plan where
  select := p.select ++ child.select
  joins := p.joins ++ child.joins
  parameters := p.parameters ++ child.parameters
  paths := child.paths.entries.foldl (fun paths entry => paths.insert entry.1 (collection :: entry.2))
    p.paths
  deferred := p.deferred ++ child.deferred

/-- The place of the output column with an alias. -/
def path? (p : Plan) (label : String) : Option Path :=
  p.paths.get? label

/-- Whether nothing is selected, joined or deferred. -/
def isEmpty (p : Plan) : Bool :=
  p.select.isEmpty && p.joins.isEmpty && p.deferred.isEmpty

end Plan

end ClausePlan
