import ClausePlan.Relation
import ClausePlan.ScalarFunction
/-!
# Requested fields

A request asks for fields of a collection. The fields of related collections hang below relations,
so a request is a list of trees.

## Main definitions

* `Field`: a column, a computed column, or a relation with the fields asked for on its far side.
* `Field.kind`: the tag of a field.
-/

namespace ClausePlan

/-- A field of a collection that a request asks for. -/
inductive Field where
  /-- A plain column. -/
  | column (name : String)
  /-- A function of a column. -/
  | computed (fn : ScalarFunction) (column : String)
  /-- Fields of the one row on the far side of a relation. -/
  | toOne (relation : Relation) (fields : List Field)
  /-- Fields of the many rows on the far side of a relation. -/
  | toMany (relation : Relation) (fields : List Field)
deriving Repr

/-- The tag of fields behind a relation of a cardinality. -/
def Cardinality.kind : Cardinality → String
  | one => "nested-one"
  | many => "nested-many"

namespace Field

/-- The field behind a relation of a cardinality. -/
def related : Cardinality → Relation → List Field → Field
  | .one => toOne
  | .many => toMany

/-- The tag of a field. -/
def kind : Field → String
  | column _ => "primitive"
  | computed _ _ => "fn"
  | toOne _ _ => Cardinality.one.kind
  | toMany _ _ => Cardinality.many.kind

end Field

end ClausePlan
