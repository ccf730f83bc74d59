import ClausePlan.Decode.Basic
import ClausePlan.Fault
/-!
# Relations between collections

A relation leads from one collection to another. Its key pairs columns of the two sides by position.

In JSON a relation is a record of its local and its foreign side. Under a field it is the member `join`
of a tagged record, whose tag states the cardinality: `m2o` or `o2m`.

## Main definitions

* `Relation`: the two sides of a key, and where the foreign side lives.
* `Cardinality`: whether a row has one row or many on the foreign side.
* `Relation.arity`: the number of column pairs of a sound key.
* `Relation.toJson`, `Relation.toTaggedJson`: the JSON forms of a relation.
* `Relation.ofJson`, `Relation.ofTaggedJson`: the relations of such JSON forms.
-/

namespace ClausePlan

/-- How many foreign rows belong to a row. -/
inductive Cardinality where
  /-- The row holds the key of exactly one foreign row. -/
  | one
  /-- Many foreign rows point back to the row. -/
  | many
deriving DecidableEq, Repr

/-- A way from a collection to another. The columns at equal positions of the two lists pair up. -/
structure Relation where
  /-- The key columns of the collection at hand. -/
  localColumns : List String
  /-- The store of the foreign collection. -/
  store : String
  /-- The foreign collection. -/
  collection : String
  /-- The key columns of the foreign collection. -/
  foreignColumns : List String
deriving DecidableEq, Repr

namespace Relation

/-- The number of column pairs of the key, if it has any and both sides have equally many. `source`
names the collection at hand in a fault. -/
def arity (r : Relation) (source : String) : Except Fault Nat :=
  let localCount := r.localColumns.length
  let foreignCount := r.foreignColumns.length
  if localCount = 0 ∧ foreignCount = 0 then .error (.malformed (.keyless source r.collection))
  else if localCount ≠ foreignCount then .error (.keyLengths source localCount foreignCount)
  else .ok localCount

end Relation

/-- The tag of relations of a cardinality. -/
def Cardinality.tag : Cardinality → String
  | one => "m2o"
  | many => "o2m"

namespace Relation

/-! ### Encoding -/

/-- The JSON form of a relation. -/
def toJson (r : Relation) : Json :=
  .object [
    ("foreign", .object [
      ("collection", .string r.collection),
      ("fields", .ofStrings r.foreignColumns),
      ("store", .string r.store)]),
    ("local", .object [("fields", .ofStrings r.localColumns)])]

/-- The JSON form of a relation with its cardinality. -/
def toTaggedJson (cardinality : Cardinality) (r : Relation) : Json :=
  .object [("join", r.toJson), ("type", .string cardinality.tag)]

/-! ### Decoding -/

/-- Decodes a list of columns. -/
def columns : Decoder (List String) :=
  Decode.list Decode.string

/-- Decodes the local side: its columns. -/
def localSide (nesting : Nesting) : Decoder (List String) := fun value => do
  Decode.single nesting "struct LocalJoin" "fields" columns (← Decode.record "LocalJoin" value)

/-- Decodes the foreign side: store, collection and columns. -/
def foreignSide (nesting : Nesting) : Decoder (String × String × List String) := fun value => do
  match ← Decode.record "ForeignJoin" value with
  | .keyed members =>
    let collection ← (members.lookup "collection").mapM Decode.string
    let fields ← (members.lookup "fields").mapM columns
    let store ← (members.lookup "store").mapM Decode.string
    return (← Decode.present "store" store, ← Decode.present "collection" collection,
      ← Decode.present "fields" fields)
  | .listed items =>
    let store ← Decode.item items "struct ForeignJoin" 3 0 Decode.string
    let collection ← Decode.item items "struct ForeignJoin" 3 1 Decode.string
    let fields ← Decode.item items "struct ForeignJoin" 3 2 columns
    Decode.noMoreThan nesting items 3
    return (store, collection, fields)

/-- The relation with the given sides. -/
def ofSides (localColumns : List String) (foreign : String × String × List String) : Relation :=
  ⟨localColumns, foreign.1, foreign.2.1, foreign.2.2⟩

/-- Decodes a relation. -/
def ofJson (nesting : Nesting) : Decoder Relation := fun value => do
  match ← Decode.record "JoinDescriptor" value with
  | .keyed members =>
    let foreign ← (members.lookup "foreign").mapM (foreignSide nesting)
    let localColumns ← (members.lookup "local").mapM (localSide nesting)
    return ofSides (← Decode.present "local" localColumns) (← Decode.present "foreign" foreign)
  | .listed items =>
    let localColumns ← Decode.item items "struct JoinDescriptor" 2 0 (localSide nesting)
    let foreign ← Decode.item items "struct JoinDescriptor" 2 1 (foreignSide nesting)
    Decode.noMoreThan nesting items 2
    return ofSides localColumns foreign

/-- Decodes a relation with its cardinality, which has to be the given one. -/
def ofTaggedJson (nesting : Nesting) (cardinality : Cardinality) : Decoder Relation := fun value => do
  let (record, variant) := match cardinality with
    | .one => ("NestedOneMeta", "struct variant NestedOneMeta::M2o")
    | .many => ("NestedManyMeta", "struct variant NestedManyMeta::O2m")
  let ((), members) ← Decode.tagged nesting record [(cardinality.tag, ())] value
  Decode.single .belowTag variant "join" (ofJson .belowTag) members

end Relation

end ClausePlan
