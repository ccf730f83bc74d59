import ClausePlan.Field.Outline
import ClausePlan.ScalarFunction
/-!
# The JSON form of fields

A field is an object with its tag under `type`. Reading a list of fields checks the outline of all
of them before it decodes the first.

## Main definitions

* `Field.toJson`: the JSON form of a field.
* `Outline.field`: the field of an outline.
* `Field.parse`, `Field.parseList`: the fields of a JSON value.
-/

namespace ClausePlan

/-! ### Encoding -/

namespace Field

mutual

/-- The JSON form of a field. -/
def toJson : Field → Json
  | column name => .object [("field", .string name), ("type", .string "primitive")]
  | computed fn name =>
    .object [("field", .string name), ("fn", fn.toJson), ("type", .string "fn")]
  | toOne relation fields => .object [
      ("fields", .array (listToJson fields)),
      ("meta", relation.toTaggedJson .one),
      ("type", .string Cardinality.one.kind)]
  | toMany relation fields => .object [
      ("fields", .array (listToJson fields)),
      ("meta", relation.toTaggedJson .many),
      ("type", .string Cardinality.many.kind)]

/-- The JSON forms of the fields of a list. -/
def listToJson : List Field → List Json
  | [] => []
  | field :: fields => toJson field :: listToJson fields

end

end Field

/-! ### Decoding -/

namespace Outline

mutual

/-- The field of an outline. The members of a node are decoded in the order of their keys, and only
then are absent ones reported, in the order `fn`, `field` and `fields`, `meta`. -/
def field : Outline → Except DecodeError Field
  | column node => do
    return .column (← Decode.present "field" (← (node.get? "field").mapM Decode.string))
  | computed node => do
    let name ← (node.get? "field").mapM Decode.string
    let fn ← (node.get? "fn").mapM (ScalarFunction.ofJson .belowTag)
    return .computed (← Decode.present "fn" fn) (← Decode.present "field" name)
  | relation cardinality node below => do
    let fields ← match below with
      | some outlines => some <$> fieldList outlines
      -- no list of nodes: the member is absent, or it is no list
      | none => (node.get? "fields").mapM fun value => .error (.unexpected value .sequence)
    let relation ← (node.get? "meta").mapM (Relation.ofTaggedJson .belowTag cardinality)
    let fields ← Decode.present "fields" fields
    return .related cardinality (← Decode.present "meta" relation) fields

/-- The fields of a list of outlines. -/
def fieldList : List Outline → Except DecodeError (List Field)
  | [] => .ok []
  | outline :: outlines => do return (← field outline) :: (← fieldList outlines)

end

end Outline

namespace Field

/-- A fault of decoding as a fault of the request. -/
def decoded {α : Type} : Except DecodeError α → Except Fault α
  | .ok a => .ok a
  | .error cause => .error (.malformed (.undecodable cause))

/-- The field of a JSON value in which relations are nested at most `limit` deep. -/
def parse (limit : Nat) (value : Json) : Except Fault Field := do
  decoded (← Outline.ofJson limit limit value).field

/-- The fields of a JSON list in which relations are nested at most `limit` deep. -/
def parseList (limit : Nat) (value : Json) : Except Fault (List Field) :=
  match value.array? with
  | none => .error (.malformed .notAList)
  | some items => do decoded (Outline.fieldList (← items.mapM (Outline.ofJson limit limit)))

end Field

end ClausePlan
