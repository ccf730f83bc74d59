import ClausePlan.Plan.SubQuery
import ClausePlan.ScalarFunction
/-!
# The JSON form of plans

All objects have their members in the order of the keys.

## Main definitions

* `Condition.toJson`, `SelectItem.toJson`, `JoinClause.toJson`: the JSON forms of clauses.
* `Plan.clausesToJson`, `SubQuery.clausesToJson`: the JSON forms of the clauses of plans and queries.
* `Plan.toJson`, `SubQuery.toJson`: the JSON forms of plans and queries.
-/

namespace ClausePlan

/-- The JSON form of a column. -/
def Column.toJson (c : Column) : Json :=
  .object [("column", .string c.name), ("table", .string c.table), ("type", .string "primitive")]

/-- The JSON form of an operand. -/
def Operand.toJson : Operand → Json
  | column c => c.toJson
  | slot index => .object [("parameterIndex", .ofNat index), ("type", .string "value")]

/-- The JSON form of an equality. -/
def Comparison.toJson (c : Comparison) : Json :=
  .object [
    ("compareTo", c.operand.toJson),
    ("operation", .string "eq"),
    ("target", c.target.toJson),
    ("type", .string "condition-field")]

namespace Condition

mutual

/-- The JSON form of a condition. -/
def toJson : Condition → Json
  | leaf comparison negated => .object [
      ("condition", comparison.toJson),
      ("negate", .bool negated),
      ("type", .string "condition")]
  | conjunction conditions negated => .object [
      ("childNodes", .array (listToJson conditions)),
      ("negate", .bool negated),
      ("operator", .string "and"),
      ("type", .string "logical")]

/-- The JSON forms of some conditions. -/
def listToJson : List Condition → List Json
  | [] => []
  | condition :: conditions => toJson condition :: listToJson conditions

end

end Condition

/-- The JSON form of an output column. -/
def SelectItem.toJson (item : SelectItem) : Json :=
  match item.fn with
  | none => .object [
      ("as", .string item.label),
      ("column", .string item.column),
      ("table", .string item.table),
      ("type", .string "primitive")]
  | some fn => .object [
      ("as", .string item.label),
      ("column", .string item.column),
      ("fn", fn.toJson),
      ("table", .string item.table),
      ("type", .string "fn")]

/-- The JSON form of a join. -/
def JoinClause.toJson (join : JoinClause) : Json :=
  .object [
    ("as", .string join.label),
    ("on", join.on.toJson),
    ("table", .string join.table),
    ("type", .string "join")]

/-- The JSON form of a deferred query, which shows the key columns and the name only. -/
def Deferred.toJson (d : Deferred) : Json :=
  .object [
    ("alias", .string d.name),
    ("foreignJoinFields", .ofStrings d.foreignColumns),
    ("localJoinFields", .ofStrings d.localColumns)]

/-- The JSON form of the places of output columns. -/
def pathsToJson (paths : OrderedMap String Path) : Json :=
  .ofMembers (paths.mapValues Json.ofStrings).entries

/-- The JSON form of the clauses of a plan. -/
def Plan.clausesToJson (p : Plan) : Json :=
  .object [
    ("joins", .array (p.joins.map JoinClause.toJson)),
    ("select", .array (p.select.map SelectItem.toJson))]

/-- The JSON form of a plan. -/
def Plan.toJson (p : Plan) : Json :=
  .object [
    ("aliasMapping", pathsToJson p.paths),
    ("clauses", p.clausesToJson),
    ("nestedManys", .array (p.deferred.map Deferred.toJson)),
    ("parameters", .array p.parameters)]

/-- The JSON form of the clauses of a query. -/
def SubQuery.clausesToJson (q : SubQuery) : Json :=
  .object [
    ("from", .string q.source),
    ("joins", .array (q.joins.map JoinClause.toJson)),
    ("select", .array (q.select.map SelectItem.toJson)),
    ("where", (q.filter.map Condition.toJson).getD .null)]

/-- The JSON form of a query. -/
def SubQuery.toJson (q : SubQuery) : Json :=
  .object [
    ("aliasMapping", pathsToJson q.paths),
    ("clauses", q.clausesToJson),
    ("nestedManys", .array (q.deferred.map Deferred.toJson)),
    ("parameters", .array q.parameters),
    ("store", .string q.store)]

end ClausePlan
