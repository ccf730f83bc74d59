import ClausePlan.Field.Basic
import ClausePlan.Relation
/-!
# The outline of a request

Before any member of a node is decoded, the tags of all nodes are checked: a whole list of nodes is
brought into outline first. An outline knows which nodes are relations and what hangs below them;
all other members are still JSON.

## Main definitions

* `Outline`: a tree of nodes with known tags.
* `Outline.ofJson`: the outline of a node, unless a tag is amiss or relations are nested too deeply.
-/

namespace ClausePlan

/-- A node with a known tag. -/
inductive Outline where
  /-- A column. -/
  | column (node : Json)
  /-- A computed column. -/
  | computed (node : Json)
  /-- A relation. The nodes below it are known if its member `fields` is a list. -/
  | relation (cardinality : Cardinality) (node : Json) (below : Option (List Outline))

namespace Outline

/-- The collection that a relation node leads to, or no name if the node does not say. -/
def collectionOf (node : Json) : String :=
  let collection? := do
    let relation ← (← node.get? "meta").get? "join"
    (← (← relation.get? "foreign").get? "collection").string?
  collection?.getD ""

/-- The kind of relation that a node states, if it states one. -/
def relationKind? (node : Json) : Option String := do
  (← (← node.get? "meta").get? "type").string?

/-- Refuses a relation node that states another kind than its own cardinality demands. -/
def checkRelationKind (cardinality : Cardinality) (node : Json) : Except Fault Unit :=
  match relationKind? node with
  | some kind =>
    if kind = cardinality.tag then .ok () else .error (.unknownRelationKind cardinality.kind kind)
  | none => .ok ()

/-- The nodes below a relation node, if they are a list. -/
def below? (node : Json) : Option (List Json) := do
  (← node.get? "fields").array?

/-- The outline of a relation node, given how the nodes below it are brought into outline; `none`
where no relation may stand. -/
def ofRelation (limit : Nat) (nested : Option (Json → Except Fault Outline))
    (cardinality : Cardinality) (node : Json) : Except Fault Outline :=
  match nested with
  | none => .error (.tooDeep (collectionOf node) limit)
  | some ofNested => do
    checkRelationKind cardinality node
    match below? node with
    | some nodes => return relation cardinality node (some (← nodes.mapM ofNested))
    | none => return relation cardinality node none

/-- The outline of a node, given how the nodes below a relation are brought into outline. -/
def ofNode (limit : Nat) (nested : Option (Json → Except Fault Outline)) (node : Json) :
    Except Fault Outline :=
  match (node.get? "type").bind Json.string? with
  | none => .error (.malformed (.untagged node))
  | some "primitive" => .ok (column node)
  | some "fn" => .ok (computed node)
  | some "nested-one" => ofRelation limit nested .one node
  | some "nested-many" => ofRelation limit nested .many node
  | some kind => .error (.unknownKind kind)

/-- The outline of a node below which relations may be nested `room` deep. A fault of depth names
`limit` as the bound. -/
def ofJson (limit : Nat) : (room : Nat) → Json → Except Fault Outline
  | 0 => ofNode limit none
  | room + 1 => ofNode limit (some (ofJson limit room))

end Outline

end ClausePlan
