import ClausePlan.Proofs.Conditions
import ClausePlan.Proofs.PlanOfStops
import Mathlib.Data.List.Perm.Basic
/-!
# The passes of a request

The walk through a request does not enter its to-many relations. The fields below such a relation are
left for a walk of their own, and so on down the tree. Each node of the tree is met by one of these
walks: the one below the innermost to-many relation around the node.

## Main definitions

* `ClausePlan.Branch` — a to-many relation with the fields below it.
* `ClausePlan.Field.nodes`, `ClausePlan.Field.nodesOfList` — all nodes of a tree, or of some.
* `ClausePlan.Field.met`, `ClausePlan.Field.branchesMet` — the nodes, and the branches, that one walk
  meets.
* `ClausePlan.Field.branches` — all branches of some trees.

## Main results

* `ClausePlan.Field.nodesOfList_eq_flatMap` — all nodes are those met, each branch followed by the nodes
  below it.
* `ClausePlan.Field.nodesOfList_perm` — all nodes are those met, and those below the branches met.
-/

namespace ClausePlan

/-- A to-many relation of a request, with the fields that are asked for on its far side. -/
structure Branch where
  /-- The relation. -/
  relation : Relation
  /-- The fields. -/
  fields : List Field

/-- The deferred query of a branch. -/
def Branch.deferral (b : Branch) : Deferred :=
  b.relation.deferral b.fields

namespace Field

/-! ## Nodes -/

/-- The link of a to-one relation. -/
def link? : Field → Option Link
  | .toOne r _ => some r.link
  | .column _ | .computed _ _ | .toMany _ _ => none

/-- The branch of a to-many relation. -/
def branch? : Field → Option Branch
  | .toMany r fields => some ⟨r, fields⟩
  | .column _ | .computed _ _ | .toOne _ _ => none

mutual

/-- The nodes of the tree of a field, in preorder. -/
def nodes : Field → List Field
  | .column name => [.column name]
  | .computed fn name => [.computed fn name]
  | .toOne r fields => .toOne r fields :: nodesOfList fields
  | .toMany r fields => .toMany r fields :: nodesOfList fields

/-- The nodes of the trees of some fields, one tree after the other. -/
def nodesOfList : List Field → List Field
  | [] => []
  | field :: fields => nodes field ++ nodesOfList fields

end

/-- The branches of the trees of some fields, at any depth. -/
def branches (fields : List Field) : List Branch :=
  (nodesOfList fields).filterMap branch?

/-- The nodes that the walk through some fields meets, in preorder. None of them lies below a to-many
relation. -/
def met (fields : List Field) : List Field :=
  (stops fields).map Stop.field

/-- The branches that the walk through some fields meets. -/
def branchesMet (fields : List Field) : List Branch :=
  (met fields).filterMap branch?

/-! ## Nodes of a tree and nodes of a walk -/

/-- The nodes that are left for another walk when a node is met. -/
def nodesLeft (field : Field) : List Field :=
  field.branch?.elim [] fun b => nodesOfList b.fields

mutual

/-- The nodes of a tree are those that the walk meets, each with the nodes left behind it. -/
private lemma nodes_eq_flatMap_walk (parent : Option Nat) (number : Nat) : ∀ field : Field,
    nodes field = (walk parent number field).flatMap fun s => s.field :: s.field.nodesLeft
  | .column _ => rfl
  | .computed _ _ => rfl
  | .toOne r fields => by
    have h := nodesOfList_eq_flatMap_walkAll (some number) (number + 1) fields
    rw [nodes, walk, List.flatMap_cons, List.flatMap_map, h]
    rfl
  | .toMany r fields => by
    rw [nodes, walk, List.flatMap_singleton]
    rfl

/-- The nodes of some trees are those that the walk meets, each with the nodes left behind it. -/
private lemma nodesOfList_eq_flatMap_walkAll (parent : Option Nat) (number : Nat) :
    ∀ fields : List Field, nodesOfList fields =
      (walkAll parent number fields).flatMap fun s => s.field :: s.field.nodesLeft
  | [] => rfl
  | field :: fields => by
    rw [nodesOfList, walkAll, List.flatMap_append, nodes_eq_flatMap_walk parent number field,
      nodesOfList_eq_flatMap_walkAll parent _ fields]

end

/-- **All nodes are those that the walk meets**, each branch followed by the nodes below it. -/
lemma nodesOfList_eq_flatMap (fields : List Field) :
    nodesOfList fields = (met fields).flatMap fun field => field :: field.nodesLeft := by
  rw [met, List.flatMap_map]
  exact nodesOfList_eq_flatMap_walkAll none 0 fields

/-- The nodes left when some nodes are met are those below the branches among them. -/
private lemma flatMap_nodesLeft (fields : List Field) :
    fields.flatMap nodesLeft = (fields.filterMap branch?).flatMap fun b => nodesOfList b.fields := by
  induction fields with
  | nil => rfl
  | cons field fields ih =>
    rw [List.flatMap_cons, ih, List.filterMap_cons, nodesLeft]
    cases field.branch? <;> rfl

/-- **Each node is met or lies below a branch that is met**, and not both. -/
lemma nodesOfList_perm (fields : List Field) :
    (nodesOfList fields).Perm
      (met fields ++ (branchesMet fields).flatMap fun b => nodesOfList b.fields) := by
  have h := List.map_append_flatMap_perm (met fields) id nodesLeft
  rw [List.map_id, flatMap_nodesLeft] at h
  rw [nodesOfList_eq_flatMap]
  exact h.symm

/-- The branches that are met, and the nodes below them, are no more than all nodes. -/
lemma length_branchesMet_le (fields : List Field) :
    ((branchesMet fields).flatMap fun b => nodesOfList b.fields).length +
      (branchesMet fields).length ≤ (nodesOfList fields).length := by
  have hmet : (branchesMet fields).length ≤ (met fields).length := List.length_filterMap_le _ _
  have hnodes := (nodesOfList_perm fields).length_eq
  rw [List.length_append] at hnodes
  omega

end Field

end ClausePlan
