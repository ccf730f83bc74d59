import ClausePlan.Field.Json
import ClausePlan.Proofs.Depth
import Mathlib.Data.List.Forall2
/-!
# Which outline a node has

The outline of a node does not depend on how deep relations may be nested: it is determined by the tags
of the node and of those below it. The limit only decides whether the outline is handed out. Bringing a
node into outline is thus a check of the levels of its relations, and its answer under one limit says
what it is under every other.

## Main definitions

* `ClausePlan.Outline.Of` — a node has an outline, whatever the limit.
* `ClausePlan.Outline.relations`, `ClausePlan.Outline.relationsOfList` — the relations of an outline with
  their levels.

## Main results

* `ClausePlan.Outline.of_ofJson` — what is handed out is the outline of the node.
* `ClausePlan.Outline.Of.ofJson_eq` — under each limit, the outline is handed out unless a relation lies
  on the limit.
* `ClausePlan.Outline.relations_field` — the field of an outline has relations on the same levels.
-/

namespace ClausePlan

/-! ## Sequences of checks -/

section Checks

variable {ε α β : Type}

/-- Two checks in a row succeed iff the first one does, and the second one on its answer. -/
lemma bind_eq_ok_iff {x : Except ε α} {f : α → Except ε β} {b : β} :
    x >>= f = .ok b ↔ ∃ a, x = .ok a ∧ f a = .ok b := by
  cases x with
  | error e => exact ⟨nofun, nofun⟩
  | ok a => exact ⟨fun h => ⟨a, rfl, h⟩, fun ⟨_, ha, h⟩ => Except.ok.inj ha ▸ h⟩

/-- A check of all items of a list succeeds iff it succeeds on each of them. -/
lemma mapM_eq_ok_iff {f : α → Except ε β} : ∀ {xs : List α} {ys : List β},
    xs.mapM f = .ok ys ↔ List.Forall₂ (fun x y => f x = .ok y) xs ys
  | [], ys => by
    rw [List.mapM_nil, List.forall₂_nil_left_iff]
    exact ⟨fun h => (Except.ok.inj h).symm, fun h => h ▸ rfl⟩
  | x :: xs, ys => by
    simp only [List.mapM_cons, bind_eq_ok_iff, mapM_eq_ok_iff, List.forall₂_cons_left_iff]
    constructor
    · rintro ⟨y, hy, ys, hys, h⟩
      exact ⟨y, ys, hy, hys, (Except.ok.inj h).symm⟩
    · rintro ⟨y, ys, hy, hys, rfl⟩
      exact ⟨y, hy, ys, hys, rfl⟩

end Checks

namespace Outline

/-! ## Steps of bringing a node into outline -/

/-- The tag of a node, if it has one. -/
def kind? (node : Json) : Option String :=
  (node.get? "type").bind Json.string?

section Steps

variable {limit : Nat} {nested : Option (Json → Except Fault Outline)} {node : Json}

/-- A node tagged as a column is one. -/
lemma ofNode_column (h : kind? node = some "primitive") :
    ofNode limit nested node = .ok (column node) := by
  rw [kind?] at h
  rw [ofNode, h]
  rfl

/-- A node tagged as a computed column is one. -/
lemma ofNode_computed (h : kind? node = some "fn") :
    ofNode limit nested node = .ok (computed node) := by
  rw [kind?] at h
  rw [ofNode, h]
  rfl

/-- A node tagged as a relation of a cardinality is checked as one. -/
lemma ofNode_relation {c : Cardinality} (h : kind? node = some c.kind) :
    ofNode limit nested node = ofRelation limit nested c node := by
  rw [kind?] at h
  cases c <;> rw [ofNode, h] <;> rfl

/-- A node that is brought into outline has one of the known tags. -/
lemma kind?_of_ofNode {outline : Outline} (h : ofNode limit nested node = .ok outline) :
    kind? node = some "primitive" ∨ kind? node = some "fn" ∨
      ∃ c : Cardinality, kind? node = some c.kind := by
  rw [ofNode] at h
  unfold kind?
  split at h
  case h_1 => cases h
  case h_2 hkind => exact .inl hkind
  case h_3 hkind => exact .inr (.inl hkind)
  case h_4 hkind => exact .inr (.inr ⟨.one, hkind⟩)
  case h_5 hkind => exact .inr (.inr ⟨.many, hkind⟩)
  case h_6 => cases h

/-- Where no relation may stand, a relation is refused. -/
lemma ofRelation_none (c : Cardinality) :
    ofRelation limit none c node = .error (.tooDeep (collectionOf node) limit) := rfl

/-- A relation whose nodes are no list has them unknown. -/
lemma ofRelation_bare {c : Cardinality} {ofNested : Json → Except Fault Outline}
    (hkind : checkRelationKind c node = .ok ()) (hbelow : below? node = none) :
    ofRelation limit (some ofNested) c node = .ok (relation c node none) := by
  simp only [ofRelation, hkind, hbelow]
  rfl

/-- The nodes below a relation are brought into outline one by one. -/
lemma ofRelation_nested {c : Cardinality} {ofNested : Json → Except Fault Outline} {nodes : List Json}
    (hkind : checkRelationKind c node = .ok ()) (hbelow : below? node = some nodes) :
    ofRelation limit (some ofNested) c node =
      nodes.mapM ofNested >>= fun outlines => pure (relation c node (some outlines)) := by
  simp only [ofRelation, hkind, hbelow]
  rfl

/-- A relation node that is brought into outline does not state the wrong kind of relation. -/
lemma checkRelationKind_of_ofRelation {c : Cardinality} {ofNested : Json → Except Fault Outline}
    {outline : Outline} (h : ofRelation limit (some ofNested) c node = .ok outline) :
    checkRelationKind c node = .ok () := by
  obtain ⟨⟨⟩, hkind, -⟩ := bind_eq_ok_iff.mp h
  exact hkind

end Steps

/-! ## The outline of a node -/

/-- `Of node outline`: the node has the outline, whatever the limit on the nesting of relations. -/
inductive Of : Json → Outline → Prop
  /-- A node tagged as a column. -/
  | column {node : Json} : kind? node = some "primitive" → Of node (.column node)
  /-- A node tagged as a computed column. -/
  | computed {node : Json} : kind? node = some "fn" → Of node (.computed node)
  /-- A relation whose nodes are no list. -/
  | bare {node : Json} (c : Cardinality) : kind? node = some c.kind →
    checkRelationKind c node = .ok () → below? node = none → Of node (.relation c node none)
  /-- A relation with a list of nodes, each of which has its outline. -/
  | nested {node : Json} (c : Cardinality) {nodes : List Json} {outlines : List Outline} :
    kind? node = some c.kind → checkRelationKind c node = .ok () → below? node = some nodes →
    List.Forall₂ Of nodes outlines → Of node (.relation c node (some outlines))

/-- A node is brought into its outline if the nodes below a relation are. -/
lemma of_ofNode {limit : Nat} {nested : Option (Json → Except Fault Outline)} {node : Json}
    {outline : Outline}
    (hnested : ∀ ofNested ∈ nested, ∀ below outline, ofNested below = .ok outline → Of below outline)
    (h : ofNode limit nested node = .ok outline) : Of node outline := by
  obtain hkind | hkind | ⟨c, hkind⟩ := kind?_of_ofNode h
  · rw [ofNode_column hkind] at h
    exact Except.ok.inj h ▸ .column hkind
  · rw [ofNode_computed hkind] at h
    exact Except.ok.inj h ▸ .computed hkind
  · rw [ofNode_relation hkind] at h
    cases nested with
    | none => cases h
    | some ofNested =>
      have hrelation := checkRelationKind_of_ofRelation h
      cases hbelow : below? node with
      | none =>
        rw [ofRelation_bare hrelation hbelow] at h
        exact Except.ok.inj h ▸ .bare c hkind hrelation hbelow
      | some nodes =>
        rw [ofRelation_nested hrelation hbelow] at h
        obtain ⟨outlines, hnodes, h⟩ := bind_eq_ok_iff.mp h
        have houtlines : List.Forall₂ Of nodes outlines :=
          (mapM_eq_ok_iff.mp hnodes).imp (hnested ofNested rfl)
        exact Except.ok.inj h ▸ .nested c hkind hrelation hbelow houtlines

/-- **What is handed out is the outline of the node.** -/
lemma of_ofJson {limit room : Nat} {node : Json} {outline : Outline}
    (h : ofJson limit room node = .ok outline) : Of node outline := by
  induction room generalizing node outline with
  | zero =>
    refine of_ofNode ?_ h
    rintro _ ⟨⟩
  | succ room ih =>
    refine of_ofNode ?_ h
    rintro _ ⟨⟩ below outline hbelow
    exact ih hbelow

/-! ## Relations of an outline -/

mutual

/-- The relations of an outline that lies below `level` relations, in preorder. -/
def relations (level : Nat) : Outline → List RelationAt
  | .column _ | .computed _ => []
  | .relation _ node none => [⟨collectionOf node, level⟩]
  | .relation _ node (some outlines) =>
    ⟨collectionOf node, level⟩ :: relationsOfList (level + 1) outlines

/-- The relations of some outlines that lie below `level` relations, one outline after the other. -/
def relationsOfList (level : Nat) : List Outline → List RelationAt
  | [] => []
  | outline :: outlines => relations level outline ++ relationsOfList level outlines

end

/-- Nodes that are each checked for a level are together checked for it. -/
lemma mapM_eq_bounded {limit level : Nat} {ofNode : Json → Except Fault Outline} {nodes : List Json}
    {outlines : List Outline}
    (h : List.Forall₂ (fun node outline =>
      ofNode node = RelationAt.bounded limit (outline.relations level) outline) nodes outlines) :
    nodes.mapM ofNode = RelationAt.bounded limit (relationsOfList level outlines) outlines := by
  induction h with
  | nil => rfl
  | cons hnode _ ih =>
    rw [List.mapM_cons, hnode, ih, relationsOfList, RelationAt.bounded_append _ _ _ _ List.cons]

/-- **Under each limit, the outline of a node is handed out unless a relation lies on the limit.** The
first such relation is refused.

**Proof sketch.** By induction on how deep relations may still be nested below the node, which is the
limit less the level of the node. If that is nothing, then a relation at the node lies on the limit and
is refused. Otherwise it does not lie on the limit, so what counts is what lies below it, one level
further down and with one level less to go. -/
lemma Of.ofJson_eq {limit room level : Nat} {node : Json} {outline : Outline} (h : Of node outline)
    (hlevel : level + room = limit) :
    ofJson limit room node = RelationAt.bounded limit (outline.relations level) outline := by
  induction room generalizing level node outline with
  | zero =>
    obtain rfl : level = limit := hlevel
    cases h with
    | column hkind => exact ofNode_column hkind
    | computed hkind => exact ofNode_computed hkind
    | bare c hkind _ _ =>
      rw [ofJson, ofNode_relation hkind, relations, RelationAt.bounded_cons_limit, ofRelation_none]
    | nested c hkind _ _ _ =>
      rw [ofJson, ofNode_relation hkind, relations, RelationAt.bounded_cons_limit, ofRelation_none]
  | succ room ih =>
    have hne : level ≠ limit := by omega
    cases h with
    | column hkind => exact ofNode_column hkind
    | computed hkind => exact ofNode_computed hkind
    | bare c hkind hrelation hbelow =>
      rw [ofJson, ofNode_relation hkind, ofRelation_bare hrelation hbelow, relations,
        RelationAt.bounded_cons_of_ne hne, RelationAt.bounded_nil]
    | nested c hkind hrelation hbelow hnodes =>
      have hnodes := mapM_eq_bounded (hnodes.imp fun _ _ h => ih h (by omega : level + 1 + room = limit))
      rw [ofJson, ofNode_relation hkind, ofRelation_nested hrelation hbelow, hnodes, relations,
        RelationAt.bounded_cons_of_ne hne, RelationAt.bounded_bind_pure]

/-- Under each limit, the outlines of some nodes are handed out unless a relation lies on the limit. -/
lemma mapM_ofJson_eq (limit : Nat) {nodes : List Json} {outlines : List Outline}
    (h : List.Forall₂ Of nodes outlines) :
    nodes.mapM (ofJson limit limit) =
      RelationAt.bounded limit (relationsOfList 0 outlines) outlines :=
  mapM_eq_bounded (h.imp fun _ _ h => h.ofJson_eq (Nat.zero_add limit))

/-! ## The field of an outline -/

/-- The field of a relation node with a list of nodes: the fields of these nodes come first, and then the
relation. -/
lemma field_relation_some (c : Cardinality) (node : Json) (outlines : List Outline) :
    (relation c node (some outlines)).field = (do
      let fields ← fieldList outlines
      let r ← (node.get? "meta").mapM (Relation.ofTaggedJson .belowTag c)
      return .related c (← Decode.present "meta" r) fields) := by
  rw [field]
  cases fieldList outlines <;> rfl

/-- A relation node whose nodes are no list has no field. -/
lemma field_relation_none (c : Cardinality) (node : Json) (decoded : Field) :
    (relation c node none).field ≠ .ok decoded := by
  rw [field]
  cases node.get? "fields" with
  | some value => exact nofun
  | none =>
    intro h
    obtain ⟨_, hfields, h⟩ := bind_eq_ok_iff.mp h
    obtain ⟨_, -, h⟩ := bind_eq_ok_iff.mp h
    cases hfields
    cases h

mutual

/-- **The field of an outline has relations on the same levels as the outline.** -/
lemma relations_field (level : Nat) : ∀ {outline : Outline} {decoded : Field},
    outline.field = .ok decoded →
      (decoded.relations level).map RelationAt.level =
        (outline.relations level).map RelationAt.level
  | .column node, decoded, h => by
    rw [field] at h
    obtain ⟨_, -, h⟩ := bind_eq_ok_iff.mp h
    obtain ⟨name, -, h⟩ := bind_eq_ok_iff.mp h
    cases h
    rfl
  | .computed node, decoded, h => by
    rw [field] at h
    obtain ⟨_, -, h⟩ := bind_eq_ok_iff.mp h
    obtain ⟨_, -, h⟩ := bind_eq_ok_iff.mp h
    obtain ⟨fn, -, h⟩ := bind_eq_ok_iff.mp h
    obtain ⟨name, -, h⟩ := bind_eq_ok_iff.mp h
    cases h
    rfl
  | .relation c node none, decoded, h => absurd h (field_relation_none c node decoded)
  | .relation c node (some outlines), decoded, h => by
    rw [field_relation_some] at h
    obtain ⟨fields, hfields, h⟩ := bind_eq_ok_iff.mp h
    obtain ⟨_, -, h⟩ := bind_eq_ok_iff.mp h
    obtain ⟨r, -, h⟩ := bind_eq_ok_iff.mp h
    cases h
    rw [Field.relations_related, relations, List.map_cons, List.map_cons,
      relationsOfList_fieldList (level + 1) hfields]

/-- The fields of some outlines have relations on the same levels as the outlines. -/
lemma relationsOfList_fieldList (level : Nat) : ∀ {outlines : List Outline} {decoded : List Field},
    fieldList outlines = .ok decoded →
      (Field.relationsOfList level decoded).map RelationAt.level =
        (relationsOfList level outlines).map RelationAt.level
  | [], decoded, h => by
    cases h
    rfl
  | outline :: outlines, decoded, h => by
    rw [fieldList] at h
    obtain ⟨field, hfield, h⟩ := bind_eq_ok_iff.mp h
    obtain ⟨fields, hfields, h⟩ := bind_eq_ok_iff.mp h
    cases h
    rw [Field.relationsOfList, relationsOfList, List.map_append, List.map_append,
      relations_field level hfield, relationsOfList_fieldList level hfields]

end

end Outline

/-! ## Reading a list of nodes -/

namespace Field

/-- A list of fields is read from a list of nodes, via the outlines of the nodes. -/
lemma exists_of_parseList {limit : Nat} {value : Json} {fields : List Field}
    (h : parseList limit value = .ok fields) :
    ∃ nodes outlines, value = .array nodes ∧ List.Forall₂ Outline.Of nodes outlines ∧
      Outline.fieldList outlines = .ok fields := by
  unfold parseList at h
  cases value with
  | array nodes =>
    obtain ⟨outlines, hnodes, h⟩ := bind_eq_ok_iff.mp h
    have hfields : Outline.fieldList outlines = .ok fields := by
      cases hlist : Outline.fieldList outlines with
      | error e => rw [hlist] at h; cases h
      | ok decoded => rw [hlist] at h; cases h; rfl
    exact ⟨nodes, outlines, rfl,
      (mapM_eq_ok_iff.mp hnodes).imp fun _ _ => Outline.of_ofJson, hfields⟩
  | null | bool _ | number _ | string _ | object _ => cases h

/-- **Nodes whose outlines decode are read under each limit, unless a relation lies on the limit.** -/
lemma parseList_eq_bounded (limit : Nat) {nodes : List Json} {outlines : List Outline}
    {fields : List Field} (hnodes : List.Forall₂ Outline.Of nodes outlines)
    (hfields : Outline.fieldList outlines = .ok fields) :
    parseList limit (.array nodes) =
      RelationAt.bounded limit (Outline.relationsOfList 0 outlines) fields := by
  show (nodes.mapM (Outline.ofJson limit limit) >>= fun outlines =>
    decoded (Outline.fieldList outlines)) = _
  rw [Outline.mapM_ofJson_eq limit hnodes]
  unfold RelationAt.bounded
  cases (Outline.relationsOfList 0 outlines).find? (·.level = limit) with
  | none =>
    show decoded (Outline.fieldList outlines) = _
    rw [hfields]
    rfl
  | some r => rfl

end Field

end ClausePlan
