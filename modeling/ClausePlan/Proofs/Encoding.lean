import ClausePlan.Proofs.Outlining
/-!
# Reading what was written

The JSON form of a request is read back as the request, as long as it respects the limit on the nesting
of relations. If it does not, the first relation whose level is the limit is refused, and nothing else
can be amiss.

## Main definitions

* `ClausePlan.Field.outline`, `ClausePlan.Field.outlines` — the outlines of the JSON forms of fields.

## Main results

* `ClausePlan.ScalarFunction.ofJson_toJson`, `ClausePlan.Relation.ofTaggedJson_toTaggedJson` — functions
  and relations are read back.
* `ClausePlan.Field.of_outline`, `ClausePlan.Field.field_outline` — the JSON form of a field has its
  outline, which decodes to the field.
* `ClausePlan.Field.parseList_listToJson` — a request is read back exactly under the limits that it
  respects.
-/

namespace ClausePlan

/-! ## Members -/

section Members

variable {α : Type} {decoder : Decoder α} {value : Json} {a : α}

/-- A member that is there and decodes. -/
lemma mapM_some_eq_ok (h : decoder value = .ok a) : (some value).mapM decoder = .ok (some a) := by
  show some <$> decoder value = _
  rw [h]
  rfl

/-- A record with its only member decodes as the member does. -/
lemma Decode.single_keyed {members : List (String × Json)} {key : String} (nesting : Nesting)
    (owner : String) (hkey : members.lookup key = some value) (h : decoder value = .ok a) :
    Decode.single nesting owner key decoder (.keyed members) = .ok a := by
  simp only [Decode.single, hkey, mapM_some_eq_ok h]
  rfl

end Members

/-! ## Functions and relations -/

/-- A function is read back. -/
lemma ScalarFunction.ofJson_toJson (nesting : Nesting) (fn : ScalarFunction) :
    ofJson nesting fn.toJson = .ok fn := by
  cases fn with
  | extract part => cases part <;> rfl
  | measure m => cases m; rfl

namespace Relation

/-- A list of columns is read back. -/
lemma columns_ofStrings (texts : List String) : columns (.ofStrings texts) = .ok texts :=
  mapM_eq_ok_iff.mpr (List.forall₂_map_left_iff.mpr (List.forall₂_same.mpr fun _ _ => rfl))

/-- The local side of a relation is read back. -/
lemma localSide_toJson (nesting : Nesting) (r : Relation) :
    localSide nesting (.object [("fields", .ofStrings r.localColumns)]) = .ok r.localColumns :=
  Decode.single_keyed nesting "struct LocalJoin" rfl (columns_ofStrings r.localColumns)

/-- The foreign side of a relation is read back. -/
lemma foreignSide_toJson (nesting : Nesting) (r : Relation) :
    foreignSide nesting (.object [
      ("collection", .string r.collection),
      ("fields", .ofStrings r.foreignColumns),
      ("store", .string r.store)]) = .ok (r.store, r.collection, r.foreignColumns) := by
  have hfields := mapM_some_eq_ok (columns_ofStrings r.foreignColumns)
  show (do
    let collection ← (some (Json.string r.collection)).mapM Decode.string
    let fields ← (some (Json.ofStrings r.foreignColumns)).mapM columns
    let store ← (some (Json.string r.store)).mapM Decode.string
    return (← Decode.present "store" store, ← Decode.present "collection" collection,
      ← Decode.present "fields" fields)) = _
  rw [hfields]
  rfl

/-- A relation is read back. -/
lemma ofJson_toJson (nesting : Nesting) (r : Relation) : ofJson nesting r.toJson = .ok r := by
  have hlocal := mapM_some_eq_ok (localSide_toJson nesting r)
  have hforeign := mapM_some_eq_ok (foreignSide_toJson nesting r)
  show (do
    let foreign ← (some _).mapM (foreignSide nesting)
    let localColumns ← (some _).mapM (localSide nesting)
    return ofSides (← Decode.present "local" localColumns) (← Decode.present "foreign" foreign)) = _
  rw [hforeign, hlocal]
  rfl

/-- A relation with its cardinality is read back. -/
lemma ofTaggedJson_toTaggedJson (nesting : Nesting) (c : Cardinality) (r : Relation) :
    ofTaggedJson nesting c (r.toTaggedJson c) = .ok r := by
  have hjoin := ofJson_toJson .belowTag r
  cases c with
  | one => exact Decode.single_keyed .belowTag "struct variant NestedOneMeta::M2o" rfl hjoin
  | many => exact Decode.single_keyed .belowTag "struct variant NestedManyMeta::O2m" rfl hjoin

end Relation

/-! ## Fields -/

namespace Field

mutual

/-- The outline of the JSON form of a field. -/
def outline : Field → Outline
  | .column name => .column (toJson (.column name))
  | .computed fn name => .computed (toJson (.computed fn name))
  | .toOne r fields => .relation .one (toJson (.toOne r fields)) (some (outlines fields))
  | .toMany r fields => .relation .many (toJson (.toMany r fields)) (some (outlines fields))

/-- The outlines of the JSON forms of some fields. -/
def outlines : List Field → List Outline
  | [] => []
  | field :: fields => outline field :: outlines fields

end

mutual

/-- The JSON form of a field has the outline of the field. -/
lemma of_outline : ∀ field : Field, Outline.Of field.toJson field.outline
  | .column _ => .column rfl
  | .computed _ _ => .computed rfl
  | .toOne _ fields => .nested .one rfl rfl rfl (forall₂_of_outlines fields)
  | .toMany _ fields => .nested .many rfl rfl rfl (forall₂_of_outlines fields)

/-- The JSON forms of some fields have the outlines of the fields. -/
lemma forall₂_of_outlines : ∀ fields : List Field,
    List.Forall₂ Outline.Of (listToJson fields) (outlines fields)
  | [] => .nil
  | field :: fields => .cons (of_outline field) (forall₂_of_outlines fields)

end

mutual

/-- The outline of a field has the relations of the field. -/
lemma relations_outline (level : Nat) : ∀ field : Field,
    field.outline.relations level = field.relations level
  | .column _ | .computed _ _ => rfl
  | .toOne r fields | .toMany r fields => by
    rw [outline, Outline.relations, relationsOfList_outlines (level + 1) fields, relations]
    rfl

/-- The outlines of some fields have the relations of the fields. -/
lemma relationsOfList_outlines (level : Nat) : ∀ fields : List Field,
    Outline.relationsOfList level (outlines fields) = relationsOfList level fields
  | [] => rfl
  | field :: fields => by
    rw [outlines, Outline.relationsOfList, relations_outline level field,
      relationsOfList_outlines level fields, relationsOfList]

end

/-- The function of a computed column is read from its JSON form. -/
lemma fn_toJson (fn : ScalarFunction) (name : String) :
    ((computed fn name).toJson.get? "fn").mapM (ScalarFunction.ofJson .belowTag) = .ok (some fn) :=
  mapM_some_eq_ok (fn.ofJson_toJson .belowTag)

/-- The relation of a field is read from its JSON form. -/
lemma meta_toJson (c : Cardinality) (r : Relation) (fields : List Field) :
    ((related c r fields).toJson.get? "meta").mapM (Relation.ofTaggedJson .belowTag c) =
      .ok (some r) := by
  cases c <;> exact mapM_some_eq_ok (r.ofTaggedJson_toTaggedJson .belowTag _)

/-- The outline of a field behind a relation decodes to the field if the outlines below it do. -/
lemma field_outline_related {c : Cardinality} {r : Relation} {fields : List Field}
    (h : Outline.fieldList (outlines fields) = .ok fields) :
    (related c r fields).outline.field = .ok (related c r fields) := by
  have houtline : (related c r fields).outline =
      .relation c (related c r fields).toJson (some (outlines fields)) := by
    cases c <;> rfl
  rw [houtline, Outline.field_relation_some, h, meta_toJson]
  rfl

mutual

/-- **The outline of a field decodes to the field.** -/
lemma field_outline : ∀ field : Field, field.outline.field = .ok field
  | .column _ => rfl
  | .computed fn name => by
    rw [outline, Outline.field, fn_toJson]
    rfl
  | .toOne r fields => field_outline_related (c := .one) (fieldList_outlines fields)
  | .toMany r fields => field_outline_related (c := .many) (fieldList_outlines fields)

/-- The outlines of some fields decode to the fields. -/
lemma fieldList_outlines : ∀ fields : List Field, Outline.fieldList (outlines fields) = .ok fields
  | [] => rfl
  | field :: fields => by
    rw [outlines, Outline.fieldList, field_outline field, fieldList_outlines fields]
    rfl

end

/-! ## Requests -/

/-- **A request is read back under each limit, unless a relation lies on the limit.** -/
lemma parseList_listToJson (limit : Nat) (fields : List Field) :
    parseList limit (.array (listToJson fields)) =
      RelationAt.bounded limit (relationsOfList 0 fields) fields := by
  rw [parseList_eq_bounded limit (forall₂_of_outlines fields) (fieldList_outlines fields),
    relationsOfList_outlines]

/-- **Reading undoes writing, up to the exact limit on the nesting of relations.** If a request respects
the limit, its JSON form is read as the request. If it does not, there is a first relation in preorder
with exactly as many relations around it as the limit says, and the fault of depth names the collection
that this relation leads to.

**Proof sketch.** The JSON form of a request has an outline whatever the limit, with the relations of the
request, and this outline decodes to the request. So reading fails only on the level of a relation, and
it refuses the first one that lies on the limit. There is one unless the request respects the limit,
since no level is skipped. -/
theorem parseList_undoes_listToJson (limit : Nat) (fields : List Field) :
    (NestedWithin limit fields →
      parseList limit (.array (listToJson fields)) = .ok fields) ∧
    (¬NestedWithin limit fields → ∃ r,
      (relationsOfList 0 fields).find? (fun r => r.level = limit) = some r ∧
      parseList limit (.array (listToJson fields)) = .error (.tooDeep r.collection limit)) := by
  rw [parseList_listToJson]
  exact bounded_of_levels rfl limit fields

/-- Orders with their customers, and with their lines below which there is a relation again. -/
def ordersRequest : List Field :=
  [.column "total",
    .toOne ⟨["customer"], "pg", "customers", ["id"]⟩ [.computed (.extract .year) "since"],
    .toMany ⟨["id", "shop"], "pg", "lines", ["order", "shop"]⟩
      [.column "amount", .toOne ⟨["product"], "pg", "products", ["id"]⟩ []],
    .toMany ⟨["id"], "pg", "notes", ["order"]⟩ [.toMany ⟨["id"], "pg", "files", ["note"]⟩ []]]

/-- A request with relations on two levels is read back if two levels are allowed. If only one is, then
of the two relations that lie too deep the first one is refused. -/
theorem parseList_undoes_listToJson_ordersRequest :
    (NestedWithin 2 ordersRequest ∧
      parseList 2 (.array (listToJson ordersRequest)) = .ok ordersRequest) ∧
    (¬NestedWithin 1 ordersRequest ∧
      parseList 1 (.array (listToJson ordersRequest)) = .error (.tooDeep "products" 1)) := by
  have hwithin : NestedWithin 2 ordersRequest := by decide
  have hbeyond : ¬NestedWithin 1 ordersRequest := by decide
  obtain ⟨r, hfirst, hrefused⟩ := (parseList_undoes_listToJson 1 ordersRequest).2 hbeyond
  obtain rfl : ⟨"products", 1⟩ = r := Option.some.inj hfirst
  exact ⟨⟨hwithin, (parseList_undoes_listToJson 2 ordersRequest).1 hwithin⟩, hbeyond, hrefused⟩

end Field

end ClausePlan
