import ClausePlan.Proofs.Encoding
/-!
# Decoding without an outline

A node is a tagged record, and the rules for tagged records allow more than what a request is written
as: a record may be a list of its members, and below a tag the name of a variant may be its index. Here
fields are decoded by these rules alone, from any JSON value, with no regard to limits or outlines. A
request is read by first bringing all its nodes into outline and then decoding the outlines. This
amounts to checking the nodes and then decoding them by the rules: the check visits every node that
the decoder makes a field of, at the level that the field has. So whatever the spelling of a request,
no relation gets past the limit, and the request means the same when it is written anew.

## Main definitions

* `ClausePlan.Field.Tag` — the variants of a field.
* `ClausePlan.Field.ofJson` — the field of a JSON value by the rules of tagged records.

## Main results

* `ClausePlan.Field.ofJson_eq_field` — a node that has an outline decodes as its outline.
* `ClausePlan.Field.parseList_eq_ofJson` — a request is checked, and then decoded by the rules.
* `ClausePlan.Field.parseList_covers` — what is read respects the limit, is read under exactly the limits
  that it respects, and is read again from its own JSON form.
-/

namespace ClausePlan

namespace Field

/-! ## The rules of tagged records -/

/-- The variants of a field. -/
inductive Tag where
  /-- A column. -/
  | column
  /-- A computed column. -/
  | computed
  /-- Fields behind a relation of a cardinality. -/
  | related (cardinality : Cardinality)

/-- The variants by name, in declared order. -/
def Tag.known : List (String × Tag) :=
  [("primitive", column), ("fn", computed), (Cardinality.one.kind, related .one),
    (Cardinality.many.kind, related .many)]

/-- How an error text names the record of the fields behind a relation. -/
def Tag.relatedOwner : Cardinality → String
  | .one => "struct variant FieldNode::NestedOne"
  | .many => "struct variant FieldNode::NestedMany"

/-- Decodes the members of a field of a variant. The member that holds the fields below a relation comes
decoded, if there is one. -/
def ofMembers (below : Option (Except DecodeError (List Field))) :
    Tag → Members → Except DecodeError Field
  | .column, members => do
    let decode := Decode.single .belowTag "struct variant FieldNode::Primitive" "field" Decode.string
    return .column (← decode members)
  | .computed, .keyed members => do
    let name ← (members.lookup "field").mapM Decode.string
    let fn ← (members.lookup "fn").mapM (ScalarFunction.ofJson .belowTag)
    return .computed (← Decode.present "fn" fn) (← Decode.present "field" name)
  | .computed, .listed items => do
    let owner := "struct variant FieldNode::Fn"
    let fn ← Decode.item items owner 2 0 (ScalarFunction.ofJson .belowTag)
    let name ← Decode.item items owner 2 1 Decode.string
    Decode.noMoreThan .belowTag items 2
    return .computed fn name
  | .related c, .keyed members => do
    let fields ← below.mapM id
    let r ← (members.lookup "meta").mapM (Relation.ofTaggedJson .belowTag c)
    let fields ← Decode.present "fields" fields
    return .related c (← Decode.present "meta" r) fields
  | .related c, .listed items => do
    let fields ← below.getD (.error (.tooFew items.length (Tag.relatedOwner c) 2))
    let r ← Decode.item items (Tag.relatedOwner c) 2 1 (Relation.ofTaggedJson .belowTag c)
    Decode.noMoreThan .belowTag items 2
    return .related c r fields

/-- Decodes a field, given the decoded member that holds the fields below a relation. -/
def ofTagged (nesting : Nesting) (below : Option (Except DecodeError (List Field))) :
    Decoder Field := fun value => do
  let (tag, members) ← Decode.tagged nesting "FieldNode" Tag.known value
  ofMembers below tag members

mutual

/-- The decoded member that holds the fields below a relation: the member `fields` of an object, or the
first item behind the tag of a list. -/
def below? : Json → Option (Except DecodeError (List Field))
  | .object members => memberBelow? members
  | .array (_ :: value :: _) => some (listOfJson value)
  | _ => none

/-- The decoded member `fields`, if there is one. -/
def memberBelow? : List (String × Json) → Option (Except DecodeError (List Field))
  | [] => none
  | (key, value) :: members => if key = "fields" then some (listOfJson value) else memberBelow? members

/-- Decodes the list of the fields below a relation. -/
def listOfJson : Json → Except DecodeError (List Field)
  | .array items => itemsOfJson items
  | found => .error (.unexpected found .sequence)

/-- Decodes the fields below a relation one by one. -/
def itemsOfJson : List Json → Except DecodeError (List Field)
  | [] => .ok []
  | item :: items => do
    return (← ofTagged .belowTag (below? item) item) :: (← itemsOfJson items)

end

/-- Decodes a field from any JSON value by the rules of tagged records. -/
def ofJson (nesting : Nesting) : Decoder Field := fun value =>
  ofTagged nesting (below? value) value

/-! ## Nodes with an outline -/

/-- The decoded member `fields` of an object. -/
lemma memberBelow?_eq (members : List (String × Json)) :
    memberBelow? members = (members.lookup "fields").map listOfJson := by
  induction members with
  | nil => rfl
  | cons member members ih =>
    obtain ⟨key, value⟩ := member
    rw [memberBelow?, List.lookup_cons, ih]
    by_cases h : key = "fields"
    · subst h
      rfl
    · rw [if_neg h, beq_false_of_ne (Ne.symm h)]

/-- Where the nodes below a relation node are a list, they are what is decoded. -/
lemma below?_of_eq_some {members : List (String × Json)} {nodes : List Json}
    (h : Outline.below? (.object members) = some nodes) :
    below? (.object members) = some (itemsOfJson nodes) := by
  obtain ⟨value, hfields, hnodes⟩ := Option.bind_eq_some_iff.mp h
  have hfields : members.lookup "fields" = some value := hfields
  cases value with
  | array items =>
    cases hnodes
    rw [below?, memberBelow?_eq, hfields]
    rfl
  | null | bool _ | number _ | string _ | object _ => cases hnodes

/-- Where the nodes below a relation node are no list, there is nothing to decode. -/
lemma below?_of_eq_none {members : List (String × Json)}
    (h : Outline.below? (.object members) = none) :
    below? (.object members) =
      (members.lookup "fields").map fun value => .error (.unexpected value .sequence) := by
  rw [below?, memberBelow?_eq]
  cases hfields : members.lookup "fields" with
  | none => rfl
  | some value =>
    have hnodes : value.array? = none := Option.bind_eq_none_iff.mp h value hfields
    cases value with
    | array items => cases hnodes
    | null | bool _ | number _ | string _ | object _ => rfl

/-- A node with a tag is an object that has the tag as a member. -/
lemma exists_members_of_kind? {node : Json} {name : String} (h : Outline.kind? node = some name) :
    ∃ members, node = .object members ∧ members.lookup "type" = some (.string name) := by
  obtain ⟨value, htype, hname⟩ := Option.bind_eq_some_iff.mp h
  cases node with
  | object members =>
    cases value with
    | string _ =>
      cases hname
      exact ⟨members, rfl, htype⟩
    | null | bool _ | number _ | array _ | object _ => cases hname
  | null | bool _ | number _ | string _ | array _ => cases htype

/-- An object with the name of a variant as its tag is decoded as that variant. -/
lemma ofTagged_object {members : List (String × Json)} {name : String} {tag : Tag} (nesting : Nesting)
    (below : Option (Except DecodeError (List Field)))
    (htype : members.lookup "type" = some (.string name))
    (hname : Tag.known.lookup name = some tag) :
    ofTagged nesting below (.object members) = ofMembers below tag (.keyed members) := by
  simp only [ofTagged, Decode.tagged, htype, Decode.tag, Decode.variant, hname]
  rfl

/-- The name of a relation is the name of a variant. -/
lemma known_kind (c : Cardinality) : Tag.known.lookup c.kind = some (.related c) := by
  cases c <;> rfl

mutual

/-- **A node that has an outline decodes as its outline.** -/
lemma ofJson_eq_field (nesting : Nesting) : ∀ {outline : Outline} {node : Json},
    Outline.Of node outline → ofJson nesting node = outline.field
  | .column node, _, .column hkind => by
    obtain ⟨members, rfl, htype⟩ := exists_members_of_kind? hkind
    rw [ofJson, ofTagged_object nesting _ htype rfl, Outline.field]
    show (do
      let name ← (do Decode.present "field" (← (members.lookup "field").mapM Decode.string))
      return Field.column name) = _
    rw [bind_assoc]
    rfl
  | .computed node, _, .computed hkind => by
    obtain ⟨members, rfl, htype⟩ := exists_members_of_kind? hkind
    rw [ofJson, ofTagged_object nesting _ htype rfl, Outline.field]
    rfl
  | .relation c node none, _, .bare _ hkind _ hbelow => by
    obtain ⟨members, rfl, htype⟩ := exists_members_of_kind? hkind
    rw [ofJson, ofTagged_object nesting _ htype (known_kind c), Outline.field, below?_of_eq_none hbelow,
      Json.get?]
    cases members.lookup "fields" <;> rfl
  | .relation c node (some outlines), _, .nested _ hkind _ hbelow hnodes => by
    obtain ⟨members, rfl, htype⟩ := exists_members_of_kind? hkind
    have hfields := itemsOfJson_eq_fieldList hnodes
    rw [ofJson, ofTagged_object nesting _ htype (known_kind c), Outline.field_relation_some,
      below?_of_eq_some hbelow, hfields]
    cases Outline.fieldList outlines <;> rfl

/-- Nodes that have outlines decode as their outlines. -/
lemma itemsOfJson_eq_fieldList : ∀ {outlines : List Outline} {nodes : List Json},
    List.Forall₂ Outline.Of nodes outlines → itemsOfJson nodes = Outline.fieldList outlines
  | [], _, .nil => rfl
  | outline :: outlines, _, .cons hnode hnodes => by
    have hfield := ofJson_eq_field .belowTag hnode
    have hfields := itemsOfJson_eq_fieldList hnodes
    rw [ofJson] at hfield
    rw [itemsOfJson, hfield, hfields, Outline.fieldList]

end

/-! ## Requests -/

/-- Nodes that have outlines decode as their outlines. -/
lemma mapM_ofJson_eq_fieldList (nesting : Nesting) {nodes : List Json} {outlines : List Outline}
    (h : List.Forall₂ Outline.Of nodes outlines) :
    nodes.mapM (ofJson nesting) = Outline.fieldList outlines := by
  induction h with
  | nil => rfl
  | cons hnode _ ih => rw [List.mapM_cons, ofJson_eq_field nesting hnode, ih, Outline.fieldList]

/-- **A request is read by checking its nodes and then decoding them by the rules of tagged records.**
The outlines are not needed but to check. -/
theorem parseList_eq_ofJson (limit : Nat) (nodes : List Json) :
    parseList limit (.array nodes) = (do
      let _ ← nodes.mapM (Outline.ofJson limit limit)
      decoded (nodes.mapM (ofJson .plain))) := by
  show (nodes.mapM (Outline.ofJson limit limit) >>= fun outlines =>
    decoded (Outline.fieldList outlines)) = _
  cases hchecked : nodes.mapM (Outline.ofJson limit limit) with
  | error e => rfl
  | ok outlines =>
    have hnodes : List.Forall₂ Outline.Of nodes outlines :=
      (mapM_eq_ok_iff.mp hchecked).imp fun _ _ => Outline.of_ofJson
    rw [mapM_ofJson_eq_fieldList .plain hnodes]
    rfl

/-- The rules allow for a node that is a list of its members. The check does not: it finds no tag. -/
example :
    Decode.list (ofJson .plain) (.array [.array [.string "primitive", .string "title"]]) =
      .ok [.column "title"] ∧
    parseList 1 (.array [.array [.string "primitive", .string "title"]]) =
      .error (.malformed (.untagged (.array [.string "primitive", .string "title"]))) :=
  ⟨rfl, rfl⟩

/-- **What is read has been checked, whatever its spelling.** Let a request be read from a JSON value
under a limit. Then it is what the rules of tagged records make of the value, and it respects the limit.
Under any other limit the value is read as the same request if the request respects that limit too, and
is refused for its depth if not. And the request is read again from its own JSON form.

**Proof sketch.** The nodes that were read have outlines. These are what the check looks at under every
limit, and their relations have the levels of those of the request. So on the one hand reading fails
under a limit iff the request does not respect it, and on the other hand the outlines decode as the nodes
themselves. -/
theorem parseList_covers {limit : Nat} {value : Json} {fields : List Field}
    (h : parseList limit value = .ok fields) :
    Decode.list (ofJson .plain) value = .ok fields ∧
    NestedWithin limit fields ∧
    (∀ limit',
      (NestedWithin limit' fields → parseList limit' value = .ok fields) ∧
      (¬NestedWithin limit' fields →
        ∃ collection, parseList limit' value = .error (.tooDeep collection limit'))) ∧
    parseList limit (.array (listToJson fields)) = .ok fields := by
  obtain ⟨nodes, outlines, rfl, hnodes, hfields⟩ := exists_of_parseList h
  have hread : ∀ limit', parseList limit' (.array nodes) =
      RelationAt.bounded limit' (Outline.relationsOfList 0 outlines) fields :=
    fun limit' => parseList_eq_bounded limit' hnodes hfields
  have hlevels := (Outline.relationsOfList_fieldList 0 hfields).symm
  have hwithin : NestedWithin limit fields := by
    by_contra hbeyond
    obtain ⟨r, -, hrefused⟩ := (bounded_of_levels hlevels limit fields).2 hbeyond
    rw [hread, hrefused] at h
    cases h
  refine ⟨?_, hwithin, fun limit' => ⟨?_, ?_⟩, ?_⟩
  · rw [Decode.list, mapM_ofJson_eq_fieldList .plain hnodes, hfields]
  · rw [hread]
    exact (bounded_of_levels hlevels limit' fields).1
  · rw [hread]
    intro hbeyond
    obtain ⟨r, -, hrefused⟩ := (bounded_of_levels hlevels limit' fields).2 hbeyond
    exact ⟨r.collection, hrefused⟩
  · rw [parseList_listToJson]
    exact (bounded_of_levels rfl limit fields).1 hwithin

/-- The authors of articles, with their posts. -/
def authorsRequest : List Field :=
  [.toOne ⟨["author"], "pg", "users", ["id"]⟩
    [.column "name", .toMany ⟨["id"], "pg", "posts", ["author"]⟩ []]]

/-- The authors of articles, with their posts, in an unusual spelling: relations and their sides are lists
of their members, one of them is tagged by index, and objects have keys that mean nothing, in any
order. -/
def unusualSpelling : Json :=
  .array [.object [
    ("meta", .array [.ofNat 0, .object [
      ("note", .null),
      ("local", .object [("fields", .ofStrings ["author"])]),
      ("foreign", .array [.string "pg", .string "users", .ofStrings ["id"]])]]),
    ("type", .string "nested-one"),
    ("fields", .array [
      .object [("hint", .bool true), ("type", .string "primitive"), ("field", .string "name")],
      .object [
        ("fields", .array []),
        ("meta", .array [.string "o2m", .array [
          .array [.ofStrings ["id"]],
          .array [.string "pg", .string "posts", .ofStrings ["author"]]]]),
        ("type", .string "nested-many")]])]]

/-- The unusual spelling does not get the posts past the limit. -/
theorem parseList_covers_unusualSpelling :
    parseList 2 unusualSpelling = .ok authorsRequest ∧
    Decode.list (ofJson .plain) unusualSpelling = .ok authorsRequest ∧
    NestedWithin 2 authorsRequest ∧
    (¬NestedWithin 1 authorsRequest ∧
      ∃ collection, parseList 1 unusualSpelling = .error (.tooDeep collection 1)) ∧
    parseList 2 (.array (listToJson authorsRequest)) = .ok authorsRequest := by
  have hread : parseList 2 unusualSpelling = .ok authorsRequest := rfl
  have hbeyond : ¬NestedWithin 1 authorsRequest := by decide
  obtain ⟨hrules, hwithin, hlimits, hagain⟩ := parseList_covers hread
  exact ⟨hread, hrules, hwithin, ⟨hbeyond, (hlimits 1).2 hbeyond⟩, hagain⟩

end Field

end ClausePlan
