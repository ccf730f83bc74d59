import ClausePlan.Proofs.Decoding
/-!
# The first fault of a request that is read

All nodes of a request are checked before any of their members is decoded. The check recurses, with a
bound on how deep relations may still be nested, and gives up at the first fault. Seen from outside it
is a single pass: a walk through all nodes, from left to right and each relation before the nodes below
it, that stops at the first faulty one. Whether a node is faulty can be read off the node and the number
of relations above it. How its other members are spelled does not matter, and neither does what comes
after it.

## Main definitions

* `ClausePlan.refusal` — the fault that a check ends with.
* `ClausePlan.Visit` — a node that the walk meets, with the number of relations above it.
* `ClausePlan.Visit.walk`, `ClausePlan.Visit.walkAll` — the walk through a node, or through some.
* `ClausePlan.Visit.fault?` — what is amiss with a node itself.
* `ClausePlan.Outline.tag?` — the variant that a node is tagged as.

## Main results

* `ClausePlan.refusal_mapM` — a check of some values ends with the fault of the first one that has any.
* `ClausePlan.Visit.refusal_ofJson` — the check of a node ends with the first fault on its walk.
* `ClausePlan.Field.parseList_refuses_first` — reading a request ends with the first fault on the walk
  through all of its nodes, and decoding begins only if there is none.
-/

namespace ClausePlan

/-! ## The fault of a check -/

section Refusals

variable {ε α β : Type}

/-- The fault that a check ends with, if it fails. -/
def refusal : Except ε α → Option ε
  | .ok _ => none
  | .error fault => some fault

lemma refusal_eq_some_iff {x : Except ε α} {fault : ε} :
    refusal x = some fault ↔ x = .error fault := by
  cases x <;> simp [refusal]

lemma refusal_eq_none_iff {x : Except ε α} : refusal x = none ↔ ∃ a, x = .ok a := by
  cases x <;> simp [refusal]

/-- Of two checks in a row the first one that fails counts. -/
lemma refusal_seq (x : Except ε α) (y : Except ε β) :
    refusal (x >>= fun _ => y) = (refusal x).or (refusal y) := by
  cases x <;> rfl

/-- What is made of an answer does not change the fault. -/
lemma refusal_bind_pure (x : Except ε α) (f : α → β) :
    refusal (x >>= fun a => pure (f a)) = refusal x := by
  cases x <;> rfl

/-- **A check of some values ends with the fault of the first one that has any.** -/
lemma refusal_mapM (f : α → Except ε β) (xs : List α) :
    refusal (xs.mapM f) = xs.findSome? fun x => refusal (f x) := by
  induction xs with
  | nil => rfl
  | cons x xs ih =>
    rw [List.mapM_cons, List.findSome?_cons, ← ih]
    cases f x with
    | error fault => rfl
    | ok y => exact refusal_bind_pure (xs.mapM f) (y :: ·)

end Refusals

/-! ## The tags of nodes -/

namespace Field.Tag

/-- The name of a variant. -/
def kind : Tag → String
  | column => "primitive"
  | computed => "fn"
  | related c => c.kind

/-- A variant is known by its name. -/
lemma lookup_known_eq_some_iff {name : String} {tag : Tag} :
    known.lookup name = some tag ↔ name = tag.kind := by
  constructor
  · intro h
    obtain ⟨before, after, hknown, -⟩ := List.lookup_eq_some_iff.1 h
    have hmem : (name, tag) ∈ known := hknown ▸ by simp
    simp only [known, List.mem_cons, Prod.mk.injEq, List.not_mem_nil, or_false] at hmem
    rcases hmem with ⟨rfl, rfl⟩ | ⟨rfl, rfl⟩ | ⟨rfl, rfl⟩ | ⟨rfl, rfl⟩ <;> rfl
  · rintro rfl
    cases tag with
    | column => rfl
    | computed => rfl
    | related c => exact known_kind c

/-- A name is unknown iff no field has it as its tag. -/
lemma lookup_known_eq_none_iff {name : String} :
    known.lookup name = none ↔ ∀ field : Field, field.kind ≠ name := by
  simp only [Option.eq_none_iff_forall_ne_some, ne_eq, lookup_known_eq_some_iff]
  constructor
  · rintro h field rfl
    cases field with
    | column _ => exact h .column rfl
    | computed _ _ => exact h .computed rfl
    | toOne _ _ => exact h (.related .one) rfl
    | toMany _ _ => exact h (.related .many) rfl
  · rintro h tag rfl
    have hrelation : ∀ c : Cardinality, ∃ field : Field, field.kind = c.kind
      | .one => ⟨.toOne ⟨[], "", "", []⟩ [], rfl⟩
      | .many => ⟨.toMany ⟨[], "", "", []⟩ [], rfl⟩
    cases tag with
    | column => exact h (.column "") rfl
    | computed => exact h (.computed (.extract .year) "") rfl
    | related c =>
      obtain ⟨field, hfield⟩ := hrelation c
      exact h field hfield

end Field.Tag

namespace Outline

/-- The variant that a node is tagged as, if it has a known tag. -/
def tag? (node : Json) : Option Field.Tag :=
  (kind? node).bind fun name => Field.Tag.known.lookup name

/-- A node is tagged as a variant if its tag is the name of the variant. -/
lemma tag?_eq_some_iff {node : Json} {tag : Field.Tag} :
    tag? node = some tag ↔ kind? node = some tag.kind := by
  simp only [tag?, Option.bind_eq_some_iff, Field.Tag.lookup_known_eq_some_iff, exists_eq_right]

section Steps

variable {limit : Nat} {nested : Option (Json → Except Fault Outline)} {node : Json}

/-- A node without a tag is refused. -/
lemma ofNode_untagged (h : kind? node = none) :
    ofNode limit nested node = .error (.malformed (.untagged node)) := by
  rw [kind?] at h
  rw [ofNode, h]

/-- A node with an unknown tag is refused. -/
lemma ofNode_unknown {name : String} (h : kind? node = some name)
    (hname : Field.Tag.known.lookup name = none) :
    ofNode limit nested node = .error (.unknownKind name) := by
  rw [kind?] at h
  rw [ofNode, h]
  split
  case h_1 heq => cases heq
  case h_2 heq => cases heq; cases hname
  case h_3 heq => cases heq; cases hname
  case h_4 heq => cases heq; cases hname
  case h_5 heq => cases heq; cases hname
  case h_6 heq => cases heq; rfl

/-- A relation is refused for the kind that it states, or else for the first of the nodes below it that
is refused. -/
lemma refusal_ofRelation (c : Cardinality) (ofNested : Json → Except Fault Outline) :
    refusal (ofRelation limit (some ofNested) c node) =
      (refusal (checkRelationKind c node)).or
        (((below? node).getD []).findSome? fun below => refusal (ofNested below)) := by
  cases hkind : checkRelationKind c node with
  | error fault => simp [ofRelation, hkind, refusal, bind, Except.bind]
  | ok _ =>
    cases hbelow : below? node with
    | none => rw [ofRelation_bare hkind hbelow]; rfl
    | some nodes =>
      rw [ofRelation_nested hkind hbelow, refusal_bind_pure, refusal_mapM]
      rfl

end Steps

end Outline

/-! ## The walk -/

/-- A node that the walk meets. -/
structure Visit where
  /-- The node. -/
  node : Json
  /-- The number of relations above the node. -/
  level : Nat

namespace Visit

open Outline Field.Tag

mutual

/-- The node with `level` relations above it, and then the nodes below it if it is tagged as a
relation. -/
def walk (level : Nat) : Json → List Visit
  | .object members =>
    ⟨.object members, level⟩ ::
      match tag? (.object members) with
      | some (.related _) => walkFields (level + 1) members
      -- whatever a node of another kind has in its member `fields` is passed over
      | _ => []
  | node => [⟨node, level⟩]

/-- The nodes in the member `fields`, if that is a list. -/
def walkFields (level : Nat) : List (String × Json) → List Visit
  | [] => []
  | (key, value) :: members =>
    if key = "fields" then walkItems level value else walkFields level members

/-- The nodes in a value, if that is a list. -/
def walkItems (level : Nat) : Json → List Visit
  | .array nodes => walkAll level nodes
  | _ => []

/-- Some nodes with what is below them, one after the other. -/
def walkAll (level : Nat) : List Json → List Visit
  | [] => []
  | node :: nodes => walk level node ++ walkAll level nodes

end

/-- The member `fields` is the list of the nodes below. -/
lemma walkFields_eq (level : Nat) (members : List (String × Json)) :
    walkFields level members = walkAll level ((below? (.object members)).getD []) := by
  induction members with
  | nil => rfl
  | cons member members ih =>
    obtain ⟨key, value⟩ := member
    by_cases hkey : key = "fields"
    · subst hkey
      cases value <;> rfl
    · have hbelow : below? (.object ((key, value) :: members)) = below? (.object members) := by
        simp only [below?, Json.get?, List.lookup_cons, beq_false_of_ne (Ne.symm hkey)]
      rw [walkFields, if_neg hkey, ih, hbelow]

/-- Below a relation the walk goes on with the nodes there. -/
lemma walk_relation {node : Json} {c : Cardinality} (level : Nat) (h : tag? node = some (.related c)) :
    walk level node = ⟨node, level⟩ :: walkAll (level + 1) ((below? node).getD []) := by
  cases node with
  | object members =>
    rw [walk, h, walkFields_eq]
  | null | bool _ | number _ | string _ | array _ => cases h

/-- A node that is not tagged as a relation is the only one on its walk. -/
lemma walk_leaf {node : Json} (level : Nat) (h : ∀ c, tag? node ≠ some (.related c)) :
    walk level node = [⟨node, level⟩] := by
  cases node with
  | object members =>
    rw [walk]
    split
    · next c htag => exact absurd htag (h c)
    · rfl
  | null | bool _ | number _ | string _ | array _ => rfl

/-- What is amiss with a node itself, be it tagged as it may and whatever its other members are: it has no
tag, or an unknown one, or it is a relation with too many relations above it, or one that states a kind
of relation that does not go with its tag. The first of these counts. -/
def fault? (limit : Nat) (v : Visit) : Option Fault :=
  match kind? v.node with
  | none => some (.malformed (.untagged v.node))
  | some name =>
    match Field.Tag.known.lookup name with
    | none => some (.unknownKind name)
    | some .column | some .computed => none
    | some (.related c) =>
      if limit ≤ v.level then some (.tooDeep (collectionOf v.node) limit)
      else match relationKind? v.node with
        | none => none
        | some stated => if stated = c.tag then none else some (.unknownRelationKind name stated)

/-- A relation is refused where it lies too deep, and else for the kind that it states. -/
lemma fault?_relation {node : Json} {c : Cardinality} (limit level : Nat)
    (h : tag? node = some (.related c)) :
    fault? limit ⟨node, level⟩ =
      if limit ≤ level then some (.tooDeep (collectionOf node) limit)
      else refusal (checkRelationKind c node) := by
  have hkind : kind? node = some c.kind := tag?_eq_some_iff.1 h
  -- the check itself does not compare levels: it runs out of room where the limit is reached
  simp only [fault?, hkind, Field.known_kind, checkRelationKind]
  split_ifs
  · rfl
  · cases relationKind? node with
    | none => rfl
    | some stated =>
      simp only
      split_ifs <;> rfl

/-- A node that is not tagged as a relation is refused for its own fault, if it has any. -/
lemma refusal_ofNode {limit : Nat} {nested : Option (Json → Except Fault Outline)} {node : Json}
    (level : Nat) (h : ∀ c, tag? node ≠ some (.related c)) :
    refusal (ofNode limit nested node) = fault? limit ⟨node, level⟩ := by
  cases hkind : kind? node with
  | none =>
    rw [ofNode_untagged hkind]
    simp only [fault?, hkind]
    rfl
  | some name =>
    cases htag : Field.Tag.known.lookup name with
    | none =>
      rw [ofNode_unknown hkind htag]
      simp only [fault?, hkind, htag]
      rfl
    | some tag =>
      obtain rfl := lookup_known_eq_some_iff.1 htag
      cases tag with
      | column =>
        rw [ofNode_column hkind]
        simp only [fault?, hkind, htag]
        rfl
      | computed =>
        rw [ofNode_computed hkind]
        simp only [fault?, hkind, htag]
        rfl
      | related c => exact absurd (tag?_eq_some_iff.2 hkind) (h c)

/-- What is found first on the walk through some nodes is what is found first on the walk through one of
them. -/
lemma findSome?_walkAll {β : Type} (f : Visit → Option β) (level : Nat) (nodes : List Json) :
    (walkAll level nodes).findSome? f = nodes.findSome? fun node => (walk level node).findSome? f := by
  induction nodes with
  | nil => rfl
  | cons node nodes ih =>
    rw [walkAll, List.findSome?_append, ih, List.findSome?_cons]
    cases (walk level node).findSome? f <;> rfl

/-- **The check of a node ends with the first fault on its walk**, if there is any.

**Proof sketch.** By induction on how deep relations may still be nested, which is the limit less the
level of the node. A node that is not tagged as a relation is checked by itself. A relation where
nothing may be nested any more is faulty, so it does not matter what the walk meets below it. Any other
relation is checked by itself and then the nodes below it are, one level further down. -/
lemma refusal_ofJson {limit room level : Nat} (hlevel : level + room = limit) (node : Json) :
    refusal (Outline.ofJson limit room node) = (walk level node).findSome? (fault? limit) := by
  induction room generalizing level node with
  | zero =>
    by_cases hrelation : ∃ c, tag? node = some (.related c)
    · -- the relation is the first node on its own walk, so what is below it does not count
      obtain ⟨c, htag⟩ := hrelation
      rw [Outline.ofJson, ofNode_relation (tag?_eq_some_iff.1 htag), ofRelation_none,
        walk_relation level htag, List.findSome?_cons, fault?_relation limit level htag,
        if_pos (by omega)]
      rfl
    · rw [Outline.ofJson, walk_leaf level (not_exists.1 hrelation), List.findSome?_singleton]
      exact refusal_ofNode level (not_exists.1 hrelation)
  | succ room ih =>
    by_cases hrelation : ∃ c, tag? node = some (.related c)
    · obtain ⟨c, htag⟩ := hrelation
      have hbelow : ∀ below, refusal (Outline.ofJson limit room below) =
          (walk (level + 1) below).findSome? (fault? limit) := fun below => ih (by omega) below
      rw [Outline.ofJson, ofNode_relation (tag?_eq_some_iff.1 htag), refusal_ofRelation,
        walk_relation level htag, List.findSome?_cons, fault?_relation limit level htag,
        if_neg (by omega), findSome?_walkAll]
      simp only [hbelow]
      cases refusal (checkRelationKind c node) <;> rfl
    · rw [Outline.ofJson, walk_leaf level (not_exists.1 hrelation), List.findSome?_singleton]
      exact refusal_ofNode level (not_exists.1 hrelation)

/-- The check of some nodes ends with the first fault on their walk. -/
lemma refusal_mapM_ofJson (limit : Nat) (nodes : List Json) :
    refusal (nodes.mapM (Outline.ofJson limit limit)) =
      (walkAll 0 nodes).findSome? (fault? limit) := by
  simp only [refusal_mapM, findSome?_walkAll, refusal_ofJson (Nat.zero_add limit)]

/-- A node is not refused for what its members decode to. -/
lemma ne_undecodable_of_fault? {limit : Nat} {v : Visit} {fault : Fault}
    (h : v.fault? limit = some fault) (cause : DecodeError) :
    fault ≠ .malformed (.undecodable cause) := by
  rintro rfl
  grind [fault?]

end Visit

/-! ## Reading a request -/

namespace Field

/-- **Reading a request ends with the first fault on the walk through its nodes**, or else with the first
fault of decoding. -/
lemma refusal_parseList (limit : Nat) (nodes : List Json) :
    refusal (parseList limit (.array nodes)) =
      ((Visit.walkAll 0 nodes).findSome? (Visit.fault? limit)).or
        (refusal (decoded (nodes.mapM (ofJson .plain)))) := by
  rw [parseList_eq_ofJson, refusal_seq, Visit.refusal_mapM_ofJson]

/-- Where no node is faulty it is up to the decoder whether a request is read. -/
lemma parseList_of_sound {limit : Nat} {nodes : List Json}
    (h : ∀ v ∈ Visit.walkAll 0 nodes, v.fault? limit = none) :
    parseList limit (.array nodes) = decoded (Decode.list (ofJson .plain) (.array nodes)) := by
  have hchecked := Visit.refusal_mapM_ofJson limit nodes
  rw [List.findSome?_eq_none_iff.2 h] at hchecked
  obtain ⟨outlines, houtlines⟩ := refusal_eq_none_iff.1 hchecked
  rw [parseList_eq_ofJson, houtlines]
  rfl

/-- The first node that is faulty decides. -/
lemma parseList_of_first {limit : Nat} {nodes : List Json} {before after : List Visit} {v : Visit}
    {fault : Fault} (hsplit : Visit.walkAll 0 nodes = before ++ v :: after)
    (hbefore : ∀ u ∈ before, u.fault? limit = none) (hv : v.fault? limit = some fault) :
    parseList limit (.array nodes) = .error fault := by
  have hfound := List.findSome?_eq_some_iff.2 ⟨before, v, after, hsplit, hv, hbefore⟩
  rw [← refusal_eq_some_iff, refusal_parseList, hfound]
  rfl

/-- Where some node is faulty, the request is refused for the fault of a node, and not for what it decodes
to. -/
lemma exists_error_of_faulty {limit : Nat} {nodes : List Json}
    (h : ¬∀ v ∈ Visit.walkAll 0 nodes, v.fault? limit = none) :
    ∃ fault, parseList limit (.array nodes) = .error fault ∧
      ∀ cause, fault ≠ .malformed (.undecodable cause) := by
  rw [← List.findSome?_eq_none_iff] at h
  obtain ⟨fault, hfound⟩ := Option.ne_none_iff_exists'.1 h
  obtain ⟨before, v, after, hsplit, hv, hbefore⟩ := List.findSome?_eq_some_iff.1 hfound
  exact ⟨fault, parseList_of_first hsplit hbefore hv, Visit.ne_undecodable_of_fault? hv⟩

/-- A node with a tag that no field has is faulty under every limit. -/
lemma fault?_of_kind_ne {limit : Nat} {v : Visit} {name : String}
    (hkind : Outline.kind? v.node = some name) (hname : ∀ field : Field, field.kind ≠ name) :
    v.fault? limit = some (.unknownKind name) := by
  simp only [Visit.fault?, hkind, Tag.lookup_known_eq_none_iff.2 hname]

/-- A node without a tag is reported with its JSON text. -/
lemma message_untagged (node : Json) : (Fault.malformed (.untagged node)).message =
    "malformed field node: field node without a type tag: " ++ node.compact := by
  have hopening : "malformed field node: field node without a type tag: " =
      "malformed field node: " ++ "field node without a type tag: " := by decide
  rw [hopening, String.append_assoc]
  rfl

/-- **Reading a request is refused for the first fault on the walk through all of its nodes**, whatever
members are absent or misspelled elsewhere. If no node is faulty, then it is up to the decoder whether
the request is read. So a request that is read, or one that is refused for what its members decode to,
has no faulty node. And a node with a tag that no field has, wherever the walk meets it, is neither read
nor left to the decoder. A node without a tag is reported with its JSON text.

**Proof sketch.** Reading checks the nodes first, and the check of a node ends with the first fault on
its walk. None of the faults of a node is one of decoding. -/
theorem parseList_refuses_first (limit : Nat) (nodes : List Json) :
    (∀ before v after fault, Visit.walkAll 0 nodes = before ++ v :: after →
      (∀ u ∈ before, u.fault? limit = none) → v.fault? limit = some fault →
        parseList limit (.array nodes) = .error fault) ∧
    ((∀ v ∈ Visit.walkAll 0 nodes, v.fault? limit = none) →
      parseList limit (.array nodes) = decoded (Decode.list (ofJson .plain) (.array nodes))) ∧
    (((∃ fields, parseList limit (.array nodes) = .ok fields) ∨
        ∃ cause, parseList limit (.array nodes) = .error (.malformed (.undecodable cause))) ↔
      ∀ v ∈ Visit.walkAll 0 nodes, v.fault? limit = none) ∧
    (∀ v ∈ Visit.walkAll 0 nodes, ∀ name, Outline.kind? v.node = some name →
      (∀ field : Field, field.kind ≠ name) →
        ∃ fault, parseList limit (.array nodes) = .error fault ∧
          ∀ cause, fault ≠ .malformed (.undecodable cause)) ∧
    (∀ node, (Fault.malformed (.untagged node)).message =
      "malformed field node: field node without a type tag: " ++ node.compact) := by
  refine ⟨fun _ _ _ _ => parseList_of_first, parseList_of_sound, ⟨?_, ?_⟩, ?_, message_untagged⟩
  · intro h
    by_contra hfaulty
    obtain ⟨fault, hrefused, hfault⟩ := exists_error_of_faulty hfaulty
    rw [hrefused] at h
    rcases h with ⟨fields, h⟩ | ⟨cause, h⟩
    · cases h
    · exact hfault cause (Except.error.inj h)
  · intro h
    rw [parseList_of_sound h]
    cases Decode.list (ofJson .plain) (.array nodes) with
    | ok fields => exact .inl ⟨fields, rfl⟩
    | error cause => exact .inr ⟨cause, rfl⟩
  · intro v hv name hkind hname
    refine exists_error_of_faulty fun h => ?_
    have hv := h v hv
    rw [fault?_of_kind_ne hkind hname] at hv
    cases hv

/-- A request with a fault of each kind. Its first node does not decode, and its second one has a member
`fields` that means nothing there. -/
def faultyRequest : List Json :=
  [.object [("type", .string "primitive")],
    .object [("fields", .array [.null]), ("type", .string "fn")],
    .object [
      ("fields", .array [.object [
        ("fields", .array [.object [("type", .string "geo")]]),
        ("meta", .object [
          ("join", .object [("foreign", .object [("collection", .string "places")])]),
          ("type", .string "m2o")]),
        ("type", .string "nested-many")]]),
      ("type", .string "nested-one")],
    .ofNat 3]

/-- With one level allowed, the places lie too deep. With two levels they are refused for their kind of
relation, and neither the unknown tag below them nor the number behind them is reported. By themselves
the first two nodes have no fault of their own, and only then the decoder misses the column of the first
one. -/
theorem parseList_refuses_first_faultyRequest :
    parseList 1 (.array faultyRequest) = .error (.tooDeep "places" 1) ∧
    parseList 2 (.array faultyRequest) = .error (.unknownRelationKind "nested-many" "m2o") ∧
    (∃ fault, parseList 3 (.array faultyRequest) = .error fault ∧
      ∀ cause, fault ≠ .malformed (.undecodable cause)) ∧
    parseList 2 (.array (faultyRequest.take 2)) =
      .error (.malformed (.undecodable (.missing "field"))) := by
  have hwalk : Visit.walkAll 0 faultyRequest =
      [⟨_, 0⟩, ⟨_, 0⟩, ⟨_, 0⟩, ⟨_, 1⟩, ⟨.object [("type", .string "geo")], 2⟩, ⟨.ofNat 3, 0⟩] := rfl
  obtain ⟨hdeep, -⟩ := parseList_refuses_first 1 faultyRequest
  obtain ⟨hkind, -⟩ := parseList_refuses_first 2 faultyRequest
  obtain ⟨-, -, -, hunknown, -⟩ := parseList_refuses_first 3 faultyRequest
  obtain ⟨-, hsound, -⟩ := parseList_refuses_first 2 (faultyRequest.take 2)
  refine ⟨hdeep [_, _, _] _ _ _ hwalk ?_ rfl, hkind [_, _, _] _ _ _ hwalk ?_ rfl,
    hunknown ⟨.object [("type", .string "geo")], 2⟩ (hwalk ▸ by simp) "geo" rfl
      (Tag.lookup_known_eq_none_iff.1 rfl), hsound ?_⟩
  · exact List.forall_mem_cons.2 ⟨rfl, List.forall_mem_cons.2 ⟨rfl, List.forall_mem_singleton.2 rfl⟩⟩
  · exact List.forall_mem_cons.2 ⟨rfl, List.forall_mem_cons.2 ⟨rfl, List.forall_mem_singleton.2 rfl⟩⟩
  · exact List.forall_mem_cons.2 ⟨rfl, List.forall_mem_singleton.2 rfl⟩

end Field

end ClausePlan
