import ClausePlan.Proofs.Checking
/-!
# Reading nodes one by one

A list of nodes can be read as a whole, and each node can be read by itself. Both ways check and then
decode, but in another order: a list is checked to its end before its first node is decoded. The fields
that are read are nevertheless the same, and a list is refused for what one of its nodes is refused for.
Only which one that is depends on the order: a node that fails the check counts before all nodes that
pass it.

## Main definitions

* `ClausePlan.Field.PassesCheck` — neither a node nor any node below it is faulty.

## Main results

* `ClausePlan.Field.parse_eq_ok_iff`, `ClausePlan.Field.parse_eq_error_iff` — the outcomes of reading a
  single node.
* `ClausePlan.Field.parseList_nodewise` — a list is read iff each node is, and it is refused as one of
  them.
-/

namespace ClausePlan

namespace Field

/-! ## Single nodes -/

/-- On the walk through a node there is no faulty one. -/
def PassesCheck (limit : Nat) (node : Json) : Prop :=
  ∀ v ∈ Visit.walk 0 node, v.fault? limit = none

instance (limit : Nat) (node : Json) : Decidable (PassesCheck limit node) :=
  inferInstanceAs (Decidable (∀ v ∈ Visit.walk 0 node, v.fault? limit = none))

/-- A node passes the check if nothing is found on its walk. -/
lemma passesCheck_iff {limit : Nat} {node : Json} :
    PassesCheck limit node ↔ (Visit.walk 0 node).findSome? (Visit.fault? limit) = none :=
  List.findSome?_eq_none_iff.symm

/-- A node is read by checking it and then decoding it by the rules of tagged records. -/
lemma parse_eq_ofJson (limit : Nat) (node : Json) :
    parse limit node = (do
      let _ ← Outline.ofJson limit limit node
      decoded (ofJson .plain node)) := by
  rw [parse]
  cases hchecked : Outline.ofJson limit limit node with
  | error fault => rfl
  | ok outline =>
    show decoded outline.field = decoded (ofJson .plain node)
    rw [ofJson_eq_field .plain (Outline.of_ofJson hchecked)]

/-- Reading a node ends with the first fault on its walk, or else with that of decoding. -/
lemma refusal_parse (limit : Nat) (node : Json) :
    refusal (parse limit node) =
      ((Visit.walk 0 node).findSome? (Visit.fault? limit)).or
        (refusal (decoded (ofJson .plain node))) := by
  rw [parse_eq_ofJson, refusal_seq, Visit.refusal_ofJson (Nat.zero_add limit)]

/-- A node is read if it passes the check and decodes. -/
lemma parse_eq_ok_iff {limit : Nat} {node : Json} {field : Field} :
    parse limit node = .ok field ↔
      PassesCheck limit node ∧ decoded (ofJson .plain node) = .ok field := by
  rw [parse_eq_ofJson, bind_eq_ok_iff, passesCheck_iff,
    ← Visit.refusal_ofJson (Nat.zero_add limit), refusal_eq_none_iff, exists_and_right]

/-- A node is refused for the first fault on its walk or, if there is none, for what it decodes to. -/
lemma parse_eq_error_iff {limit : Nat} {node : Json} {fault : Fault} :
    parse limit node = .error fault ↔
      (Visit.walk 0 node).findSome? (Visit.fault? limit) = some fault ∨
        (PassesCheck limit node ∧ decoded (ofJson .plain node) = .error fault) := by
  rw [← refusal_eq_some_iff, refusal_parse, Option.or_eq_some_iff, passesCheck_iff,
    refusal_eq_some_iff]

/-! ## Lists of nodes -/

/-- Nodes are decoded one by one. -/
lemma decoded_mapM (nodes : List Json) :
    decoded (nodes.mapM (ofJson .plain)) = nodes.mapM fun node => decoded (ofJson .plain node) := by
  induction nodes with
  | nil => rfl
  | cons node nodes ih =>
    rw [List.mapM_cons, List.mapM_cons, ← ih]
    cases ofJson .plain node with
    | error cause => rfl
    | ok field => cases nodes.mapM (ofJson .plain) <;> rfl

/-- A list is read iff each of its nodes is. -/
lemma parseList_eq_ok_iff {limit : Nat} {nodes : List Json} {fields : List Field} :
    parseList limit (.array nodes) = .ok fields ↔
      List.Forall₂ (fun node field => parse limit node = .ok field) nodes fields := by
  have hchecked : (∃ outlines, nodes.mapM (Outline.ofJson limit limit) = .ok outlines) ↔
      ∀ node ∈ nodes, PassesCheck limit node := by
    rw [← refusal_eq_none_iff, Visit.refusal_mapM_ofJson, Visit.findSome?_walkAll,
      List.findSome?_eq_none_iff]
    simp only [passesCheck_iff]
  rw [parseList_eq_ofJson, bind_eq_ok_iff, exists_and_right, hchecked, decoded_mapM, mapM_eq_ok_iff]
  simp only [parse_eq_ok_iff, List.forall₂_and_left]

/-- A list is refused for the first node that fails the check or, if there is none, for the first one that
does not decode. -/
lemma parseList_eq_error_iff {limit : Nat} {nodes : List Json} {fault : Fault} :
    parseList limit (.array nodes) = .error fault ↔
      ∃ before node after, nodes = before ++ node :: after ∧ parse limit node = .error fault ∧
        ((¬PassesCheck limit node ∧ ∀ other ∈ before, PassesCheck limit other) ∨
          ((∀ other ∈ nodes, PassesCheck limit other) ∧
            ∀ other ∈ before, ∃ field, parse limit other = .ok field)) := by
  have hfirst : parseList limit (.array nodes) = .error fault ↔
      (∃ before node after, nodes = before ++ node :: after ∧
        (Visit.walk 0 node).findSome? (Visit.fault? limit) = some fault ∧
        ∀ other ∈ before, PassesCheck limit other) ∨
      ((∀ other ∈ nodes, PassesCheck limit other) ∧
        ∃ before node after, nodes = before ++ node :: after ∧
          decoded (ofJson .plain node) = .error fault ∧
          ∀ other ∈ before, ∃ field, decoded (ofJson .plain other) = .ok field) := by
    rw [← refusal_eq_some_iff, refusal_parseList, Option.or_eq_some_iff, Visit.findSome?_walkAll,
      decoded_mapM, refusal_mapM, List.findSome?_eq_some_iff, List.findSome?_eq_none_iff,
      List.findSome?_eq_some_iff]
    simp only [← passesCheck_iff, refusal_eq_some_iff, refusal_eq_none_iff]
  rw [hfirst]
  constructor
  · rintro (⟨before, node, after, rfl, hnode, hbefore⟩ |
      ⟨hchecked, before, node, after, rfl, hnode, hbefore⟩)
    · have hfails : ¬PassesCheck limit node := by
        rw [passesCheck_iff, hnode]
        nofun
      exact ⟨before, node, after, rfl, parse_eq_error_iff.2 (.inl hnode), .inl ⟨hfails, hbefore⟩⟩
    · have hread : ∀ other ∈ before, ∃ field, parse limit other = .ok field := by
        intro other hother
        obtain ⟨field, hfield⟩ := hbefore other hother
        exact ⟨field, parse_eq_ok_iff.2 ⟨hchecked other (List.mem_append_left _ hother), hfield⟩⟩
      have hrefused : parse limit node = .error fault :=
        parse_eq_error_iff.2 (.inr ⟨hchecked node (by simp), hnode⟩)
      exact ⟨before, node, after, rfl, hrefused, .inr ⟨hchecked, hread⟩⟩
  · rintro ⟨before, node, after, rfl, hnode, ⟨hfails, hbefore⟩ | ⟨hchecked, hbefore⟩⟩
    · rcases parse_eq_error_iff.1 hnode with hwalk | ⟨hpasses, -⟩
      · exact .inl ⟨before, node, after, rfl, hwalk, hbefore⟩
      · exact absurd hpasses hfails
    · rcases parse_eq_error_iff.1 hnode with hwalk | ⟨-, hdecoded⟩
      · rw [passesCheck_iff.1 (hchecked node (by simp))] at hwalk
        cases hwalk
      · refine .inr ⟨hchecked, before, node, after, rfl, hdecoded, fun other hother => ?_⟩
        obtain ⟨field, hfield⟩ := hbefore other hother
        exact ⟨field, (parse_eq_ok_iff.1 hfield).2⟩

/-- **Reading a list of nodes and reading its nodes one by one agree.** A list is read as some fields iff
its nodes are read as these fields, in order. It is refused as one of its nodes is refused by itself: as
the first one that fails the check or, if all of them pass it, as the first one that does not decode. A
list of one node is read or refused as the node is.

**Proof sketch.** Both ways consist of the check, which ends with the first fault on the walk, and of the
decoder. For a list the walk and the decoder go through one node after the other. So each part succeeds
iff it does on every node, and else ends as it does on the first node on which it fails. -/
theorem parseList_nodewise (limit : Nat) (nodes : List Json) :
    (∀ fields, parseList limit (.array nodes) = .ok fields ↔
      List.Forall₂ (fun node field => parse limit node = .ok field) nodes fields) ∧
    (∀ fault, parseList limit (.array nodes) = .error fault ↔
      ∃ before node after, nodes = before ++ node :: after ∧ parse limit node = .error fault ∧
        ((¬PassesCheck limit node ∧ ∀ other ∈ before, PassesCheck limit other) ∨
          ((∀ other ∈ nodes, PassesCheck limit other) ∧
            ∀ other ∈ before, ∃ field, parse limit other = .ok field))) ∧
    ∀ node, parseList limit (.array [node]) = (parse limit node).map fun field => [field] := by
  refine ⟨fun _ => parseList_eq_ok_iff, fun _ => parseList_eq_error_iff, fun node => ?_⟩
  rw [parseList_eq_ofJson, parse_eq_ofJson, decoded_mapM]
  simp only [List.mapM_cons, List.mapM_nil]
  cases Outline.ofJson limit limit node with
  | error fault => rfl
  | ok outline => cases decoded (ofJson .plain node) <;> rfl

/-- A column, the month of another one, and the author with a name, in the form of JSON. -/
def monthlyRequest : List Json :=
  [.object [("field", .string "title"), ("type", .string "primitive")],
    .object [
      ("field", .string "created"),
      ("fn", .object [("fn", .string "month"), ("type", .string "extractFn")]),
      ("type", .string "fn")],
    .object [
      ("fields", .array [.object [("field", .string "name"), ("type", .string "primitive")]]),
      ("meta", (Relation.mk ["author"] "pg" "users" ["id"]).toTaggedJson .one),
      ("type", .string "nested-one")]]

/-- A list is refused as its third node, which fails the check, although the first one is refused as well.
Without the nodes that fail the check it is refused as the first one. A list of nodes each of which is
read is read as the list of their fields. -/
theorem parseList_nodewise_faultyRequest :
    (parse 2 (.object [("type", .string "primitive")]) =
        .error (.malformed (.undecodable (.missing "field"))) ∧
      parse 2 (.ofNat 3) = .error (.malformed (.untagged (.ofNat 3))) ∧
      parseList 2 (.array faultyRequest) = .error (.unknownRelationKind "nested-many" "m2o")) ∧
    parseList 2 (.array (faultyRequest.take 2)) =
      .error (.malformed (.undecodable (.missing "field"))) ∧
    parseList 1 (.array monthlyRequest) =
      .ok [.column "title", .computed (.extract .month) "created",
        .toOne ⟨["author"], "pg", "users", ["id"]⟩ [.column "name"]] := by
  obtain ⟨-, hrefused, -⟩ := parseList_nodewise 2 faultyRequest
  obtain ⟨-, hrefused', -⟩ := parseList_nodewise 2 (faultyRequest.take 2)
  obtain ⟨hread, -⟩ := parseList_nodewise 1 monthlyRequest
  refine ⟨⟨rfl, rfl, (hrefused _).2 ⟨[_, _], _, [_], rfl, rfl, .inl ⟨?_, ?_⟩⟩⟩,
    (hrefused' _).2 ⟨[], _, [_], rfl, rfl, .inr ⟨?_, ?_⟩⟩,
    (hread _).2 (.cons rfl (.cons rfl (.cons rfl .nil)))⟩
  · decide
  · decide
  · decide
  · nofun

end Field

end ClausePlan
