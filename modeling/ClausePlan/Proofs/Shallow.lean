import ClausePlan.Proofs.Query
/-!
# What planning looks at

Planning keeps the fields below a to-many relation for the deferred query, as they are, and never looks
at them. So a request can be made shallow, by leaving those fields out, and planning goes the same way
as before: it draws the same aliases, meets the same fault or none, and yields the same plan up to the
fields that its deferred queries wait with. Two requests that are alike when shallow cannot be told
apart by planning.

## Main definitions

* `ClausePlan.Field.AgreesAbove` — two fields differ at most below to-many relations.
* `ClausePlan.Field.shallow`, `ClausePlan.Stop.shallow`, `ClausePlan.Plan.shallow` — what is left without
  the fields below to-many relations.
* `ClausePlan.Plan.Agrees`, `ClausePlan.Plan.SameOutcome` — plans, and outcomes of planning, that differ
  at most in the fields that deferred queries wait with.

## Main results

* `ClausePlan.Field.walkAll_shallow` — the walk through a shallow request.
* `ClausePlan.Plan.exec_ofFields_shallow` — planning a shallow request, on every outcome.
* `ClausePlan.Plan.sameOutcome_of_agreesAbove` — planning cannot tell requests apart that differ below
  to-many relations only.
-/

namespace ClausePlan

/-! ## Shallow requests -/

/-- Two fields differ at most in what is asked for below to-many relations, at any depth. -/
inductive Field.AgreesAbove : Field → Field → Prop
  /-- A column agrees with itself. -/
  | column (name : String) : AgreesAbove (.column name) (.column name)
  /-- A computed column agrees with itself. -/
  | computed (fn : ScalarFunction) (column : String) :
    AgreesAbove (.computed fn column) (.computed fn column)
  /-- Below a to-one relation the fields have to agree, one by one. -/
  | toOne (r : Relation) {fields fields' : List Field} :
    List.Forall₂ AgreesAbove fields fields' → AgreesAbove (.toOne r fields) (.toOne r fields')
  /-- Below a to-many relation there may be any fields. -/
  | toMany (r : Relation) (fields fields' : List Field) :
    AgreesAbove (.toMany r fields) (.toMany r fields')

namespace Field

mutual

/-- The field without the fields below to-many relations. -/
def shallow : Field → Field
  | .column name => .column name
  | .computed fn name => .computed fn name
  | .toOne r fields => .toOne r (shallowAll fields)
  | .toMany r _ => .toMany r []

/-- The fields without the fields below to-many relations. -/
def shallowAll : List Field → List Field
  | [] => []
  | field :: fields => shallow field :: shallowAll fields

end

mutual

/-- Fields that differ below to-many relations only are equal when shallow. -/
lemma shallow_eq_of_agreesAbove : ∀ {field field' : Field},
    field.AgreesAbove field' → field.shallow = field'.shallow
  | .column _, _, h => by
    cases h
    rfl
  | .computed _ _, _, h => by
    cases h
    rfl
  | .toOne r fields, _, h => by
    cases h with
    | toOne _ h => rw [shallow, shallow, shallowAll_eq_of_agreesAbove h]
  | .toMany r fields, _, h => by
    cases h
    rfl

/-- Lists of fields that differ below to-many relations only are equal when shallow. -/
lemma shallowAll_eq_of_agreesAbove : ∀ {fields fields' : List Field},
    List.Forall₂ AgreesAbove fields fields' → shallowAll fields = shallowAll fields'
  | [], _, h => by
    cases h
    rfl
  | field :: fields, _, h => by
    cases h with
    | cons h hs =>
      rw [shallowAll, shallowAll, shallow_eq_of_agreesAbove h, shallowAll_eq_of_agreesAbove hs]

end

end Field

/-! ## Shallow walks -/

namespace Stop

/-- The stop without the fields below to-many relations. -/
def shallow (s : Stop) : Stop :=
  { s with field := s.field.shallow }

@[simp] lemma seed?_shallow (s : Stop) : s.shallow.seed? = s.seed? := by
  obtain ⟨_ | _ | _ | _, trail, parent, number⟩ := s <;> rfl

@[simp] lemma seeds_map_shallow (stops : List Stop) : seeds (stops.map shallow) = seeds stops := by
  simp [seeds, List.filterMap_map]

end Stop

namespace Field

mutual

/-- The walk through a shallow field stops at the same places. -/
lemma walk_shallow (parent : Option Nat) (number : Nat) : ∀ field : Field,
    walk parent number field.shallow = (walk parent number field).map Stop.shallow
  | .column _ => rfl
  | .computed _ _ => rfl
  | .toOne r fields => by
    rw [shallow, walk, walk, walkAll_shallow (some number) (number + 1) fields, List.map_cons,
      List.map_map, List.map_map]
    rfl
  | .toMany _ _ => rfl

/-- **The walk through a shallow request stops at the same places.** -/
lemma walkAll_shallow (parent : Option Nat) (number : Nat) : ∀ fields : List Field,
    walkAll parent number (shallowAll fields) = (walkAll parent number fields).map Stop.shallow
  | [] => rfl
  | field :: fields => by
    rw [shallowAll, walkAll, walkAll, walk_shallow parent number field, Stop.seeds_map_shallow,
      walkAll_shallow parent _ fields, List.map_append]

end

/-- The stops of a shallow request. -/
lemma stops_shallowAll (fields : List Field) :
    stops (shallowAll fields) = (stops fields).map Stop.shallow :=
  walkAll_shallow none 0 fields

end Field

/-! ## Shallow plans -/

/-- The deferred query without the fields that are asked for. -/
def Deferred.shallow (d : Deferred) : Deferred :=
  { d with query := { d.query with fields := [] } }

/-- The plan with deferred queries that ask for nothing. -/
def Plan.shallow (p : Plan) : Plan :=
  { p with deferred := p.deferred.map Deferred.shallow }

section Pass

variable {σ : Type} [AliasSource σ]

/-- A pass over the stops does not look below to-many relations. -/
lemma Stop.askAll_map_shallow (root : String) (depth limit : Nat) (stops : List Stop)
    (labels : List String) :
    (askAll root depth limit (stops.map shallow) labels : AliasM σ _) =
      askAll root depth limit stops labels := by
  have hask : ∀ labels s, (ask root depth limit labels (shallow s) : AliasM σ _) =
      ask root depth limit labels s := by
    rintro labels ⟨_ | _ | _ | _, trail, parent, number⟩ <;> rfl
  simp only [askAll, List.foldlM_map, hask]

/-- The plan of shallow stops is shallow. -/
lemma Plan.ofStops_map_shallow (root : String) (labels : List String) (stops : List Stop) :
    ofStops root labels (stops.map Stop.shallow) = (ofStops root labels stops).shallow := by
  have hitem : ∀ s : Stop, s.shallow.item? root labels = s.item? root labels := by
    rintro ⟨_ | _ | _ | _, trail, parent, number⟩ <;> rfl
  have hjoin : ∀ s : Stop, s.shallow.join? root labels = s.join? root labels := by
    rintro ⟨_ | _ | _ | _, trail, parent, number⟩ <;> rfl
  have hplace : ∀ s : Stop, s.shallow.place? labels = s.place? labels := by
    rintro ⟨_ | _ | _ | _, trail, parent, number⟩ <;> rfl
  have hdeferred : ∀ s : Stop, s.shallow.deferred? = s.deferred?.map Deferred.shallow := by
    rintro ⟨_ | _ | _ | _, trail, parent, number⟩ <;> rfl
  apply eq_of_parts
  · simp only [ofStops, shallow, List.filterMap_map, Function.comp_def, hitem]
  · simp only [ofStops, shallow, List.filterMap_map, Function.comp_def, hjoin]
  · rfl
  · simp only [ofStops, shallow, List.filterMap_map, Function.comp_def, hplace]
  · simp only [ofStops, shallow, List.filterMap_map, Function.comp_def, hdeferred,
      List.map_filterMap]

/-- **Planning a shallow request** is planning the request, on every outcome: the context is left the
same, a fault is the same, and the plan is the shallow one. -/
lemma Plan.exec_ofFields_shallow (collection : String) (fields : List Field) (context : Context σ) :
    exec (ofFields collection (Field.shallowAll fields)) context =
      ((exec (ofFields collection fields) context).1.map shallow,
        (exec (ofFields collection fields) context).2) := by
  rw [exec_ofFields, exec_ofFields, Field.stops_shallowAll]
  split_ifs with h
  · rfl
  · simp only [ofWalk, Stop.askAll_map_shallow, ofStops_map_shallow, exec_bind, exec_pure,
      Context.resume]
    rcases exec (Stop.askAll collection context.depth context.settings.maxDepth.toNat
      (Field.stops fields) []) context.aliases with ⟨fault | labels, aliases'⟩
    · rfl
    · rfl

end Pass

/-! ## Requests that planning cannot tell apart -/

/-- Two deferred queries differ at most in the fields that they ask for. -/
structure Deferred.Agrees (d d' : Deferred) : Prop where
  /-- The key values are in the same columns of the row. -/
  localColumns : d.localColumns = d'.localColumns
  /-- The columns that equal them are the same. -/
  foreignColumns : d.foreignColumns = d'.foreignColumns
  /-- The foreign collection has the same name. -/
  name : d.name = d'.name
  /-- The queries start from the same collection of the same store, with the same key columns. -/
  query : d.query.store = d'.query.store ∧ d.query.collection = d'.query.collection ∧
    d.query.foreignColumns = d'.query.foreignColumns

/-- Two plans differ at most in the fields that their deferred queries ask for. -/
structure Plan.Agrees (p p' : Plan) : Prop where
  /-- The output columns are the same. -/
  select : p.select = p'.select
  /-- The joins are the same. -/
  joins : p.joins = p'.joins
  /-- The parameters are the same. -/
  parameters : p.parameters = p'.parameters
  /-- The places of the output columns are the same. -/
  paths : p.paths = p'.paths
  /-- The deferred queries agree, one by one. -/
  deferred : List.Forall₂ Deferred.Agrees p.deferred p'.deferred

/-- Two attempts to plan end in the same fault, or with plans that differ at most in the fields that
their deferred queries ask for. -/
inductive Plan.SameOutcome : Except Fault Plan → Except Fault Plan → Prop
  /-- Both attempts fail, for the same reason. -/
  | fault (fault : Fault) : SameOutcome (.error fault) (.error fault)
  /-- Both attempts succeed. -/
  | plan {p p' : Plan} : p.Agrees p' → SameOutcome (.ok p) (.ok p')

/-- Deferred queries that are equal when shallow differ in their fields only. -/
lemma Deferred.agrees_of_shallow_eq {d d' : Deferred} (h : d.shallow = d'.shallow) :
    d.Agrees d' := by
  obtain ⟨⟨store, collection, fields, columns⟩, localColumns, foreignColumns, name⟩ := d
  obtain ⟨⟨store', collection', fields', columns'⟩, localColumns', foreignColumns', name'⟩ := d'
  simp only [shallow, mk.injEq, RelationQuery.mk.injEq, true_and] at h
  obtain ⟨⟨hstore, hcollection, hcolumns⟩, hlocal, hforeign, hname⟩ := h
  exact ⟨hlocal, hforeign, hname, hstore, hcollection, hcolumns⟩

/-- Plans that are equal when shallow differ in the fields of their deferred queries only. -/
lemma Plan.agrees_of_shallow_eq {p p' : Plan} (h : p.shallow = p'.shallow) : p.Agrees p' := by
  obtain ⟨select, joins, parameters, paths, deferred⟩ := p
  obtain ⟨select', joins', parameters', paths', deferred'⟩ := p'
  simp only [shallow, mk.injEq] at h
  obtain ⟨hselect, hjoins, hparameters, hpaths, hdeferred⟩ := h
  refine ⟨hselect, hjoins, hparameters, hpaths, ?_⟩
  rw [← List.forall₂_eq_eq_eq, List.forall₂_map_left_iff, List.forall₂_map_right_iff] at hdeferred
  exact hdeferred.imp fun _ _ => Deferred.agrees_of_shallow_eq

/-- Outcomes that are equal when their plans are made shallow are the same. -/
lemma Plan.sameOutcome_of_map_shallow_eq {r r' : Except Fault Plan}
    (h : r.map shallow = r'.map shallow) : SameOutcome r r' := by
  cases r with
  | error fault =>
    cases r' with
    | error fault' =>
      obtain rfl := Except.error.inj h
      exact .fault fault
    | ok p' => simp [Except.map] at h
  | ok p =>
    cases r' with
    | error fault' => simp [Except.map] at h
    | ok p' => exact .plan (agrees_of_shallow_eq (Except.ok.inj h))

variable {σ : Type} [AliasSource σ]

/-- **What is asked for below to-many relations has no influence on the pass that defers it.** Planning
two requests that differ there only, at any depth, ends in the same fault or with plans that differ at
most in the fields that their deferred queries ask for, and the contexts are left in the same state. So
a defect below a to-many relation can show only when the deferred query is made.

**Proof sketch.** Made shallow, the requests are equal. Planning the shallow request leaves the context
that planning either of the two leaves, and has its outcome, with the plan made shallow. -/
theorem Plan.sameOutcome_of_agreesAbove {fields fields' : List Field}
    (h : List.Forall₂ Field.AgreesAbove fields fields') (collection : String)
    (context : Context σ) :
    SameOutcome (exec (ofFields collection fields) context).1
        (exec (ofFields collection fields') context).1 ∧
      (exec (ofFields collection fields) context).2 =
        (exec (ofFields collection fields') context).2 := by
  have hfirst := exec_ofFields_shallow collection fields context
  have hsecond := exec_ofFields_shallow collection fields' context
  rw [Field.shallowAll_eq_of_agreesAbove h, hsecond] at hfirst
  obtain ⟨houtcome, hcontext⟩ := Prod.mk.inj hfirst
  exact ⟨sameOutcome_of_map_shallow_eq houtcome.symm, hcontext.symm⟩

/-- A request for the posts of an author, with the fields that are asked for of each post. -/
def postsRequest (fields : List Field) : List Field :=
  [.column "title",
    .toOne ⟨["author"], "pg", "users", ["id"]⟩ [.toMany ⟨["id"], "pg", "posts", ["author"]⟩ fields]]

/-- A relation without key columns. -/
def keylessTags : Field :=
  .toOne ⟨[], "pg", "tags", []⟩ []

/-- The relation without a key among the fields of the posts does not show when the request is planned.
It does when the query for the posts is made. -/
theorem Plan.sameOutcome_of_agreesAbove_postsRequest :
    List.Forall₂ Field.AgreesAbove (postsRequest [.column "body"]) (postsRequest [keylessTags]) ∧
      SameOutcome
        (exec (ofFields "articles" (postsRequest [.column "body"]))
          { aliases := BuiltinAliases.sequential {} }).1
        (exec (ofFields "articles" (postsRequest [keylessTags]))
          { aliases := BuiltinAliases.sequential {} }).1 ∧
      ∃ p d, (exec (ofFields "articles" (postsRequest [keylessTags]))
          { aliases := BuiltinAliases.sequential {} }).1 = .ok p ∧
        p.deferred = [d] ∧
        (exec (d.generate [.null]) { aliases := BuiltinAliases.sequential {} }).1 =
          .error (.malformed (.keyless "posts" "tags")) :=
  have h : List.Forall₂ Field.AgreesAbove (postsRequest [.column "body"])
      (postsRequest [keylessTags]) :=
    .cons (.column "title") (.cons (.toOne _ (.cons (.toMany _ _ _) .nil)) .nil)
  ⟨h, (Plan.sameOutcome_of_agreesAbove h "articles" { aliases := BuiltinAliases.sequential {} }).1,
    _, _, rfl, rfl, rfl⟩

end ClausePlan
