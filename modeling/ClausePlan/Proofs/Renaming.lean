import ClausePlan.Proofs.Query
import ClausePlan.Proofs.Record
import Mathlib.Data.List.Forall2
import Mathlib.Data.List.Nodup
/-!
# Plans up to their aliases

No step of planning depends on the text of an alias. So two attempts to plan a request that succeed
yield the same plan up to the aliases, whatever the sources are: both ask for the same seeds, and where
one plan has the alias that its source gave at some turn, the other plan has the alias that the other
source gave at that turn.

## Main definitions

* `ClausePlan.Plan.asked` — what planning asks its source, with the answers.
* `ClausePlan.Corresponds` — two names of tables are the root in both plans, or aliases given at the same
  turn.
* `ClausePlan.Condition.SameUpTo`, `ClausePlan.SelectItem.SameUpTo`, `ClausePlan.JoinClause.SameUpTo`,
  `ClausePlan.Plan.SameUpTo` — parts of plans, and plans, that are the same up to their aliases.

## Main results

* `ClausePlan.Plan.exists_asked` — what is asked are the seeds of the walk, each once and in order.
* `ClausePlan.Relation.condition_sameUpTo` — the conditions of a relation between corresponding tables.
* `ClausePlan.Plan.ofStops_sameUpTo` — the plans that some stops amount to, for two lists of aliases.
* `ClausePlan.Plan.ofFields_sameUpTo` — plans do not depend on the source of the aliases, up to renaming.
-/

namespace ClausePlan

/-! ## What planning asks for -/

section Asked

variable {σ : Type} [AliasSource σ]

/-- What planning asks its source, in order and with the answers: the record of a source that keeps
one. -/
def Plan.asked (collection : String) (fields : List Field) (context : Context σ) :
    List (String × Except Fault String) :=
  (exec (ofFields collection fields)
    (context.withAliases (Recorded.mk context.aliases []))).2.aliases.record

/-- **Planning that succeeds** asks for the seeds of the walk, each once and in order, and the plan is
that of the stops with the answers. -/
lemma Plan.exists_asked {collection : String} {fields : List Field} {plan : Plan}
    {context context' : Context σ}
    (h : exec (ofFields collection fields) context = (.ok plan, context')) :
    ∃ labels : List String, labels.length = (Stop.seeds (Field.stops fields)).length ∧
      asked collection fields context =
        (Stop.seeds (Field.stops fields)).zip (labels.map .ok) ∧
      plan = ofStops collection labels (Field.stops fields) := by
  -- a source with a record stands for the same source without one
  have hmap : exec (ofFields collection fields) context = _ :=
    exec_ofFields_of_map (f := Recorded.source) (fun _ _ => rfl) collection fields
      (context.withAliases (Recorded.mk context.aliases []))
  rcases hrecorded : exec (ofFields collection fields)
    (context.withAliases (Recorded.mk context.aliases [])) with ⟨outcome, context''⟩
  rw [hrecorded] at hmap
  obtain ⟨rfl, -⟩ := Prod.mk.inj (h.symm.trans hmap)
  obtain ⟨labels, hdraw, hplan, -⟩ := drawAll_of_ofFields hrecorded
  refine ⟨labels, AliasM.length_of_drawAll hdraw, ?_, hplan⟩
  rw [asked, hrecorded]
  exact Recorded.record_of_drawAll hdraw

end Asked

/-! ## Corresponding names -/

/-- The names of two tables correspond, where `pairs` are the aliases that the two sources gave at each
turn: both are the root, or they were given at the same turn. -/
def Corresponds (root : String) (pairs : List (String × String)) (name name' : String) : Prop :=
  (name = root ∧ name' = root) ∨ (name, name') ∈ pairs

section Labels

variable {labels labels' : List String}

/-- The aliases with one number were given at the same turn. -/
private lemma getD_mem_zip (hlength : labels.length = labels'.length) {number : Nat}
    (hlt : number < labels.length) :
    (labels.getD number "", labels'.getD number "") ∈ labels.zip labels' := by
  have hlt' : number < labels'.length := hlength ▸ hlt
  rw [List.getD_eq_getElem _ _ hlt, List.getD_eq_getElem _ _ hlt', ← List.getElem_zip]
  exact List.getElem_mem (by rw [List.length_zip]; exact lt_min hlt hlt')

/-- The tables of a stop for which the aliases are enough correspond. -/
lemma Stop.corresponds_table (root : String) (hlength : labels.length = labels'.length) {s : Stop}
    (hnamed : s.NamedBy labels.length) :
    Corresponds root (labels.zip labels') (s.table root labels) (s.table root labels') := by
  obtain ⟨field, trail, parent, number⟩ := s
  cases parent with
  | none => exact .inl ⟨rfl, rfl⟩
  | some k => exact .inr (getD_mem_zip hlength (hnamed.1 k rfl))

/-- The aliases of a stop that asks for one were given at the same turn. -/
lemma Stop.label_mem_zip (hlength : labels.length = labels'.length) {s : Stop}
    (hnamed : s.NamedBy labels.length) (hseed : s.seed?.isSome) :
    (s.label labels, s.label labels') ∈ labels.zip labels' :=
  getD_mem_zip hlength (hnamed.2 hseed)

end Labels

/-! ## Conditions up to aliases -/

/-- Two operands are the same, up to tables whose names are related. -/
inductive Operand.SameUpTo (related : String → String → Prop) : Operand → Operand → Prop
  /-- The columns have the same name. -/
  | column {table table' : String} (name : String) :
    related table table' → SameUpTo related (.column ⟨table, name⟩) (.column ⟨table', name⟩)
  /-- The slots are the same. -/
  | slot (index : Nat) : SameUpTo related (.slot index) (.slot index)

/-- Two conditions have the same shape, and they are the same up to tables whose names are related. -/
inductive Condition.SameUpTo (related : String → String → Prop) : Condition → Condition → Prop
  /-- Columns of the same name are compared, and both equalities are negated or none is. -/
  | leaf {table table' : String} {operand operand' : Operand} (name : String) (negated : Bool) :
    related table table' → operand.SameUpTo related operand' →
      SameUpTo related (.leaf ⟨⟨table, name⟩, operand⟩ negated)
        (.leaf ⟨⟨table', name⟩, operand'⟩ negated)
  /-- The parts are the same one by one, and both conjunctions are negated or none is. -/
  | conjunction {conditions conditions' : List Condition} (negated : Bool) :
    List.Forall₂ (SameUpTo related) conditions conditions' →
      SameUpTo related (.conjunction conditions negated) (.conjunction conditions' negated)

/-- A conjunction has the same shape if its parts have, a single one standing for itself. -/
lemma Condition.all_sameUpTo {related : String → String → Prop}
    {conditions conditions' : List Condition}
    (h : List.Forall₂ (SameUpTo related) conditions conditions') :
    (all conditions).SameUpTo related (all conditions') := by
  cases h with
  | nil => exact .conjunction false .nil
  | cons hfirst hrest =>
    cases hrest with
    | nil => exact hfirst
    | cons hsecond hrest => exact .conjunction false (.cons hfirst (.cons hsecond hrest))

/-- **The conditions of a relation** between related tables are the same up to the names of the
tables. -/
lemma Relation.condition_sameUpTo {related : String → String → Prop} (r : Relation)
    {source source' label label' : String} (hsource : related source source')
    (hlabel : related label label') :
    (r.condition source label).SameUpTo related (r.condition source' label') := by
  refine Condition.all_sameUpTo ?_
  generalize r.localColumns = localColumns
  generalize r.foreignColumns = foreignColumns
  induction localColumns generalizing foreignColumns with
  | nil => exact .nil
  | cons l localColumns ih =>
    cases foreignColumns with
    | nil => exact .nil
    | cons f foreignColumns =>
      exact .cons (.leaf l false hsource (.column f hlabel)) (ih foreignColumns)

/-! ## Plans up to aliases -/

/-- Two output columns show the same, from corresponding tables, under aliases that were given at the
same turn. -/
structure SelectItem.SameUpTo (root : String) (pairs : List (String × String))
    (item item' : SelectItem) : Prop where
  /-- The function is the same. -/
  fn : item.fn = item'.fn
  /-- The column is the same. -/
  column : item.column = item'.column
  /-- The tables correspond. -/
  table : Corresponds root pairs item.table item'.table
  /-- The aliases were given at the same turn. -/
  label : (item.label, item'.label) ∈ pairs

/-- Two joins join in the same table on the same condition, up to corresponding tables, under aliases
that were given at the same turn. -/
structure JoinClause.SameUpTo (root : String) (pairs : List (String × String))
    (join join' : JoinClause) : Prop where
  /-- The table is the same. -/
  table : join.table = join'.table
  /-- The condition is the same up to the names of tables. -/
  on : join.on.SameUpTo (Corresponds root pairs) join'.on
  /-- The aliases were given at the same turn. -/
  label : (join.label, join'.label) ∈ pairs

/-- Two plans for the collection `root` are the same up to their aliases, where `pairs` are the aliases
that the two sources gave at each turn. -/
structure Plan.SameUpTo (root : String) (pairs : List (String × String)) (p p' : Plan) : Prop where
  /-- The output columns are the same one by one. -/
  select : List.Forall₂ (SelectItem.SameUpTo root pairs) p.select p'.select
  /-- The joins are the same one by one. -/
  joins : List.Forall₂ (JoinClause.SameUpTo root pairs) p.joins p'.joins
  /-- The aliases of each turn are those of one output column or of one join, in both plans. -/
  labels : ((p.select.map SelectItem.label).zip (p'.select.map SelectItem.label) ++
    (p.joins.map JoinClause.label).zip (p'.joins.map JoinClause.label)).Perm pairs
  /-- The parameters are the same. -/
  parameters : p.parameters = p'.parameters
  /-- The deferred queries are the same, since they name no table by an alias. -/
  deferred : p.deferred = p'.deferred

namespace Stop

variable {root : String} {labels labels' : List String}

/-- What some stops add to two plans is related, if what each of them adds is. -/
private lemma forall₂_filterMap {α β : Type} {related : α → β → Prop} {f : Stop → Option α}
    {g : Stop → Option β} {stops : List Stop}
    (h : ∀ s ∈ stops, Option.Rel related (f s) (g s)) :
    List.Forall₂ related (stops.filterMap f) (stops.filterMap g) := by
  have hsame : List.Forall₂ (fun s t => s ∈ stops ∧ s = t) stops stops :=
    List.forall₂_same.2 fun s hs => ⟨hs, rfl⟩
  refine List.rel_filterMap ?_ hsame
  rintro s _ ⟨hs, rfl⟩
  exact h s hs

/-- The output columns of a stop are the same up to the aliases. -/
lemma item?_sameUpTo (hlength : labels.length = labels'.length) {s : Stop}
    (hnamed : s.NamedBy labels.length) :
    Option.Rel (SelectItem.SameUpTo root (labels.zip labels')) (s.item? root labels)
      (s.item? root labels') := by
  have htable := corresponds_table root hlength hnamed
  have hlabel := label_mem_zip hlength hnamed
  obtain ⟨field, trail, parent, number⟩ := s
  cases field with
  | column name => exact .some ⟨rfl, rfl, htable, hlabel rfl⟩
  | computed fn name => exact .some ⟨rfl, rfl, htable, hlabel rfl⟩
  | toOne r fields => exact .none
  | toMany r fields => exact .none

/-- The joins of a stop are the same up to the aliases. -/
lemma join?_sameUpTo (hlength : labels.length = labels'.length) {s : Stop}
    (hnamed : s.NamedBy labels.length) :
    Option.Rel (JoinClause.SameUpTo root (labels.zip labels')) (s.join? root labels)
      (s.join? root labels') := by
  have htable := corresponds_table root hlength hnamed
  have hlabel := label_mem_zip hlength hnamed
  obtain ⟨field, trail, parent, number⟩ := s
  cases field with
  | column name => exact .none
  | computed fn name => exact .none
  | toOne r fields =>
    exact .some ⟨rfl, r.condition_sameUpTo htable (.inr (hlabel rfl)), hlabel rfl⟩
  | toMany r fields => exact .none

/-- The places of the output column of a stop are the same up to the aliases. -/
lemma place?_sameUpTo (hlength : labels.length = labels'.length) {s : Stop}
    (hnamed : s.NamedBy labels.length) :
    Option.Rel (fun entry entry' => (entry.1, entry'.1) ∈ labels.zip labels' ∧ entry.2 = entry'.2)
      (s.place? labels) (s.place? labels') := by
  have hlabel := label_mem_zip hlength hnamed
  obtain ⟨field, trail, parent, number⟩ := s
  cases field with
  | column name => exact .some ⟨hlabel rfl, rfl⟩
  | computed fn name => exact .some ⟨hlabel rfl, rfl⟩
  | toOne r fields => exact .none
  | toMany r fields => exact .none

/-- The aliases that some stops get in two plans, stop by stop. -/
private lemma zip_given (stops : List Stop) :
    (given labels stops).zip (given labels' stops) =
      stops.filterMap fun s => s.seed?.map fun _ => (s.label labels, s.label labels') := by
  induction stops with
  | nil => rfl
  | cons s stops ih =>
    simp only [given] at ih
    simp only [given, List.filterMap_cons]
    cases s.seed? with
    | none => exact ih
    | some seed =>
      simp only [Option.map_some, List.zip_cons_cons, ih]

/-- Each pair of aliases is that of an output column or of a join. -/
private lemma zip_labels_perm (root : String) (labels labels' : List String) (stops : List Stop) :
    (((stops.filterMap (item? root labels)).map SelectItem.label).zip
        ((stops.filterMap (item? root labels')).map SelectItem.label) ++
      ((stops.filterMap (join? root labels)).map JoinClause.label).zip
        ((stops.filterMap (join? root labels')).map JoinClause.label)).Perm
      (stops.filterMap fun s => s.seed?.map fun _ => (s.label labels, s.label labels')) := by
  induction stops with
  | nil => exact .nil
  | cons s stops ih =>
    obtain ⟨field, trail, parent, number⟩ := s
    cases field with
    | column name => exact ih.cons _
    | computed fn name => exact ih.cons _
    | toOne r fields => exact List.perm_middle.trans (ih.cons _)
    | toMany r fields => exact ih

end Stop

namespace Plan

variable {root : String} {labels labels' : List String} {fields : List Field}

/-- The aliases that a request asks for are enough for its stops. -/
private lemma namedBy_of_mem_stops
    (hlength : labels.length = (Stop.seeds (Field.stops fields)).length) :
    ∀ s ∈ Field.stops fields, s.NamedBy labels.length := by
  have h := Field.namedBy_invariant.walkAll none 0 fields (by simp)
  rw [Nat.zero_add] at h
  rw [hlength]
  exact h

/-- **The plans that the stops of a request amount to**, for two lists of aliases, are the same up to
the aliases. -/
lemma ofStops_sameUpTo (hlength : labels.length = (Stop.seeds (Field.stops fields)).length)
    (hlength' : labels'.length = (Stop.seeds (Field.stops fields)).length) :
    SameUpTo root (labels.zip labels') (ofStops root labels (Field.stops fields))
      (ofStops root labels' (Field.stops fields)) := by
  have hnamed := namedBy_of_mem_stops hlength
  have hsame : labels.length = labels'.length := hlength.trans hlength'.symm
  refine ⟨Stop.forall₂_filterMap fun s hs => Stop.item?_sameUpTo hsame (hnamed s hs),
    Stop.forall₂_filterMap fun s hs => Stop.join?_sameUpTo hsame (hnamed s hs), ?_, rfl, rfl⟩
  have hperm := Stop.zip_labels_perm root labels labels' (Field.stops fields)
  rw [← Stop.zip_given, Stop.given_stops labels hlength, Stop.given_stops labels' hlength'] at hperm
  exact hperm

/-- Where the aliases of a request differ, the places of its plan are listed stop by stop. -/
private lemma entries_paths_ofStops (root : String)
    (hlength : labels.length = (Stop.seeds (Field.stops fields)).length) (hnodup : labels.Nodup) :
    (ofStops root labels (Field.stops fields)).paths.entries =
      (Field.stops fields).filterMap (Stop.place? labels) := by
  have hgiven := Stop.given_perm root labels (Field.stops fields)
  rw [Stop.given_stops labels hlength] at hgiven
  have hselect := List.Nodup.of_append_left (hgiven.nodup_iff.2 hnodup)
  rw [Stop.map_label_item?] at hselect
  exact OrderedMap.entries_ofList hselect

/-- The places of the plans that the stops of a request amount to, for two lists of different
aliases. -/
lemma forall₂_paths_ofStops
    (hlength : labels.length = (Stop.seeds (Field.stops fields)).length)
    (hlength' : labels'.length = (Stop.seeds (Field.stops fields)).length)
    (hnodup : labels.Nodup) (hnodup' : labels'.Nodup) :
    List.Forall₂ (fun entry entry' => (entry.1, entry'.1) ∈ labels.zip labels' ∧ entry.2 = entry'.2)
      (ofStops root labels (Field.stops fields)).paths.entries
      (ofStops root labels' (Field.stops fields)).paths.entries := by
  have hsame : labels.length = labels'.length := hlength.trans hlength'.symm
  rw [entries_paths_ofStops root hlength hnodup, entries_paths_ofStops root hlength' hnodup']
  exact Stop.forall₂_filterMap fun s hs =>
    Stop.place?_sameUpTo hsame (namedBy_of_mem_stops hlength s hs)

variable {σ τ : Type} [AliasSource σ] [AliasSource τ]

/-- **Plans do not depend on the source of the aliases**, up to renaming. Two attempts to plan some
fields of a collection, in any contexts and with sources of any kinds, ask for the same seeds if both
succeed. The plans are the same up to the aliases given at each turn; if the aliases of each attempt
differ from each other, the places in the nested result are the same, in the same order, under
corresponding aliases.

**Proof sketch.** The record of each attempt is the list of the seeds of the walk with their answers,
and each plan is that of the stops with these answers. A stop has the same part in both plans but for
its alias, which has the number of the stop, and its table, which is the root or the alias with the
number of the relation around it. -/
theorem ofFields_sameUpTo {collection : String} {plan plan' : Plan}
    {context context₁ : Context σ} {context' context₁' : Context τ}
    (h : exec (ofFields collection fields) context = (.ok plan, context₁))
    (h' : exec (ofFields collection fields) context' = (.ok plan', context₁')) :
    ∃ seeds labels labels' : List String,
      labels.length = seeds.length ∧ labels'.length = seeds.length ∧
      asked collection fields context = seeds.zip (labels.map .ok) ∧
      asked collection fields context' = seeds.zip (labels'.map .ok) ∧
      SameUpTo collection (labels.zip labels') plan plan' ∧
      (labels.Nodup → labels'.Nodup →
        List.Forall₂
          (fun entry entry' => (entry.1, entry'.1) ∈ labels.zip labels' ∧ entry.2 = entry'.2)
          plan.paths.entries plan'.paths.entries) := by
  obtain ⟨labels, hlength, hasked, rfl⟩ := exists_asked h
  obtain ⟨labels', hlength', hasked', rfl⟩ := exists_asked h'
  exact ⟨_, labels, labels', hlength, hlength', hasked, hasked', ofStops_sameUpTo hlength hlength',
    forall₂_paths_ofStops hlength hlength'⟩

/-- A random source with one digit, whose tokens begin with the digits `3` and `c` in turn. -/
def alternatingAliases : RandomAliases where
  suffixLength := 1
  retryLimit := 0
  tokens n := if n % 2 = 0 then 0x30000000000000000000000000000000 else
    0xC0000000000000000000000000000000

/-- A request for the author of an article, with a composite key and a deferred query. -/
def authorRequest : List Field :=
  [.column "id",
    .toOne ⟨["author", "site"], "pg", "users", ["id", "site"]⟩
      [.column "name", .toMany ⟨["id"], "pg", "posts", ["author"]⟩ [.column "title"]]]

/-- An outcome that shows the tables of a plan is that plan. -/
private lemma exists_plan_of_tables {τ : Type} {outcome : Except Fault Plan × τ} {tables : List String}
    (h : (outcome.1.map fun p => p.select.map SelectItem.table) = .ok tables) :
    ∃ p s, outcome = (.ok p, s) ∧ p.select.map SelectItem.table = tables := by
  obtain ⟨_ | p, s⟩ := outcome
  · cases h
  · exact ⟨p, s, rfl, Except.ok.inj h⟩

/-- The answers on a record are the aliases that were given. -/
private lemma eq_of_zip_answers {seeds labels answers : List String}
    (hlength : labels.length = seeds.length)
    (h : (seeds.zip (labels.map Except.ok)).map Prod.snd = answers.map (Except.ok : String → Except Fault String)) :
    labels = answers := by
  rw [List.map_snd_zip (by rw [List.length_map, hlength])] at h
  exact List.map_injective_iff.2 (fun _ _ => Except.ok.inj) h

/-- The request of `authorRequest` planned with a counter, and with random digits. The aliases of either
plan differ from each other, so both columns have the same place under their two aliases. -/
theorem ofFields_sameUpTo_authorRequest :
    ∃ plan plan' context₁ context₁',
      exec (ofFields "articles" authorRequest) { aliases := BuiltinAliases.sequential {} } =
        (.ok plan, context₁) ∧
      exec (ofFields "articles" authorRequest) { aliases := alternatingAliases } =
        (.ok plan', context₁') ∧
      plan.select.map SelectItem.table = ["articles", "users_2"] ∧
      plan'.select.map SelectItem.table = ["articles", "users_c"] ∧
      ∃ pairs, pairs = [("id_1", "id_3"), ("users_2", "users_c"), ("name_3", "name_3")] ∧
        SameUpTo "articles" pairs plan plan' ∧
        List.Forall₂ (fun entry entry' => (entry.1, entry'.1) ∈ pairs ∧ entry.2 = entry'.2)
          plan.paths.entries plan'.paths.entries := by
  obtain ⟨plan, context₁, h, htables⟩ : ∃ p s,
      exec (ofFields "articles" authorRequest) { aliases := BuiltinAliases.sequential {} } = (.ok p, s) ∧
        p.select.map SelectItem.table = ["articles", "users_2"] := exists_plan_of_tables rfl
  obtain ⟨plan', context₁', h', htables'⟩ : ∃ p s,
      exec (ofFields "articles" authorRequest) { aliases := alternatingAliases } = (.ok p, s) ∧
        p.select.map SelectItem.table = ["articles", "users_c"] := exists_plan_of_tables rfl
  obtain ⟨_, labels, labels', hlength, hlength', hasked, hasked', hsame, hpaths⟩ :=
    ofFields_sameUpTo h h'
  obtain rfl : labels = ["id_1", "users_2", "name_3"] :=
    eq_of_zip_answers hlength ((congrArg (List.map Prod.snd) hasked).symm.trans rfl)
  obtain rfl : labels' = ["id_3", "users_c", "name_3"] :=
    eq_of_zip_answers hlength' ((congrArg (List.map Prod.snd) hasked').symm.trans rfl)
  exact ⟨plan, plan', context₁, context₁', h, h', htables, htables', _, rfl, hsame,
    hpaths (by decide) (by decide)⟩

end Plan

end ClausePlan
