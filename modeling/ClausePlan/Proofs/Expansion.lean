import ClausePlan.Proofs.Branches
import ClausePlan.Proofs.Query
import Mathlib.Algebra.Order.Group.Multiset
import Mathlib.Logic.Relation
import Mathlib.Tactic.Abel
/-!
# Making all deferred queries

A plan is expanded by making its deferred queries, then those that these defer, and so on, in any
order and each in a context of its own. However this is done, it comes to an end. If no call fails,
then the plan and the queries that are made cover the request: each node of it is planned once, in the
pass that meets it.

## Main definitions

* `ClausePlan.Plan.Covers` — a plan shows, joins and defers what some nodes ask for, in order.
* `ClausePlan.SubQuery.IsOf` — a query is that of a branch of a request.
* `ClausePlan.Plan.CoverTogether` — some plans cover some nodes, each node in one of the plans.
* `ClausePlan.Expansion`, `ClausePlan.Expansion.Step` — how far a plan has been expanded, and one more
  call.
* `ClausePlan.Expansion.Progress` — what holds while a plan is being expanded.

## Main results

* `ClausePlan.Plan.covers_of_ofFields`, `ClausePlan.Branch.isOf_of_generate` — what one pass covers.
* `ClausePlan.Expansion.wellFounded_step` — no expansion goes on forever.
* `ClausePlan.Expansion.Progress.step` — one more call preserves what holds of an expansion.
* `ClausePlan.Expansion.lossless` — an expansion that is complete covers the request.
-/

namespace ClausePlan

/-! ## What one pass covers -/

/-- The plan shows, joins and defers what the nodes ask for, in order, and nothing else. -/
structure Plan.Covers (plan : Plan) (nodes : List Field) : Prop where
  /-- There is an output column for each column, plain or computed. -/
  select : plan.select.map SelectItem.shown = nodes.filterMap Field.shown?
  /-- There is a join for each to-one relation. -/
  joins : plan.joins.map JoinClause.link = nodes.filterMap Field.link?
  /-- There is a deferred query for each to-many relation. -/
  deferred : plan.deferred = (nodes.filterMap Field.branch?).map Branch.deferral

/-- The plan that a sub-query is made from. -/
def SubQuery.plan (sub : SubQuery) : Plan where
  select := sub.select
  joins := sub.joins
  parameters := sub.parameters
  paths := sub.paths
  deferred := sub.deferred

/-- The sub-query is that of a branch: it asks the store and the collection on the far side, and it
covers the nodes that the walk through the fields of the branch meets. -/
structure SubQuery.IsOf (sub : SubQuery) (b : Branch) : Prop where
  /-- The store is that of the foreign collection. -/
  store : sub.store = b.relation.store
  /-- The query starts from the foreign collection. -/
  source : sub.source = b.relation.collection
  /-- The nodes are covered. -/
  covers : sub.plan.Covers (Field.met b.fields)

namespace Stop

/-- The join of a stop makes the link of the relation, if the key of the relation is sound. -/
lemma map_link_join? (root : String) (labels : List String) {s : Stop}
    (h : ∀ r ∈ s.relation?, r.localColumns.length = r.foreignColumns.length) :
    (s.join? root labels).map JoinClause.link = s.field.link? := by
  obtain ⟨field, trail, parent, number⟩ := s
  cases field with
  | column _ => rfl
  | computed _ _ => rfl
  | toOne r _ => exact congrArg some (Relation.link_join (h r rfl) _ _)
  | toMany _ _ => rfl

/-- The deferred query of a stop is that of its branch. -/
lemma map_deferral_branch? (s : Stop) :
    s.field.branch?.map Branch.deferral = s.deferred? := by
  obtain ⟨_ | _ | _ | _, trail, parent, number⟩ := s <;> rfl

end Stop

section Pass

variable {σ : Type} [AliasSource σ] {context context' : Context σ}

/-- Planning that succeeds covers the nodes that the walk meets.

**Proof sketch.** The plan is that of the stops of the walk. Each stop adds what its node asks for; the
keys of the relations are sound, so each join tells all of its link. -/
lemma Plan.covers_of_ofFields {collection : String} {fields : List Field} {plan : Plan}
    (h : exec (ofFields collection fields) context = (.ok plan, context')) :
    plan.Covers (Field.met fields) := by
  have hkey := fun s hs r hr => ((Query.Planned.ofFields h).key (s := s) hs (r := r) hr).1
  obtain ⟨labels, -, rfl, -⟩ := drawAll_of_ofFields h
  refine ⟨?_, ?_, ?_⟩
  · rw [ofStops, List.map_filterMap, Field.met, List.filterMap_map]
    exact List.filterMap_congr fun s _ => s.map_shown_item? collection labels
  · rw [ofStops, List.map_filterMap, Field.met, List.filterMap_map]
    exact List.filterMap_congr fun s hs => s.map_link_join? collection labels (hkey s hs)
  · rw [ofStops, List.map_filterMap, Field.met, List.filterMap_map]
    exact List.filterMap_congr fun s _ => s.map_deferral_branch?.symm

/-- A deferred query that is made is the one of its branch. -/
lemma Branch.isOf_of_generate {b : Branch} {keys : List Json} {sub : SubQuery}
    (h : exec (b.deferral.generate keys) context = (.ok sub, context')) : sub.IsOf b := by
  obtain ⟨plan, hplan, rfl⟩ := Query.Planned.exists_plan_of_generate h
  obtain ⟨hselect, hjoins, hdeferred⟩ := Plan.covers_of_ofFields hplan
  exact ⟨rfl, rfl, hselect, hjoins, hdeferred⟩

end Pass

/-! ## What several passes cover -/

/-- Some plans show, join and defer what some nodes ask for, each node in one of the plans. -/
structure Plan.CoverTogether (plans : List Plan) (nodes : List Field) : Prop where
  /-- There is an output column for each column, plain or computed. -/
  select : ((plans.flatMap Plan.select).map SelectItem.shown).Perm (nodes.filterMap Field.shown?)
  /-- There is a join for each to-one relation. -/
  joins : ((plans.flatMap Plan.joins).map JoinClause.link).Perm (nodes.filterMap Field.link?)
  /-- There is a deferred query for each to-many relation. -/
  deferred : (plans.flatMap Plan.deferred).Perm
    ((nodes.filterMap Field.branch?).map Branch.deferral)

/-- Plans that cover the parts of some nodes, one part each, cover the nodes together. -/
lemma Plan.coverTogether_of_forall₂ {plans : List Plan} {parts : List (List Field)}
    {nodes : List Field} (h : List.Forall₂ Plan.Covers plans parts)
    (hparts : parts.flatten.Perm nodes) : Plan.CoverTogether plans nodes := by
  have hcovers : (plans.flatMap Plan.select).map SelectItem.shown =
        parts.flatten.filterMap Field.shown? ∧
      (plans.flatMap Plan.joins).map JoinClause.link = parts.flatten.filterMap Field.link? ∧
      plans.flatMap Plan.deferred =
        (parts.flatten.filterMap Field.branch?).map Branch.deferral := by
    induction h generalizing nodes with
    | nil => exact ⟨rfl, rfl, rfl⟩
    | cons hcovers _ ih =>
      obtain ⟨hselect, hjoins, hdeferred⟩ := ih (.refl _)
      simp only [List.flatMap_cons, List.flatten_cons, List.map_append, List.filterMap_append,
        hcovers.select, hcovers.joins, hcovers.deferred, hselect, hjoins, hdeferred, true_and]
  obtain ⟨hselect, hjoins, hdeferred⟩ := hcovers
  exact ⟨hselect ▸ hparts.filterMap _, hjoins ▸ hparts.filterMap _,
    hdeferred ▸ (hparts.filterMap _).map _⟩

/-! ## Expansions -/

/-- How far the deferred queries of a plan have been made. -/
structure Expansion where
  /-- The queries that have been made. -/
  made : List SubQuery
  /-- The faults of the calls that failed. -/
  faults : List Fault
  /-- The queries that are still deferred. -/
  pending : List Deferred

namespace Expansion

/-- Nothing has been done for a plan yet. -/
def start (plan : Plan) : Expansion :=
  ⟨[], [], plan.deferred⟩

/-- One of the deferred queries is made, whichever, for whatever key values and in whatever context.
What it defers in turn takes its place. -/
inductive Step : Expansion → Expansion → Prop
  /-- The call succeeds. -/
  | generate {σ : Type} [AliasSource σ] {context context' : Context σ} {made : List SubQuery}
    {faults : List Fault} {before after : List Deferred} {d : Deferred} {keys : List Json}
    {sub : SubQuery} :
    exec (d.generate keys) context = (.ok sub, context') →
      Step ⟨made, faults, before ++ d :: after⟩
        ⟨made ++ [sub], faults, before ++ sub.deferred ++ after⟩
  /-- The call fails. -/
  | fault {σ : Type} [AliasSource σ] {context context' : Context σ} {made : List SubQuery}
    {faults : List Fault} {before after : List Deferred} {d : Deferred} {keys : List Json}
    {fault : Fault} :
    exec (d.generate keys) context = (.error fault, context') →
      Step ⟨made, faults, before ++ d :: after⟩ ⟨made, faults ++ [fault], before ++ after⟩

/-! ## Termination -/

/-- How many nodes are left at most: those below the deferred queries, and one more for each query. -/
def nodesLeft (e : Expansion) : Nat :=
  (e.pending.flatMap fun d => Field.nodesOfList d.query.fields).length + e.pending.length

/-- A call leaves fewer nodes.

**Proof sketch.** A query that is made defers only what its walk meets, and the walk does not meet the
nodes below that. -/
lemma Step.nodesLeft_lt {e e' : Expansion} (h : Step e e') : e'.nodesLeft < e.nodesLeft := by
  cases h with
  | @generate σ _ context context' made faults before after d keys sub hsub =>
    obtain ⟨plan, hplan, rfl⟩ := Query.Planned.exists_plan_of_generate hsub
    have hdeferred : (d.query.subQuery keys plan).deferred =
        (Field.branchesMet d.query.fields).map Branch.deferral :=
      (Plan.covers_of_ofFields hplan).deferred
    have hbelow : ((Field.branchesMet d.query.fields).map Branch.deferral).flatMap
          (fun d => Field.nodesOfList d.query.fields) =
        (Field.branchesMet d.query.fields).flatMap fun b => Field.nodesOfList b.fields :=
      List.flatMap_map _ _ _
    have hle := Field.length_branchesMet_le d.query.fields
    simp only [nodesLeft, hdeferred, hbelow, List.flatMap_append, List.flatMap_cons,
      List.length_append, List.length_cons, List.length_map]
    omega
  | fault _ =>
    simp only [nodesLeft, List.flatMap_append, List.flatMap_cons, List.length_append,
      List.length_cons]
    omega

/-- **No expansion goes on forever.** -/
lemma wellFounded_step : WellFounded fun later earlier => Step earlier later :=
  Subrelation.wf Step.nodesLeft_lt (measure nodesLeft).wf

/-! ## Progress -/

/-- What holds of an expansion in which no call has failed, given the branches of the queries that have
been made and those that wait. -/
structure Progress (fields : List Field) (e : Expansion) (made waiting : List Branch) : Prop where
  /-- The queries are those of the first branches. -/
  isOf : List.Forall₂ SubQuery.IsOf e.made made
  /-- The deferred queries are those of the second branches. -/
  pending : e.pending = waiting.map Branch.deferral
  /-- These are the branches that the walks have met by now. -/
  branches : (made ++ waiting).Perm
    (Field.branchesMet fields ++ made.flatMap fun b => Field.branchesMet b.fields)
  /-- Each node of the request has been met or lies below a branch that waits. -/
  nodes : (Field.met fields ++ (made.flatMap fun b => Field.met b.fields) ++
    waiting.flatMap fun b => Field.nodesOfList b.fields).Perm (Field.nodesOfList fields)

/-- At the start, the branches that the first walk meets are waiting. -/
lemma progress_start {fields : List Field} {plan : Plan} (h : plan.Covers (Field.met fields)) :
    Progress fields (start plan) [] (Field.branchesMet fields) where
  isOf := .nil
  pending := h.deferred
  branches := by simp
  nodes := by simpa using (Field.nodesOfList_perm fields).symm

/-- **One more call preserves what holds of an expansion**, unless it fails. -/
lemma Progress.step {fields : List Field} {e e' : Expansion} {made waiting : List Branch}
    (h : Progress fields e made waiting) (hstep : Step e e') (hfaults : e'.faults = []) :
    ∃ made' waiting', Progress fields e' made' waiting' := by
  cases hstep with
  | fault _ => simp at hfaults
  | @generate σ _ context context' subs faults before after d keys sub hsub =>
    obtain ⟨hmade, hpending, hbranches, hnodes⟩ := h
    obtain ⟨before, rest, rfl, rfl, hrest⟩ := List.map_eq_append_iff.1 hpending.symm
    obtain ⟨b, after, rfl, rfl, rfl⟩ := List.map_eq_cons_iff.1 hrest
    have hof := b.isOf_of_generate hsub
    refine ⟨made ++ [b], before ++ Field.branchesMet b.fields ++ after, ?_, ?_, ?_, ?_⟩
    · exact List.rel_append hmade (.cons hof .nil)
    · simp only [List.map_append, Field.branchesMet, ← hof.covers.deferred]
      rfl
    · -- the branch does not wait any more, and those met below it do
      have hmoved : (made ++ [b] ++ (before ++ Field.branchesMet b.fields ++ after)).Perm
          (made ++ (before ++ b :: after) ++ Field.branchesMet b.fields) := by
        simp only [← Multiset.coe_eq_coe, ← Multiset.coe_add, ← Multiset.cons_coe,
          ← Multiset.singleton_add, Multiset.coe_nil]
        abel
      rw [List.flatMap_append, List.flatMap_singleton,
        ← List.append_assoc (Field.branchesMet fields)]
      exact hmoved.trans (hbranches.append_right _)
    · -- of the nodes below the branch, some are met now, and the others wait with their branches
      have hbelow := Field.nodesOfList_perm b.fields
      simp only [List.flatMap_append, List.flatMap_cons, List.flatMap_nil, List.append_nil,
        ← Multiset.coe_eq_coe, ← Multiset.coe_add] at hnodes hbelow ⊢
      rw [← hnodes, hbelow]
      abel

/-- What holds of an expansion in which no call has failed.

**Proof sketch.** Induction on the calls. If no call has failed now, none had before the last one. -/
lemma exists_progress {fields : List Field} {plan : Plan} (h : plan.Covers (Field.met fields))
    {e : Expansion} (hrun : Relation.ReflTransGen Step (start plan) e) (hfaults : e.faults = []) :
    ∃ made waiting, Progress fields e made waiting := by
  induction hrun with
  | refl => exact ⟨_, _, progress_start h⟩
  | @tail e e' _ hstep ih =>
    have hbefore : e.faults = [] := by
      cases hstep with
      | generate _ => exact hfaults
      | fault _ => simp at hfaults
    obtain ⟨made, waiting, hprogress⟩ := ih hbefore
    exact hprogress.step hstep hfaults

/-! ## Complete expansions -/

/-- **Deferral loses nothing and duplicates nothing.** The deferred queries of a plan can be made in any
order, for any key values and each in any context, and so can those that they defer in turn: this comes
to an end. The plan covers the nodes that the first walk meets, in preorder. If no call has failed when
nothing is deferred any more, one query has been made for each to-many relation of the request, at any
depth. It asks the far side of the relation and covers the nodes that the walk below the relation meets,
in preorder. Together, the plan and the queries cover all nodes of the request, each node once.

**Proof sketch.** Each call leaves fewer nodes. As long as no call fails, the branches met by now are
those of the queries that have been made and of those that wait, and each node of the request has been
met or lies below a branch that waits. At the end no branch waits. -/
theorem lossless {σ : Type} [AliasSource σ] {collection : String} {fields : List Field} {plan : Plan}
    {context context' : Context σ}
    (h : exec (Plan.ofFields collection fields) context = (.ok plan, context')) :
    Acc (fun later earlier => Step earlier later) (start plan) ∧
      plan.Covers (Field.met fields) ∧
      ∀ e, Relation.ReflTransGen Step (start plan) e → e.pending = [] → e.faults = [] →
        (∃ branches, branches.Perm (Field.branches fields) ∧
          List.Forall₂ SubQuery.IsOf e.made branches) ∧
        Plan.CoverTogether (plan :: e.made.map SubQuery.plan) (Field.nodesOfList fields) := by
  have hcovers := Plan.covers_of_ofFields h
  refine ⟨wellFounded_step.apply _, hcovers, fun e hrun hpending hfaults => ?_⟩
  obtain ⟨made, waiting, hmade, hwaiting, hbranches, hnodes⟩ := exists_progress hcovers hrun hfaults
  obtain rfl : waiting = [] := by simpa [hpending] using hwaiting.symm
  rw [List.flatMap_nil, List.append_nil] at hnodes
  refine ⟨⟨made, ?_, hmade⟩, Plan.coverTogether_of_forall₂ (.cons hcovers ?_) hnodes⟩
  · -- the branches that have been met are those among the nodes that have been met
    have hmet := hnodes.filterMap Field.branch?
    rw [List.filterMap_append, List.filterMap_flatMap] at hmet
    rw [List.append_nil] at hbranches
    exact hbranches.trans hmet
  · rw [List.forall₂_map_left_iff, List.forall₂_map_right_iff]
    exact hmade.imp fun _ _ hof => hof.covers

/-- The branch of the lines of an order. -/
def linesBranch : Branch :=
  ⟨⟨["id"], "mongo", "lines", ["order_id"]⟩, [.column "sku"]⟩

/-- The branch of the orders of a customer, with their lines. -/
def ordersBranch : Branch :=
  ⟨⟨["id"], "pg", "orders", ["customer_id"]⟩,
    [.column "date", .toMany linesBranch.relation linesBranch.fields]⟩

/-- A request with a to-many relation below a to-one relation, and another one below that. -/
def invoiceRequest : List Field :=
  [.toOne ⟨["customer"], "pg", "customers", ["id"]⟩
      [.column "name", .toMany ordersBranch.relation ordersBranch.fields],
    .column "id"]

/-- The two deferred queries of `invoiceRequest` can be made, each in a fresh context, and then all of
its nodes are covered. -/
theorem lossless_invoiceRequest :
    ∃ plan context' e,
      exec (Plan.ofFields "invoices" invoiceRequest) { aliases := BuiltinAliases.sequential {} } =
          (.ok plan, context') ∧
        Relation.ReflTransGen Step (start plan) e ∧ e.pending = [] ∧ e.faults = [] ∧
        e.made.map SubQuery.store = ["pg", "mongo"] ∧
        Plan.CoverTogether (plan :: e.made.map SubQuery.plan) (Field.nodesOfList invoiceRequest) := by
  have hplan : exec (Plan.ofFields "invoices" invoiceRequest)
      { aliases := BuiltinAliases.sequential {} } = (.ok _, _) := rfl
  have hrun := Relation.ReflTransGen.tail
    (.single (@Step.generate _ _ { aliases := BuiltinAliases.sequential {} } _ [] [] [] []
      ordersBranch.deferral [.null] _ rfl))
    (@Step.generate _ _ { aliases := BuiltinAliases.sequential {} } _ _ _ [] []
      linesBranch.deferral [.null] _ rfl)
  exact ⟨_, _, _, hplan, hrun, rfl, rfl, rfl, ((lossless hplan).2.2 _ hrun rfl rfl).2⟩

end Expansion

end ClausePlan
