import ClausePlan.Proofs.Assembly
import ClausePlan.Proofs.Siblings
/-!
# Folding in the plans of a chain

The plan of a relation is merged into that of the collection before it, and so it is merged together with
all plans that have been merged into it. It may as well be merged in first, and the others after it: then
they have to be moved below more collections by hand. Merging is thus associative up to the places of the
output columns, also where plans share aliases, and the plans of a chain of relations can be folded in
from either end.

## Main definitions

* `ClausePlan.Plan.mergeAt` — merging at the end of a trail of collections.
* `ClausePlan.Plan.foldInnermost`, `ClausePlan.Plan.foldOutermost` — the plans of a chain, folded in from
  either end.
* `ClausePlan.Field.chained`, `ClausePlan.Field.planChain` — the request of a chain, and planning it with
  every plan put into the whole at once.

## Main results

* `ClausePlan.Plan.mergeAt_merge` — merging plans one into the other, or both into a third one.
* `ClausePlan.Field.planChain_eq` — planning a chain from the outside in.
* `ClausePlan.Plan.merge_associative` — associativity, for three plans, for chains, and for planning.
-/

namespace ClausePlan

/-! ## Merging at the end of a trail -/

namespace Plan

/-- Plans one behind the other are moved below a collection one by one. -/
lemma below_append (collection : String) (p q : Plan) :
    (p ++ q).below collection = p.below collection ++ q.below collection := by
  apply eq_of_parts
  · rfl
  · rfl
  · rfl
  · exact OrderedMap.mapValues_insertAll _ _ _
  · rfl

/-- The plan with the place of every output column moved below some collections, from the outside in. -/
def belowAll (trail : Path) (p : Plan) : Plan :=
  trail.foldr below p

/-- Plans one behind the other are moved below some collections one by one. -/
lemma belowAll_append (trail : Path) (p q : Plan) :
    (p ++ q).belowAll trail = p.belowAll trail ++ q.belowAll trail := by
  induction trail with
  | nil => rfl
  | cons collection trail ih =>
    show ((p ++ q).belowAll trail).below collection = _
    rw [ih, below_append]
    rfl

/-- The innermost collection is the first one that a plan is moved below. -/
lemma belowAll_concat (trail : Path) (collection : String) (p : Plan) :
    p.belowAll (trail ++ [collection]) = (p.below collection).belowAll trail :=
  List.foldr_append

/-- The plan with a plan taken in at the end of a trail of collections: it is moved below all of them but
the outermost one, and merged in under that. Without any collection it is put behind the others. -/
def mergeAt (p child : Plan) : Path → Plan
  | [] => p ++ child
  | collection :: trail => p.merge (child.belowAll trail) collection

/-- A plan that is taken in stands behind the others, below the collections of the trail. -/
lemma mergeAt_eq_append (p child : Plan) (trail : Path) :
    p.mergeAt child trail = p ++ child.belowAll trail := by
  cases trail with
  | nil => rfl
  | cons collection trail => exact merge_eq_append p _ collection

/-- **Taking in a plan that another one is merged into** is taking in this plan, and then the other one
below a collection more. -/
lemma mergeAt_merge (p q child : Plan) (trail : Path) (collection : String) :
    p.mergeAt (q.merge child collection) trail =
      (p.mergeAt q trail).mergeAt child (trail ++ [collection]) := by
  simp only [mergeAt_eq_append, merge_eq_append, belowAll_append, belowAll_concat, append_assoc]

/-! ## Chains of plans -/

/-- The plans of a chain of relations, each with its collection, folded in from the innermost one: each
plan takes in all that comes after it before it is merged itself. -/
def foldInnermost (p : Plan) : List (String × Plan) → Plan
  | [] => p
  | (collection, child) :: chain => p.merge (child.foldInnermost chain) collection

/-- The plans of a chain of relations below a trail, each with its collection, folded in from the outermost
one: each plan is put into the whole before those after it. -/
def foldOutermost (p : Plan) (trail : Path) : List (String × Plan) → Plan
  | [] => p
  | (collection, child) :: chain =>
    (p.mergeAt child (trail ++ [collection])).foldOutermost (trail ++ [collection]) chain

/-- Taking in a chain that has been folded from the innermost plan is folding it from the outermost one. -/
lemma mergeAt_foldInnermost (p q : Plan) (trail : Path) (chain : List (String × Plan)) :
    p.mergeAt (q.foldInnermost chain) trail = (p.mergeAt q trail).foldOutermost trail chain := by
  induction chain generalizing p q trail with
  | nil => rfl
  | cons link chain ih =>
    obtain ⟨collection, child⟩ := link
    rw [foldInnermost, mergeAt_merge, ih, foldOutermost]

end Plan

/-! ## Planning a chain -/

namespace PlanM

variable {σ α β : Type}

/-- A step inside a relation whose answer is changed afterwards, in the relation or outside of it. -/
lemma deeper_map (collection : String) (f : α → β) (step : PlanM σ α) :
    deeper collection (do return f (← step)) = (do return f (← deeper collection step)) := by
  funext context
  show exec (deeper collection (do return f (← step))) context =
    exec (do return f (← deeper collection step)) context
  rw [exec_map f, exec_deeper, exec_deeper, exec_map f]
  split_ifs <;> rfl

/-- A step for a table whose answer is changed afterwards. -/
lemma named_map (table : String) (f : α → β) (step : PlanM σ α) :
    named table (do return f (← step)) = (do return f (← named table step)) := by
  unfold named
  split_ifs <;> rfl

end PlanM

namespace Field

variable {σ : Type} [AliasSource σ]

/-- The request of a chain: some fields of a collection, and behind them a relation to the next collection
of the chain, with its fields in the same way. -/
def chained (own : List Field) : List (Relation × List Field) → List Field
  | [] => own
  | (r, fields) :: chain => own ++ [.toOne r (chained fields chain)]

/-- Plans the request of a chain of a table at the end of a trail. The plan of each collection is put into
the whole as soon as its own fields have been planned. -/
def planChain (table : String) (whole : Plan) (trail : Path) (own : List Field) :
    List (Relation × List Field) → PlanM σ Plan
  | [] => do return whole.mergeAt (← planAll table ∅ own) trail
  | (r, fields) :: chain => do
    let p ← planAll table ∅ own
    let _ ← MonadExcept.ofExcept (r.arity table)
    let label ← PlanM.newAlias r.collection
    let join ← MonadExcept.ofExcept (r.joinClause table label)
    PlanM.deeper r.collection (PlanM.named label
      (planChain label (whole.mergeAt (p ++ .ofJoin join) trail) (trail ++ [r.collection]) fields chain))

/-- **Planning a chain from the outside in** puts its plan into the whole, with the same outcome and the
same context. -/
lemma planChain_eq (table : String) (whole : Plan) (trail : Path) (own : List Field)
    (chain : List (Relation × List Field)) :
    (planChain table whole trail own chain : PlanM σ Plan) =
      (do return whole.mergeAt (← planAll table ∅ (chained own chain)) trail) := by
  induction chain generalizing table whole trail own with
  | nil => rfl
  | cons link chain ih =>
    obtain ⟨r, fields⟩ := link
    simp only [planChain, ih, PlanM.named_map, PlanM.deeper_map, chained, planAll_append, planAll, plan,
      bind_assoc, pure_bind]
    -- the plans below have been put together on the one side, and into the whole on the other
    simp only [← Plan.mergeAt_merge, Plan.merge_eq_append, Plan.append_assoc]

end Field

namespace Plan

variable {σ : Type} [AliasSource σ]

/-- **Merging plans is associative**, up to the places of the output columns. For any three plans, also
where they share aliases, merging the third one into the second and the outcome into the first gives the
same plan, with its places in the same order, as merging the second one into the first, and then the third
one with its own collection in front of each place. So it makes no difference from which end the plans of
a chain of relations are folded in. Planning the request of a chain folds them in from the innermost one;
planned from the outermost one, it has the same outcome and leaves the same context, for every alias
source.

**Proof sketch.** A plan that is merged in stands behind the others, below its collection. Putting plans
one behind the other is associative, even where aliases repeat, and moving them below a collection can be
done before it or after it. For a chain this is used once for each relation. -/
theorem merge_associative :
    (∀ (p q r : Plan) (f g : String), p.merge (q.merge r g) f = (p.merge q f).merge (r.below g) f) ∧
    (∀ (p : Plan) (chain : List (String × Plan)), p.foldInnermost chain = p.foldOutermost [] chain) ∧
    ∀ (collection : String) (own : List Field) (chain : List (Relation × List Field)),
      (ofFields collection (Field.chained own chain) : PlanM σ Plan) =
        PlanM.named collection (Field.planChain collection ∅ [] own chain) := by
  refine ⟨fun p q r f g => mergeAt_merge p q r [f] g, fun p chain => ?_, fun collection own chain => ?_⟩
  · cases chain with
    | nil => rfl
    | cons link chain => exact mergeAt_foldInnermost p link.2 [link.1] chain
  · rw [Field.planChain_eq, ofFields]
    simp only [mergeAt, empty_append, bind_pure]

end Plan

end ClausePlan
