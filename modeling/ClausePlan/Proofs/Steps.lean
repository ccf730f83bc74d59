import ClausePlan.Plan.SubQuery
import Mathlib.Tactic.Lemma
import Mathlib.Tactic.SplitIfs
/-!
# What the steps of planning do to the context

A step takes a context and yields an outcome and another context, and it does so on failure too.
Each lemma below says what one of the building blocks yields from a given state, so that later
arguments run a plan without unfolding the monads that it is written in.

## Main definitions

* `ClausePlan.exec` — the outcome of a step from a state, with the state that it leaves.

## Main results

* `ClausePlan.exec_bind`, `ClausePlan.exec_bind_ok_iff` — two steps in a row: a fault of the first
  one is the outcome, and the second one is not run.
* `ClausePlan.PlanM.exec_newAlias`, `ClausePlan.PlanM.exec_deeper`, `ClausePlan.PlanM.exec_named`,
  `ClausePlan.PlanM.exec_withFreshSlots` — the steps that touch the context.
* `ClausePlan.Relation.joinClause_of_arity`, `ClausePlan.Relation.deferred_ofRelation` — what a
  relation with a sound key amounts to.
-/

namespace ClausePlan

/-! ## Steps in general -/

section Steps

variable {τ α β : Type}

/-- The outcome of a step from a state, and the state that the step leaves. -/
def exec (step : ExceptT Fault (StateM τ) α) (s : τ) : Except Fault α × τ :=
  step.run s

@[simp] lemma exec_pure (a : α) (s : τ) :
    exec (pure a : ExceptT Fault (StateM τ) α) s = (.ok a, s) := rfl

@[simp] lemma exec_throw (e : Fault) (s : τ) :
    exec (throw e : ExceptT Fault (StateM τ) α) s = (.error e, s) := rfl

@[simp] lemma exec_get (s : τ) : exec (get : ExceptT Fault (StateM τ) τ) s = (.ok s, s) := rfl

@[simp] lemma exec_set (s' s : τ) :
    exec (set s' : ExceptT Fault (StateM τ) PUnit) s = (.ok (), s') := rfl

@[simp] lemma exec_ofExcept (e : Except Fault α) (s : τ) :
    exec (MonadExcept.ofExcept e : ExceptT Fault (StateM τ) α) s = (e, s) := by
  cases e <;> rfl

/-- A fault of the first step ends a sequence of steps, with the state that the step leaves. -/
lemma exec_bind (x : ExceptT Fault (StateM τ) α) (f : α → ExceptT Fault (StateM τ) β) (s : τ) :
    exec (x >>= f) s =
      match exec x s with
      | (.ok a, s') => exec (f a) s'
      | (.error e, s') => (.error e, s') := by
  show (fun r : Except Fault α × τ => ExceptT.bindCont f r.1 r.2) (exec x s) = _
  rcases exec x s with ⟨_ | _, _⟩ <;> rfl

/-- A step whose answer is changed afterwards leaves the same state. -/
lemma exec_map (f : α → β) (x : ExceptT Fault (StateM τ) α) (s : τ) :
    exec (do return f (← x)) s = ((exec x s).1.map f, (exec x s).2) := by
  rw [exec_bind]
  rcases exec x s with ⟨_ | _, _⟩ <;> rfl

/-- A sequence of steps succeeds if each of them does. -/
lemma exec_bind_ok_iff {x : ExceptT Fault (StateM τ) α} {f : α → ExceptT Fault (StateM τ) β}
    {s s' : τ} {b : β} :
    exec (x >>= f) s = (.ok b, s') ↔
      ∃ a s₁, exec x s = (.ok a, s₁) ∧ exec (f a) s₁ = (.ok b, s') := by
  rw [exec_bind]
  rcases exec x s with ⟨_ | a, s₁⟩
  · simp
  · simp only [Prod.mk.injEq, Except.ok.injEq]
    constructor
    · intro h
      exact ⟨a, s₁, ⟨rfl, rfl⟩, h⟩
    · rintro ⟨_, _, ⟨rfl, rfl⟩, h⟩
      exact h

end Steps

/-! ## Steps of planning -/

namespace PlanM

variable {σ α : Type}

/-- A new alias costs one draw from the source, whatever its outcome. -/
lemma exec_newAlias [AliasSource σ] (seed : String) (context : Context σ) :
    exec (newAlias seed : PlanM σ String) context =
      ((AliasSource.draw seed context.aliases).1,
        { context with aliases := (AliasSource.draw seed context.aliases).2 }) := by
  simp only [newAlias, exec_bind, exec_get, exec_set, exec_ofExcept]

/-- A step inside a relation is run one level further down, and it is left even if the step fails;
where the settings allow no more nesting it is not run at all. -/
lemma exec_deeper (collection : String) (step : PlanM σ α) (context : Context σ) :
    exec (deeper collection step) context =
      if context.settings.maxDepth.toNat ≤ context.depth then
        (.error (.tooDeep collection context.settings.maxDepth.toNat), context)
      else
        ((exec step { context with depth := context.depth + 1 }).1,
          (exec step { context with depth := context.depth + 1 }).2.ascended) := by
  simp only [deeper, exec_bind, descend, exec_get]
  split_ifs with h
  · rfl
  · rfl

/-- A step for a table is run if the table has a name. -/
lemma exec_named (table : String) (step : PlanM σ α) (context : Context σ) :
    exec (named table step) context =
      if table.isEmpty then (.error (.malformed .unnamedCollection), context)
      else exec step context := by
  unfold named
  split <;> rfl

/-- A step with fresh slots is run with the counter at zero, and the old counter is put back. -/
lemma exec_withFreshSlots (step : PlanM σ α) (context : Context σ) :
    exec (withFreshSlots step) context =
      ((exec step { context with slots := {} }).1,
        { (exec step { context with slots := {} }).2 with slots := context.slots }) := rfl

end PlanM

/-! ## Keys of relations -/

namespace Relation

/-- The condition that a row of the table `source` and a row of the foreign collection, known as
`label`, agree in every pair of key columns. -/
def condition (r : Relation) (source label : String) : Condition :=
  .all <| List.zipWith (fun l f => .equals ⟨source, l⟩ (.column ⟨label, f⟩))
    r.localColumns r.foreignColumns

/-- A key is sound if it has as many columns on one side as on the other, and not none. -/
lemma arity_eq_ok_iff (r : Relation) (source : String) (n : Nat) :
    r.arity source = .ok n ↔
      r.localColumns.length = n ∧ r.foreignColumns.length = n ∧ n ≠ 0 := by
  unfold arity
  simp only
  split_ifs with h h'
  · simp only [false_iff]
    omega
  · simp only [false_iff]
    omega
  · simp only [Except.ok.injEq]
    omega

/-- A relation with a sound key has a join. -/
lemma joinClause_of_arity {r : Relation} {source : String} {n : Nat}
    (h : r.arity source = .ok n) (label : String) :
    r.joinClause source label =
      .ok { table := r.collection, on := r.condition source label, label } := by
  obtain ⟨hl, hf, -⟩ := (arity_eq_ok_iff r source n).1 h
  have heq : r.localColumns.length = r.foreignColumns.length := hl.trans hf.symm
  rw [joinClause, h]
  simp [Condition.columnsEqual, heq, condition, bind, Except.bind, pure, Except.pure]

/-- The deferred query for some fields on the far side of the relation. -/
def deferral (r : Relation) (fields : List Field) : Deferred where
  query := ⟨r.store, r.collection, fields, r.foreignColumns⟩
  localColumns := r.localColumns
  foreignColumns := r.foreignColumns
  name := r.collection

/-- A query is deferred for every relation with a sound key, and a key that is not sound is the only
obstacle. -/
lemma deferred_ofRelation (r : Relation) (source : String) (fields : List Field) :
    Deferred.ofRelation source r fields = (r.arity source).map fun _ => r.deferral fields := by
  unfold Deferred.ofRelation
  cases r.arity source <;> rfl

end Relation

end ClausePlan
