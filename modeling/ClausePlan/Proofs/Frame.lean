import ClausePlan.Proofs.Session
/-!
# What planning leaves in the context

Planning raises the depth of the context below each relation, and a query for given key values counts
its parameters in slots of its own. Both are undone on every outcome, wherever in the request a fault
arises: afterwards the context is as it was, except for the aliases that have been drawn. So a context
can be shared by many calls, whether or not they fail.

## Main definitions

* `ClausePlan.Context.SameFrame` — two contexts differ in their alias sources at most.

## Main results

* `ClausePlan.Plan.sameFrame_ofFields`, `ClausePlan.RelationQuery.sameFrame_generate` — the two ways to
  plan leave the frame of the context.
* `ClausePlan.Call.sameFrame_runAll` — a session leaves the frame of its context.
* `ClausePlan.Context.restored` — what all outcomes of planning have in common.
-/

namespace ClausePlan

/-! ## The frame of a context -/

/-- The contexts differ in their alias sources at most. -/
structure Context.SameFrame {σ : Type} (before after : Context σ) : Prop where
  /-- They are equally deep. -/
  depth : after.depth = before.depth
  /-- They have the same settings. -/
  settings : after.settings = before.settings
  /-- They have the same parameter slots. -/
  slots : after.slots = before.slots

namespace Context.SameFrame

variable {σ : Type}

lemma refl (context : Context σ) : context.SameFrame context :=
  ⟨rfl, rfl, rfl⟩

lemma trans {context context' context'' : Context σ} (h : context.SameFrame context')
    (h' : context'.SameFrame context'') : context.SameFrame context'' where
  depth := h'.depth.trans h.depth
  settings := h'.settings.trans h.settings
  slots := h'.slots.trans h.slots

end Context.SameFrame

variable {σ : Type} [AliasSource σ]

/-! ## Calls -/

/-- Planning leaves the frame of the context, whatever the outcome. -/
lemma Plan.sameFrame_ofFields (collection : String) (fields : List Field) (context : Context σ) :
    context.SameFrame (exec (ofFields collection fields) context).2 := by
  rw [exec_ofFields_snd]
  exact ⟨rfl, rfl, rfl⟩

/-- Making the query for given key values leaves the frame of the context, whatever the outcome. -/
lemma RelationQuery.sameFrame_generate (q : RelationQuery) (keys : List Json)
    (context : Context σ) : context.SameFrame (exec (q.generate keys) context).2 := by
  rw [exec_generate]
  split_ifs
  · exact Plan.sameFrame_ofFields q.collection q.fields context
  · exact .refl context

/-- With the wrong number of key values nothing is done. -/
lemma RelationQuery.exec_generate_of_length_ne {q : RelationQuery} {keys : List Json}
    (h : keys.length ≠ q.foreignColumns.length) (context : Context σ) :
    exec (q.generate keys) context =
      (.error (.keyValueCount q.foreignColumns.length keys.length), context) := by
  rw [exec_generate, if_neg h]

/-- For a collection without a name nothing is done. -/
lemma Plan.exec_ofFields_unnamed (fields : List Field) (context : Context σ) :
    exec (ofFields "" fields) context = (.error (.malformed .unnamedCollection), context) := by
  rw [exec_ofFields]
  exact if_pos rfl

/-- Planning in a context of its own has the outcome of planning from slots at zero, and it hands back
the slots that it is given. -/
lemma Plan.withSlots_eq (settings : Settings) (tokens : Nat → Token) (collection : String)
    (fields : List Field) (slots : SlotCounter) :
    withSlots settings tokens collection fields slots =
      ((exec (ofFields collection fields) (Context.ofSettings settings tokens {})).1, slots) := by
  have houtcome := congrArg Prod.fst
    (exec_ofFields_slots collection fields (Context.ofSettings settings tokens {}) slots)
  have hframe := sameFrame_ofFields collection fields (Context.ofSettings settings tokens slots)
  exact Prod.ext houtcome hframe.slots

namespace Call

/-- A call leaves the frame of its context, whatever the outcome. -/
lemma sameFrame_run (call : Call) (context : Context σ) :
    context.SameFrame (exec call.run context).2 := by
  cases call with
  | plan collection fields =>
    have h := Plan.sameFrame_ofFields collection fields context
    rw [run, exec_map]
    exact h
  | generate q keys =>
    have h := q.sameFrame_generate keys context
    rw [run, exec_map]
    exact h
  | newAlias seed =>
    rw [run, exec_map, PlanM.exec_newAlias]
    exact ⟨rfl, rfl, rfl⟩

/-- A session leaves the frame of its context, whichever calls fail. -/
lemma sameFrame_runAll (calls : List Call) (context : Context σ) :
    context.SameFrame (runAll calls context).2 := by
  induction calls generalizing context with
  | nil => exact .refl context
  | cons call calls ih => exact (sameFrame_run call context).trans (ih _)

end Call

/-! ## All outcomes -/

/-- **Planning restores the context on every outcome.** The depth, the settings and the parameter slots
are as they were, after the fields of a collection have been planned, after the query of a deferred one
has been made, and after any session of such calls. Where the number of key values is wrong or the
collection has no name, not even an alias is drawn. Planning in a context of its own hands back the
slots that it is given, and they have no influence on its outcome.

**Proof sketch.** Planning is one pass over the stops of the walk, and that changes the alias source
only. A query for given key values puts the slots back, and the other calls do not touch them. -/
theorem Context.restored (context : Context σ) :
    (∀ collection fields, context.SameFrame (exec (Plan.ofFields collection fields) context).2) ∧
      (∀ (d : Deferred) keys, context.SameFrame (exec (d.generate keys) context).2) ∧
      (∀ calls, context.SameFrame (Call.runAll calls context).2) ∧
      (∀ (d : Deferred) keys, keys.length ≠ d.query.foreignColumns.length →
        exec (d.generate keys) context =
          (.error (.keyValueCount d.query.foreignColumns.length keys.length), context)) ∧
      (∀ fields, exec (Plan.ofFields "" fields) context =
        (.error (.malformed .unnamedCollection), context)) ∧
      ∀ settings tokens collection fields slots,
        Plan.withSlots settings tokens collection fields slots =
          ((exec (Plan.ofFields collection fields) (Context.ofSettings settings tokens {})).1,
            slots) := by
  refine ⟨fun collection fields => Plan.sameFrame_ofFields collection fields context,
    fun d keys => d.query.sameFrame_generate keys context,
    fun calls => Call.sameFrame_runAll calls context, ?_,
    fun fields => Plan.exec_ofFields_unnamed fields context, Plan.withSlots_eq⟩
  intro d keys h
  exact RelationQuery.exec_generate_of_length_ne h context

/-- A deferred query that waits for two key values. -/
def linesOfOrder : Deferred :=
  (Relation.mk ["id", "year"] "pg" "lines" ["order_id", "order_year"]).deferral [.column "sku"]

/-- One key value is not enough for `linesOfOrder`, and the fault changes nothing. -/
theorem Context.restored_linesOfOrder :
    [Json.null].length ≠ linesOfOrder.query.foreignColumns.length ∧
      exec (linesOfOrder.generate [.null])
          { aliases := ListedAliases.mk ["a"] 0, slots := ⟨7⟩, depth := 3 } =
        (.error (.keyValueCount 2 1),
          { aliases := ListedAliases.mk ["a"] 0, slots := ⟨7⟩, depth := 3 }) :=
  ⟨by decide, (Context.restored _).2.2.2.1 linesOfOrder [.null] (by decide)⟩

end ClausePlan
