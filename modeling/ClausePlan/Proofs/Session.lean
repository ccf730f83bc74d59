import ClausePlan.Proofs.Query
import ClausePlan.Proofs.Unrepeated
/-!
# Sessions

A session is a sequence of calls on one context: fields are planned, queries for given key values
are made, and single aliases are drawn, in any order. A call that fails leaves its context to the
next one, and the aliases that it has drawn by then are lost. Over a whole session no alias is given
out twice.

## Main definitions

* `ClausePlan.Call`, `ClausePlan.Answer` — what can be called, and what it answers.
* `ClausePlan.Call.runAll` — a session.

## Main results

* `ClausePlan.Call.issues_run`, `ClausePlan.Call.issues_runAll` — a call, and a session, give out new
  aliases only.
* `ClausePlan.Call.answers_distinct` — all aliases of a session differ, and each query lists the places
  of its output columns under their aliases.
-/

namespace ClausePlan

variable {σ : Type} [AliasSource σ]

/-! ## Calls -/

/-- A call on a context. -/
inductive Call where
  /-- The fields of a collection are planned. -/
  | plan (collection : String) (fields : List Field)
  /-- The query for the rows that belong to given key values is made. -/
  | generate (query : RelationQuery) (keys : List Json)
  /-- A single alias is drawn. -/
  | newAlias (seed : String)

/-- What a call that succeeds answers. -/
inductive Answer where
  /-- A query. -/
  | query (query : Query)
  /-- A single alias. -/
  | label (label : String)

/-- The aliases in an answer. -/
def Answer.labels : Answer → List String
  | .query q => q.labels
  | .label name => [name]

namespace Call

/-- The step that a call is. -/
def run : Call → PlanM σ Answer
  | plan collection fields => do return .query ((← Plan.ofFields collection fields).query collection)
  | generate query keys => do return .query (← query.generate keys).query
  | newAlias seed => do return .label (← PlanM.newAlias seed)

/-- Some calls, one after the other, each on the context that the one before it leaves, whether or
not it fails. -/
def runAll : List Call → Context σ → List (Except Fault Answer) × Context σ
  | [], context => ([], context)
  | call :: calls, context =>
    let (outcome, context) := exec call.run context
    let (outcomes, context) := runAll calls context
    (outcome :: outcomes, context)

/-- The answers of the calls that succeed, in order. -/
def answers (calls : List Call) (context : Context σ) : List Answer :=
  (runAll calls context).1.filterMap Except.toOption

/-- A query that is answered is planned. -/
lemma planned_of_run {call : Call} {context context' : Context σ} {query : Query}
    (h : exec call.run context = (.ok (.query query), context')) :
    ∃ fields, Query.Planned context fields query context' := by
  cases call with
  | plan collection fields =>
    simp only [run, exec_bind_ok_iff, exec_pure] at h
    obtain ⟨plan, context₁, hplan, hquery⟩ := h
    obtain ⟨rfl, rfl⟩ : plan.query collection = query ∧ context₁ = context' := by
      simpa using hquery
    exact ⟨fields, .ofFields hplan⟩
  | generate q keys =>
    simp only [run, exec_bind_ok_iff, exec_pure] at h
    obtain ⟨sub, context₁, hsub, hquery⟩ := h
    obtain ⟨rfl, rfl⟩ : sub.query = query ∧ context₁ = context' := by simpa using hquery
    exact ⟨q.fields, .generate hsub⟩
  | newAlias seed =>
    simp only [run, exec_bind_ok_iff, exec_pure] at h
    obtain ⟨label, context₁, -, hquery⟩ := h
    simp at hquery

end Call

/-! ## What a call gives out -/

/-- Whatever making the query for given key values yields, the source changes by drawing only. -/
lemma AliasSource.reaches_generate (q : RelationQuery) (keys : List Json) (context : Context σ) :
    Reaches context.aliases (exec (q.generate keys) context).2.aliases := by
  rw [RelationQuery.exec_generate]
  split_ifs
  · exact reaches_ofFields q.collection q.fields context
  · exact .refl

section Issues

variable {used : σ → String → Prop} (hs : NeverRepeats used)

include hs

/-- Planning gives out the aliases of the query. -/
lemma NeverRepeats.issues_of_planned {context context' : Context σ} {fields : List Field}
    {query : Query} (h : Query.Planned context fields query context') :
    Issues used context.aliases context'.aliases query.labels := by
  obtain ⟨drawn, hdraw, hperm⟩ := h.exists_drawn
  exact (hs.issues_of_drawAll hdraw).perm hperm

namespace Call

/-- A call gives out the aliases in its answer, if it succeeds. Otherwise it may have drawn some, but
it gives out none. -/
lemma issues_run (call : Call) (context : Context σ) :
    Issues used context.aliases (exec call.run context).2.aliases
      ((exec call.run context).1.toOption.elim [] Answer.labels) := by
  cases call with
  | plan collection fields =>
    have hreaches := AliasSource.reaches_ofFields collection fields context
    simp only [run, exec_bind, exec_pure]
    rcases h : exec (Plan.ofFields collection fields) context with ⟨_ | plan, context'⟩
    · rw [h] at hreaches
      exact hs.issues_of_reaches hreaches
    · exact hs.issues_of_planned (.ofFields h)
  | generate q keys =>
    have hreaches := AliasSource.reaches_generate q keys context
    simp only [run, exec_bind, exec_pure]
    rcases h : exec (q.generate keys) context with ⟨_ | sub, context'⟩
    · rw [h] at hreaches
      exact hs.issues_of_reaches hreaches
    · exact hs.issues_of_planned (.generate h)
  | newAlias seed =>
    have hreaches := AliasSource.reaches_draw seed context.aliases
    simp only [run, exec_bind, exec_pure, PlanM.exec_newAlias]
    rcases h : AliasSource.draw seed context.aliases with ⟨_ | label, aliases'⟩
    · rw [h] at hreaches
      exact hs.issues_of_reaches hreaches
    · have hissues := hs.issues_of_draw (congrArg Prod.fst h)
      rwa [h] at hissues

/-! ## What a session gives out -/

/-- A session gives out the aliases in its answers.

**Proof sketch.** Induction on the calls. What the first call gives out is unmarked at the start, and
marked when the other calls begin. -/
lemma issues_runAll (calls : List Call) (context : Context σ) :
    Issues used context.aliases (runAll calls context).2.aliases
      ((answers calls context).flatMap Answer.labels) := by
  induction calls generalizing context with
  | nil => exact .refl context.aliases
  | cons call calls ih =>
    have hfirst := issues_run hs call context
    have hrest := ih (exec call.run context).2
    have hlabels : (answers (call :: calls) context).flatMap Answer.labels =
        (exec call.run context).1.toOption.elim [] Answer.labels ++
          (answers calls (exec call.run context).2).flatMap Answer.labels := by
      simp only [answers, runAll, List.filterMap_cons]
      rcases (exec call.run context).1 with _ | answer <;> rfl
    rw [hlabels]
    exact hfirst.trans hrest

end Call

end Issues

namespace Call

/-- A query that a session answers was planned in one of its contexts. -/
lemma planned_of_mem_answers {calls : List Call} {context : Context σ} {query : Query}
    (h : .query query ∈ answers calls context) :
    ∃ fields before after, Query.Planned (σ := σ) before fields query after := by
  induction calls generalizing context with
  | nil => simp [answers, runAll] at h
  | cons call calls ih =>
    simp only [answers, runAll, List.filterMap_cons] at h
    rcases hrun : exec call.run context with ⟨_ | answer, context'⟩
    · rw [hrun] at h
      exact ih h
    · rw [hrun] at h
      rcases List.mem_cons.1 h with rfl | h
      · obtain ⟨fields, hplanned⟩ := planned_of_run hrun
        exact ⟨fields, context, context', hplanned⟩
      · exact ih h

/-- **Aliases never repeat within a session.** Whatever is called, in which order, and whichever calls
fail: the aliases of all output columns and joins of all queries, and those drawn singly, differ from
each other. The places in each query are listed under the aliases of its output columns, each once
and in the same order.

**Proof sketch.** Each built-in source marks what it has given out, by its counter or by its memory,
and never gives out what is marked. So the aliases of a session are new one after the other. Within
a query the aliases of the output columns differ, so none of them replaces the place of another. -/
theorem answers_distinct (calls : List Call) (context : Context BuiltinAliases) :
    ((answers calls context).flatMap Answer.labels).Nodup ∧
      ∀ query, .query query ∈ answers calls context →
        query.paths.keys = query.select.map SelectItem.label ∧ query.paths.keys.Nodup := by
  refine ⟨(issues_runAll BuiltinAliases.neverRepeats calls context).nodup, fun query h => ?_⟩
  obtain ⟨fields, before, after, hplanned⟩ := planned_of_mem_answers h
  have hlabels := (BuiltinAliases.neverRepeats.issues_of_planned hplanned).nodup
  exact ⟨hplanned.keys_paths hlabels.of_append_left, query.paths.nodup_keys⟩

/-- Some calls, of which the first one fails after it has drawn an alias. The second one asks for a
column with the name of that alias. -/
def afterFault : List Call :=
  [.plan "articles" [.column "id", .toOne ⟨[], "pg", "users", []⟩ []],
    .plan "articles" [.column "id_1", .column "id"],
    .newAlias "id_1"]

/-- The session of `afterFault` with a counter. -/
theorem answers_distinct_afterFault :
    ∃ query, .query query ∈ answers afterFault { aliases := BuiltinAliases.sequential {} } ∧
      query.labels = ["id_1_2", "id_3"] ∧
      query.paths.keys = query.select.map SelectItem.label ∧ query.paths.keys.Nodup :=
  ⟨_, List.mem_cons_self, rfl,
    (answers_distinct afterFault { aliases := .sequential {} }).2 _ List.mem_cons_self⟩

end Call

end ClausePlan
