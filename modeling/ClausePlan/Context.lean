import ClausePlan.Alias.Builtin
import ClausePlan.Condition
/-!
# The context of planning

All plans of one query share a context: the alias source, the parameter slots, the settings and the
depth of nesting reached. A step that fails still leaves a context behind.

## Main definitions

* `Context`: what the steps of planning share.
* `PlanM`: steps that may fail and change the context.
* `PlanM.deeper`: a step one level further down.
* `PlanM.withFreshSlots`: a step that numbers its parameters on its own.
-/

namespace ClausePlan

/-- What the steps of planning share. -/
structure Context (σ : Type) where
  /-- The alias source. -/
  aliases : σ
  /-- The parameter slots of the query. -/
  slots : SlotCounter := {}
  /-- The settings. -/
  settings : Settings := {}
  /-- How many relations enclose the place that is being planned. -/
  depth : Nat := 0

/-- The context of a query that starts from the given slots, with the source that the settings
choose. -/
def Context.ofSettings (settings : Settings) (tokens : Nat → Token) (slots : SlotCounter) :
    Context BuiltinAliases :=
  { aliases := .ofSettings settings tokens, slots, settings }

/-- The context one relation further up. At the top there is no relation to leave. -/
def Context.ascended {σ : Type} (context : Context σ) : Context σ :=
  { context with depth := context.depth - 1 }

/-- A step of planning: it may fail, and either way it leaves a context behind. -/
abbrev PlanM (σ : Type) := ExceptT Fault (StateM (Context σ))

namespace PlanM

variable {σ α : Type}

/-- Draws an alias from the source of the context. -/
def newAlias [AliasSource σ] (seed : String) : PlanM σ String := do
  let context ← get
  let (outcome, aliases) := AliasSource.draw seed context.aliases
  set { context with aliases }
  MonadExcept.ofExcept outcome

/-- Enters a relation to a collection, unless the settings allow no more nesting. -/
def descend (collection : String) : PlanM σ Unit := do
  let context ← get
  let limit := context.settings.maxDepth.toNat
  if limit ≤ context.depth then throw (.tooDeep collection limit)
  set { context with depth := context.depth + 1 }

/-- Leaves a relation. -/
def ascend : PlanM σ Unit :=
  modify Context.ascended

/-- Runs a step and then another one that cannot fail, whether or not the first one fails; the
outcome is that of the first one. -/
def andFinally (step : PlanM σ α) (last : Context σ → Context σ) : PlanM σ α :=
  ExceptT.mk do
    let outcome ← step.run
    modify last
    return outcome

/-- Runs a step inside a relation to a collection. The relation is left even if the step fails. -/
def deeper (collection : String) (step : PlanM σ α) : PlanM σ α := do
  descend collection
  andFinally step Context.ascended

/-- Runs a step that numbers its parameter slots from zero. The slots of the context are afterwards
as they were, even if the step fails. -/
def withFreshSlots (step : PlanM σ α) : PlanM σ α := do
  let slots := (← get).slots
  modify fun context => { context with slots := {} }
  andFinally step fun context => { context with slots }

end PlanM

end ClausePlan
