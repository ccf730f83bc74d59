import ClausePlan.Fault
/-!
# Alias sources

Output columns and joined tables need names of their own. A source makes them up, one at a time,
from readable seeds.

## Main definitions

* `AliasSource`: types whose values are the states of a source. A sum of two such types is one: its
  values are sources of either kind.
* `ListedAliases`: a source that gives out the names of a list.
* `SequentialAliases`: a source that counts. An alias is its seed, an underscore and a number. One
  counter serves all seeds, so the number after the last underscore never repeats, and aliases differ
  even where seeds look like aliases.
-/

namespace ClausePlan

/-- Types whose values are the states of an alias source. -/
class AliasSource (σ : Type) where
  /-- An alias for a seed, or the reason why there is none, and the next state of the source. -/
  draw (seed : String) (source : σ) : Except Fault String × σ

instance {σ τ : Type} [AliasSource σ] [AliasSource τ] : AliasSource (σ ⊕ τ) where
  draw seed
    | .inl source => (AliasSource.draw seed source).map id .inl
    | .inr source => (AliasSource.draw seed source).map id .inr

/-- A source that gives out the names of a list in order, whatever the seeds. -/
structure ListedAliases where
  /-- The names that are left. -/
  names : List String
  /-- How many names have been given out. -/
  used : Nat := 0
deriving DecidableEq, Repr

instance : AliasSource ListedAliases where
  draw seed source :=
    match source.names with
    | [] => (.error (.aliasesExhausted seed source.used), source)
    | name :: names => (.ok name, ⟨names, source.used + 1⟩)

/-! ### Aliases with a counter -/

/-- A source that tells aliases apart by a counter. -/
structure SequentialAliases where
  /-- The number of the last alias, or zero at the start. -/
  count : Nat := 0
deriving DecidableEq, Repr

namespace SequentialAliases

/-- The counter has 64 bits, so there are aliases with smaller numbers only. -/
def capacity : Nat :=
  UInt64.size

/-- The alias with the given seed and number. -/
def aliasOf (seed : String) (number : Nat) : String :=
  seed ++ "_" ++ toString number

instance : AliasSource SequentialAliases where
  draw seed source :=
    let number := source.count + 1
    if number < capacity then (.ok (aliasOf seed number), ⟨number⟩)
    else (.error (.aliasesExhausted seed 0), source)

end SequentialAliases

end ClausePlan
