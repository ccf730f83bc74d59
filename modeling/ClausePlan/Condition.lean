/-!
# Conditions

Join conditions and filters are trees of equalities. A column is qualified by the table, or the
alias of a table, that it is read from. It is compared with another column or with a parameter, and a
query refers to its parameters by position. These slots are numbered from zero and without gaps, as far
as 64 bits go.

## Main definitions

* `SlotCounter`: how many slots have been given out.
* `SlotCounter.next`, `SlotCounter.take`: give out one slot, or several at once.
* `Column`, `Operand`, `Comparison`: an equality of a column with a column or a parameter.
* `Condition`: a tree of equalities and conjunctions, each of which may be negated.
* `Condition.all`: the conjunction of some conditions.
* `Condition.leaves`: the equalities of a condition from left to right.
-/

namespace ClausePlan

/-! ### Parameter slots -/

/-- A counter of parameter slots. It has 64 bits: giving out the last slot takes it round to zero, or
ends the program where overflow is trapped. -/
structure SlotCounter where
  /-- The next slot; until the counter comes round, also how many slots have been given out. -/
  issued : UInt64 := 0
deriving DecidableEq, Repr

namespace SlotCounter

/-- Gives out the next slot. -/
def next (slots : SlotCounter) : Nat × SlotCounter :=
  (slots.issued.toNat, ⟨slots.issued + 1⟩)

/-- The counter when `n` more slots have been given out. -/
def after (slots : SlotCounter) (n : Nat) : SlotCounter :=
  ⟨slots.issued + .ofNat n⟩

/-- Passes over `n` slots, which count as given out, and gives out the next one. -/
def nextAfter (slots : SlotCounter) (n : Nat) : Nat × SlotCounter :=
  (slots.after n).next

/-- Gives out the next `n` slots. -/
def take (slots : SlotCounter) (n : Nat) : List Nat × SlotCounter :=
  ((List.range n).map fun i => (slots.after i).issued.toNat, slots.after n)

end SlotCounter

/-! ### Conditions -/

/-- A column of a table. -/
structure Column where
  /-- The table, or its alias in the query. -/
  table : String
  /-- The name of the column. -/
  name : String
deriving DecidableEq, Repr

/-- What a column is compared with. -/
inductive Operand where
  /-- Another column. -/
  | column (column : Column)
  /-- The parameter in a slot. -/
  | slot (index : Nat)
deriving DecidableEq, Repr

/-- The equality of a column with an operand. -/
structure Comparison where
  /-- The column on the left. -/
  target : Column
  /-- The operand on the right. -/
  operand : Operand
deriving DecidableEq, Repr

/-- A condition on rows. -/
inductive Condition where
  /-- An equality, or its negation. -/
  | leaf (comparison : Comparison) (negated : Bool)
  /-- A conjunction, or its negation. -/
  | conjunction (conditions : List Condition) (negated : Bool)
deriving Repr

namespace Condition

/-- The equality of a column with an operand. -/
def equals (target : Column) (operand : Operand) : Condition :=
  .leaf ⟨target, operand⟩ false

/-- The conjunction of some conditions. A single condition stands for itself. -/
def all : List Condition → Condition
  | [condition] => condition
  | conditions => .conjunction conditions false

mutual

/-- The equalities of a condition from left to right. -/
def leaves : Condition → List Comparison
  | leaf comparison _ => [comparison]
  | conjunction conditions _ => leavesOfList conditions

/-- The equalities of some conditions from left to right. -/
def leavesOfList : List Condition → List Comparison
  | [] => []
  | condition :: conditions => leaves condition ++ leavesOfList conditions

end

/-- Whether the condition is negated as a whole. -/
def isNegated : Condition → Bool
  | leaf _ negated => negated
  | conjunction _ negated => negated

/-- The condition with its outermost negation set or removed. -/
def withNegation (negated : Bool) : Condition → Condition
  | leaf comparison _ => leaf comparison negated
  | conjunction conditions _ => conjunction conditions negated

end Condition

end ClausePlan
