import ClausePlan.Proofs.Steps
/-!
# What conditions on keys say

The conditions that planning makes are conjunctions of equalities, one for each pair of key columns
or for each key value, which stands in a slot. Their equalities are listed here once, and none of them is
negated.

## Main definitions

* `ClausePlan.Condition.isPositive` — nothing in the condition is negated.
* `ClausePlan.JoinClause.link` — the foreign collection and the key of a join, read off its clause.

## Main results

* `ClausePlan.Condition.leaves_all`, `ClausePlan.Condition.isPositive_all` — a conjunction has the
  equalities of its conditions, and it is positive if they are.
* `ClausePlan.SlotCounter.fst_take_eq_range'` — slots are numbered on from those given out.
* `ClausePlan.Relation.leaves_condition`, `ClausePlan.Condition.leaves_columnsBound` — the equalities
  of the two conditions on keys.
* `ClausePlan.Relation.link_join` — a join tells all of the key of its relation.
-/

namespace ClausePlan

namespace Condition

/-! ## Positive conditions -/

mutual

/-- Whether neither the condition nor any part of it is negated. -/
def isPositive : Condition → Bool
  | leaf _ negated => !negated
  | conjunction conditions negated => !negated && arePositive conditions

/-- Whether nothing is negated in some conditions. -/
def arePositive : List Condition → Bool
  | [] => true
  | condition :: conditions => isPositive condition && arePositive conditions

end

@[simp] lemma arePositive_eq_all (conditions : List Condition) :
    arePositive conditions = conditions.all isPositive := by
  induction conditions with
  | nil => rfl
  | cons condition conditions ih => rw [arePositive, List.all_cons, ih]

@[simp] lemma leavesOfList_eq_flatMap (conditions : List Condition) :
    leavesOfList conditions = conditions.flatMap leaves := by
  induction conditions with
  | nil => rfl
  | cons condition conditions ih => rw [leavesOfList, List.flatMap_cons, ih]

/-! ## Conjunctions -/

/-- A conjunction of none or of several conditions is made as one. -/
lemma all_of_length_ne {conditions : List Condition} (h : conditions.length ≠ 1) :
    all conditions = .conjunction conditions false := by
  unfold all
  split
  · exact absurd rfl h
  · rfl

/-- The equalities of a conjunction are those of its conditions, in order. -/
lemma leaves_all (conditions : List Condition) :
    (all conditions).leaves = conditions.flatMap leaves := by
  unfold all
  split
  · simp
  · rw [leaves, leavesOfList_eq_flatMap]

/-- A conjunction is positive if all of its conditions are. -/
lemma isPositive_all (conditions : List Condition) :
    (all conditions).isPositive = conditions.all isPositive := by
  unfold all
  split
  · simp
  · simp [isPositive]

section Equalities

variable {α β : Type} (f : α → Column) (g : β → Operand)

/-- The equalities of a conjunction of equalities are those that it is made of. -/
lemma leaves_all_equals (as : List α) (bs : List β) :
    (all (List.zipWith (fun a b => equals (f a) (g b)) as bs)).leaves =
      (as.zip bs).map fun pair => ⟨f pair.1, g pair.2⟩ := by
  rw [leaves_all]
  induction as generalizing bs with
  | nil => rfl
  | cons a as ih =>
    cases bs with
    | nil => rfl
    | cons b bs =>
      rw [List.zipWith_cons_cons, List.flatMap_cons, ih]
      rfl

/-- A conjunction of equalities is positive. -/
lemma isPositive_all_equals (as : List α) (bs : List β) :
    (all (List.zipWith (fun a b => equals (f a) (g b)) as bs)).isPositive := by
  rw [isPositive_all]
  induction as generalizing bs with
  | nil => rfl
  | cons a as ih =>
    cases bs with
    | nil => rfl
    | cons b bs =>
      rw [List.zipWith_cons_cons, List.all_cons, ih]
      rfl

end Equalities

end Condition

/-! ## Slots -/

namespace SlotCounter

@[simp]
lemma after_zero (slots : SlotCounter) : slots.after 0 = slots :=
  congrArg mk (UInt64.add_zero slots.issued)

/-- A slot and then `n` more of them are `n + 1` slots. -/
lemma after_succ (slots : SlotCounter) (n : Nat) : slots.after (n + 1) = slots.next.2.after n := by
  rw [after, after, next, UInt64.ofNat_add, UInt64.add_assoc, UInt64.add_comm (.ofNat n)]
  rfl

/-- After `n` slots the counter is `n` further on, around zero if need be. -/
lemma toNat_issued_after (slots : SlotCounter) (n : Nat) :
    (slots.after n).issued.toNat = (slots.issued.toNat + n) % UInt64.size := by
  rw [after, UInt64.toNat_add, UInt64.toNat_ofNat', Nat.add_mod_mod]

/-- **Slots that are taken at once are numbered on from those given out**, as far as the counter goes. -/
lemma fst_take_eq_range' {slots : SlotCounter} {n : Nat}
    (h : slots.issued.toNat + n ≤ UInt64.size) :
    (slots.take n).1 = List.range' slots.issued.toNat n := by
  rw [take, List.range'_eq_map_range]
  refine List.map_congr_left fun i hi => ?_
  have hlt := List.mem_range.1 hi
  rw [toNat_issued_after, Nat.mod_eq_of_lt (by omega)]

end SlotCounter

/-! ## Conditions on keys -/

/-- The condition of a join equates the key columns of the two tables, pair by pair. -/
lemma Relation.leaves_condition (r : Relation) (source label : String) :
    (r.condition source label).leaves =
      (r.localColumns.zip r.foreignColumns).map fun pair =>
        ⟨⟨source, pair.1⟩, .column ⟨label, pair.2⟩⟩ :=
  Condition.leaves_all_equals (fun l => ⟨source, l⟩) (fun f => .column ⟨label, f⟩) _ _

lemma Relation.isPositive_condition (r : Relation) (source label : String) :
    (r.condition source label).isPositive :=
  Condition.isPositive_all_equals (fun l => ⟨source, l⟩) (fun f => .column ⟨label, f⟩) _ _

/-- The condition on given key values equates each key column with a slot, in order. -/
lemma Condition.leaves_columnsBound (table : String) (columns : List String) (slots : SlotCounter) :
    (columnsBound table columns slots).1.1.leaves =
      (columns.zip (slots.take columns.length).1).map fun pair =>
        ⟨⟨table, pair.1⟩, .slot pair.2⟩ :=
  leaves_all_equals (fun c => ⟨table, c⟩) Operand.slot _ _

/-! ## The relation behind a join -/

/-- What the clause of a join tells of the relation that it follows: the foreign collection, and the
key columns of both sides. -/
structure Link where
  /-- The foreign collection. -/
  collection : String
  /-- The key columns of the table that the join leads away from. -/
  localColumns : List String
  /-- The key columns of the foreign collection. -/
  foreignColumns : List String
deriving DecidableEq

/-- The link that a relation makes. -/
def Relation.link (r : Relation) : Link :=
  ⟨r.collection, r.localColumns, r.foreignColumns⟩

/-- The column of an operand, without its table. -/
def Operand.name? : Operand → Option String
  | column c => some c.name
  | slot _ => none

/-- The link that a join makes, read off its clause. -/
def JoinClause.link (join : JoinClause) : Link where
  collection := join.table
  localColumns := join.on.leaves.map fun leaf => leaf.target.name
  foreignColumns := join.on.leaves.filterMap fun leaf => leaf.operand.name?

/-- The join of a relation tells all of its key, if the key pairs up. -/
lemma Relation.link_join {r : Relation} (h : r.localColumns.length = r.foreignColumns.length)
    (source label : String) :
    JoinClause.link { table := r.collection, on := r.condition source label, label } = r.link := by
  have hforeign : (r.localColumns.zip r.foreignColumns).filterMap
      (fun pair => some pair.2) = r.foreignColumns := by
    rw [List.filterMap_eq_map', List.map_snd_zip (Nat.le_of_eq h.symm)]
  simp only [JoinClause.link, leaves_condition, List.map_map, List.filterMap_map, link, Link.mk.injEq,
    true_and]
  exact ⟨List.map_fst_zip (Nat.le_of_eq h), hforeign⟩

end ClausePlan
