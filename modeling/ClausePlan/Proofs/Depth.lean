import ClausePlan.Field.Basic
import Mathlib.Tactic.Lemma
/-!
# How deep relations are nested

The level of a relation is the number of relations around it, whatever their cardinality. A request
respects a limit if the levels of all its relations stay below. Levels grow by one from a relation to
those right below it and none is skipped, so a request that does not respect a limit has a relation
whose level is the limit itself: to find a fault it is enough to look for that level.

## Main definitions

* `ClausePlan.RelationAt` — where a relation leads and at which level it lies.
* `ClausePlan.Field.relations`, `ClausePlan.Field.relationsOfList` — the relations of a request with
  their levels, in preorder.
* `ClausePlan.Field.NestedWithin` — all levels are below a limit.
* `ClausePlan.RelationAt.bounded` — the answer of a check that looks for one level.

## Main results

* `ClausePlan.Field.nestedWithin_iff` — a request respects a limit iff no relation has the limit as its
  level.
* `ClausePlan.RelationAt.bounded_append` — a check of two lists checks one after the other.
* `ClausePlan.Field.bounded_of_levels` — looking for one level is enough to check a request.
-/

namespace ClausePlan

/-- A relation of a request: the collection that it leads to, and its level. -/
structure RelationAt where
  /-- The foreign collection. -/
  collection : String
  /-- The number of relations around the relation. -/
  level : Nat
deriving DecidableEq, Repr

/-! ## Relations of a request -/

namespace Field

mutual

/-- The relations of a field that lies below `level` relations, in preorder. -/
def relations (level : Nat) : Field → List RelationAt
  | .column _ | .computed _ _ => []
  | .toOne r fields | .toMany r fields => ⟨r.collection, level⟩ :: relationsOfList (level + 1) fields

/-- The relations of some fields that lie below `level` relations, one field after the other. -/
def relationsOfList (level : Nat) : List Field → List RelationAt
  | [] => []
  | field :: fields => relations level field ++ relationsOfList level fields

end

/-- The relations of a field behind a relation are the relation itself and those further down. -/
lemma relations_related (level : Nat) (c : Cardinality) (r : Relation) (fields : List Field) :
    (related c r fields).relations level =
      ⟨r.collection, level⟩ :: relationsOfList (level + 1) fields := by
  cases c <;> rfl

/-- There are fewer than `limit` relations around each relation of a request. -/
def NestedWithin (limit : Nat) (fields : List Field) : Prop :=
  ∀ r ∈ relationsOfList 0 fields, r.level < limit

instance (limit : Nat) (fields : List Field) : Decidable (NestedWithin limit fields) :=
  inferInstanceAs (Decidable (∀ r ∈ relationsOfList 0 fields, r.level < limit))

end Field

/-! ## No level is skipped -/

namespace RelationAt

/-- From `level` on, there is a relation on each level down to that of any relation. -/
def Gapless (level : Nat) (found : List RelationAt) : Prop :=
  ∀ r ∈ found, ∀ k, level ≤ k → k ≤ r.level → ∃ r' ∈ found, r'.level = k

variable {level : Nat} {xs ys : List RelationAt}

/-- Nothing is skipped where nothing is. -/
lemma Gapless.nil : Gapless level [] := fun _ hr => nomatch hr

/-- A relation on top closes the gap to the level above. -/
lemma Gapless.cons (collection : String) (h : Gapless (level + 1) xs) :
    Gapless level (⟨collection, level⟩ :: xs) := by
  intro r hr k hk hkr
  obtain rfl | hlt := Nat.eq_or_lt_of_le hk
  · exact ⟨_, List.mem_cons_self, rfl⟩
  · obtain rfl | hr := List.mem_cons.mp hr
    · exact absurd hlt (Nat.not_lt.mpr hkr)
    · obtain ⟨r', hr', h'⟩ := h r hr k hlt hkr
      exact ⟨r', List.mem_cons_of_mem _ hr', h'⟩

/-- Two lists without gaps have none together. -/
lemma Gapless.append (hx : Gapless level xs) (hy : Gapless level ys) : Gapless level (xs ++ ys) := by
  intro r hr k hk hkr
  rcases List.mem_append.mp hr with hr | hr
  · obtain ⟨r', hr', h'⟩ := hx r hr k hk hkr
    exact ⟨r', List.mem_append_left _ hr', h'⟩
  · obtain ⟨r', hr', h'⟩ := hy r hr k hk hkr
    exact ⟨r', List.mem_append_right _ hr', h'⟩

end RelationAt

namespace Field

mutual

/-- No level is skipped in a field. -/
lemma gapless_relations (level : Nat) : ∀ field : Field, RelationAt.Gapless level (field.relations level)
  | .column _ | .computed _ _ => .nil
  | .toOne r fields | .toMany r fields => .cons r.collection (gapless_relationsOfList (level + 1) fields)

/-- No level is skipped in some fields. -/
lemma gapless_relationsOfList (level : Nat) :
    ∀ fields : List Field, RelationAt.Gapless level (relationsOfList level fields)
  | [] => .nil
  | field :: fields => (gapless_relations level field).append (gapless_relationsOfList level fields)

end

/-- **A request respects a limit iff no relation has the limit as its level.** -/
theorem nestedWithin_iff (limit : Nat) (fields : List Field) :
    NestedWithin limit fields ↔ limit ∉ (relationsOfList 0 fields).map RelationAt.level := by
  constructor
  · intro h hmem
    obtain ⟨r, hr, rfl⟩ := List.mem_map.mp hmem
    exact Nat.lt_irrefl _ (h r hr)
  · intro h r hr
    refine Nat.lt_of_not_ge fun hge => ?_
    obtain ⟨r', hr', rfl⟩ := gapless_relationsOfList 0 fields r hr limit (Nat.zero_le _) hge
    exact h (List.mem_map_of_mem hr')

end Field

/-! ## A check that looks for one level -/

namespace RelationAt

variable {α β γ : Type} {limit : Nat}

/-- The answer of a check that refuses the first of some relations whose level is the limit, and is `a`
if there is none. -/
def bounded (limit : Nat) (found : List RelationAt) (a : α) : Except Fault α :=
  match found.find? (·.level = limit) with
  | none => .ok a
  | some r => .error (.tooDeep r.collection limit)

@[simp] lemma bounded_nil (a : α) : bounded limit [] a = .ok a := rfl

/-- A relation on the limit is refused. -/
lemma bounded_cons_limit (collection : String) (found : List RelationAt) (a : α) :
    bounded limit (⟨collection, limit⟩ :: found) a = .error (.tooDeep collection limit) := by
  rw [bounded, List.find?_cons_of_pos (by simp)]

/-- A relation off the limit is passed over. -/
lemma bounded_cons_of_ne {r : RelationAt} (h : r.level ≠ limit) (found : List RelationAt) (a : α) :
    bounded limit (r :: found) a = bounded limit found a := by
  rw [bounded, List.find?_cons_of_neg (by simpa using h), bounded]

/-- What is made of an answer does not change what is refused. -/
lemma bounded_bind_pure (found : List RelationAt) (a : α) (f : α → β) :
    (bounded limit found a >>= fun a => pure (f a)) = bounded limit found (f a) := by
  unfold bounded
  cases found.find? (·.level = limit) <;> rfl

/-- **A check of two lists checks one after the other.** -/
lemma bounded_append (xs ys : List RelationAt) (a : α) (b : β) (f : α → β → γ) :
    bounded limit (xs ++ ys) (f a b) =
      (do return f (← bounded limit xs a) (← bounded limit ys b)) := by
  unfold bounded
  rw [List.find?_append]
  cases xs.find? (·.level = limit) <;> cases ys.find? (·.level = limit) <;> rfl

/-- Without a relation on the limit the answer stands. -/
lemma bounded_of_notMem {found : List RelationAt} (h : limit ∉ found.map level) (a : α) :
    bounded limit found a = .ok a := by
  have hnone : found.find? (·.level = limit) = none :=
    List.find?_eq_none.mpr fun r hr hl => h (of_decide_eq_true hl ▸ List.mem_map_of_mem hr)
  rw [bounded, hnone]

/-- With a relation on the limit, the first one is refused. -/
lemma bounded_of_mem {found : List RelationAt} (h : limit ∈ found.map level) (a : α) :
    ∃ r, found.find? (·.level = limit) = some r ∧
      bounded limit found a = .error (.tooDeep r.collection limit) := by
  obtain ⟨r, hr, hl⟩ := List.mem_map.mp h
  have hsome : (found.find? (·.level = limit)).isSome :=
    List.find?_isSome.mpr ⟨r, hr, decide_eq_true hl⟩
  obtain ⟨first, hfirst⟩ := Option.isSome_iff_exists.mp hsome
  refine ⟨first, hfirst, ?_⟩
  rw [bounded, hfirst]

end RelationAt

/-- **Looking for one level is enough to check a request.** If some relations have the levels of those of
the request, their check answers under the limits that the request respects. Under any other one there
is a first relation on the limit, which is refused. -/
lemma Field.bounded_of_levels {α : Type} {found : List RelationAt} {fields : List Field}
    (hlevels : found.map RelationAt.level = (relationsOfList 0 fields).map RelationAt.level)
    (limit : Nat) (a : α) :
    (NestedWithin limit fields → RelationAt.bounded limit found a = .ok a) ∧
    (¬NestedWithin limit fields → ∃ r, found.find? (fun r => r.level = limit) = some r ∧
      RelationAt.bounded limit found a = .error (.tooDeep r.collection limit)) := by
  rw [nestedWithin_iff, ← hlevels, Decidable.not_not]
  exact ⟨fun h => RelationAt.bounded_of_notMem h a, fun h => RelationAt.bounded_of_mem h a⟩

end ClausePlan
