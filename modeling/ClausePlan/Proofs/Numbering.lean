import ClausePlan.Proofs.Unrepeated
/-!
# Numbered aliases

A counter gives out aliases with consecutive numbers, one counter for all seeds. Seeds may look like
aliases themselves, may end in underscores and digits, and may be empty. An alias still tells which seed
it was made from and which number it has, so no two of them are equal.

## Main definitions

* `ClausePlan.SequentialAliases.aliasesOf` — the aliases that a counter gives out for some seeds.

## Main results

* `ClausePlan.SequentialAliases.drawEach_eq` — calls in a row are answered with consecutive numbers, as
  far as the counter has room.
* `ClausePlan.SequentialAliases.drawEach_numbered` — the answers of a fresh counter, and that they differ.
-/

namespace ClausePlan.SequentialAliases

open AliasSource

variable {seed : String} {seeds : List String} {count : Nat}

/-! ## Counted aliases -/

/-- The aliases that a counter gives out for some seeds. -/
def aliasesOf (count : Nat) (seeds : List String) : List String :=
  seeds.mapIdx fun i seed => aliasOf seed (count + i + 1)

/-- The first alias has the next number, and the others follow. -/
lemma aliasesOf_cons (count : Nat) (seed : String) (seeds : List String) :
    aliasesOf count (seed :: seeds) = aliasOf seed (count + 1) :: aliasesOf (count + 1) seeds := by
  have hnext : ∀ i, count + (i + 1) + 1 = count + 1 + i + 1 := by omega
  simp only [aliasesOf, List.mapIdx_cons, hnext, Nat.add_zero]

/-- The number of an alias counts the seeds before it. -/
lemma getD_aliasesOf (count : Nat) (before : List String) (seed : String) (after : List String) :
    (aliasesOf count (before ++ seed :: after)).getD before.length "" =
      aliasOf seed (count + before.length + 1) := by
  simp [aliasesOf]

/-- An alias is not blank, since it has an underscore. -/
lemma aliasOf_ne_empty (seed : String) (number : Nat) : aliasOf seed number ≠ "" := by
  simp [aliasOf]

/-! ## Calls in a row -/

/-- A counter that has room gives out the next number. -/
lemma draw_of_room (h : count + 1 < capacity) :
    draw seed (mk count) = (.ok (aliasOf seed (count + 1)), mk (count + 1)) :=
  if_pos h

/-- A counter that has no room stays as it is. -/
lemma draw_of_full (h : capacity ≤ count + 1) :
    draw seed (mk count) = (.error (.aliasesExhausted seed 0), mk count) :=
  if_neg (Nat.not_lt.2 h)

/-- **Calls in a row are answered with consecutive numbers**, as far as the counter has room. -/
lemma drawEach_eq (h : count + seeds.length < capacity) :
    drawEach seeds (mk count) = ((aliasesOf count seeds).map .ok, mk (count + seeds.length)) := by
  induction seeds generalizing count with
  | nil => rfl
  | cons seed seeds ih =>
    rw [List.length_cons] at h
    have hrest : count + 1 + seeds.length < capacity := by omega
    have hcount : count + 1 + seeds.length = count + (seeds.length + 1) := by omega
    rw [drawEach_cons, draw_of_room (by omega), ih hrest, aliasesOf_cons, List.map_cons,
      List.length_cons, hcount]

/-- Where no call fails, the aliases are those in the outcomes. -/
lemma labelsOf_map_ok (labels : List String) : labelsOf (labels.map .ok) = labels := by
  induction labels with
  | nil => rfl
  | cons label labels ih =>
    rw [List.map_cons, labelsOf_cons, ih]
    rfl

/-- **A numbered alias determines its seed and its number**, whatever the seeds look like, and a fresh
counter numbers its answers from one on. As long as there are fewer calls than the counter has numbers,
each of them gets an alias: its seed, an underscore and the decimal numeral of how many calls there have
been. No two of these answers are equal. When the numbers are used up, every further call fails and
leaves the counter as it is.

**Proof sketch.** A numeral has no underscore, so it is what follows the last underscore of an alias. The
calls are answered by induction on the seeds, and they never repeat since the counter has not reached a
new number before. -/
theorem drawEach_numbered :
    (∀ s t m n, aliasOf s m = aliasOf t n → s = t ∧ m = n) ∧
    ∀ seeds : List String, seeds.length < UInt64.size →
      drawEach seeds ({} : SequentialAliases) =
          (seeds.mapIdx fun k seed => .ok (seed ++ "_" ++ toString (k + 1)), ⟨seeds.length⟩) ∧
        (drawEach seeds ({} : SequentialAliases)).1.Nodup ∧
        (seeds.length + 1 = UInt64.size → ∀ seed,
          draw seed (drawEach seeds ({} : SequentialAliases)).2 =
            (.error (.aliasesExhausted seed 0), ⟨seeds.length⟩)) := by
  refine ⟨fun s t m n h => aliasOf_inj.1 h, fun seeds hroom => ?_⟩
  have hcalls : drawEach seeds ({} : SequentialAliases) =
      ((aliasesOf 0 seeds).map .ok, ⟨seeds.length⟩) := by
    have h : drawEach seeds (mk 0) = _ := drawEach_eq (by rwa [Nat.zero_add])
    rwa [Nat.zero_add] at h
  have hnodup := (neverRepeats.issues_of_drawEach seeds {}).nodup
  rw [hcalls, labelsOf_map_ok] at hnodup
  rw [hcalls]
  refine ⟨?_, hnodup.map fun _ _ => Except.ok.inj, fun hfull seed => ?_⟩
  · refine congrArg (·, SequentialAliases.mk seeds.length) (List.ext_getElem ?_ fun k _ _ => ?_)
    · simp [aliasesOf]
    · simp [aliasesOf, aliasOf]
  · exact draw_of_full (Nat.le_of_eq hfull.symm)

/-- Seeds that look like aliases, and an empty one. -/
def deceptiveSeeds : List String :=
  ["a", "a_1", "a", "a_1_2", ""]

/-- The numbers keep apart what the seeds do not. -/
theorem drawEach_numbered_deceptiveSeeds :
    deceptiveSeeds.length < UInt64.size ∧
      (drawEach deceptiveSeeds ({} : SequentialAliases)).1 =
        [.ok "a_1", .ok "a_1_2", .ok "a_3", .ok "a_1_2_4", .ok "_5"] ∧
      aliasOf "a_1" 2 ≠ aliasOf "a" 12 :=
  ⟨by decide, congrArg Prod.fst (drawEach_numbered.2 deceptiveSeeds (by decide)).1,
    fun h => absurd (drawEach_numbered.1 _ _ _ _ h).2 (by decide)⟩

end ClausePlan.SequentialAliases
