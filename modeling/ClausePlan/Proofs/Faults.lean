import ClausePlan.Proofs.Unrepeated
/-!
# Why planning fails

A pass over the stops of a walk fails at the first stop that it cannot pass, and what it has drawn by
then stays drawn. At a stop there are three things to fail: the key of the relation may be unsound, the
source may give no alias, and a to-one relation may be nested too deeply or get a blank alias.

## Main definitions

* `ClausePlan.AliasSource.Raises` — a source, drawn from for a while, answers with a fault.
* `ClausePlan.Relation.IsKeyed` — the key of a relation is sound.
* `ClausePlan.Field.relation?` — the relation of a field, whatever its cardinality.
* `ClausePlan.Plan.Fails` — the ways in which planning can go wrong.

## Main results

* `ClausePlan.Stop.askAll_eq_error_iff` — a pass fails iff it reaches a stop and fails there.
* `ClausePlan.Stop.ask_eq_error_iff` — how a stop fails.
* `ClausePlan.Relation.arity_eq_error_iff`, `ClausePlan.Stop.enter_eq_error_iff` — the faults of a key,
  and those of entering a relation.
* `ClausePlan.Stop.entered_of_askAll` — a pass that succeeds has entered each relation that it meets.
* `ClausePlan.BuiltinAliases.exhausted_of_raises` — the fault of the built-in sources.
* `ClausePlan.Plan.fails_of_ofFields` — planning goes wrong in these ways only.
-/

namespace ClausePlan

/-! ## Faults of a key -/

namespace Relation

/-- The key of the relation is sound: it has as many columns on one side as on the other, and not
none. -/
def IsKeyed (r : Relation) : Prop :=
  r.localColumns.length = r.foreignColumns.length ∧ r.localColumns ≠ []

/-- A relation with a sound key has an arity, from whichever table it leads away. -/
lemma IsKeyed.arity_eq {r : Relation} (h : r.IsKeyed) (source : String) :
    r.arity source = .ok r.localColumns.length :=
  (arity_eq_ok_iff r source _).2 ⟨rfl, h.1.symm, mt List.eq_nil_of_length_eq_zero h.2⟩

/-- A relation that has an arity has a sound key. -/
lemma isKeyed_of_arity {r : Relation} {source : String} {n : Nat} (h : r.arity source = .ok n) :
    r.IsKeyed := by
  obtain ⟨hlocal, hforeign, hn⟩ := (arity_eq_ok_iff r source n).1 h
  refine ⟨hlocal.trans hforeign.symm, fun hnil => hn ?_⟩
  rw [← hlocal, hnil, List.length_nil]

/-- A key is unsound if it has no columns at all, or not equally many on both sides. -/
lemma not_isKeyed_iff {r : Relation} :
    ¬r.IsKeyed ↔ (r.localColumns = [] ∧ r.foreignColumns = []) ∨
      r.localColumns.length ≠ r.foreignColumns.length := by
  rw [IsKeyed]
  by_cases hlengths : r.localColumns.length = r.foreignColumns.length
  · have hboth : r.localColumns = [] → r.foreignColumns = [] := by
      intro hlocal
      rw [hlocal] at hlengths
      exact List.eq_nil_of_length_eq_zero hlengths.symm
    simpa [hlengths] using hboth
  · simp [hlengths]

/-- **A key is refused for one of two reasons**: it has no columns at all, or not equally many on both
sides. -/
lemma arity_eq_error_iff {r : Relation} {source : String} {fault : Fault} :
    r.arity source = .error fault ↔
      (r.localColumns = [] ∧ r.foreignColumns = [] ∧
        fault = .malformed (.keyless source r.collection)) ∨
      (r.localColumns.length ≠ r.foreignColumns.length ∧
        fault = .keyLengths source r.localColumns.length r.foreignColumns.length) := by
  simp only [arity, List.length_eq_zero_iff]
  split_ifs with hnone hlengths
  · simp [hnone, eq_comm]
  · have hlocal : ¬(r.localColumns = [] ∧ r.foreignColumns = []) := hnone
    simp [← and_assoc, hlocal, hlengths, eq_comm]
  · have hlocal : ¬(r.localColumns = [] ∧ r.foreignColumns = []) := hnone
    simp [← and_assoc, hlocal, hlengths]

end Relation

/-- The relation of a field, to one row or to many. -/
def Field.relation? : Field → Option Relation
  | .toOne r _ | .toMany r _ => some r
  | .column _ | .computed _ _ => none

/-! ## Faults of a stop -/

namespace Stop

/-- The key of a stop is checked if the stop has a relation, of whichever cardinality. -/
lemma checkKey_eq_error_iff {root : String} {labels : List String} {s : Stop} {fault : Fault} :
    s.checkKey root labels = .error fault ↔
      ∃ r, s.field.relation? = some r ∧ r.arity (s.table root labels) = .error fault := by
  obtain ⟨field, trail, parent, number⟩ := s
  cases field with
  | column _ => simp [checkKey, Field.relation?]
  | computed _ _ => simp [checkKey, Field.relation?]
  | toOne r _ =>
    simp only [checkKey, Field.relation?, Option.some.injEq, exists_eq_left']
    cases r.arity (table root labels _) <;> simp [Except.map]
  | toMany r _ =>
    simp only [checkKey, Field.relation?, Option.some.injEq, exists_eq_left']
    cases r.arity (table root labels _) <;> simp [Except.map]

/-- The key of a stop passes if no relation of the stop has an unsound one. -/
lemma checkKey_eq_ok_iff {root : String} {labels : List String} {s : Stop} :
    s.checkKey root labels = .ok () ↔ ∀ r ∈ s.field.relation?, r.IsKeyed := by
  constructor
  · intro h r hr
    cases harity : r.arity (s.table root labels) with
    | error fault =>
      rw [checkKey_eq_error_iff.2 ⟨r, hr, harity⟩] at h
      cases h
    | ok n => exact Relation.isKeyed_of_arity harity
  · intro h
    cases hcheck : s.checkKey root labels with
    | ok _ => rfl
    | error fault =>
      obtain ⟨r, hr, harity⟩ := checkKey_eq_error_iff.1 hcheck
      rw [(h r hr).arity_eq] at harity
      cases harity

/-- A stop is entered unless it is that of a to-one relation that lies too deep or has a blank alias. -/
lemma enter_eq_error_iff {level limit : Nat} {label : String} {s : Stop} {fault : Fault} :
    s.enter level limit label = .error fault ↔
      ∃ r, s.relation? = some r ∧
        ((limit ≤ level ∧ fault = .tooDeep r.collection limit) ∨
          (level < limit ∧ label = "" ∧ fault = .malformed .unnamedCollection)) := by
  obtain ⟨field, trail, parent, number⟩ := s
  cases field with
  | column _ => simp [enter, relation?]
  | computed _ _ => simp [enter, relation?]
  | toMany _ _ => simp [enter, relation?]
  | toOne r _ =>
    simp only [enter, relation?, Option.some.injEq, exists_eq_left', String.isEmpty_iff]
    split_ifs with hdeep hblank
    · simp [hdeep, Nat.not_lt.2 hdeep, eq_comm]
    · simp [hdeep, Nat.not_le.1 hdeep, hblank, eq_comm]
    · simp [hdeep, hblank]

/-- A stop is entered if it has no to-one relation, or one that is not too deep and gets an alias that is
not blank. -/
lemma enter_eq_ok_iff {level limit : Nat} {label : String} {s : Stop} :
    s.enter level limit label = .ok () ↔ ∀ r ∈ s.relation?, level < limit ∧ label ≠ "" := by
  constructor
  · intro h r hr
    rcases Nat.lt_or_ge level limit with hlevel | hlevel
    · refine ⟨hlevel, fun hblank => ?_⟩
      rw [enter_eq_error_iff.2 ⟨r, hr, .inr ⟨hlevel, hblank, rfl⟩⟩] at h
      cases h
    · rw [enter_eq_error_iff.2 ⟨r, hr, .inl ⟨hlevel, rfl⟩⟩] at h
      cases h
  · intro h
    cases henter : s.enter level limit label with
    | ok _ => rfl
    | error fault =>
      obtain ⟨r, hr, ⟨hdeep, -⟩ | ⟨-, hblank, -⟩⟩ := enter_eq_error_iff.1 henter
      · exact absurd (h r hr).1 (Nat.not_lt.2 hdeep)
      · exact absurd hblank (h r hr).2

end Stop

/-! ## Faults of a source and of a pass -/

variable {σ : Type} [AliasSource σ]

/-- The source, after it has been drawn from for a while, answers to some seed with this fault. -/
def AliasSource.Raises (aliases : σ) (fault : Fault) : Prop :=
  ∃ aliases' seed, Reaches aliases aliases' ∧ (draw seed aliases').1 = .error fault

/-- The built-in sources answer with one kind of fault only, that they are exhausted. -/
lemma BuiltinAliases.exhausted_of_raises {aliases : BuiltinAliases} {fault : Fault}
    (h : AliasSource.Raises aliases fault) :
    ∃ seed attempts, fault = .aliasesExhausted seed attempts := by
  obtain ⟨aliases', seed, -, hdraw⟩ := h
  cases aliases' with
  | sequential source =>
    change (AliasSource.draw seed source).1 = _ at hdraw
    simp only [AliasSource.draw] at hdraw
    split_ifs at hdraw
    exact ⟨seed, 0, (Except.error.inj hdraw).symm⟩
  | random source =>
    change (AliasSource.draw seed source).1 = _ at hdraw
    simp only [AliasSource.draw] at hdraw
    split at hdraw
    · cases hdraw
    · exact ⟨seed, _, (Except.error.inj hdraw).symm⟩

namespace Stop

variable {root : String} {depth limit : Nat} {labels : List String} {aliases aliases' : σ}
  {fault : Fault}

/-- **How a stop fails**: its key is refused, or no alias is given for its seed, or it is not entered
under its alias. Only in the last case an alias has been drawn. -/
lemma ask_eq_error_iff {s : Stop} :
    exec (ask root depth limit labels s) aliases = (.error fault, aliases') ↔
      (s.checkKey root labels = .error fault ∧ aliases' = aliases) ∨
      (s.checkKey root labels = .ok () ∧ ∃ seed, s.seed? = some seed ∧
        (AliasSource.draw seed aliases = (.error fault, aliases') ∨
          ∃ label, AliasSource.draw seed aliases = (.ok label, aliases') ∧
            s.enter (depth + s.trail.length) limit label = .error fault)) := by
  simp only [ask, exec_bind, exec_ofExcept]
  cases s.checkKey root labels with
  | error e => simp [eq_comm]
  | ok _ =>
    cases s.seed? with
    | none => simp
    | some seed =>
      simp only [exec_bind, exec_ofExcept, exec_pure, AliasM.exec_draw, reduceCtorEq, false_and,
        false_or, true_and, Option.some.injEq, exists_eq_left']
      rcases AliasSource.draw seed aliases with ⟨e | label, aliases₁⟩
      · simp
      · cases henter : s.enter (depth + s.trail.length) limit label with
        | error e => simp [henter, and_comm, eq_comm]
        | ok _ => simp [henter]

/-- **A pass over some stops fails iff it reaches one of them and fails there**, with that fault and in
that state of the source. -/
lemma askAll_eq_error_iff {stops : List Stop} :
    exec (askAll root depth limit stops labels) aliases = (.error fault, aliases') ↔
      ∃ before s after labels₁ aliases₁, stops = before ++ s :: after ∧
        exec (askAll root depth limit before labels) aliases = (.ok labels₁, aliases₁) ∧
        exec (ask root depth limit labels₁ s) aliases₁ = (.error fault, aliases') := by
  constructor
  · intro h
    induction stops generalizing labels aliases with
    | nil => simp [askAll] at h
    | cons t stops ih =>
      rw [askAll_cons, exec_bind] at h
      rcases ht : exec (ask root depth limit labels t) aliases with ⟨e | labels₁, aliases₁⟩
      · rw [ht] at h
        exact ⟨[], t, stops, labels, aliases, rfl, rfl, ht.trans h⟩
      · rw [ht] at h
        obtain ⟨before, s, after, labels₂, aliases₂, rfl, hbefore, hs⟩ := ih h
        refine ⟨t :: before, s, after, labels₂, aliases₂, rfl, ?_, hs⟩
        rw [askAll_cons, exec_bind, ht]
        exact hbefore
  · rintro ⟨before, s, after, labels₁, aliases₁, rfl, hbefore, hs⟩
    rw [askAll_append, exec_bind, hbefore]
    simp only [askAll_cons, exec_bind, hs]

/-- **A pass that succeeds has entered each relation under its own alias**: it is not too deep, and its
alias is not blank. -/
lemma entered_of_askAll {fields : List Field}
    (h : exec (askAll root depth limit (Field.stops fields) []) aliases = (.ok labels, aliases'))
    {s : Stop} (hs : s ∈ Field.stops fields) {r : Relation} (hr : s.relation? = some r) :
    depth + s.trail.length < limit ∧ s.label labels ≠ "" := by
  obtain ⟨before, after, hsplit⟩ := List.append_of_mem hs
  have hseed := seed?_of_relation? hr
  have hnumber := Field.number_of_stops_eq hsplit (by simp [hseed])
  rw [hsplit, askAll_append, exec_bind_ok_iff] at h
  obtain ⟨earlier, aliases₁, hearlier, h⟩ := h
  rw [askAll_cons, exec_bind_ok_iff] at h
  obtain ⟨given, aliases₂, hgiven, hlater⟩ := h
  -- the alias of the relation comes right behind those of the stops before it, and it stays there
  simp only [ask, hseed, exec_bind_ok_iff, exec_ofExcept, exec_pure, Prod.mk.injEq] at hgiven
  obtain ⟨_, _, -, label, _, -, _, _, ⟨henter, -⟩, hlabel, -⟩ := hgiven
  obtain rfl := Except.ok.inj hlabel
  obtain ⟨_, rfl, hdraw⟩ := drawAll_of_askAll hearlier
  obtain ⟨later, rfl, -⟩ := drawAll_of_askAll hlater
  have hown : s.label (earlier ++ [label] ++ later) = label := by
    rw [Stop.label, hnumber, ← AliasM.length_of_drawAll hdraw]
    simp
  rw [hown]
  exact enter_eq_ok_iff.1 henter r hr

end Stop

namespace Plan

/-- The ways in which planning some fields in a context can go wrong. -/
inductive Fails (fields : List Field) (context : Context σ) : Fault → Prop
  /-- The collection has no name, or a relation would get a blank alias. -/
  | unnamed : Fails fields context (.malformed .unnamedCollection)
  /-- The source of aliases answers with a fault of its own. -/
  | raised {fault : Fault} : AliasSource.Raises context.aliases fault → Fails fields context fault
  /-- The walk meets a relation without key columns. -/
  | keyless {s : Stop} {r : Relation} (table : String) : s ∈ Field.stops fields →
      s.field.relation? = some r → r.localColumns = [] → r.foreignColumns = [] →
      Fails fields context (.malformed (.keyless table r.collection))
  /-- The walk meets a relation whose key has different lengths on its two sides. -/
  | keyLengths {s : Stop} {r : Relation} (table : String) : s ∈ Field.stops fields →
      s.field.relation? = some r → r.localColumns.length ≠ r.foreignColumns.length →
      Fails fields context (.keyLengths table r.localColumns.length r.foreignColumns.length)
  /-- The walk meets a to-one relation with too many to-one relations around it. -/
  | tooDeep {s : Stop} {r : Relation} : s ∈ Field.stops fields → s.relation? = some r →
      context.settings.maxDepth.toNat ≤ context.depth + s.trail.length →
      Fails fields context (.tooDeep r.collection context.settings.maxDepth.toNat)

/-- **The faults of planning**, for every source of aliases.

**Proof sketch.** A pass that fails reaches a stop and fails there. Either the key of the stop is
refused, or the source, which has only been drawn from until then, gives no alias, or the relation of
the stop is not entered. -/
lemma fails_of_ofFields {collection : String} {fields : List Field} {context : Context σ}
    {fault : Fault} (h : (exec (ofFields collection fields) context).1 = .error fault) :
    Fails fields context fault := by
  rw [exec_ofFields] at h
  split_ifs at h
  · obtain rfl := Except.error.inj h
    exact .unnamed
  rw [ofWalk, exec_map] at h
  rcases hpass : exec (Stop.askAll collection context.depth context.settings.maxDepth.toNat
    (Field.stops fields) []) context.aliases with ⟨e | labels, aliases'⟩
  · rw [hpass] at h
    obtain rfl : e = fault := Except.error.inj h
    obtain ⟨before, s, after, labels₁, aliases₁, hsplit, hbefore, hs⟩ :=
      Stop.askAll_eq_error_iff.1 hpass
    have hmem : s ∈ Field.stops fields := hsplit ▸ by simp
    rcases Stop.ask_eq_error_iff.1 hs with ⟨hkey, -⟩ | ⟨-, seed, -, hdraw | ⟨label, -, henter⟩⟩
    · obtain ⟨r, hr, harity⟩ := Stop.checkKey_eq_error_iff.1 hkey
      rcases Relation.arity_eq_error_iff.1 harity with ⟨hlocal, hforeign, rfl⟩ | ⟨hlengths, rfl⟩
      · exact .keyless _ hmem hr hlocal hforeign
      · exact .keyLengths _ hmem hr hlengths
    · have hreaches := AliasSource.reaches_askAll collection context.depth
        context.settings.maxDepth.toNat before [] context.aliases
      rw [hbefore] at hreaches
      exact .raised ⟨aliases₁, seed, hreaches, congrArg Prod.fst hdraw⟩
    · obtain ⟨r, hr, ⟨hdeep, rfl⟩ | ⟨-, -, rfl⟩⟩ := Stop.enter_eq_error_iff.1 henter
      · exact .tooDeep hmem hr hdeep
      · exact .unnamed
  · rw [hpass] at h
    cases h

end Plan

end ClausePlan
