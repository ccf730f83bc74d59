import ClausePlan.Proofs.PlanOfStops
/-!
# Planning is one walk

Planning recurses through the request and puts plans of relations together bottom-up. What it does
to the alias source, and where it fails, is nevertheless what a single pass over the stops of the
walk does: it checks a key, asks for an alias, checks the depth, and goes on to the next stop. The
plan is the one that the stops and the aliases amount to.

## Main definitions

* `ClausePlan.AliasM.drawAll` — an alias for each of some seeds, in order.
* `ClausePlan.Stop.ask`, `ClausePlan.Stop.askAll` — what happens at a stop, and at all of them.

## Main results

* `ClausePlan.Stop.drawAll_of_askAll`, `ClausePlan.Stop.key_of_askAll` — a pass that succeeds draws an
  alias for every seed, and nothing else, and meets no unsound key.
* `ClausePlan.Field.exec_planAll`, `ClausePlan.Plan.exec_ofFields` — planning, on every outcome, as a
  pass over the stops.
-/

namespace ClausePlan

variable {σ : Type} [AliasSource σ]

/-! ## Drawing aliases -/

/-- A step that may fail and changes an alias source. -/
abbrev AliasM (σ : Type) := ExceptT Fault (StateM σ)

namespace AliasM

/-- Draws an alias. -/
def draw (seed : String) : AliasM σ String :=
  ExceptT.mk (AliasSource.draw seed)

/-- Draws an alias for each of some seeds, in order. -/
def drawAll : List String → AliasM σ (List String)
  | [] => return []
  | seed :: seeds => do
    let label ← draw seed
    return label :: (← drawAll seeds)

@[simp] lemma exec_draw (seed : String) (aliases : σ) :
    exec (draw seed) aliases = AliasSource.draw seed aliases := rfl

lemma drawAll_nil_ok_iff {labels : List String} {aliases aliases' : σ} :
    exec (drawAll []) aliases = (.ok labels, aliases') ↔ labels = [] ∧ aliases' = aliases := by
  simp [drawAll, eq_comm]

/-- Drawing for some seeds is drawing for the first one and then for the others. -/
lemma drawAll_cons_ok_iff {seed : String} {seeds labels : List String} {aliases aliases' : σ} :
    exec (drawAll (seed :: seeds)) aliases = (.ok labels, aliases') ↔
      ∃ label aliases₁, AliasSource.draw seed aliases = (.ok label, aliases₁) ∧
        ∃ rest, exec (drawAll seeds) aliases₁ = (.ok rest, aliases') ∧ labels = label :: rest := by
  simp only [drawAll, exec_bind_ok_iff, exec_pure, exec_draw, Prod.mk.injEq, Except.ok.injEq]
  constructor
  · rintro ⟨label, aliases₁, hdraw, rest, aliases₂, hrest, rfl, rfl⟩
    exact ⟨label, aliases₁, hdraw, rest, hrest, rfl⟩
  · rintro ⟨label, aliases₁, hdraw, rest, hrest, rfl⟩
    exact ⟨label, aliases₁, hdraw, rest, aliases', hrest, rfl, rfl⟩

/-- Drawing for two lists of seeds in a row. -/
lemma drawAll_append (seeds seeds' : List String) :
    (drawAll (seeds ++ seeds') : AliasM σ _) =
      (do return (← drawAll seeds) ++ (← drawAll seeds')) := by
  induction seeds with
  | nil => simp [drawAll]
  | cons seed seeds ih => simp [drawAll, ih]

/-- Drawing for two lists of seeds in a row succeeds if it does for both of them. -/
lemma drawAll_append_ok_iff {seeds seeds' labels : List String} {aliases aliases' : σ} :
    exec (drawAll (seeds ++ seeds')) aliases = (.ok labels, aliases') ↔
      ∃ labels₁ aliases₁, exec (drawAll seeds) aliases = (.ok labels₁, aliases₁) ∧
        ∃ labels₂, exec (drawAll seeds') aliases₁ = (.ok labels₂, aliases') ∧
          labels = labels₁ ++ labels₂ := by
  rw [drawAll_append]
  simp only [exec_bind_ok_iff, exec_pure, Prod.mk.injEq, Except.ok.injEq]
  constructor
  · rintro ⟨labels₁, aliases₁, h₁, labels₂, aliases₂, h₂, rfl, rfl⟩
    exact ⟨labels₁, aliases₁, h₁, labels₂, h₂, rfl⟩
  · rintro ⟨labels₁, aliases₁, h₁, labels₂, h₂, rfl⟩
    exact ⟨labels₁, aliases₁, h₁, labels₂, aliases', h₂, rfl, rfl⟩

/-- There are as many aliases as seeds. -/
lemma length_of_drawAll {seeds labels : List String} {aliases aliases' : σ}
    (h : exec (drawAll seeds) aliases = (.ok labels, aliases')) :
    labels.length = seeds.length := by
  induction seeds generalizing labels aliases with
  | nil =>
    obtain ⟨rfl, -⟩ := drawAll_nil_ok_iff.1 h
    rfl
  | cons seed seeds ih =>
    obtain ⟨label, aliases₁, -, rest, hrest, rfl⟩ := drawAll_cons_ok_iff.1 h
    rw [List.length_cons, List.length_cons, ih hrest]

end AliasM

/-! ## What happens at a stop -/

namespace Stop

/-- Checks the key of the relation of a stop, if it has one. The key leads away from the table of the
stop. -/
def checkKey (root : String) (labels : List String) (s : Stop) : Except Fault Unit :=
  match s.field with
  | .toOne r _ | .toMany r _ => (r.arity (s.table root labels)).map fun _ => ()
  | .column _ | .computed _ _ => .ok ()

/-- Enters the to-one relation of a stop, if it has one, with `level` relations around it. That fails
if these are too many, or if the alias of the relation is blank: it is the table of what lies below. -/
def enter (level limit : Nat) (label : String) (s : Stop) : Except Fault Unit :=
  match s.field with
  | .toOne r _ =>
    if limit ≤ level then .error (.tooDeep r.collection limit)
    else if label.isEmpty then .error (.malformed .unnamedCollection)
    else .ok ()
  | .column _ | .computed _ _ | .toMany _ _ => .ok ()

/-- What happens at a stop, where `labels` are the aliases so far: the key of a relation is checked,
an alias is drawn for a stop that asks for one, and a relation that is joined in is entered. -/
def ask (root : String) (depth limit : Nat) (labels : List String) (s : Stop) :
    AliasM σ (List String) := do
  MonadExcept.ofExcept (s.checkKey root labels)
  match s.seed? with
  | none => return labels
  | some seed =>
    let label ← AliasM.draw seed
    MonadExcept.ofExcept (s.enter (depth + s.trail.length) limit label)
    return labels ++ [label]

/-- What happens at some stops, one after the other. -/
def askAll (root : String) (depth limit : Nat) (stops : List Stop) (labels : List String) :
    AliasM σ (List String) :=
  stops.foldlM (ask root depth limit) labels

lemma askAll_append (root : String) (depth limit : Nat) (stops stops' : List Stop)
    (labels : List String) :
    (askAll root depth limit (stops ++ stops') labels : AliasM σ _) =
      askAll root depth limit stops labels >>= askAll root depth limit stops' :=
  List.foldlM_append

lemma askAll_cons (root : String) (depth limit : Nat) (s : Stop) (stops : List Stop)
    (labels : List String) :
    (askAll root depth limit (s :: stops) labels : AliasM σ _) =
      ask root depth limit labels s >>= askAll root depth limit stops :=
  List.foldlM_cons

/-- Below a relation the walk is one level deeper. -/
lemma askAll_map_below (root : String) (depth limit : Nat) (collection : String)
    (stops : List Stop) (labels : List String) :
    (askAll root depth limit (stops.map (below collection)) labels : AliasM σ _) =
      askAll root (depth + 1) limit stops labels := by
  have hask : ∀ labels s, (ask root depth limit labels (below collection s) : AliasM σ _) =
      ask root (depth + 1) limit labels s := by
    intro labels s
    have hlevel : depth + (below collection s).trail.length = depth + 1 + s.trail.length := by
      show depth + (s.trail.length + 1) = _
      omega
    simp only [ask, hlevel, seed?_below]
    rfl
  simp only [askAll, List.foldlM_map, hask]

/-- A stop draws an alias for its seed, if it has one, and nothing else. -/
private lemma drawAll_of_ask {root : String} {depth limit : Nat} {s : Stop}
    {labels labels' : List String} {aliases aliases' : σ}
    (h : exec (ask root depth limit labels s) aliases = (.ok labels', aliases')) :
    ∃ new, labels' = labels ++ new ∧
      exec (AliasM.drawAll s.seed?.toList) aliases = (.ok new, aliases') := by
  simp only [ask, exec_bind_ok_iff, exec_ofExcept, Prod.mk.injEq] at h
  obtain ⟨_, aliases₁, ⟨-, rfl⟩, h⟩ := h
  cases hseed : s.seed? with
  | none =>
    rw [hseed] at h
    obtain ⟨rfl, rfl⟩ : labels = labels' ∧ aliases = aliases' := by simpa using h
    exact ⟨[], (List.append_nil _).symm, rfl⟩
  | some seed =>
    rw [hseed] at h
    simp only [exec_bind_ok_iff, exec_ofExcept, exec_pure, Prod.mk.injEq] at h
    obtain ⟨label, aliases₁, hdraw, _, aliases₂, ⟨-, rfl⟩, hlabels, rfl⟩ := h
    refine ⟨[label], (Except.ok.inj hlabels).symm, ?_⟩
    exact AliasM.drawAll_cons_ok_iff.2 ⟨label, aliases₁, hdraw, [], rfl, rfl⟩

/-- **A pass over some stops that succeeds** draws an alias for every seed, in order, and nothing
else. -/
lemma drawAll_of_askAll {root : String} {depth limit : Nat} {stops : List Stop}
    {labels labels' : List String} {aliases aliases' : σ}
    (h : exec (askAll root depth limit stops labels) aliases = (.ok labels', aliases')) :
    ∃ new, labels' = labels ++ new ∧
      exec (AliasM.drawAll (seeds stops)) aliases = (.ok new, aliases') := by
  induction stops generalizing labels aliases with
  | nil =>
    obtain ⟨rfl, rfl⟩ : labels = labels' ∧ aliases = aliases' := by simpa [askAll] using h
    exact ⟨[], (List.append_nil _).symm, rfl⟩
  | cons s stops ih =>
    rw [askAll_cons, exec_bind_ok_iff] at h
    obtain ⟨labels₁, aliases₁, hs, hstops⟩ := h
    obtain ⟨new, rfl, hnew⟩ := drawAll_of_ask hs
    obtain ⟨new', rfl, hnew'⟩ := ih hstops
    refine ⟨new ++ new', List.append_assoc _ _ _, ?_⟩
    have hseeds : seeds (s :: stops) = s.seed?.toList ++ seeds stops := by
      rw [seeds, List.filterMap_cons]
      cases s.seed? <;> rfl
    rw [hseeds]
    exact AliasM.drawAll_append_ok_iff.2 ⟨new, aliases₁, hnew, new', hnew', rfl⟩

/-- **A pass over some stops that succeeds** meets no to-one relation with an unsound key. -/
lemma key_of_askAll {root : String} {depth limit : Nat} {stops : List Stop}
    {labels labels' : List String} {aliases aliases' : σ}
    (h : exec (askAll root depth limit stops labels) aliases = (.ok labels', aliases'))
    {s : Stop} (hs : s ∈ stops) {r : Relation} (hr : s.relation? = some r) :
    r.localColumns.length = r.foreignColumns.length ∧ r.localColumns ≠ [] := by
  induction stops generalizing labels aliases with
  | nil => simp at hs
  | cons t stops ih =>
    rw [askAll_cons, exec_bind_ok_iff] at h
    obtain ⟨labels₁, aliases₁, hask, hstops⟩ := h
    rcases List.mem_cons.1 hs with rfl | hs
    · obtain ⟨fields, hfield⟩ := relation?_eq_some_iff.1 hr
      simp only [ask, checkKey, hfield, exec_bind_ok_iff, exec_ofExcept, Prod.mk.injEq] at hask
      obtain ⟨_, _, ⟨hkey, -⟩, -⟩ := hask
      cases harity : r.arity (s.table root labels) with
      | error fault => simp [harity, Except.map] at hkey
      | ok n =>
        obtain ⟨hlocal, hforeign, hn⟩ := (Relation.arity_eq_ok_iff _ _ _).1 harity
        refine ⟨hlocal.trans hforeign.symm, fun hnil => hn ?_⟩
        rw [← hlocal, hnil, List.length_nil]
    · exact ih hstops hs

end Stop

/-! ## The plan of a single stop -/

section Single

variable {root : String} {labels labels' : List String} {label : String} {parent : Option Nat}

/-- The alias given out last is the one with the next number. -/
private lemma label_eq_of_isPrefix (h : labels ++ [label] <+: labels') :
    labels'.getD labels.length "" = label := by
  rw [← getD_eq_of_isPrefix h (by simp)]
  simp

/-- The table of a stop is known before its alias is. -/
private lemma tableBelow_eq_of_append (hparent : ∀ k ∈ parent, k < labels.length)
    (h : labels ++ [label] <+: labels') :
    Stop.tableBelow root labels' parent = Stop.tableBelow root labels parent :=
  (Stop.tableBelow_eq_of_isPrefix root ((List.prefix_append _ _).trans h) hparent).symm

lemma Plan.ofStops_column (hparent : ∀ k ∈ parent, k < labels.length)
    (h : labels ++ [label] <+: labels') (name : String) :
    Plan.ofStops root labels' [⟨.column name, [], parent, labels.length⟩] =
      .ofSelect { table := Stop.tableBelow root labels parent, column := name, label } [name] := by
  rw [← tableBelow_eq_of_append hparent h, ← label_eq_of_isPrefix h]
  rfl

lemma Plan.ofStops_computed (hparent : ∀ k ∈ parent, k < labels.length)
    (h : labels ++ [label] <+: labels') (fn : ScalarFunction) (name : String) :
    Plan.ofStops root labels' [⟨.computed fn name, [], parent, labels.length⟩] =
      .ofSelect { fn := some fn, table := Stop.tableBelow root labels parent, column := name, label }
        [name] := by
  rw [← tableBelow_eq_of_append hparent h, ← label_eq_of_isPrefix h]
  rfl

lemma Plan.ofStops_toOne (hparent : ∀ k ∈ parent, k < labels.length)
    (h : labels ++ [label] <+: labels') (r : Relation) (fields : List Field) :
    Plan.ofStops root labels' [⟨.toOne r fields, [], parent, labels.length⟩] =
      .ofJoin { table := r.collection
                on := r.condition (Stop.tableBelow root labels parent) label
                label } := by
  rw [← tableBelow_eq_of_append hparent h, ← label_eq_of_isPrefix h]
  rfl

end Single

/-! ## Planning as a pass over the stops -/

/-- The plan that a pass over some stops amounts to. -/
def Plan.ofWalk (root : String) (depth limit : Nat) (labels : List String) (stops : List Stop) :
    AliasM σ Plan := do
  return .ofStops root (← Stop.askAll root depth limit stops labels) stops

/-- The outcome of a step on the alias source alone, and the context with the source that the step
leaves. -/
def Context.resume {α : Type} (context : Context σ) (r : Except Fault α × σ) :
    Except Fault α × Context σ :=
  (r.1, { context with aliases := r.2 })

/-- A pass over two walks in a row. The plan of the first one can be written down before the second
one begins, since it does not depend on later aliases. -/
private lemma Plan.exec_ofWalk_append (root : String) (depth limit : Nat) {labels : List String}
    {stops : List Stop} (hnamed : ∀ s ∈ stops, s.NamedBy (labels.length + (Stop.seeds stops).length))
    (stops' : List Stop) (aliases : σ) :
    exec (ofWalk root depth limit labels (stops ++ stops')) aliases =
      exec (do
        let labels₁ ← Stop.askAll root depth limit stops labels
        return ofStops root labels₁ stops ++ (← ofWalk root depth limit labels₁ stops')) aliases := by
  simp only [ofWalk, Stop.askAll_append, exec_bind, exec_pure]
  rcases hfirst : exec (Stop.askAll root depth limit stops labels) aliases with
    ⟨fault | labels₁, aliases₁⟩
  · rfl
  simp only
  rcases hrest : exec (Stop.askAll root depth limit stops' labels₁) aliases₁ with
    ⟨fault | labels₂, aliases₂⟩
  · rfl
  obtain ⟨new, rfl, hnew⟩ := Stop.drawAll_of_askAll hfirst
  obtain ⟨new', rfl, -⟩ := Stop.drawAll_of_askAll hrest
  rw [← AliasM.length_of_drawAll hnew, ← List.length_append] at hnamed
  simp only
  rw [ofStops_append, ofStops_eq_of_isPrefix root hnamed (List.prefix_append _ new')]

/-- Planning a to-one relation is a pass over its stop and the stops below it, if planning the fields
below it is a pass over their stops. There the alias of the relation is the table. -/
private lemma Field.exec_plan_toOne (root : String) (r : Relation) (fields : List Field)
    {parent : Option Nat} {labels : List String} (context : Context σ)
    (hparent : ∀ k ∈ parent, k < labels.length)
    (hfields : ∀ (label : String) (context : Context σ),
      exec (Field.planAll label ∅ fields) context =
        context.resume (exec (Plan.ofWalk root context.depth context.settings.maxDepth.toNat
          (labels ++ [label]) (Field.walkAll (some labels.length) (labels.length + 1) fields))
          context.aliases)) :
    exec (Field.plan (Stop.tableBelow root labels parent) (.toOne r fields)) context =
      context.resume (exec (Plan.ofWalk root context.depth context.settings.maxDepth.toNat labels
        (Field.walk parent labels.length (.toOne r fields))) context.aliases) := by
  simp only [Field.plan, Field.walk, Plan.ofWalk, Stop.askAll_cons, Stop.ask, Stop.checkKey,
    Stop.seed?, Field.seed?, Stop.enter, Stop.table, List.length_nil, Nat.add_zero, exec_bind,
    exec_pure, exec_ofExcept, PlanM.exec_newAlias, AliasM.exec_draw]
  cases hkey : r.arity (Stop.tableBelow root labels parent) with
  | error fault => rfl
  | ok n =>
    simp only [Except.map]
    rcases AliasSource.draw r.collection context.aliases with ⟨fault | label, aliases'⟩
    · rfl
    simp only [Relation.joinClause_of_arity hkey, PlanM.exec_deeper, PlanM.exec_named, hfields]
    by_cases hdeep : context.settings.maxDepth.toNat ≤ context.depth
    · simp only [hdeep, if_true]
      rfl
    by_cases hblank : label.isEmpty
    · simp only [hdeep, hblank, if_true, if_false]
      rfl
    simp only [hdeep, hblank, if_false, Bool.false_eq_true, Stop.askAll_map_below, Plan.ofWalk,
      exec_bind, exec_pure]
    rcases hrest : exec (Stop.askAll root (context.depth + 1) context.settings.maxDepth.toNat
      (Field.walkAll (some labels.length) (labels.length + 1) fields) (labels ++ [label]))
        aliases' with ⟨fault | labels', aliases''⟩
    · rfl
    · obtain ⟨new, rfl, -⟩ := Stop.drawAll_of_askAll hrest
      have hprefix : labels ++ [label] <+: labels ++ [label] ++ new := List.prefix_append _ _
      simp only
      rw [Plan.ofStops_cons, Plan.ofStops_below, Plan.ofStops_toOne hparent hprefix]
      rfl

mutual

/-- **Planning a field is a pass over its stops**, on every outcome. -/
lemma Field.exec_plan (root : String) :
    ∀ (field : Field) (parent : Option Nat) (labels : List String) (context : Context σ),
      (∀ k ∈ parent, k < labels.length) →
        exec (Field.plan (Stop.tableBelow root labels parent) field) context =
          context.resume (exec (Plan.ofWalk root context.depth context.settings.maxDepth.toNat labels
            (Field.walk parent labels.length field)) context.aliases)
  | .column name, parent, labels, context, hparent => by
    simp only [Field.plan, Field.walk, Plan.ofWalk, Stop.askAll, List.foldlM_cons, List.foldlM_nil,
      Stop.ask, Stop.checkKey, Stop.seed?, Field.seed?, Stop.enter, exec_bind, exec_pure,
      exec_ofExcept, PlanM.exec_newAlias, AliasM.exec_draw]
    rcases AliasSource.draw name context.aliases with ⟨_ | label, aliases'⟩
    · rfl
    · simp only
      rw [Plan.ofStops_column hparent List.prefix_rfl]
      rfl
  | .computed fn name, parent, labels, context, hparent => by
    simp only [Field.plan, Field.walk, Plan.ofWalk, Stop.askAll, List.foldlM_cons, List.foldlM_nil,
      Stop.ask, Stop.checkKey, Stop.seed?, Field.seed?, Stop.enter, exec_bind, exec_pure,
      exec_ofExcept, PlanM.exec_newAlias, AliasM.exec_draw]
    rcases AliasSource.draw (fn.aliasSeed name) context.aliases with ⟨_ | label, aliases'⟩
    · rfl
    · simp only
      rw [Plan.ofStops_computed hparent List.prefix_rfl]
      rfl
  | .toOne r fields, parent, labels, context, hparent => by
    refine Field.exec_plan_toOne root r fields context hparent fun label context => ?_
    -- the number of the relation is the innermost one for the fields below it
    have hself : ∀ k ∈ some labels.length, k < (labels ++ [label]).length := by
      intro k hk
      obtain rfl := Option.mem_some_iff.1 hk
      simp
    have htable : Stop.tableBelow root (labels ++ [label]) (some labels.length) = label :=
      label_eq_of_isPrefix List.prefix_rfl
    have ih := Field.exec_planAll root fields (some labels.length) (labels ++ [label]) ∅ context hself
    rw [htable, List.length_append, List.length_singleton] at ih
    simpa only [Plan.empty_append, bind_pure] using ih
  | .toMany r fields, parent, labels, context, hparent => by
    simp only [Field.plan, Field.walk, Plan.ofWalk, Stop.askAll, List.foldlM_cons, List.foldlM_nil,
      Stop.ask, Stop.checkKey, Stop.seed?, Field.seed?, exec_bind, exec_pure, exec_ofExcept,
      Relation.deferred_ofRelation, Stop.table]
    cases r.arity (Stop.tableBelow root labels parent) with
    | error fault => rfl
    | ok n => rfl

/-- **Planning some fields is a pass over their stops**, on every outcome. The plan is put behind the
one of the fields before them. -/
lemma Field.exec_planAll (root : String) :
    ∀ (fields : List Field) (parent : Option Nat) (labels : List String) (before : Plan)
      (context : Context σ), (∀ k ∈ parent, k < labels.length) →
        exec (Field.planAll (Stop.tableBelow root labels parent) before fields) context =
          context.resume (exec (do
            return before ++ (← Plan.ofWalk root context.depth context.settings.maxDepth.toNat labels
              (Field.walkAll parent labels.length fields))) context.aliases)
  | [], parent, labels, before, context, _ => by
    simp only [Field.planAll, Field.walkAll, Plan.ofWalk, Stop.askAll, List.foldlM_nil, exec_bind,
      exec_pure, Plan.ofStops_nil, Plan.append_empty]
    rfl
  | field :: fields, parent, labels, before, context, hparent => by
    have hnamed := Field.namedBy_invariant.walk parent labels.length field hparent
    rw [Field.planAll, Field.walkAll, exec_bind, exec_map, Plan.exec_ofWalk_append _ _ _ hnamed,
      Field.exec_plan root field parent labels context hparent]
    simp only [Plan.ofWalk, exec_bind, exec_pure]
    rcases hfirst : exec (Stop.askAll root context.depth context.settings.maxDepth.toNat
      (Field.walk parent labels.length field) labels) context.aliases with ⟨fault | labels₁, aliases₁⟩
    · rfl
    -- the aliases of the first field come before those of the others
    obtain ⟨new, rfl, hnew⟩ := Stop.drawAll_of_askAll hfirst
    have hlength : (labels ++ new).length =
        labels.length + (Stop.seeds (Field.walk parent labels.length field)).length := by
      rw [List.length_append, AliasM.length_of_drawAll hnew]
    have hprefix : labels <+: labels ++ new := List.prefix_append _ _
    have hparent' : ∀ k ∈ parent, k < (labels ++ new).length := fun k hk =>
      (hparent k hk).trans_le hprefix.length_le
    have ih := Field.exec_planAll root fields parent (labels ++ new)
      (before ++ Plan.ofStops root (labels ++ new) (Field.walk parent labels.length field))
      { context with aliases := aliases₁ } hparent'
    rw [← Stop.tableBelow_eq_of_isPrefix root hprefix hparent, hlength, exec_map] at ih
    simp only [Context.resume]
    rw [ih]
    simp only [Plan.ofWalk, exec_bind, exec_pure]
    rcases exec (Stop.askAll root context.depth context.settings.maxDepth.toNat
      (Field.walkAll parent _ fields) (labels ++ new)) aliases₁ with ⟨fault | labels₂, aliases₂⟩
    · rfl
    · simp only [Except.map, Plan.append_assoc]
      rfl

end

namespace Plan

/-- **Planning the fields of a collection is one pass over their stops**, on every outcome. A
collection without a name is refused before anything else happens. -/
theorem exec_ofFields (collection : String) (fields : List Field) (context : Context σ) :
    exec (ofFields collection fields) context =
      if collection.isEmpty then (.error (.malformed .unnamedCollection), context)
      else context.resume (exec (ofWalk collection context.depth context.settings.maxDepth.toNat []
        (Field.stops fields)) context.aliases) := by
  rw [ofFields, PlanM.exec_named]
  split_ifs with h
  · rfl
  · have hplan := Field.exec_planAll collection fields none [] ∅ context (by simp)
    have htable : Stop.tableBelow collection [] none = collection := rfl
    rw [htable] at hplan
    rw [hplan]
    simp only [empty_append, bind_pure]
    rfl

/-- Planning succeeds exactly if the collection has a name and the pass over the stops succeeds. -/
lemma exec_ofFields_ok_iff {collection : String} {fields : List Field} {plan : Plan}
    {context context' : Context σ} :
    exec (ofFields collection fields) context = (.ok plan, context') ↔
      collection.isEmpty = false ∧ ∃ labels aliases',
        exec (Stop.askAll collection context.depth context.settings.maxDepth.toNat
          (Field.stops fields) []) context.aliases = (.ok labels, aliases') ∧
        plan = ofStops collection labels (Field.stops fields) ∧
        context' = { context with aliases := aliases' } := by
  rw [exec_ofFields]
  split_ifs with h
  · simp [h]
  · simp only [ofWalk, exec_bind, exec_pure, Context.resume, h, true_and]
    rcases exec (Stop.askAll collection context.depth context.settings.maxDepth.toNat
      (Field.stops fields) []) context.aliases with ⟨fault | labels, aliases'⟩
    · simp
    · simp only [Prod.mk.injEq, Except.ok.injEq]
      constructor
      · rintro ⟨rfl, rfl⟩
        exact ⟨labels, aliases', ⟨rfl, rfl⟩, rfl, rfl⟩
      · rintro ⟨_, _, ⟨rfl, rfl⟩, rfl, rfl⟩
        exact ⟨rfl, rfl⟩

/-- Planning that succeeds draws an alias for every seed of the walk, and the plan is that of the
stops with these aliases. -/
lemma drawAll_of_ofFields {collection : String} {fields : List Field} {plan : Plan}
    {context context' : Context σ}
    (h : exec (ofFields collection fields) context = (.ok plan, context')) :
    ∃ labels, exec (AliasM.drawAll (Stop.seeds (Field.stops fields))) context.aliases =
        (.ok labels, context'.aliases) ∧
      plan = ofStops collection labels (Field.stops fields) ∧
      context' = { context with aliases := context'.aliases } := by
  obtain ⟨-, labels, aliases', hask, rfl, rfl⟩ := exec_ofFields_ok_iff.1 h
  obtain ⟨new, hnew, hdraw⟩ := Stop.drawAll_of_askAll hask
  rw [List.nil_append] at hnew
  rw [hnew]
  exact ⟨new, hdraw, rfl, rfl⟩

end Plan

end ClausePlan
