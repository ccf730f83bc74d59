import ClausePlan.Proofs.Faults
import ClausePlan.Proofs.Outlining
import ClausePlan.Proofs.Query
/-!
# The limit of the reader is enough for planning

Reading a request and planning it both limit how deep relations are nested, but they count differently.
The reader counts all relations around a relation, from the root of the request on. Planning counts the
to-one relations only, and it begins anew in each deferred query. So planning never counts more than
the reader, and a request that was read under some limit is never refused for its depth under that
limit, however far its deferred queries are made.

## Main definitions

* `ClausePlan.Field.FitsBelow` — fields that hang below some relations respect a limit.
* `ClausePlan.Field.Defers` — a deferred query comes from planning some fields, at any remove.
* `ClausePlan.Field.NeverTooDeep` — nothing that is planned for some fields is refused for its depth.

## Main results

* `ClausePlan.Field.relationsOfList_subset_of_mem_walkAll` — what lies at or below a stop is part of
  the request, with the trail of the stop around it at least.
* `ClausePlan.Field.Defers.fitsBelow` — the limit of a request holds for all that is deferred for it.
* `ClausePlan.Field.raises_of_tooDeep` — planning fields that respect the limit is refused for the depth
  of a relation only if the source of aliases says so.
* `ClausePlan.Field.level_lt_of_ofFields` — planning that succeeds has kept to the limit.
* `ClausePlan.Field.neverTooDeep_of_parseList` — what was read under a limit can be planned under it.
-/

namespace ClausePlan

namespace Field

/-! ## What lies at or below a stop -/

mutual

/-- The relations at or below a stop are among those of the field that is walked through. The trail of
the stop counts the to-one relations around it. -/
lemma relations_subset_of_mem_walk (level : Nat) {s : Stop} :
    ∀ (field : Field) (parent : Option Nat) (number : Nat), s ∈ walk parent number field →
      s.field.relations (level + s.trail.length) ⊆ field.relations level
  | .column _, _, _, hs | .computed _ _, _, _, hs | .toMany _ _, _, _, hs => by
    obtain rfl := List.mem_singleton.1 hs
    exact List.Subset.refl _
  | .toOne r fields, _, number, hs => by
    rcases List.mem_cons.1 hs with rfl | hs
    · exact List.Subset.refl _
    · obtain ⟨t, ht, rfl⟩ := List.mem_map.1 hs
      have ih := relationsOfList_subset_of_mem_walkAll (level + 1) fields (some number) (number + 1) ht
      rw [Nat.add_right_comm] at ih
      exact List.Subset.trans ih (List.subset_cons_self _ _)

/-- The relations at or below a stop are among those of the fields that are walked through. -/
lemma relationsOfList_subset_of_mem_walkAll (level : Nat) {s : Stop} :
    ∀ (fields : List Field) (parent : Option Nat) (number : Nat), s ∈ walkAll parent number fields →
      s.field.relations (level + s.trail.length) ⊆ relationsOfList level fields
  | [], _, _, hs => nomatch hs
  | field :: fields, parent, number, hs => by
    rcases List.mem_append.1 hs with hs | hs
    · exact List.Subset.trans (relations_subset_of_mem_walk level field parent number hs)
        (List.subset_append_left _ _)
    · exact List.Subset.trans (relationsOfList_subset_of_mem_walkAll level fields parent _ hs)
        (List.subset_append_right _ _)

end

/-! ## Fields that respect a limit -/

/-- Fields with `level` relations around them respect a limit: around each of their relations there are
fewer relations than it allows, all of them counted. -/
def FitsBelow (level limit : Nat) (fields : List Field) : Prop :=
  ∀ r ∈ relationsOfList level fields, r.level < limit

variable {level limit : Nat} {fields : List Field}

/-- There are no more to-one relations around a stop than relations of either kind. -/
lemma FitsBelow.trail_lt (h : FitsBelow level limit fields) {s : Stop} (hs : s ∈ stops fields)
    {r : Relation} (hr : s.relation? = some r) : level + s.trail.length < limit := by
  have hsub := relationsOfList_subset_of_mem_walkAll level fields none 0 hs
  obtain ⟨below, hfield⟩ := Stop.relation?_eq_some_iff.1 hr
  rw [hfield] at hsub
  exact h ⟨r.collection, _⟩ (hsub List.mem_cons_self)

/-- The fields of a deferred query respect the limit in their place, below the relation that is
deferred. -/
lemma FitsBelow.deferred (h : FitsBelow level limit fields) {s : Stop} (hs : s ∈ stops fields)
    {d : Deferred} (hd : s.deferred? = some d) :
    FitsBelow (level + s.trail.length + 1) limit d.query.fields := by
  have hsub := relationsOfList_subset_of_mem_walkAll level fields none 0 hs
  obtain ⟨field, trail, parent, number⟩ := s
  cases field with
  | column _ | computed _ _ | toOne _ _ => nomatch hd
  | toMany r below =>
    obtain rfl := Option.some_inj.1 hd
    exact fun x hx => h x (hsub (List.mem_cons_of_mem _ hx))

/-- A request that is read under a limit respects it. -/
lemma fitsBelow_of_parseList {value : Json} (h : parseList limit value = .ok fields) :
    FitsBelow 0 limit fields := by
  obtain ⟨nodes, outlines, rfl, hnodes, hfields⟩ := exists_of_parseList h
  -- with no relations around them, this says that fields are nested within the limit
  by_contra hdeep
  have hlevels := (Outline.relationsOfList_fieldList 0 hfields).symm
  obtain ⟨r, -, hrefused⟩ := (bounded_of_levels hlevels limit fields).2 hdeep
  rw [parseList_eq_bounded limit hnodes hfields, hrefused] at h
  cases h

/-! ## Planning under the limit -/

section Planning

variable {σ : Type} [AliasSource σ] {level limit : Nat} {fields : List Field} {context : Context σ}
  {target : String} {bound : Nat}

/-- **Fields that respect the limit of a context are not refused for their depth**, unless the source of
aliases says so. The context may count the relations around the fields, or not all of them. -/
lemma raises_of_tooDeep (h : FitsBelow level limit fields) (hdepth : context.depth ≤ level)
    (hlimit : limit ≤ context.settings.maxDepth.toNat) {collection : String}
    (hfault : (exec (Plan.ofFields collection fields) context).1 = .error (.tooDeep target bound)) :
    AliasSource.Raises context.aliases (.tooDeep target bound) := by
  cases Plan.fails_of_ofFields hfault with
  | raised hraises => exact hraises
  | tooDeep hs hr hlevel =>
    have htrail := h.trail_lt hs hr
    omega

/-- A query for given key values is not refused for its depth if its fields are not. -/
lemma raises_of_generate_tooDeep {q : RelationQuery} (h : FitsBelow level limit q.fields)
    (hdepth : context.depth ≤ level) (hlimit : limit ≤ context.settings.maxDepth.toNat)
    {keys : List Json}
    (hfault : (exec (q.generate keys) context).1 = .error (.tooDeep target bound)) :
    AliasSource.Raises context.aliases (.tooDeep target bound) := by
  rcases RelationQuery.exec_generate_error_iff.1 (Prod.ext hfault rfl) with ⟨-, hcount, -⟩ | ⟨-, hplan⟩
  · cases hcount
  · exact raises_of_tooDeep h hdepth hlimit (congrArg Prod.fst hplan)

/-- **Planning enforces the limit of its context**: where it succeeds, there are fewer to-one relations
around each one that it meets. -/
lemma level_lt_of_ofFields {context' : Context σ} {collection : String} {plan : Plan}
    (h : exec (Plan.ofFields collection fields) context = (.ok plan, context')) {s : Stop}
    (hs : s ∈ stops fields) {r : Relation} (hr : s.relation? = some r) :
    context.depth + s.trail.length < context.settings.maxDepth.toNat := by
  obtain ⟨-, labels, aliases', hask, -⟩ := Plan.exec_ofFields_ok_iff.1 h
  exact (Stop.entered_of_askAll hask hs hr).1

end Planning

/-! ## Deferred queries at any remove -/

/-- The deferred query comes from planning the fields, at any remove: it is one of a plan of the fields,
or one of a query made for such a one. The collections, key values, contexts and sources of aliases on
the way may be any. -/
inductive Defers (fields : List Field) : Deferred → Prop
  /-- A deferred query of a plan. -/
  | ofFields {σ : Type} [AliasSource σ] {collection : String} {context context' : Context σ}
      {plan : Plan} {d : Deferred} :
    exec (Plan.ofFields collection fields) context = (.ok plan, context') → d ∈ plan.deferred →
      Defers fields d
  /-- A deferred query of a query made for another one. -/
  | generate {σ : Type} [AliasSource σ] {d d' : Deferred} {keys : List Json}
      {context context' : Context σ} {sub : SubQuery} :
    Defers fields d → exec (d.generate keys) context = (.ok sub, context') → d' ∈ sub.deferred →
      Defers fields d'

variable {level limit : Nat} {fields : List Field}

/-- What a plan defers respects the limit of its fields. -/
lemma FitsBelow.exists_of_mem_deferred (h : FitsBelow level limit fields) {σ : Type} [AliasSource σ]
    {collection : String} {context context' : Context σ} {plan : Plan}
    (hplan : exec (Plan.ofFields collection fields) context = (.ok plan, context')) {d : Deferred}
    (hd : d ∈ plan.deferred) : ∃ level, FitsBelow level limit d.query.fields := by
  obtain ⟨labels, -, rfl, -⟩ := Plan.drawAll_of_ofFields hplan
  obtain ⟨s, hs, hd⟩ := List.mem_filterMap.1 hd
  exact ⟨_, h.deferred hs hd⟩

/-- **The limit of a request holds for all that is deferred for it.** -/
lemma Defers.fitsBelow {d : Deferred} (hd : Defers fields d) (h : FitsBelow level limit fields) :
    ∃ level, FitsBelow level limit d.query.fields := by
  induction hd with
  | ofFields hplan hmem => exact h.exists_of_mem_deferred hplan hmem
  | generate _ hsub hmem ih =>
    obtain ⟨level', h'⟩ := ih
    obtain ⟨plan, hplan, rfl⟩ := Query.Planned.exists_plan_of_generate hsub
    exact h'.exists_of_mem_deferred hplan hmem

/-! ## What has been read -/

/-- In the context, neither the fields nor any query deferred for them is refused because a relation
lies too deep. -/
structure NeverTooDeep {σ : Type} [AliasSource σ] (fields : List Field) (context : Context σ) : Prop where
  /-- The fields can be planned for any collection, as far as their depth goes. -/
  ofFields : ∀ collection target bound,
    (exec (Plan.ofFields collection fields) context).1 ≠ .error (.tooDeep target bound)
  /-- Each deferred query can be made for any key values, as far as its depth goes. -/
  generate : ∀ d, Defers fields d → ∀ keys target bound,
    (exec (d.generate keys) context).1 ≠ .error (.tooDeep target bound)

/-- Fields that respect the limit of a context are never too deep there, if the source of aliases does
not say so. -/
lemma FitsBelow.neverTooDeep (h : FitsBelow 0 limit fields) {σ : Type} [AliasSource σ]
    {context : Context σ} (hdepth : context.depth = 0)
    (hlimit : limit ≤ context.settings.maxDepth.toNat)
    (hsource : ∀ target bound, ¬AliasSource.Raises context.aliases (.tooDeep target bound)) :
    NeverTooDeep fields context where
  ofFields := fun _ target bound hfault =>
    hsource target bound (raises_of_tooDeep h hdepth.le hlimit hfault)
  generate := by
    intro d hd keys target bound hfault
    obtain ⟨level, h'⟩ := hd.fitsBelow h
    have hdepth' : context.depth ≤ level := hdepth.trans_le (Nat.zero_le level)
    exact hsource target bound (raises_of_generate_tooDeep h' hdepth' hlimit hfault)

/-- **What was read under a limit is never too deep under that limit.** In every context that begins at
the root and allows at least the limit of the reader, the fields can be planned, and all queries that
are deferred for them can be made, to any remove and whatever else goes wrong. Only a source of aliases
could still answer that a relation lies too deep, and the built-in ones do not. The limit that the
settings have by default is one case. That is not because planning would not check: in any context it
only succeeds if all to-one relations that it meets are within the limit of that context.

**Proof sketch.** The reader has counted all relations around each relation. At a stop, planning has
counted its trail, which is a part of them. What is deferred lies below further relations, whose number
only makes the count of the reader larger. -/
theorem neverTooDeep_of_parseList {value : Json} (h : parseList limit value = .ok fields) :
    (∀ {σ : Type} [AliasSource σ] (context : Context σ), context.depth = 0 →
      limit ≤ context.settings.maxDepth.toNat →
      (∀ target bound, ¬AliasSource.Raises context.aliases (.tooDeep target bound)) →
        NeverTooDeep fields context) ∧
    (∀ context : Context BuiltinAliases, context.depth = 0 →
      limit ≤ context.settings.maxDepth.toNat → NeverTooDeep fields context) ∧
    (limit = Settings.defaultMaxDepth.toNat → ∀ tokens slots,
      NeverTooDeep fields (Context.ofSettings {} tokens slots)) ∧
    ∀ {σ : Type} [AliasSource σ] {collection : String} {context context' : Context σ} {plan : Plan},
      exec (Plan.ofFields collection fields) context = (.ok plan, context') →
        ∀ s ∈ stops fields, ∀ r ∈ s.relation?,
          context.depth + s.trail.length < context.settings.maxDepth.toNat := by
  have hfits := fitsBelow_of_parseList h
  have hbuiltin : ∀ context : Context BuiltinAliases, context.depth = 0 →
      limit ≤ context.settings.maxDepth.toNat → NeverTooDeep fields context := by
    intro context hdepth hlimit
    refine hfits.neverTooDeep hdepth hlimit fun target bound hraises => ?_
    obtain ⟨seed, attempts, hfault⟩ := BuiltinAliases.exhausted_of_raises hraises
    cases hfault
  exact ⟨fun context hdepth hlimit hsource => hfits.neverTooDeep hdepth hlimit hsource, hbuiltin,
    fun hlimit tokens slots => hbuiltin _ rfl hlimit.le,
    fun hplan s hs r hr => level_lt_of_ofFields hplan hs hr⟩

/-- A request with relations on three levels, of both kinds. -/
def playlistRequest : List Field :=
  [.toOne ⟨["owner"], "pg", "users", ["id"]⟩
    [.toOne ⟨["country"], "pg", "countries", ["id"]⟩ [.column "name"],
      .toMany ⟨["id"], "pg", "followers", ["user"]⟩
        [.toOne ⟨["avatar"], "pg", "files", ["id"]⟩ [.column "path"]]]]

/-- A request that is read under a limit of three can be planned in a context with that limit. With a
limit of one, the second to-one relation lies too deep. -/
theorem neverTooDeep_of_parseList_playlistRequest :
    parseList 3 (.array (listToJson playlistRequest)) = .ok playlistRequest ∧
    NeverTooDeep playlistRequest
      { aliases := BuiltinAliases.sequential {}, settings := { maxDepth := 3 } } ∧
    (exec (Plan.ofFields "playlists" playlistRequest)
      { aliases := BuiltinAliases.sequential {}, settings := { maxDepth := 1 } }).1 =
        .error (.tooDeep "countries" 1) := by
  have hread : parseList 3 (.array (listToJson playlistRequest)) = .ok playlistRequest := rfl
  exact ⟨hread, (neverTooDeep_of_parseList hread).2.1 _ rfl (by decide), rfl⟩

end Field

end ClausePlan
