import ClausePlan.Proofs.PlanOfStops
/-!
# Fields planned in two goes

The fields of a collection may be planned all at once, or some of them first and the others afterwards,
in the context that the first ones leave. It makes no difference: the plans are put one behind the
other, the context at the end is the same, and where one of the two goes fails the whole fails with that
fault and that context. This holds for every alias source, so also where an alias is given out twice and
the place of a later output column replaces that of an earlier one.

## Main results

* `ClausePlan.Field.planAll_append` — planning two lists of fields plans one after the other.
* `ClausePlan.Field.planAll_eq` — the plan of the fields before stands in front, and has no other part
  in planning.
* `ClausePlan.Plan.ofFields_append` — planning two lists of fields of a collection, as one step.
* `ClausePlan.Plan.ofFields_siblings` — every outcome of planning two lists of fields at once.
-/

namespace ClausePlan

variable {σ : Type} [AliasSource σ]

namespace Field

/-- Planning two lists of fields plans the second one behind the plan of the first one. -/
lemma planAll_append (table : String) (before : Plan) (xs ys : List Field) :
    (planAll table before (xs ++ ys) : PlanM σ Plan) =
      planAll table before xs >>= fun p => planAll table p ys := by
  induction xs generalizing before with
  | nil => simp [planAll]
  | cons x xs ih => simp only [List.cons_append, planAll, bind_assoc, ih]

/-- **The plan of the fields before stands in front**, and has no other part in planning. -/
lemma planAll_eq (table : String) (before : Plan) (fields : List Field) :
    (planAll table before fields : PlanM σ Plan) =
      (do return before ++ (← planAll table ∅ fields)) := by
  induction fields generalizing before with
  | nil => simp [planAll]
  | cons field fields ih =>
    simp only [planAll, bind_assoc, Plan.empty_append]
    refine bind_congr fun p => ?_
    rw [ih (before ++ p), ih p]
    simp only [bind_assoc, pure_bind, Plan.append_assoc]

end Field

namespace Plan

/-- **Planning two lists of fields of a collection** plans them one after the other. -/
lemma ofFields_append (collection : String) (xs ys : List Field) :
    (ofFields collection (xs ++ ys) : PlanM σ Plan) = (do
      let p ← ofFields collection xs
      return p ++ (← ofFields collection ys)) := by
  simp only [ofFields, PlanM.named]
  split_ifs
  · rfl
  · rw [Field.planAll_append]
    exact bind_congr fun p => Field.planAll_eq collection p ys

/-- **Planning the fields of a collection in two goes makes no difference.** If the first fields cannot be
planned, then all of them cannot, with the same fault, and the same context is left. If they can, but
the others cannot be planned in the context that they leave, then all of them cannot, with the fault and
the context of the second go. If both can be planned, then so can all fields at once, and the same context
is left: output columns, joins, parameters and deferred queries of the second plan follow those of the
first, and the places of the second plan are put into those of the first one by one, so that a place
under an alias that both use replaces the one before it.

**Proof sketch.** Planning goes through the fields with the plan so far, which is only ever added to at
its end. Putting plans one behind the other is associative, even where aliases repeat, so it does not
matter whether the second go begins with the plan of the first or with none. -/
theorem ofFields_siblings (collection : String) (xs ys : List Field) (context : Context σ) :
    (∀ fault context', exec (ofFields collection xs) context = (.error fault, context') →
      exec (ofFields collection (xs ++ ys)) context = (.error fault, context')) ∧
    ∀ p context', exec (ofFields collection xs) context = (.ok p, context') →
      (∀ fault context'', exec (ofFields collection ys) context' = (.error fault, context'') →
        exec (ofFields collection (xs ++ ys)) context = (.error fault, context'')) ∧
      ∀ q context'', exec (ofFields collection ys) context' = (.ok q, context'') →
        ∃ r, exec (ofFields collection (xs ++ ys)) context = (.ok r, context'') ∧
          r.select = p.select ++ q.select ∧
          r.joins = p.joins ++ q.joins ∧
          r.parameters = p.parameters ++ q.parameters ∧
          r.deferred = p.deferred ++ q.deferred ∧
          r.paths =
            q.paths.entries.foldl (fun paths entry => paths.insert entry.1 entry.2) p.paths := by
  rw [ofFields_append, exec_bind]
  constructor
  · intro fault context' hxs
    rw [hxs]
  · intro p context' hxs
    simp only [hxs, exec_map]
    constructor
    · intro fault context'' hys
      rw [hys]
      rfl
    · intro q context'' hys
      rw [hys]
      exact ⟨p ++ q, rfl, rfl, rfl, rfl, rfl, rfl⟩

/-- The titles of articles, and the names of their authors. -/
def titlesAndAuthors : List Field :=
  [.column "title", .toOne ⟨["author"], "pg", "users", ["id"]⟩ [.column "name"]]

/-- The last column of the second go gets the alias of the first column of the first one: all fields are
planned, and the place of the later one stands where that of the earlier one was. With one name less the
second go fails, with a single name the first one does, and so do both. -/
theorem ofFields_siblings_titlesAndAuthors :
    (∃ r, exec (ofFields "articles" (titlesAndAuthors ++ titlesAndAuthors))
        { aliases := ListedAliases.mk ["a", "u", "b", "c", "v", "a"] 0 } =
          (.ok r, { aliases := ⟨[], 6⟩ }) ∧
      r.select.map SelectItem.label = ["a", "b", "c", "a"] ∧
      r.paths.entries = [("a", ["users", "name"]), ("b", ["users", "name"]), ("c", ["title"])]) ∧
    exec (ofFields "articles" (titlesAndAuthors ++ titlesAndAuthors))
        { aliases := ListedAliases.mk ["a", "u", "b", "c", "v"] 0 } =
      (.error (.aliasesExhausted "name" 5), { aliases := ⟨[], 5⟩ }) ∧
    exec (ofFields "articles" (titlesAndAuthors ++ titlesAndAuthors))
        { aliases := ListedAliases.mk ["a"] 0 } =
      (.error (.aliasesExhausted "users" 1), { aliases := ⟨[], 1⟩ }) := by
  have hfirst : exec (ofFields "articles" titlesAndAuthors)
      { aliases := ListedAliases.mk ["a", "u", "b", "c", "v", "a"] 0 } =
        (.ok _, { aliases := ⟨["c", "v", "a"], 3⟩ }) := rfl
  have hsecond : exec (ofFields "articles" titlesAndAuthors)
      { aliases := ListedAliases.mk ["c", "v", "a"] 3 } = (.ok _, { aliases := ⟨[], 6⟩ }) := rfl
  have hfirst' : exec (ofFields "articles" titlesAndAuthors)
      { aliases := ListedAliases.mk ["a", "u", "b", "c", "v"] 0 } =
        (.ok _, { aliases := ⟨["c", "v"], 3⟩ }) := rfl
  have hsecond' : exec (ofFields "articles" titlesAndAuthors)
      { aliases := ListedAliases.mk ["c", "v"] 3 } =
        (.error (.aliasesExhausted "name" 5), { aliases := ⟨[], 5⟩ }) := rfl
  obtain ⟨-, hplanned⟩ := ofFields_siblings "articles" titlesAndAuthors titlesAndAuthors
    { aliases := ListedAliases.mk ["a", "u", "b", "c", "v", "a"] 0 }
  obtain ⟨-, hplanned'⟩ := ofFields_siblings "articles" titlesAndAuthors titlesAndAuthors
    { aliases := ListedAliases.mk ["a", "u", "b", "c", "v"] 0 }
  obtain ⟨hfails, -⟩ := ofFields_siblings "articles" titlesAndAuthors titlesAndAuthors
    { aliases := ListedAliases.mk ["a"] 0 }
  obtain ⟨r, hr, hselect, -, -, -, hpaths⟩ := (hplanned _ _ hfirst).2 _ _ hsecond
  refine ⟨⟨r, hr, ?_, ?_⟩, (hplanned' _ _ hfirst').1 _ _ hsecond', hfails _ _ rfl⟩
  · rw [hselect]
    rfl
  · rw [hpaths]
    rfl

end Plan

end ClausePlan
