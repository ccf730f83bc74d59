import ClausePlan.Plan.Json
import ClausePlan.Proofs.Encoding
import ClausePlan.Proofs.OrderedMap
import Mathlib.Data.List.Sort
import Mathlib.Data.String.Basic
/-!
# What JSON forms show

The JSON form of a plan or of a query shows all of it but two things: the order in which the output
columns got their places, since objects are sorted by key, and what the deferred queries ask for. In
clauses nothing is left out. Many parts bear the same tag, as a column and a plain output column do, but
no two kinds that can stand in one place look alike.

## Main definitions

* `ClausePlan.Deferred.LooksLike`, `ClausePlan.Plan.LooksLike`, `ClausePlan.SubQuery.LooksLike` — equality
  of all that the JSON forms show.

## Main results

* `ClausePlan.Json.ofMembers_eq_iff` — objects are equal iff the same value stands under each key.
* `ClausePlan.Condition.toJson_injective`, `ClausePlan.SelectItem.toJson_injective`,
  `ClausePlan.JoinClause.toJson_injective` — equal forms of clauses mean equal clauses.
* `ClausePlan.pathsToJson_eq_iff` — equal forms of places mean equal places under each alias.
* `ClausePlan.Plan.toJson_faithful` — equal forms of plans and queries mean equal plans and queries, but for
  the two things that are not shown.
-/

namespace ClausePlan

/-! ## Objects -/

namespace Json

/-- A member that is put in is found under its key, and all other members are found as before. -/
lemma lookup_insertMember (key : String) (value : Json) (key' : String) :
    ∀ members : List (String × Json), (insertMember key value members).lookup key' =
      if key' = key then some value else members.lookup key'
  | [] => OrderedMap.lookup_cons_eq_ite key' key value []
  | (k, v) :: members => by
    simp only [insertMember]
    split
    · next heq =>
      subst heq
      by_cases h : key' = key <;> simp [OrderedMap.lookup_cons_eq_ite, h]
    split
    · rw [OrderedMap.lookup_cons_eq_ite]
    · next hne _ =>
      rw [OrderedMap.lookup_cons_eq_ite, lookup_insertMember key value key' members,
        OrderedMap.lookup_cons_eq_ite]
      by_cases h : key' = k
      · simp [h, Ne.symm hne]
      · simp [h]

/-- The keys with a member put in are those from before and that of the member. -/
lemma mem_keys_insertMember {key : String} {value : Json} {key' : String} :
    ∀ {members : List (String × Json)},
      key' ∈ (insertMember key value members).map Prod.fst →
        key' = key ∨ key' ∈ members.map Prod.fst
  | [], h => by simpa [insertMember] using h
  | (k, v) :: members, h => by
    simp only [insertMember] at h
    split at h
    · next heq => exact .inr (heq ▸ h)
    split at h
    · simpa using h
    · obtain rfl | h := List.mem_cons.1 h
      · simp
      · exact (mem_keys_insertMember h).imp_right (List.mem_cons_of_mem k)

/-- Putting in a member keeps the keys in ascending order. -/
lemma pairwise_insertMember (key : String) (value : Json) :
    ∀ {members : List (String × Json)}, (members.map Prod.fst).Pairwise (· < ·) →
      ((insertMember key value members).map Prod.fst).Pairwise (· < ·)
  | [], _ => by simp [insertMember]
  | (k, v) :: members, h => by
    obtain ⟨hfirst, hrest⟩ := List.pairwise_cons.1 h
    simp only [insertMember]
    split
    · next heq => exact heq ▸ h
    split
    · next hlt =>
      refine List.pairwise_cons.2 ⟨fun key' hkey' => ?_, h⟩
      obtain rfl | hkey' := List.mem_cons.1 hkey'
      · exact hlt
      · exact hlt.trans (hfirst key' hkey')
    · next hne hnlt =>
      refine List.pairwise_cons.2 ⟨fun key' hkey' => ?_, pairwise_insertMember key value hrest⟩
      obtain rfl | hkey' := mem_keys_insertMember hkey'
      · exact lt_of_le_of_ne (not_lt.1 hnlt) (Ne.symm hne)
      · exact hfirst key' hkey'

/-- The members of an object are in ascending order of their keys. -/
private lemma pairwise_foldl_insertMember (l : List (String × Json)) :
    ((l.foldl (fun sorted member => insertMember member.1 member.2 sorted) []).map
      Prod.fst).Pairwise (· < ·) := by
  induction l using List.reverseRecOn with
  | nil => exact List.Pairwise.nil
  | append_singleton l member ih =>
    rw [List.foldl_append]
    exact pairwise_insertMember member.1 member.2 ih

/-- Under each key stands the value that the map of the members has there. -/
private lemma lookup_foldl_insertMember (l : List (String × Json)) (key : String) :
    (l.foldl (fun sorted member => insertMember member.1 member.2 sorted) []).lookup key =
      (OrderedMap.ofList l).get? key := by
  induction l using List.reverseRecOn with
  | nil => rfl
  | append_singleton l member ih =>
    rw [List.foldl_append, OrderedMap.ofList_concat, OrderedMap.get?_insert, ← ih]
    exact lookup_insertMember member.1 member.2 key _

/-- Members in ascending order of their keys are determined by the value under each key. -/
lemma members_eq_of_lookup {l l' : List (String × Json)} (h : (l.map Prod.fst).Pairwise (· < ·))
    (h' : (l'.map Prod.fst).Pairwise (· < ·)) (hlookup : ∀ key, l.lookup key = l'.lookup key) :
    l = l' := by
  have hperm : (l.map Prod.fst).Perm (l'.map Prod.fst) :=
    (List.perm_ext_iff_of_nodup h.nodup h'.nodup).2 fun key => by
      rw [← OrderedMap.isSome_lookup_iff, ← OrderedMap.isSome_lookup_iff, hlookup]
  exact OrderedMap.entries_eq_of_lookup l l' h.nodup (hperm.eq_of_pairwise' h h') hlookup

/-- **Objects are equal iff the same value stands under each key**, in whatever order their members
were given. -/
lemma ofMembers_eq_iff (l l' : List (String × Json)) :
    ofMembers l = ofMembers l' ↔
      ∀ key, (OrderedMap.ofList l).get? key = (OrderedMap.ofList l').get? key := by
  simp only [ofMembers, Json.object.injEq]
  constructor
  · intro h key
    rw [← lookup_foldl_insertMember, h, lookup_foldl_insertMember]
  · intro h
    refine members_eq_of_lookup (pairwise_foldl_insertMember l) (pairwise_foldl_insertMember l') ?_
    intro key
    rw [lookup_foldl_insertMember, lookup_foldl_insertMember, h]

/-- The JSON form of a list of texts determines the list. -/
lemma ofStrings_injective : Function.Injective Json.ofStrings := by
  intro texts texts' h
  have hinj : Function.Injective Json.string := fun _ _ => Json.string.inj
  exact List.map_injective_iff.2 hinj (Json.array.inj h)

end Json

/-! ## Clauses -/

/-- The JSON form of a function determines it, since it is read back. -/
lemma ScalarFunction.toJson_injective : Function.Injective ScalarFunction.toJson := by
  intro fn fn' h
  have hread := congrArg (ofJson .belowTag) h
  rwa [ofJson_toJson, ofJson_toJson, Except.ok.injEq] at hread

/-- The JSON form of a column determines it. -/
lemma Column.toJson_injective : Function.Injective Column.toJson := by
  rintro ⟨table, name⟩ ⟨table', name'⟩ h
  simp only [toJson, Json.object.injEq, List.cons.injEq, Prod.mk.injEq, Json.string.injEq] at h
  obtain ⟨⟨-, rfl⟩, ⟨-, rfl⟩, -⟩ := h
  rfl

/-- A column and a slot never look alike: the first one has no member named as the index of the other. -/
lemma Operand.toJson_column_ne_slot (c : Column) (i : Nat) :
    (column c).toJson ≠ (slot i).toJson := by
  simp [toJson, Column.toJson]

/-- The JSON form of an operand determines it. -/
lemma Operand.toJson_injective : Function.Injective Operand.toJson := by
  intro operand operand' h
  cases operand with
  | column c =>
    cases operand' with
    | column c' => rw [Column.toJson_injective h]
    | slot i' => exact absurd h (toJson_column_ne_slot c i')
  | slot i =>
    cases operand' with
    | column c' => exact absurd h.symm (toJson_column_ne_slot c' i)
    | slot i' =>
      have hindex : (i : Int) = i' := by simpa [toJson, Json.ofNat] using h
      rw [Int.ofNat_inj.1 hindex]

/-- The JSON form of an equality determines it. -/
lemma Comparison.toJson_injective : Function.Injective Comparison.toJson := by
  rintro ⟨target, operand⟩ ⟨target', operand'⟩ h
  simp only [toJson, Json.object.injEq, List.cons.injEq, Prod.mk.injEq] at h
  obtain ⟨⟨-, hoperand⟩, -, ⟨-, htarget⟩, -⟩ := h
  rw [Operand.toJson_injective hoperand, Column.toJson_injective htarget]

namespace Condition

/-- An equality and a conjunction never look alike. -/
lemma toJson_leaf_ne_conjunction (e : Comparison) (negated : Bool) (conditions : List Condition)
    (negated' : Bool) : (leaf e negated).toJson ≠ (conjunction conditions negated').toJson := by
  simp [toJson]

mutual

/-- Conditions with equal JSON forms are equal, however deep they are. -/
lemma eq_of_toJson_eq : ∀ c c' : Condition, c.toJson = c'.toJson → c = c'
  | leaf e negated, leaf e' negated', h => by
    simp only [toJson, Json.object.injEq, List.cons.injEq, Prod.mk.injEq, Json.bool.injEq] at h
    obtain ⟨⟨-, he⟩, ⟨-, hnegated⟩, -⟩ := h
    rw [Comparison.toJson_injective he, hnegated]
  | leaf e negated, conjunction conditions negated', h =>
    absurd h (toJson_leaf_ne_conjunction e negated conditions negated')
  | conjunction conditions negated, leaf e negated', h =>
    absurd h.symm (toJson_leaf_ne_conjunction e negated' conditions negated)
  | conjunction conditions negated, conjunction conditions' negated', h => by
    simp only [toJson, Json.object.injEq, List.cons.injEq, Prod.mk.injEq, Json.bool.injEq,
      Json.array.injEq] at h
    obtain ⟨⟨-, hconditions⟩, ⟨-, hnegated⟩, -⟩ := h
    rw [eq_of_listToJson_eq conditions conditions' hconditions, hnegated]

/-- Lists of conditions with equal JSON forms are equal. -/
lemma eq_of_listToJson_eq : ∀ conditions conditions' : List Condition,
    listToJson conditions = listToJson conditions' → conditions = conditions'
  | [], [], _ => rfl
  | [], _ :: _, h => by simp [listToJson] at h
  | _ :: _, [], h => by simp [listToJson] at h
  | c :: conditions, c' :: conditions', h => by
    obtain ⟨hfirst, hrest⟩ := List.cons.inj h
    rw [eq_of_toJson_eq c c' hfirst, eq_of_listToJson_eq conditions conditions' hrest]

end

/-- **The JSON form of a condition determines it.** -/
lemma toJson_injective : Function.Injective Condition.toJson :=
  eq_of_toJson_eq

/-- No condition looks like an absent one. -/
lemma toJson_ne_null (c : Condition) : c.toJson ≠ .null := by
  cases c <;> simp [toJson]

/-- The JSON form of a condition that may be absent determines it. -/
lemma toJson_getD_injective :
    Function.Injective fun filter : Option Condition => (filter.map toJson).getD .null := by
  intro filter filter' h
  cases filter with
  | none =>
    cases filter' with
    | none => rfl
    | some c' => exact absurd h.symm (toJson_ne_null c')
  | some c =>
    cases filter' with
    | none => exact absurd h (toJson_ne_null c)
    | some c' => rw [toJson_injective h]

end Condition

/-- A plain output column and a computed one never look alike. -/
lemma SelectItem.toJson_ne_computed (table column label : String) (fn : ScalarFunction)
    (table' column' label' : String) :
    (SelectItem.mk none table column label).toJson ≠
      (SelectItem.mk (some fn) table' column' label').toJson := by
  simp [toJson]

/-- **The JSON form of an output column determines it.** -/
lemma SelectItem.toJson_injective : Function.Injective SelectItem.toJson := by
  rintro ⟨fn, table, column, label⟩ ⟨fn', table', column', label'⟩ h
  cases fn with
  | none =>
    cases fn' with
    | none =>
      simp only [toJson, Json.object.injEq, List.cons.injEq, Prod.mk.injEq, Json.string.injEq] at h
      obtain ⟨⟨-, rfl⟩, ⟨-, rfl⟩, ⟨-, rfl⟩, -⟩ := h
      rfl
    | some fn' => exact absurd h (toJson_ne_computed _ _ _ fn' _ _ _)
  | some fn =>
    cases fn' with
    | none => exact absurd h.symm (toJson_ne_computed _ _ _ fn _ _ _)
    | some fn' =>
      simp only [toJson, Json.object.injEq, List.cons.injEq, Prod.mk.injEq, Json.string.injEq] at h
      obtain ⟨⟨-, rfl⟩, ⟨-, rfl⟩, ⟨-, hfn⟩, ⟨-, rfl⟩, -⟩ := h
      rw [ScalarFunction.toJson_injective hfn]

/-- **The JSON form of a join determines it.** -/
lemma JoinClause.toJson_injective : Function.Injective JoinClause.toJson := by
  rintro ⟨table, on, label⟩ ⟨table', on', label'⟩ h
  simp only [toJson, Json.object.injEq, List.cons.injEq, Prod.mk.injEq, Json.string.injEq] at h
  obtain ⟨⟨-, rfl⟩, ⟨-, hon⟩, ⟨-, rfl⟩, -⟩ := h
  rw [Condition.toJson_injective hon]

/-- The JSON form of the clauses of a plan shows exactly its output columns and its joins. -/
lemma Plan.clausesToJson_eq_iff (p q : Plan) :
    p.clausesToJson = q.clausesToJson ↔ p.select = q.select ∧ p.joins = q.joins := by
  simp only [clausesToJson, Json.object.injEq, List.cons.injEq, Prod.mk.injEq, Json.array.injEq,
    true_and, and_true, (List.map_injective_iff.2 SelectItem.toJson_injective).eq_iff,
    (List.map_injective_iff.2 JoinClause.toJson_injective).eq_iff]
  exact and_comm

/-- The JSON form of the clauses of a query shows exactly its collection, its output columns, its joins
and its filter. -/
lemma SubQuery.clausesToJson_eq_iff (p q : SubQuery) :
    p.clausesToJson = q.clausesToJson ↔
      p.source = q.source ∧ p.select = q.select ∧ p.joins = q.joins ∧ p.filter = q.filter := by
  simp only [clausesToJson, Json.object.injEq, List.cons.injEq, Prod.mk.injEq, Json.array.injEq,
    Json.string.injEq, true_and, and_true,
    (List.map_injective_iff.2 SelectItem.toJson_injective).eq_iff,
    (List.map_injective_iff.2 JoinClause.toJson_injective).eq_iff,
    Condition.toJson_getD_injective.eq_iff]
  tauto

/-! ## Plans and queries -/

/-- The deferred queries agree in all that their JSON forms show: in the key columns and in the name. -/
structure Deferred.LooksLike (d e : Deferred) : Prop where
  /-- The key values come from the same columns. -/
  localColumns : d.localColumns = e.localColumns
  /-- They are compared with the same columns. -/
  foreignColumns : d.foreignColumns = e.foreignColumns
  /-- The foreign collections have the same name. -/
  name : d.name = e.name

/-- The plans agree in all that their JSON forms show. The output columns may have got their places in
different orders, and the deferred queries may ask for different things. -/
structure Plan.LooksLike (p q : Plan) : Prop where
  /-- The output columns are equal. -/
  select : p.select = q.select
  /-- The joins are equal. -/
  joins : p.joins = q.joins
  /-- The parameters are equal. -/
  parameters : p.parameters = q.parameters
  /-- Each alias has the same place, or none. -/
  paths : ∀ label, p.paths.get? label = q.paths.get? label
  /-- The deferred queries look alike, one by one. -/
  deferred : List.Forall₂ Deferred.LooksLike p.deferred q.deferred

/-- The queries agree in all that their JSON forms show. -/
structure SubQuery.LooksLike (p q : SubQuery) : Prop where
  /-- The stores are equal. -/
  store : p.store = q.store
  /-- The collections are equal. -/
  source : p.source = q.source
  /-- The output columns are equal. -/
  select : p.select = q.select
  /-- The joins are equal. -/
  joins : p.joins = q.joins
  /-- The filters are equal. -/
  filter : p.filter = q.filter
  /-- The parameters are equal. -/
  parameters : p.parameters = q.parameters
  /-- Each alias has the same place, or none. -/
  paths : ∀ label, p.paths.get? label = q.paths.get? label
  /-- The deferred queries look alike, one by one. -/
  deferred : List.Forall₂ Deferred.LooksLike p.deferred q.deferred

/-- The JSON forms of deferred queries are equal iff these look alike. -/
lemma Deferred.toJson_eq_iff (d e : Deferred) : d.toJson = e.toJson ↔ d.LooksLike e := by
  simp only [toJson, Json.object.injEq, List.cons.injEq, Prod.mk.injEq, Json.string.injEq, true_and,
    and_true, Json.ofStrings_injective.eq_iff]
  constructor
  · rintro ⟨hname, hforeign, hlocal⟩
    exact ⟨hlocal, hforeign, hname⟩
  · intro h
    exact ⟨h.name, h.foreignColumns, h.localColumns⟩

/-- The JSON forms of some deferred queries are equal iff these look alike, one by one. -/
lemma Deferred.map_toJson_eq_iff (ds es : List Deferred) :
    ds.map toJson = es.map toJson ↔ List.Forall₂ LooksLike ds es := by
  rw [← List.forall₂_eq_eq_eq, List.forall₂_map_left_iff, List.forall₂_map_right_iff]
  simp only [toJson_eq_iff]

/-- **The JSON forms of places are equal iff each alias has the same place in both**, whatever the
order. -/
lemma pathsToJson_eq_iff (paths paths' : OrderedMap String Path) :
    pathsToJson paths = pathsToJson paths' ↔ ∀ label, paths.get? label = paths'.get? label := by
  simp only [pathsToJson, Json.ofMembers_eq_iff, OrderedMap.ofList_entries,
    OrderedMap.get?_mapValues, (Option.map_injective Json.ofStrings_injective).eq_iff]

/-- The JSON forms of plans are equal iff these look alike. -/
lemma Plan.toJson_eq_iff (p q : Plan) : p.toJson = q.toJson ↔ p.LooksLike q := by
  simp only [toJson, Json.object.injEq, List.cons.injEq, Prod.mk.injEq, Json.array.injEq, true_and,
    and_true, pathsToJson_eq_iff, clausesToJson_eq_iff, Deferred.map_toJson_eq_iff]
  constructor
  · rintro ⟨hpaths, ⟨hselect, hjoins⟩, hdeferred, hparameters⟩
    exact ⟨hselect, hjoins, hparameters, hpaths, hdeferred⟩
  · intro h
    exact ⟨h.paths, ⟨h.select, h.joins⟩, h.deferred, h.parameters⟩

/-- The JSON forms of queries are equal iff these look alike. -/
lemma SubQuery.toJson_eq_iff (p q : SubQuery) : p.toJson = q.toJson ↔ p.LooksLike q := by
  simp only [toJson, Json.object.injEq, List.cons.injEq, Prod.mk.injEq, Json.array.injEq,
    Json.string.injEq, true_and, and_true, pathsToJson_eq_iff, clausesToJson_eq_iff,
    Deferred.map_toJson_eq_iff]
  constructor
  · rintro ⟨hpaths, ⟨hsource, hselect, hjoins, hfilter⟩, hdeferred, hparameters, hstore⟩
    exact ⟨hstore, hsource, hselect, hjoins, hfilter, hparameters, hpaths, hdeferred⟩
  · intro h
    exact ⟨h.paths, ⟨h.source, h.select, h.joins, h.filter⟩, h.deferred, h.parameters, h.store⟩

/-- **JSON forms leave nothing out** but the order of places and what deferred queries ask for. The
clauses of plans and queries are equal iff their JSON forms are, whatever columns, joins and conditions
they have, and at whatever depth. Plans and queries look alike iff their JSON forms are equal. And no two
kinds of operand, output column or condition have a JSON form in common.

**Proof sketch.** A JSON form lists its members in a fixed order, so equal forms have equal members, and
each member determines a part by the lemma about that part. Conditions are compared by induction on the
first one, together with lists of conditions; two kinds in one place differ in the key of some member. The
object of the places is sorted, and a sorted object is determined by the values under its keys. -/
theorem Plan.toJson_faithful :
    (∀ p q : Plan, p.clausesToJson = q.clausesToJson ↔ p.select = q.select ∧ p.joins = q.joins) ∧
    (∀ p q : SubQuery, p.clausesToJson = q.clausesToJson ↔
      p.source = q.source ∧ p.select = q.select ∧ p.joins = q.joins ∧ p.filter = q.filter) ∧
    (∀ p q : Plan, p.toJson = q.toJson ↔ p.LooksLike q) ∧
    (∀ p q : SubQuery, p.toJson = q.toJson ↔ p.LooksLike q) ∧
    (∀ (c : Column) (i : Nat), (Operand.column c).toJson ≠ (Operand.slot i).toJson) ∧
    (∀ (table column label : String) (fn : ScalarFunction) (table' column' label' : String),
      (SelectItem.mk none table column label).toJson ≠
        (SelectItem.mk (some fn) table' column' label').toJson) ∧
    (∀ (e : Comparison) (negated : Bool) (conditions : List Condition) (negated' : Bool),
      (Condition.leaf e negated).toJson ≠ (Condition.conjunction conditions negated').toJson) :=
  ⟨Plan.clausesToJson_eq_iff, SubQuery.clausesToJson_eq_iff, Plan.toJson_eq_iff,
    SubQuery.toJson_eq_iff, Operand.toJson_column_ne_slot, SelectItem.toJson_ne_computed,
    Condition.toJson_leaf_ne_conjunction⟩

/-- The plan for the titles of posts and the names of their authors, with the given places. -/
def titlesAndNames (paths : OrderedMap String Path) : Plan where
  select := [⟨none, "posts", "title", "title_1"⟩, ⟨none, "users_2", "name", "name_3"⟩]
  joins := [⟨"users", .equals ⟨"posts", "author"⟩ (.column ⟨"users_2", "id"⟩), "users_2"⟩]
  paths := paths

/-- Titles and names look alike in whatever order they got their places. -/
theorem Plan.toJson_faithful_swappedPlaces :
    (titlesAndNames (.ofList [("title_1", ["title"]), ("name_3", ["users", "name"])])).toJson =
      (titlesAndNames (.ofList [("name_3", ["users", "name"]), ("title_1", ["title"])])).toJson := by
  refine (Plan.toJson_faithful.2.2.1 _ _).2 ⟨rfl, rfl, rfl, fun label => ?_, .nil⟩
  simp only [titlesAndNames, OrderedMap.ofList, List.foldl_cons, List.foldl_nil,
    OrderedMap.get?_insert]
  by_cases h : label = "title_1"
  · simp [h]
  · simp [h]

end ClausePlan
