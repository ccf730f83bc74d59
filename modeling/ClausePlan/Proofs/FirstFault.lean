import ClausePlan.Proofs.Faults
import ClausePlan.Proofs.Frame
import ClausePlan.Proofs.Numbering
import ClausePlan.Proofs.Sources
/-!
# The first fault

With a counter as the source of aliases, it can be read off a request whether planning fails, with
which fault, and which number the counter has reached by then. A stop is faulty for what it is and for
its place in the walk, and it does not matter what happens at the others. Planning fails at the first
stop that is faulty, and succeeds if there is none.

## Main definitions

* `ClausePlan.Stop.numberedTable` — the table of a stop, if aliases are counted.
* `ClausePlan.Stop.Faulty` — a stop is faulty, with this fault and so many aliases drawn at it.

## Main results

* `ClausePlan.Stop.exec_ask_eq_error_iff` — planning fails at a stop that it reaches iff the stop is
  faulty.
* `ClausePlan.Stop.exists_askAll_iff` — planning gets past some stops iff none of them is faulty.
* `ClausePlan.Plan.firstFault` — when planning fails, and with which fault.
* `ClausePlan.Plan.fails_beyond_relations` — a failure without a relation, and one without an alias.
-/

namespace ClausePlan

/-! ## Counted aliases -/

namespace BuiltinAliases

open SequentialAliases

variable {seed label : String} {count : Nat} {aliases : BuiltinAliases} {fault : Fault}

/-- A counter gives out the next number, if it has room for it. -/
lemma draw_sequential_eq_ok_iff :
    AliasSource.draw seed (sequential ⟨count⟩) = (.ok label, aliases) ↔
      count + 1 < capacity ∧ label = aliasOf seed (count + 1) ∧ aliases = sequential ⟨count + 1⟩ := by
  show ((AliasSource.draw seed (SequentialAliases.mk count)).1,
    sequential (AliasSource.draw seed (SequentialAliases.mk count)).2) = _ ↔ _
  simp only [AliasSource.draw]
  split_ifs with hroom
  · simp [hroom, eq_comm]
  · simp [hroom]

/-- A counter that has no room for the next number stays as it is. -/
lemma draw_sequential_eq_error_iff :
    AliasSource.draw seed (sequential ⟨count⟩) = (.error fault, aliases) ↔
      capacity ≤ count + 1 ∧ fault = .aliasesExhausted seed 0 ∧ aliases = sequential ⟨count⟩ := by
  show ((AliasSource.draw seed (SequentialAliases.mk count)).1,
    sequential (AliasSource.draw seed (SequentialAliases.mk count)).2) = _ ↔ _
  simp only [AliasSource.draw]
  split_ifs with hroom
  · simp [Nat.not_le.2 hroom]
  · simp [Nat.not_lt.1 hroom, eq_comm]

/-- A counter gives out aliases with consecutive numbers. -/
lemma labels_of_drawAll {seeds labels : List String}
    (h : exec (AliasM.drawAll seeds) (sequential ⟨count⟩) = (.ok labels, aliases)) :
    labels = aliasesOf count seeds := by
  induction seeds generalizing labels count with
  | nil => exact (AliasM.drawAll_nil_ok_iff.1 h).1
  | cons seed seeds ih =>
    obtain ⟨label, aliases₁, hdraw, rest, hrest, rfl⟩ := AliasM.drawAll_cons_ok_iff.1 h
    obtain ⟨-, rfl, rfl⟩ := draw_sequential_eq_ok_iff.1 hdraw
    rw [aliasesOf_cons, ih hrest]

end BuiltinAliases

/-! ## Faulty stops -/

namespace Stop

open SequentialAliases

/-- The table of a stop if aliases are counted on from `count`: the root, or the alias of the innermost
to-one relation around the stop. -/
def numberedTable (root : String) (count : Nat) (s : Stop) : String :=
  match s.parent with
  | none => root
  | some number => aliasOf (s.trail.getLastD "") (count + number + 1)

/-- The stop is faulty, with this fault, where aliases are counted on from `count` and `depth` relations
lie around the request; and so many aliases are drawn at the stop before the fault arises. -/
inductive Faulty (root : String) (count depth limit : Nat) (s : Stop) : Fault → Nat → Prop
  /-- A relation of either cardinality without key columns. -/
  | keyless {r : Relation} : s.field.relation? = some r → r.localColumns = [] →
      r.foreignColumns = [] →
      Faulty root count depth limit s
        (.malformed (.keyless (s.numberedTable root count) r.collection)) 0
  /-- A relation of either cardinality whose key has different lengths on its two sides. -/
  | keyLengths {r : Relation} : s.field.relation? = some r →
      r.localColumns.length ≠ r.foreignColumns.length →
      Faulty root count depth limit s
        (.keyLengths (s.numberedTable root count) r.localColumns.length r.foreignColumns.length) 0
  /-- A to-one relation with a sound key that has too many to-one relations around it. -/
  | tooDeep {r : Relation} : s.relation? = some r → r.IsKeyed →
      limit ≤ depth + s.trail.length → count + s.number + 1 < capacity →
      Faulty root count depth limit s (.tooDeep r.collection limit) 1
  /-- A stop that needs an alias when the counter has reached its last number. -/
  | exhausted {seed : String} : s.seed? = some seed → (∀ r ∈ s.field.relation?, r.IsKeyed) →
      capacity ≤ count + s.number + 1 →
      Faulty root count depth limit s (.aliasesExhausted seed 0) 0

variable {root : String} {count depth limit : Nat} {fields : List Field} {before after : List Stop}
  {s : Stop}

/-- The stop of a to-one relation has that relation. -/
lemma field_relation?_of_relation? {r : Relation} (h : s.relation? = some r) :
    s.field.relation? = some r := by
  obtain ⟨below, hfield⟩ := relation?_eq_some_iff.1 h
  rw [hfield]
  rfl

/-- **The table of a stop has the number of its relation**, if the aliases before the stop have been
counted.

**Proof sketch.** A stop that does not hang from the root hangs from the stop of a relation before it.
The number of that one counts the seeds before it, so it finds the alias of the relation, whose
collection is the last one on the trail. -/
lemma table_aliasesOf (hsplit : Field.stops fields = before ++ s :: after) :
    s.table root (aliasesOf count (seeds before)) = s.numberedTable root count := by
  rcases Field.hangsFrom_invariant.walkAll none 0 fields before s after hsplit with
    ⟨hparent, -⟩ | ⟨t, ht, r, hr, hparent, htrail⟩
  · rw [table, numberedTable, hparent]
    rfl
  · obtain ⟨earlier, between, rfl⟩ := List.append_of_mem ht
    have hseed := seed?_of_relation? hr
    have hsplit' : Field.stops fields = earlier ++ t :: (between ++ s :: after) := by
      rw [hsplit, List.append_assoc, List.cons_append]
    have hnumber := Field.number_of_stops_eq hsplit' (by simp [hseed])
    rw [table, numberedTable, hparent, htrail, seeds_append, seeds_cons hseed]
    show (aliasesOf _ _).getD t.number "" = aliasOf _ (count + t.number + 1)
    rw [hnumber, getD_aliasesOf, List.getLastD_concat]

/-! ## One stop -/

/-- **Planning fails at a stop that it reaches iff the stop is faulty**, with its fault and so many
aliases more. -/
lemma exec_ask_eq_error_iff (hsplit : Field.stops fields = before ++ s :: after) {fault : Fault}
    {aliases : BuiltinAliases} :
    exec (ask root depth limit (aliasesOf count (seeds before)) s)
        (BuiltinAliases.sequential ⟨count + (seeds before).length⟩) = (.error fault, aliases) ↔
      ∃ drawn, s.Faulty root count depth limit fault drawn ∧
        aliases = .sequential ⟨count + (seeds before).length + drawn⟩ := by
  have hnumber : ∀ seed, s.seed? = some seed → s.number = (seeds before).length :=
    fun seed hseed => Field.number_of_stops_eq hsplit (by simp [hseed])
  simp only [ask_eq_error_iff, checkKey_eq_error_iff, checkKey_eq_ok_iff, table_aliasesOf hsplit,
    BuiltinAliases.draw_sequential_eq_ok_iff, BuiltinAliases.draw_sequential_eq_error_iff]
  constructor
  · rintro (⟨⟨r, hr, harity⟩, rfl⟩ | ⟨hkeyed, seed, hseed, h⟩)
    · rcases Relation.arity_eq_error_iff.1 harity with ⟨hlocal, hforeign, rfl⟩ | ⟨hlengths, rfl⟩
      · exact ⟨0, .keyless hr hlocal hforeign, rfl⟩
      · exact ⟨0, .keyLengths hr hlengths, rfl⟩
    · rw [← hnumber seed hseed] at h ⊢
      rcases h with ⟨hfull, rfl, rfl⟩ | ⟨label, ⟨hroom, rfl, rfl⟩, henter⟩
      · exact ⟨0, .exhausted hseed hkeyed hfull, rfl⟩
      · obtain ⟨r, hr, ⟨hdeep, rfl⟩ | ⟨-, hblank, -⟩⟩ := enter_eq_error_iff.1 henter
        · exact ⟨1, .tooDeep hr (hkeyed r (field_relation?_of_relation? hr)) hdeep hroom, rfl⟩
        · exact absurd hblank (aliasOf_ne_empty _ _)
  · rintro ⟨drawn, hfaulty, rfl⟩
    cases hfaulty with
    | keyless hr hlocal hforeign =>
      exact .inl ⟨⟨_, hr, Relation.arity_eq_error_iff.2 (.inl ⟨hlocal, hforeign, rfl⟩)⟩, rfl⟩
    | keyLengths hr hlengths =>
      exact .inl ⟨⟨_, hr, Relation.arity_eq_error_iff.2 (.inr ⟨hlengths, rfl⟩)⟩, rfl⟩
    | @tooDeep r hr hkeyed hdeep hroom =>
      have hseed := seed?_of_relation? hr
      have henter : ∀ label, s.enter (depth + s.trail.length) limit label =
          .error (.tooDeep r.collection limit) :=
        fun _ => enter_eq_error_iff.2 ⟨r, hr, .inl ⟨hdeep, rfl⟩⟩
      have hkeys : ∀ r' ∈ s.field.relation?, r'.IsKeyed := by
        rw [field_relation?_of_relation? hr]
        rintro r' ⟨⟩
        exact hkeyed
      rw [hnumber _ hseed] at hroom
      exact .inr ⟨hkeys, _, hseed, .inr ⟨_, ⟨hroom, rfl, rfl⟩, henter _⟩⟩
    | exhausted hseed hkeyed hfull =>
      rw [hnumber _ hseed] at hfull
      exact .inr ⟨hkeyed, _, hseed, .inl ⟨hfull, rfl, rfl⟩⟩

/-! ## All stops -/

/-- A pass that gets past some stops has counted their aliases. -/
lemma counted_of_askAll {labels : List String} {aliases : BuiltinAliases}
    (h : exec (askAll root depth limit before []) (BuiltinAliases.sequential ⟨count⟩) =
      (.ok labels, aliases)) :
    labels = aliasesOf count (seeds before) ∧
      aliases = .sequential ⟨count + (seeds before).length⟩ := by
  obtain ⟨new, rfl, hnew⟩ := drawAll_of_askAll h
  exact ⟨BuiltinAliases.labels_of_drawAll hnew, BuiltinAliases.sequential_of_drawAll hnew⟩

/-- **Planning gets past the first stops of a request iff none of them is faulty.** -/
lemma exists_askAll_iff (hsplit : Field.stops fields = before ++ after) :
    (∃ labels aliases, exec (askAll root depth limit before [])
        (BuiltinAliases.sequential ⟨count⟩) = (.ok labels, aliases)) ↔
      ∀ t ∈ before, ∀ fault drawn, ¬t.Faulty root count depth limit fault drawn := by
  constructor
  · rintro ⟨labels, aliases, h⟩ t ht fault drawn hfaulty
    obtain ⟨earlier, later, rfl⟩ := List.append_of_mem ht
    have hsplit' : Field.stops fields = earlier ++ t :: (later ++ after) := by
      rw [hsplit, List.append_assoc, List.cons_append]
    rw [askAll_append, exec_bind_ok_iff] at h
    obtain ⟨labels₁, aliases₁, hearlier, h⟩ := h
    obtain ⟨rfl, rfl⟩ := counted_of_askAll hearlier
    have hask := (exec_ask_eq_error_iff hsplit').2 ⟨drawn, hfaulty, rfl⟩
    rw [askAll_cons, exec_bind, hask] at h
    cases h
  · intro hsound
    rcases h : exec (askAll root depth limit before []) (BuiltinAliases.sequential ⟨count⟩) with
      ⟨fault | labels, aliases⟩
    · obtain ⟨earlier, t, later, labels₁, aliases₁, rfl, hearlier, ht⟩ := askAll_eq_error_iff.1 h
      have hsplit' : Field.stops fields = earlier ++ t :: (later ++ after) := by
        rw [hsplit, List.append_assoc, List.cons_append]
      obtain ⟨rfl, rfl⟩ := counted_of_askAll hearlier
      obtain ⟨drawn, hfaulty, -⟩ := (exec_ask_eq_error_iff hsplit').1 ht
      exact absurd hfaulty (hsound t (by simp) fault drawn)
    · exact ⟨labels, aliases, rfl⟩

/-- The stop is faulty where the fields of a collection are planned in a context and aliases are counted
on from `count`. -/
def FaultyIn {σ : Type} (collection : String) (count : Nat) (context : Context σ) (s : Stop) :
    Fault → Nat → Prop :=
  s.Faulty collection count context.depth context.settings.maxDepth.toNat

/-- **While the counter has room**, what is faulty is an unsound key, or a to-one relation that lies too
deep. -/
lemma exists_faulty_iff (hs : s ∈ Field.stops fields)
    (hroom : count + (seeds (Field.stops fields)).length < capacity) :
    (∃ fault drawn, s.Faulty root count depth limit fault drawn) ↔
      (∃ r ∈ s.field.relation?, ¬r.IsKeyed) ∨ ∃ r ∈ s.relation?, limit ≤ depth + s.trail.length := by
  have hnumber : ∀ seed, s.seed? = some seed → count + s.number + 1 < capacity := by
    intro seed hseed
    obtain ⟨before, after, hsplit⟩ := List.append_of_mem hs
    have hlast := Field.number_of_stops_eq hsplit (by simp [hseed])
    rw [hsplit, seeds_append, seeds_cons hseed, List.length_append, List.length_cons] at hroom
    omega
  constructor
  · rintro ⟨fault, drawn, hfaulty⟩
    cases hfaulty with
    | @keyless r hr hlocal _ => exact .inl ⟨r, hr, fun hkeyed => hkeyed.2 hlocal⟩
    | @keyLengths r hr hlengths => exact .inl ⟨r, hr, fun hkeyed => hlengths hkeyed.1⟩
    | @tooDeep r hr _ hdeep _ => exact .inr ⟨r, hr, hdeep⟩
    | exhausted hseed _ hfull => exact absurd (hnumber _ hseed) (Nat.not_lt.2 hfull)
  · intro h
    by_cases hkeys : ∃ r ∈ s.field.relation?, ¬r.IsKeyed
    · obtain ⟨r, hr, hkey⟩ := hkeys
      rcases Relation.not_isKeyed_iff.1 hkey with ⟨hlocal, hforeign⟩ | hlengths
      · exact ⟨_, _, .keyless hr hlocal hforeign⟩
      · exact ⟨_, _, .keyLengths hr hlengths⟩
    · obtain ⟨r, hr, hdeep⟩ := h.resolve_left hkeys
      have hkeyed : r.IsKeyed :=
        not_not.1 fun hkey => hkeys ⟨r, field_relation?_of_relation? hr, hkey⟩
      exact ⟨_, _, .tooDeep hr hkeyed hdeep (hnumber _ (seed?_of_relation? hr))⟩

end Stop

/-! ## All outcomes -/

/-- The context with its counter at a number. -/
def Context.counted (context : Context BuiltinAliases) (count : Nat) : Context BuiltinAliases :=
  { context with aliases := .sequential ⟨count⟩ }

namespace Plan

open SequentialAliases

variable {collection : String} {fields : List Field} {context : Context BuiltinAliases}
  {source : SequentialAliases}

/-- With a counter, planning the fields of a collection with a name is a pass that begins with that
counter. -/
private lemma exec_ofFields_counted (hsource : context.aliases = .sequential source)
    (hnamed : collection ≠ "") :
    exec (ofFields collection fields) context =
      context.resume (exec (ofWalk collection context.depth context.settings.maxDepth.toNat []
        (Field.stops fields)) (BuiltinAliases.sequential source)) := by
  rw [exec_ofFields, if_neg (mt String.isEmpty_iff.1 hnamed), hsource]

/-- Planning fails at the first faulty stop. -/
lemma exec_ofFields_of_faulty (hsource : context.aliases = .sequential source)
    (hnamed : collection ≠ "") {before after : List Stop} {s : Stop}
    (hsplit : Field.stops fields = before ++ s :: after)
    (hsound : ∀ t ∈ before, ∀ fault drawn,
      ¬t.FaultyIn collection source.count context fault drawn) {fault : Fault} {drawn : Nat}
    (hfaulty : s.FaultyIn collection source.count context fault drawn) :
    exec (ofFields collection fields) context =
      (.error fault, context.counted (source.count + (Stop.seeds before).length + drawn)) := by
  obtain ⟨labels, aliases, hlabels⟩ := (Stop.exists_askAll_iff hsplit).2 hsound
  obtain ⟨rfl, rfl⟩ := Stop.counted_of_askAll hlabels
  have hask := (Stop.exec_ask_eq_error_iff hsplit).2 ⟨drawn, hfaulty, rfl⟩
  have hpass := Stop.askAll_eq_error_iff.2 ⟨before, s, after, _, _, hsplit, hlabels, hask⟩
  rw [exec_ofFields_counted hsource hnamed, ofWalk, exec_map, hpass]
  rfl

/-- Planning succeeds exactly if the collection has a name and no stop is faulty. -/
lemma exists_ofFields_iff (hsource : context.aliases = .sequential source) :
    (∃ plan context', exec (ofFields collection fields) context = (.ok plan, context')) ↔
      collection ≠ "" ∧ ∀ s ∈ Field.stops fields, ∀ fault drawn,
        ¬s.FaultyIn collection source.count context fault drawn := by
  have hstops : Field.stops fields = Field.stops fields ++ [] := (List.append_nil _).symm
  simp only [Stop.FaultyIn, ← Stop.exists_askAll_iff hstops, exec_ofFields_ok_iff, hsource]
  constructor
  · rintro ⟨plan, context', hnamed, labels, aliases, hlabels, -⟩
    exact ⟨mt String.isEmpty_iff.2 (by simp [hnamed]), labels, aliases, hlabels⟩
  · rintro ⟨hnamed, labels, aliases, hlabels⟩
    exact ⟨_, _, by simpa using hnamed, labels, aliases, hlabels, rfl, rfl⟩

/-- **When planning fails, and with which fault**, where aliases are counted from any number on.

A collection without a name is refused before anything else happens. Otherwise planning fails at the
first stop of the walk that is faulty, with the fault of this stop. By then the counter has been raised
by one for each column and each to-one relation before the stop, and by one more for a relation that
lies too deep. If no stop is faulty then planning succeeds and the counter has been raised by one for
all of them. So planning fails iff the collection has no name or some stop is faulty. As long as the
counter does not run out, this means that the stop has a relation with an unsound key, or a to-one
relation with too many of them around it.

**Proof sketch.** Planning is one pass over the stops. A pass that gets past some stops has given them
their numbered aliases, which fixes the table of the next stop. Whether that one fails depends on the
stop alone. So the pass fails at the first faulty one. -/
theorem firstFault (hsource : context.aliases = .sequential source) :
    (collection = "" → exec (ofFields collection fields) context =
      (.error (.malformed .unnamedCollection), context)) ∧
    (collection ≠ "" → ∀ before s after fault drawn, Field.stops fields = before ++ s :: after →
      (∀ t ∈ before, ∀ fault drawn, ¬t.FaultyIn collection source.count context fault drawn) →
      s.FaultyIn collection source.count context fault drawn →
        exec (ofFields collection fields) context =
          (.error fault, context.counted (source.count + (Stop.seeds before).length + drawn))) ∧
    (collection ≠ "" →
      (∀ s ∈ Field.stops fields, ∀ fault drawn,
        ¬s.FaultyIn collection source.count context fault drawn) →
        ∃ plan, exec (ofFields collection fields) context =
          (.ok plan,
            context.counted (source.count + (Stop.seeds (Field.stops fields)).length))) ∧
    ((∃ fault, (exec (ofFields collection fields) context).1 = .error fault) ↔
      collection = "" ∨ ∃ s ∈ Field.stops fields, ∃ fault drawn,
        s.FaultyIn collection source.count context fault drawn) ∧
    (source.count + (Stop.seeds (Field.stops fields)).length < capacity →
      ∀ s ∈ Field.stops fields,
        (∃ fault drawn, s.FaultyIn collection source.count context fault drawn) ↔
          (∃ r ∈ s.field.relation?, ¬r.IsKeyed) ∨
            ∃ r ∈ s.relation?, context.settings.maxDepth.toNat ≤ context.depth + s.trail.length) := by
  refine ⟨?_, ?_, ?_, ?_, fun hroom s hs => Stop.exists_faulty_iff hs hroom⟩
  · rintro rfl
    exact exec_ofFields_unnamed fields context
  · intro hnamed before s after fault drawn hsplit hsound hfaulty
    exact exec_ofFields_of_faulty hsource hnamed hsplit hsound hfaulty
  · intro hnamed hsound
    obtain ⟨plan, context', hplan⟩ := (exists_ofFields_iff hsource).2 ⟨hnamed, hsound⟩
    obtain ⟨labels, hdraw, -, hcontext⟩ := drawAll_of_ofFields hplan
    rw [hsource] at hdraw
    rw [BuiltinAliases.sequential_of_drawAll hdraw] at hcontext
    exact ⟨plan, hplan.trans (congrArg _ hcontext)⟩
  · have hfails : (∃ fault, (exec (ofFields collection fields) context).1 = .error fault) ↔
        ¬∃ plan context', exec (ofFields collection fields) context = (.ok plan, context') := by
      rcases exec (ofFields collection fields) context with ⟨fault | plan, context'⟩ <;> simp
    rw [hfails, exists_ofFields_iff hsource, Classical.not_and_iff_not_or_not, not_not]
    simp only [not_forall, not_not, exists_prop]

/-- A request with to-one relations on two levels, and with a to-many relation whose key has one side
only. -/
def halfKeyRequest : List Field :=
  [.column "title",
    .toOne ⟨["author"], "pg", "users", ["id"]⟩
      [.toOne ⟨["country"], "pg", "countries", ["id"]⟩ [.column "name"],
        .toMany ⟨["id"], "pg", "posts", []⟩ []]]

/-- With a limit of two and a relation around the request, the countries lie too deep, and an alias has
been drawn for them. At the root they do not, so the posts are the first fault there, and it names the
alias of their authors. -/
theorem firstFault_halfKeyRequest :
    exec (ofFields "articles" halfKeyRequest)
        { aliases := BuiltinAliases.sequential ⟨4⟩, settings := { maxDepth := 2 }, depth := 1 } =
      (.error (.tooDeep "countries" 2),
        { aliases := .sequential ⟨7⟩, settings := { maxDepth := 2 }, depth := 1 }) ∧
    exec (ofFields "articles" halfKeyRequest)
        { aliases := BuiltinAliases.sequential ⟨4⟩, settings := { maxDepth := 2 } } =
      (.error (.keyLengths "users_6" 1 0),
        { aliases := .sequential ⟨8⟩, settings := { maxDepth := 2 } }) := by
  have hstops : Field.stops halfKeyRequest = [⟨.column "title", [], none, 0⟩,
      ⟨.toOne ⟨["author"], "pg", "users", ["id"]⟩ _, [], none, 1⟩,
      ⟨.toOne ⟨["country"], "pg", "countries", ["id"]⟩ _, ["users"], some 1, 2⟩,
      ⟨.column "name", ["users", "countries"], some 2, 3⟩,
      ⟨.toMany ⟨["id"], "pg", "posts", []⟩ [], ["users"], some 1, 4⟩] := rfl
  have hauthor : Relation.IsKeyed ⟨["author"], "pg", "users", ["id"]⟩ := ⟨rfl, by decide⟩
  have hcountry : Relation.IsKeyed ⟨["country"], "pg", "countries", ["id"]⟩ := ⟨rfl, by decide⟩
  constructor
  · obtain ⟨-, hfirst, -, -, hfaulty⟩ := @firstFault "articles" halfKeyRequest
      { aliases := BuiltinAliases.sequential ⟨4⟩, settings := { maxDepth := 2 }, depth := 1 } ⟨4⟩ rfl
    refine hfirst (by decide) [_, _] _ _ _ _ hstops ?_ (.tooDeep rfl hcountry (by decide) (by decide))
    intro t ht fault drawn h
    have hroom := (hfaulty (by decide) t (hstops ▸ List.mem_append_left _ ht)).1 ⟨fault, drawn, h⟩
    rcases (by simpa using ht : _ ∨ _) with rfl | rfl
    · simp [Field.relation?, Stop.relation?] at hroom
    · simp [Field.relation?, Stop.relation?, hauthor] at hroom
  · obtain ⟨-, hfirst, -, -, hfaulty⟩ := @firstFault "articles" halfKeyRequest
      { aliases := BuiltinAliases.sequential ⟨4⟩, settings := { maxDepth := 2 } } ⟨4⟩ rfl
    refine hfirst (by decide) [_, _, _, _] _ _ _ _ hstops ?_ (.keyLengths rfl (by decide))
    intro t ht fault drawn h
    have hroom := (hfaulty (by decide) t (hstops ▸ List.mem_append_left _ ht)).1 ⟨fault, drawn, h⟩
    rcases (by simpa using ht : _ ∨ _ ∨ _ ∨ _) with rfl | rfl | rfl | rfl
    · simp [Field.relation?, Stop.relation?] at hroom
    · simp [Field.relation?, Stop.relation?, hauthor] at hroom
    · simp [Field.relation?, Stop.relation?, hcountry] at hroom
    · simp [Field.relation?, Stop.relation?] at hroom

/-- A request for a title and for an author whose key has one side only. -/
def halfAuthorRequest : List Field :=
  [.column "title", .toOne ⟨["author"], "pg", "users", []⟩ [.column "name"]]

/-- **Relations are not all that can fail**, and a fault need not come with an alias. With the counter at
its last number even a single column fails, though there is no relation. And a key with one side only is
refused before the relation has an alias: in `halfAuthorRequest` one column lies before the relation, and
the counter is raised by one and not by two. -/
theorem fails_beyond_relations :
    (exec (ofFields "articles" [.column "title"])
        { aliases := BuiltinAliases.sequential ⟨capacity - 1⟩ } =
      (.error (.aliasesExhausted "title" 0),
        { aliases := BuiltinAliases.sequential ⟨capacity - 1⟩ }) ∧
      ∀ s ∈ Field.stops [.column "title"], s.field.relation? = none) ∧
    ∃ before s, Field.stops halfAuthorRequest = before ++ [s, ⟨.column "name", ["users"], some 1, 2⟩] ∧
      (∃ r ∈ s.field.relation?, ¬r.IsKeyed) ∧
      (∀ t ∈ before, t.field.relation? = none) ∧
      (Stop.seeds before).length = 1 ∧
      exec (ofFields "articles" halfAuthorRequest) { aliases := BuiltinAliases.sequential {} } =
        (.error (.keyLengths "articles" 1 0), { aliases := .sequential ⟨1⟩ }) :=
  ⟨⟨rfl, by decide⟩, [⟨.column "title", [], none, 0⟩], _, rfl, ⟨_, rfl, fun h => nomatch h.1⟩,
    by decide, rfl, rfl⟩

end Plan

end ClausePlan
