import ClausePlan.Proofs.Preorder
import Mathlib.Data.List.Basic
import Mathlib.Data.List.Nodup
import Mathlib.Logic.Relation
/-!
# Sources that never repeat an alias

The aliases that a source may have given out already are a property of its state. A source that
marks every alias it gives out, and gives out no marked one, never repeats itself, whatever happens
between two draws. Both built-in sources are of this kind: one remembers its aliases, and the
numbers of the other one only grow.

## Main definitions

* `ClausePlan.AliasSource.Reaches` — a state of a source is reached from another one by drawing.
* `ClausePlan.AliasSource.drawEach` — calls in a row, whether or not some of them fail.
* `ClausePlan.Issues` — on the way from one state of a source to another one, some aliases are given
  out that were unmarked before and are marked after.
* `ClausePlan.NeverRepeats` — what makes a mark one that keeps a source from repeating itself.
* `ClausePlan.RandomAliases.firstNew` — where the coming tokens yield the first new alias.
* `ClausePlan.BuiltinAliases.Used` — the mark of the built-in sources.

## Main results

* `ClausePlan.SequentialAliases.aliasOf_inj` — a numbered alias determines its seed and its number.
* `ClausePlan.NeverRepeats.issues_of_drawAll`, `ClausePlan.NeverRepeats.issues_of_drawEach` — drawing for
  some seeds gives out new aliases.
* `ClausePlan.RandomAliases.search_eq_find?` — a search finds the first new alias of the coming tokens.
* `ClausePlan.BuiltinAliases.neverRepeats` — the built-in sources never repeat themselves.
-/

namespace ClausePlan

/-! ## Numbered aliases -/

/-- Two lists are equal if their parts before and after the last occurrence of a separator are. -/
private lemma eq_of_append_separator {a b a' b' : List Char} {c : Char} (hb : c ∉ b) (hb' : c ∉ b')
    (h : a ++ c :: b = a' ++ c :: b') : a = a' ∧ b = b' := by
  rcases List.append_eq_append_iff.1 h with ⟨mid, ha, hmid⟩ | ⟨mid, ha, hmid⟩
  · rcases List.cons_eq_append_iff.1 hmid with ⟨rfl, hrest⟩ | ⟨mid', -, hrest⟩
    · exact ⟨by simpa using ha.symm, by simpa using hrest.symm⟩
    · exact absurd (by rw [hrest]; simp) hb
  · rcases List.cons_eq_append_iff.1 hmid with ⟨rfl, hrest⟩ | ⟨mid', -, hrest⟩
    · exact ⟨by simpa using ha, by simpa using hrest⟩
    · exact absurd (by rw [hrest]; simp) hb'

namespace SequentialAliases

/-- **A numbered alias determines its seed and its number.** The number has no underscore, so it is
what follows the last one, whatever the seed looks like. -/
lemma aliasOf_inj {s t : String} {m n : Nat} : aliasOf s m = aliasOf t n ↔ s = t ∧ m = n := by
  constructor
  · intro h
    have hchars := congrArg String.toList h
    simp only [aliasOf, String.toList_append, Nat.toString_eq_ofList_toDigits, String.toList_ofList,
      List.append_assoc] at hchars
    have hdigits : ∀ k, '_' ∉ Nat.toDigits 10 k := fun _ => Nat.underscore_not_in_toDigits
    obtain ⟨hseed, hnumber⟩ := eq_of_append_separator (hdigits m) (hdigits n) hchars
    refine ⟨String.toList_inj.1 hseed, ?_⟩
    rw [← Nat.ofDigitChars_ten_toDigits (n := m), hnumber, Nat.ofDigitChars_ten_toDigits]
  · rintro ⟨rfl, rfl⟩
    rfl

end SequentialAliases

/-! ## States reached by drawing -/

namespace AliasSource

variable {σ : Type} [AliasSource σ]

/-- A state of a source is reached from another one by drawing aliases, with or without success. -/
def Reaches : σ → σ → Prop :=
  Relation.ReflTransGen fun aliases aliases' => ∃ seed, aliases' = (draw seed aliases).2

lemma reaches_draw (seed : String) (aliases : σ) : Reaches aliases (draw seed aliases).2 :=
  .single ⟨seed, rfl⟩

/-- Whatever happens at a stop, the source changes by drawing only. -/
lemma reaches_ask (root : String) (depth limit : Nat) (labels : List String) (s : Stop)
    (aliases : σ) : Reaches aliases (exec (Stop.ask root depth limit labels s) aliases).2 := by
  unfold Stop.ask
  simp only [exec_bind, exec_ofExcept]
  cases s.checkKey root labels with
  | error fault => exact .refl
  | ok _ =>
    cases s.seed? with
    | none => exact .refl
    | some seed =>
      have h := reaches_draw seed aliases
      simp only [exec_bind, exec_ofExcept, exec_pure, AliasM.exec_draw]
      rcases hdraw : draw seed aliases with ⟨_ | label, aliases'⟩
      · rwa [hdraw] at h
      · rw [hdraw] at h
        simp only
        cases s.enter _ limit label with
        | error fault => exact h
        | ok _ => exact h

/-- Whatever a pass over some stops yields, the source changes by drawing only. -/
lemma reaches_askAll (root : String) (depth limit : Nat) (stops : List Stop) (labels : List String)
    (aliases : σ) :
    Reaches aliases (exec (Stop.askAll root depth limit stops labels) aliases).2 := by
  induction stops generalizing labels aliases with
  | nil => exact .refl
  | cons s stops ih =>
    have h := reaches_ask root depth limit labels s aliases
    rw [Stop.askAll_cons, exec_bind]
    rcases hs : exec (Stop.ask root depth limit labels s) aliases with ⟨_ | labels', aliases'⟩
    · rwa [hs] at h
    · rw [hs] at h
      exact h.trans (ih labels' aliases')

/-- Whatever planning yields, the source changes by drawing only. -/
lemma reaches_ofFields (collection : String) (fields : List Field) (context : Context σ) :
    Reaches context.aliases (exec (Plan.ofFields collection fields) context).2.aliases := by
  rw [Plan.exec_ofFields]
  split_ifs with h
  · exact .refl
  · rw [Plan.ofWalk, exec_map]
    exact reaches_askAll _ _ _ _ _ _

end AliasSource

/-! ## Calls in a row -/

namespace AliasSource

variable {σ : Type} [AliasSource σ]

/-- The outcomes of drawing for some seeds, one after the other and each whether or not the one before
it fails, and the state that is reached. -/
def drawEach : List String → σ → List (Except Fault String) × σ
  | [], aliases => ([], aliases)
  | seed :: seeds, aliases =>
    let (outcome, aliases) := draw seed aliases
    let (outcomes, aliases) := drawEach seeds aliases
    (outcome :: outcomes, aliases)

/-- The aliases among some outcomes, in order. -/
def labelsOf (outcomes : List (Except Fault String)) : List String :=
  outcomes.filterMap Except.toOption

lemma drawEach_cons (seed : String) (seeds : List String) (aliases : σ) :
    drawEach (seed :: seeds) aliases =
      ((draw seed aliases).1 :: (drawEach seeds (draw seed aliases).2).1,
        (drawEach seeds (draw seed aliases).2).2) := rfl

lemma labelsOf_cons (outcome : Except Fault String) (outcomes : List (Except Fault String)) :
    labelsOf (outcome :: outcomes) = outcome.toOption.toList ++ labelsOf outcomes := by
  cases outcome <;> rfl

/-- There is one outcome for each seed. -/
lemma length_drawEach (seeds : List String) (aliases : σ) :
    (drawEach seeds aliases).1.length = seeds.length := by
  induction seeds generalizing aliases with
  | nil => rfl
  | cons seed seeds ih => rw [drawEach_cons, List.length_cons, ih, List.length_cons]

end AliasSource

/-! ## New aliases -/

section Issues

variable {σ : Type} [AliasSource σ] {used : σ → String → Prop}

/-- On the way from one state of a source to another one the aliases `labels` are given out: they
differ from each other, they are unmarked before and marked after, and no mark is removed. -/
structure Issues (used : σ → String → Prop) (aliases aliases' : σ) (labels : List String) :
    Prop where
  nodup : labels.Nodup
  unmarked : ∀ label ∈ labels, ¬used aliases label
  marked : ∀ label ∈ labels, used aliases' label
  mono : ∀ label, used aliases label → used aliases' label

namespace Issues

variable {aliases aliases' aliases'' : σ} {labels labels' : List String}

omit [AliasSource σ] in
lemma refl (aliases : σ) : Issues used aliases aliases [] where
  nodup := List.nodup_nil
  unmarked := by simp
  marked := by simp
  mono := fun _ h => h

omit [AliasSource σ] in
/-- Aliases given out one after the other differ: the later ones are unmarked where the earlier ones
are marked. -/
lemma trans (h : Issues used aliases aliases' labels) (h' : Issues used aliases' aliases'' labels') :
    Issues used aliases aliases'' (labels ++ labels') where
  nodup := by
    refine List.nodup_append.2 ⟨h.nodup, h'.nodup, fun label hl label' hl' heq => ?_⟩
    exact h'.unmarked label' hl' (heq ▸ h.marked label hl)
  unmarked := by
    intro label hl
    rcases List.mem_append.1 hl with hl | hl
    · exact h.unmarked label hl
    · exact fun hused => h'.unmarked label hl (h.mono label hused)
  marked := by
    intro label hl
    rcases List.mem_append.1 hl with hl | hl
    · exact h'.mono label (h.marked label hl)
    · exact h'.marked label hl
  mono := fun label hl => h'.mono label (h.mono label hl)

omit [AliasSource σ] in
/-- The order in which aliases are given out does not matter. -/
lemma perm (h : Issues used aliases aliases' labels) (hperm : labels.Perm labels') :
    Issues used aliases aliases' labels' where
  nodup := hperm.nodup_iff.1 h.nodup
  unmarked := fun label hl => h.unmarked label (hperm.mem_iff.2 hl)
  marked := fun label hl => h.marked label (hperm.mem_iff.2 hl)
  mono := h.mono

end Issues

/-- What makes a mark one that keeps a source from repeating itself: a draw removes no mark, and the
alias that it gives out is unmarked before and marked after. -/
structure NeverRepeats (used : σ → String → Prop) : Prop where
  unused_of_draw {seed label : String} {aliases : σ} :
    (AliasSource.draw seed aliases).1 = .ok label → ¬used aliases label
  used_of_draw {seed label : String} {aliases : σ} :
    (AliasSource.draw seed aliases).1 = .ok label → used (AliasSource.draw seed aliases).2 label
  mono (seed label : String) (aliases : σ) :
    used aliases label → used (AliasSource.draw seed aliases).2 label

namespace NeverRepeats

variable {aliases aliases' : σ} (hs : NeverRepeats used)

include hs

/-- A draw that succeeds gives out one alias. -/
lemma issues_of_draw {seed label : String} (h : (AliasSource.draw seed aliases).1 = .ok label) :
    Issues used aliases (AliasSource.draw seed aliases).2 [label] where
  nodup := List.nodup_singleton label
  unmarked := by simpa using hs.unused_of_draw h
  marked := by simpa using hs.used_of_draw h
  mono := fun label' => hs.mono seed label' aliases

/-- Drawing for some seeds gives out one alias for each. -/
lemma issues_of_drawAll {seeds labels : List String}
    (h : exec (AliasM.drawAll seeds) aliases = (.ok labels, aliases')) :
    Issues used aliases aliases' labels := by
  induction seeds generalizing labels aliases with
  | nil =>
    obtain ⟨rfl, rfl⟩ := AliasM.drawAll_nil_ok_iff.1 h
    exact .refl _
  | cons seed seeds ih =>
    obtain ⟨label, aliases₁, hdraw, rest, hrest, rfl⟩ := AliasM.drawAll_cons_ok_iff.1 h
    have hfirst := hs.issues_of_draw (congrArg Prod.fst hdraw)
    rw [hdraw] at hfirst
    exact hfirst.trans (ih hrest)

/-- Where a state is reached by drawing, no mark is lost. -/
lemma issues_of_reaches (h : AliasSource.Reaches aliases aliases') :
    Issues used aliases aliases' [] := by
  induction h with
  | refl => exact .refl aliases
  | tail _ hstep ih =>
    obtain ⟨seed, rfl⟩ := hstep
    exact ih.trans ⟨List.nodup_nil, by simp, by simp, fun label => hs.mono seed label _⟩

/-- Calls in a row give out one alias for each seed that does not fail.

**Proof sketch.** Induction on the seeds. What the first call gives out is unmarked at the start, and
marked when the other calls begin. -/
lemma issues_of_drawEach (seeds : List String) (aliases : σ) :
    Issues used aliases (AliasSource.drawEach seeds aliases).2
      (AliasSource.labelsOf (AliasSource.drawEach seeds aliases).1) := by
  induction seeds generalizing aliases with
  | nil => exact .refl aliases
  | cons seed seeds ih =>
    have hrest := ih (AliasSource.draw seed aliases).2
    rw [AliasSource.drawEach_cons, AliasSource.labelsOf_cons]
    cases hfirst : (AliasSource.draw seed aliases).1 with
    | error fault => exact (hs.issues_of_reaches (AliasSource.reaches_draw seed aliases)).trans hrest
    | ok label => exact (hs.issues_of_draw hfirst).trans hrest

end NeverRepeats

end Issues

/-! ## The built-in sources -/

namespace SequentialAliases

variable {seed label : String} {source source' : SequentialAliases}

/-- A draw that succeeds gives out the next number, which the counter has room for. -/
lemma draw_eq_ok_iff : (AliasSource.draw seed source).1 = .ok label ↔
    source.count + 1 < capacity ∧ label = aliasOf seed (source.count + 1) := by
  simp only [AliasSource.draw]
  split_ifs with h
  · simp [h, eq_comm]
  · simp [h]

/-- A draw takes a number if the counter has room for it. -/
lemma count_draw (seed : String) (source : SequentialAliases) :
    (AliasSource.draw seed source).2.count =
      if source.count + 1 < capacity then source.count + 1 else source.count := by
  simp only [AliasSource.draw]
  split_ifs <;> rfl

/-- A numbered alias may have been given out if its number has been reached. -/
def Used (source : SequentialAliases) (label : String) : Prop :=
  ∃ seed, ∃ number ≤ source.count, label = aliasOf seed number

/-- **Numbered aliases never repeat**, since a new one has a number that was not reached before. -/
lemma neverRepeats : NeverRepeats Used where
  unused_of_draw := by
    rintro seed label source h ⟨seed', number, hle, hlabel⟩
    obtain ⟨-, rfl⟩ := draw_eq_ok_iff.1 h
    obtain ⟨-, hnumber⟩ := aliasOf_inj.1 hlabel
    omega
  used_of_draw := by
    intro seed label source h
    obtain ⟨hroom, rfl⟩ := draw_eq_ok_iff.1 h
    refine ⟨seed, source.count + 1, ?_, rfl⟩
    rw [count_draw, if_pos hroom]
  mono := by
    rintro seed label source ⟨seed', number, hle, rfl⟩
    refine ⟨seed', number, ?_, rfl⟩
    rw [count_draw]
    split_ifs
    · omega
    · exact hle

end SequentialAliases

namespace RandomAliases

variable {seed : String} {attempts : Nat} {source : RandomAliases}

/-- The alias for a seed that a coming token yields: the next one, or the one after `i` others. -/
def candidate (source : RandomAliases) (seed : String) (i : Nat) : String :=
  source.aliasOf seed (source.tokens (source.drawn + i))

/-- The first coming token whose alias is new, if it is among the next ones. -/
def firstNew (source : RandomAliases) (seed : String) (attempts : Nat) : Option Nat :=
  (List.range attempts).find? fun i => source.candidate seed i ∉ source.issued

/-- Once a token has been drawn, the others are one place nearer. -/
lemma candidate_succ (source : RandomAliases) (seed : String) (i : Nat) :
    source.candidate seed (i + 1) = candidate { source with drawn := source.drawn + 1 } seed i := by
  have hplace : source.drawn + (i + 1) = source.drawn + 1 + i := by omega
  rw [candidate, hplace]
  rfl

/-- The first token ahead either yields a new alias, or the search goes on behind it. -/
lemma firstNew_succ (source : RandomAliases) (seed : String) (attempts : Nat) :
    source.firstNew seed (attempts + 1) =
      if source.candidate seed 0 ∈ source.issued then
        (firstNew { source with drawn := source.drawn + 1 } seed attempts).map (· + 1)
      else some 0 := by
  have hshift : (fun i => decide (source.candidate seed i ∉ source.issued)) ∘ Nat.succ =
      fun i => decide (candidate { source with drawn := source.drawn + 1 } seed i ∉ source.issued) := by
    funext i
    rw [Function.comp_apply, Nat.succ_eq_add_one, candidate_succ]
  rw [firstNew, List.range_succ_eq_map, List.find?_cons, List.find?_map, hshift, firstNew]
  by_cases h : source.candidate seed 0 ∈ source.issued
  · simp [h]
  · simp [h]

/-- **A search finds the first new alias of the coming tokens**, and remembers it. If there is none, all
these tokens are used up and nothing is remembered. -/
lemma search_eq_find? (seed : String) (attempts : Nat) (source : RandomAliases) :
    search seed attempts source =
      match source.firstNew seed attempts with
      | some i => (some (source.candidate seed i),
          { source with
            drawn := source.drawn + (i + 1), issued := source.candidate seed i :: source.issued })
      | none => (none, { source with drawn := source.drawn + attempts }) := by
  induction attempts generalizing source with
  | zero => rfl
  | succ attempts ih =>
    rw [firstNew_succ, search]
    by_cases h : source.candidate seed 0 ∈ source.issued
    · rw [if_pos h]
      refine (if_pos h).trans ((ih _).trans ?_)
      cases firstNew { source with drawn := source.drawn + 1 } seed attempts with
      | none => simp only [Option.map_none, Nat.add_assoc, Nat.add_comm 1]
      | some i => simp only [Option.map_some, candidate_succ, Nat.add_assoc, Nat.add_comm 1]
    · rw [if_neg h]
      exact if_neg h

/-- The first new alias is that of a token among the next ones, behind tokens with old aliases only. -/
lemma firstNew_eq_some_iff {i : Nat} :
    source.firstNew seed attempts = some i ↔
      i < attempts ∧ source.candidate seed i ∉ source.issued ∧
        ∀ j < i, source.candidate seed j ∈ source.issued := by
  simp [firstNew, List.find?_range_eq_some, and_left_comm]

/-- There is no new alias if the next tokens all have old ones. -/
lemma firstNew_eq_none_iff :
    source.firstNew seed attempts = none ↔
      ∀ i < attempts, source.candidate seed i ∈ source.issued := by
  simp [firstNew]

/-- A call gives out what a search finds. -/
lemma draw_eq (seed : String) (source : RandomAliases) :
    AliasSource.draw seed source =
      match source.firstNew seed (source.retryLimit + 1) with
      | some i => (.ok (source.candidate seed i),
          { source with
            drawn := source.drawn + (i + 1), issued := source.candidate seed i :: source.issued })
      | none => (.error (.aliasesExhausted seed (source.retryLimit + 1)),
          { source with drawn := source.drawn + (source.retryLimit + 1) }) := by
  simp only [AliasSource.draw, search_eq_find?]
  cases source.firstNew seed (source.retryLimit + 1) <;> rfl

/-- A call that succeeds gives out the first new alias. -/
lemma exists_firstNew_of_draw {label : String} (h : (AliasSource.draw seed source).1 = .ok label) :
    ∃ i, source.firstNew seed (source.retryLimit + 1) = some i ∧ label = source.candidate seed i := by
  rw [draw_eq] at h
  cases hfirst : source.firstNew seed (source.retryLimit + 1) with
  | none => simp [hfirst] at h
  | some i =>
    simp only [hfirst, Except.ok.injEq] at h
    exact ⟨i, rfl, h.symm⟩

/-- A random alias has been given out if it is remembered. -/
def Used (source : RandomAliases) (label : String) : Prop :=
  label ∈ source.issued

/-- **Random aliases never repeat**, whatever the tokens are, since a new one was not remembered
before. -/
lemma neverRepeats : NeverRepeats Used where
  unused_of_draw := by
    intro seed label source h
    obtain ⟨i, hfirst, rfl⟩ := exists_firstNew_of_draw h
    exact (firstNew_eq_some_iff.1 hfirst).2.1
  used_of_draw := by
    intro seed label source h
    obtain ⟨i, hfirst, rfl⟩ := exists_firstNew_of_draw h
    rw [draw_eq, hfirst]
    exact List.mem_cons_self
  mono := by
    intro seed label source h
    rw [draw_eq]
    cases source.firstNew seed (source.retryLimit + 1) with
    | none => exact h
    | some i => exact List.mem_cons_of_mem _ h

end RandomAliases

namespace BuiltinAliases

/-- What a built-in source may have given out already. -/
def Used : BuiltinAliases → String → Prop
  | sequential source => source.Used
  | random source => source.Used

/-- **The built-in sources never repeat themselves.** -/
lemma neverRepeats : NeverRepeats Used where
  unused_of_draw := by
    rintro seed label (source | source) h
    · exact SequentialAliases.neverRepeats.unused_of_draw h
    · exact RandomAliases.neverRepeats.unused_of_draw h
  used_of_draw := by
    rintro seed label (source | source) h
    · exact SequentialAliases.neverRepeats.used_of_draw h
    · exact RandomAliases.neverRepeats.used_of_draw h
  mono := by
    rintro seed label (source | source) h
    · exact SequentialAliases.neverRepeats.mono seed label source h
    · exact RandomAliases.neverRepeats.mono seed label source h

end BuiltinAliases

end ClausePlan
