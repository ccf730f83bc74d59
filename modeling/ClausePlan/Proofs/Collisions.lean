import ClausePlan.Proofs.Unrepeated
import Mathlib.Data.Fintype.BigOperators
/-!
# Aliases with random digits

A source with random digits remembers what it has given out, and after a collision it draws the next
token. Nothing is assumed of the tokens here: whatever they are, a call gives out the first alias that is
new, as far as the limit on collisions allows, and a call that fails leaves no trace but the tokens that it
has used up. So the memory holds what has been given out, and nothing else, and a seed can be used no more
often than there are suffixes.

## Main definitions

* `ClausePlan.RandomAliases.Answers` — how a call ends after some aliases have been given out.
* `ClausePlan.RandomAliases.Continues` — what calls leave of a source.
* `ClausePlan.RandomAliases.labelsFor` — the aliases that a seed has got in some calls.

## Main results

* `ClausePlan.RandomAliases.answers_of_mem_iff` — when a call succeeds and when it fails, with the state
  that it leaves.
* `ClausePlan.RandomAliases.length_le_of_suffixes` — a seed has as many aliases as there are suffixes.
* `ClausePlan.RandomAliases.drawEach_remembered` — the account of any calls on a fresh source.
-/

namespace ClausePlan

/-! ## Digits of tokens -/

namespace Token

@[simp] lemma length_digits (token : Token) : token.digits.length = 32 := by
  simp [digits]

/-- The first digits of a token are some hexadecimal digits. -/
lemma exists_take_digits (token : Token) {m : Nat} (h : m ≤ 32) :
    ∃ code : Fin m → Fin 16, token.digits.take m = List.ofFn fun i => Nat.digitChar (code i) := by
  refine ⟨fun i => Fin.ofNat 16 (token.toNat >>> (4 * (31 - i.val))), List.ext_getElem ?_ fun i _ _ => ?_⟩
  · simp [h]
  · simp [digits]

end Token

namespace RandomAliases

open AliasSource

variable {seed label : String} {fault : Fault} {attempts : Nat} {seeds labels labels' : List String}
  {source source' source'' : RandomAliases}

/-! ## Suffixes -/

/-- An alias is its seed, an underscore and as many digits as are wanted and there are. -/
lemma aliasOf_eq (source : RandomAliases) (seed : String) (token : Token) :
    source.aliasOf seed token =
      seed ++ "_" ++ String.ofList (token.digits.take (min source.suffixLength 32)) := by
  rw [aliasOf, List.take_eq_take_min, Token.length_digits]

/-- The alias of a seed with some hexadecimal digits. -/
def spelled (seed : String) {m : Nat} (code : Fin m → Fin 16) : String :=
  seed ++ "_" ++ String.ofList (List.ofFn fun i => Nat.digitChar (code i))

/-- **A seed has as many aliases as there are suffixes**: different aliases of one seed with `m` digits
each are at most `16 ^ m`. -/
lemma length_le_of_suffixes {m : Nat} (seed : String) (hm : m ≤ 32) (hnodup : labels.Nodup)
    (h : ∀ label ∈ labels, ∃ token : Token,
      label = seed ++ "_" ++ String.ofList (token.digits.take m)) :
    labels.length ≤ 16 ^ m := by
  have hspelled : labels.toFinset ⊆ Finset.univ.image (spelled seed (m := m)) := by
    intro label hlabel
    obtain ⟨token, rfl⟩ := h label (List.mem_toFinset.1 hlabel)
    obtain ⟨code, hcode⟩ := token.exists_take_digits hm
    rw [hcode]
    exact Finset.mem_image_of_mem _ (Finset.mem_univ code)
  calc labels.length = labels.toFinset.card := (List.toFinset_card_of_nodup hnodup).symm
    _ ≤ (Finset.univ.image (spelled seed (m := m))).card := Finset.card_le_card hspelled
    _ ≤ (Finset.univ : Finset (Fin m → Fin 16)).card := Finset.card_image_le
    _ = 16 ^ m := by simp

/-! ## One call -/

/-- How a call for a seed ends where the aliases `given` have been given out. -/
structure Answers (source : RandomAliases) (given : List String) (seed : String) : Prop where
  /-- It gives out the first alias that is new among those of the next tokens, one more than the limit on
  collisions, and remembers it. -/
  ok_iff : ∀ label source', draw seed source = (.ok label, source') ↔
    ∃ i ≤ source.retryLimit, label = source.candidate seed i ∧ label ∉ given ∧
      (∀ j < i, source.candidate seed j ∈ given) ∧
      source' = { source with drawn := source.drawn + (i + 1), issued := label :: source.issued }
  /-- It fails iff the aliases of all these tokens are old, and then it remembers nothing more. -/
  error_iff : ∀ fault source', draw seed source = (.error fault, source') ↔
    (∀ i ≤ source.retryLimit, source.candidate seed i ∈ given) ∧
      fault = .aliasesExhausted seed (source.retryLimit + 1) ∧
      source' = { source with drawn := source.drawn + (source.retryLimit + 1) }

/-- **A call ends as the memory of the source says**, if that holds what has been given out. -/
lemma answers_of_mem_iff {given : List String} (h : ∀ label, label ∈ source.issued ↔ label ∈ given)
    (seed : String) : source.Answers given seed where
  ok_iff label source' := by
    simp only [← h, draw_eq]
    cases hfirst : source.firstNew seed (source.retryLimit + 1) with
    | none =>
      have hold := firstNew_eq_none_iff.1 hfirst
      simp only [Prod.mk.injEq, reduceCtorEq, false_and, false_iff]
      rintro ⟨i, hi, rfl, hnew, -⟩
      exact hnew (hold i (Nat.lt_succ_of_le hi))
    | some i =>
      obtain ⟨hi, hnew, hold⟩ := firstNew_eq_some_iff.1 hfirst
      simp only [Prod.mk.injEq, Except.ok.injEq]
      constructor
      · rintro ⟨rfl, rfl⟩
        exact ⟨i, Nat.le_of_lt_succ hi, rfl, hnew, hold, rfl⟩
      · rintro ⟨j, hj, rfl, hnew', hold', rfl⟩
        -- both are the first new alias
        have hsame : some i = some j := by
          rw [← hfirst]
          exact firstNew_eq_some_iff.2 ⟨Nat.lt_succ_of_le hj, hnew', hold'⟩
        obtain rfl := Option.some.inj hsame
        exact ⟨rfl, rfl⟩
  error_iff fault source' := by
    simp only [← h, draw_eq]
    cases hfirst : source.firstNew seed (source.retryLimit + 1) with
    | none =>
      have hold : ∀ i ≤ source.retryLimit, source.candidate seed i ∈ source.issued :=
        fun i hi => firstNew_eq_none_iff.1 hfirst i (Nat.lt_succ_of_le hi)
      simp only [Prod.mk.injEq, Except.error.injEq]
      constructor
      · rintro ⟨rfl, rfl⟩
        exact ⟨hold, rfl, rfl⟩
      · rintro ⟨-, rfl, rfl⟩
        exact ⟨rfl, rfl⟩
    | some i =>
      obtain ⟨hi, hnew, -⟩ := firstNew_eq_some_iff.1 hfirst
      simp only [Prod.mk.injEq, reduceCtorEq, false_and, false_iff]
      rintro ⟨hold, -⟩
      exact hnew (hold i (Nat.le_of_lt_succ hi))

/-! ## Calls in a row -/

/-- What calls leave of a source that give out some aliases: it draws further tokens of the same stream
under the same limits, and it remembers these aliases on top of the others. -/
structure Continues (source source' : RandomAliases) (labels : List String) : Prop where
  suffixLength : source'.suffixLength = source.suffixLength
  retryLimit : source'.retryLimit = source.retryLimit
  tokens : source'.tokens = source.tokens
  drawn_le : source.drawn ≤ source'.drawn
  issued : source'.issued = labels.reverse ++ source.issued

namespace Continues

lemma refl (source : RandomAliases) : source.Continues source [] :=
  ⟨rfl, rfl, rfl, Nat.le_refl _, rfl⟩

/-- Calls may be put behind one another. -/
lemma trans (h : source.Continues source' labels) (h' : source'.Continues source'' labels') :
    source.Continues source'' (labels ++ labels') where
  suffixLength := h'.suffixLength.trans h.suffixLength
  retryLimit := h'.retryLimit.trans h.retryLimit
  tokens := h'.tokens.trans h.tokens
  drawn_le := h.drawn_le.trans h'.drawn_le
  issued := by rw [h'.issued, h.issued, List.reverse_append, List.append_assoc]

end Continues

/-- A call remembers its alias, if it gives out one. -/
lemma continues_draw (seed : String) (source : RandomAliases) :
    source.Continues (draw seed source).2 (draw seed source).1.toOption.toList := by
  rw [draw_eq]
  cases source.firstNew seed (source.retryLimit + 1) with
  | none => exact ⟨rfl, rfl, rfl, Nat.le_add_right _ _, rfl⟩
  | some i => exact ⟨rfl, rfl, rfl, Nat.le_add_right _ _, rfl⟩

/-- **Calls remember what they have given out**, and nothing else. -/
lemma continues_drawEach (seeds : List String) (source : RandomAliases) :
    source.Continues (drawEach seeds source).2 (labelsOf (drawEach seeds source).1) := by
  induction seeds generalizing source with
  | nil => exact .refl source
  | cons seed seeds ih =>
    rw [drawEach_cons, labelsOf_cons]
    exact (continues_draw seed source).trans (ih _)

/-- Each alias is made of its seed and of a token that has been drawn by then. -/
lemma exists_token_of_mem_zip (h : (seed, .ok label) ∈ seeds.zip (drawEach seeds source).1) :
    ∃ i < (drawEach seeds source).2.drawn,
      label = source.aliasOf seed (source.tokens i) := by
  induction seeds generalizing source with
  | nil => simp at h
  | cons first seeds ih =>
    simp only [drawEach_cons] at h ⊢
    have hstep := continues_draw first source
    have hrest := continues_drawEach seeds (draw first source).2
    rcases List.mem_cons.1 h with hfirst | hlater
    · obtain ⟨rfl, hok⟩ := Prod.mk.inj hfirst
      obtain ⟨i, -, hlabel, -, -, hsource⟩ :=
        ((answers_of_mem_iff (fun _ => Iff.rfl) seed).ok_iff _ _).1 (Prod.ext hok.symm rfl)
      have hdrawn : (draw seed source).2.drawn = source.drawn + (i + 1) :=
        congrArg RandomAliases.drawn hsource
      have hlater := hrest.drawn_le
      exact ⟨source.drawn + i, by omega, hlabel⟩
    · obtain ⟨i, hi, hlabel⟩ := ih hlater
      refine ⟨i, hi, ?_⟩
      rw [hlabel, aliasOf, aliasOf, hstep.suffixLength, hstep.tokens]

/-- The aliases that a seed has got, given the outcomes of the calls for some seeds. -/
def labelsFor (seed : String) (seeds : List String) (outcomes : List (Except Fault String)) :
    List String :=
  labelsOf (((seeds.zip outcomes).filter fun call => call.1 = seed).map Prod.snd)

/-- An alias that a seed has got is in the outcome of a call for the seed. -/
lemma mem_zip_of_mem_labelsFor {outcomes : List (Except Fault String)}
    (h : label ∈ labelsFor seed seeds outcomes) : (seed, .ok label) ∈ seeds.zip outcomes := by
  obtain ⟨_, hcall, hlabel⟩ := List.mem_filterMap.1 h
  obtain ⟨⟨name, outcome⟩, hfilter, rfl⟩ := List.mem_map.1 hcall
  obtain ⟨hzip, hseed⟩ := List.mem_filter.1 hfilter
  obtain rfl : name = seed := of_decide_eq_true hseed
  cases outcome with
  | error fault => cases hlabel
  | ok given =>
    obtain rfl : given = label := Option.some.inj hlabel
    exact hzip

/-- The aliases that a seed has got are among those of all seeds. -/
lemma labelsFor_sublist {outcomes : List (Except Fault String)}
    (h : outcomes.length = seeds.length) :
    (labelsFor seed seeds outcomes).Sublist (labelsOf outcomes) := by
  have hcalls := (List.filter_sublist (p := fun call => call.1 = seed) (l := seeds.zip outcomes)).map
    Prod.snd
  rw [List.map_snd_zip (Nat.le_of_eq h)] at hcalls
  exact hcalls.filterMap _

/-- **The account of any calls on a fresh source with random digits**, for any stream of tokens and any
limits, whichever of the calls fail. All aliases that are given out differ, also those of different
seeds, and the source remembers these and nothing else, so that it can tell how many calls have
succeeded. The next call, for whichever seed, gives out the first of the coming tokens' aliases that has
not been given out, as far as the limit on collisions allows; it fails iff all these aliases have been
given out, and then it remembers nothing more. Each alias is its seed, an underscore and the first digits
of a token that was drawn, and so no seed has got more aliases than there are suffixes.

**Proof sketch.** A search finds the first new alias, by induction on the attempts, so a call remembers
what it gives out. By induction on the calls the memory holds what has been given out, in reverse. -/
theorem drawEach_remembered {suffixLength retryLimit : Nat} {tokens : Nat → Token}
    {seeds : List String} {outcomes : List (Except Fault String)} {source : RandomAliases}
    (h : drawEach seeds { suffixLength, retryLimit, tokens } = (outcomes, source)) :
    outcomes.length = seeds.length ∧
    (labelsOf outcomes).Nodup ∧
    source.issued = (labelsOf outcomes).reverse ∧
    (source.suffixLength = suffixLength ∧ source.retryLimit = retryLimit ∧ source.tokens = tokens) ∧
    (∀ seed, source.Answers (labelsOf outcomes) seed) ∧
    (∀ seed label, (seed, .ok label) ∈ seeds.zip outcomes → ∃ i < source.drawn,
      label = seed ++ "_" ++ String.ofList ((tokens i).digits.take (min suffixLength 32))) ∧
    ∀ seed, (labelsFor seed seeds outcomes).length ≤ 16 ^ min suffixLength 32 := by
  obtain ⟨houtcomes, hsource⟩ := Prod.mk.inj h
  have hlength := length_drawEach seeds ({ suffixLength, retryLimit, tokens } : RandomAliases)
  have hnodup := (neverRepeats.issues_of_drawEach seeds { suffixLength, retryLimit, tokens }).nodup
  have hleft := continues_drawEach seeds { suffixLength, retryLimit, tokens }
  have hform : ∀ seed label, (seed, .ok label) ∈ seeds.zip outcomes → ∃ i < source.drawn,
      label = seed ++ "_" ++ String.ofList ((tokens i).digits.take (min suffixLength 32)) := by
    intro seed label hcall
    rw [← houtcomes] at hcall
    obtain ⟨i, hi, hlabel⟩ := exists_token_of_mem_zip hcall
    rw [hsource] at hi
    exact ⟨i, hi, hlabel.trans (aliasOf_eq _ _ _)⟩
  rw [houtcomes] at hlength hnodup hleft
  rw [hsource] at hleft
  have hissued : source.issued = (labelsOf outcomes).reverse :=
    hleft.issued.trans (List.append_nil _)
  refine ⟨hlength, hnodup, hissued, ⟨hleft.suffixLength, hleft.retryLimit, hleft.tokens⟩,
    answers_of_mem_iff fun label => ?_, hform, fun seed => ?_⟩
  · rw [hissued, List.mem_reverse]
  · refine length_le_of_suffixes seed (Nat.min_le_right _ _) (hnodup.sublist (labelsFor_sublist hlength))
      fun label hlabel => ?_
    obtain ⟨i, -, hlabel⟩ := hform seed label (mem_zip_of_mem_labelsFor hlabel)
    exact ⟨tokens i, hlabel⟩

/-- A source that uses one digit and puts up with one collision. Its tokens start with `a`, `a`, `b`, `b`,
`a` and then with `b` for ever. -/
def oneDigit : RandomAliases where
  suffixLength := 1
  retryLimit := 1
  tokens i := if i = 0 ∨ i = 1 ∨ i = 4 then 0xA <<< 124 else 0xB <<< 124

/-- The second call draws again, the third one fails after two tokens, and the fourth one has another
seed. -/
theorem drawEach_remembered_oneDigit :
    ∃ source, drawEach ["id", "id", "id", "other"] oneDigit =
        ([.ok "id_a", .ok "id_b", .error (.aliasesExhausted "id" 2), .ok "other_b"], source) ∧
      source.issued = ["other_b", "id_b", "id_a"] ∧
      draw "id" source = (.error (.aliasesExhausted "id" 2), { source with drawn := 8 }) := by
  have hcalls : drawEach ["id", "id", "id", "other"] oneDigit =
      ([.ok "id_a", .ok "id_b", .error (.aliasesExhausted "id" 2), .ok "other_b"], _) := rfl
  obtain ⟨-, -, hissued, -, hnext, -⟩ := drawEach_remembered hcalls
  refine ⟨_, hcalls, hissued, ((hnext "id").error_iff _ _).2 ⟨fun i hi => ?_, rfl, rfl⟩⟩
  -- the next two tokens start with `b`
  have hlimit : i ≤ 1 := hi
  obtain rfl | rfl : i = 0 ∨ i = 1 := by omega
  · exact .tail _ (.head _)
  · exact .tail _ (.head _)

end RandomAliases

end ClausePlan
