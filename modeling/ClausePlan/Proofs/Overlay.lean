import ClausePlan.Proofs.OrderedMap
import ClausePlan.Proofs.Outlining
import ClausePlan.Settings
import Mathlib.Data.Finset.Insert
/-!
# Settings laid over the defaults

The JSON form of settings has four members, each of which may be absent. What is read from an object is
the default settings with those values in place that the object has: under each of the four keys the
settings have what the member states, or the default where there is no member, and no other member counts.
A member that states nothing leaves no settings to be read.

What a member states is laid down here without a decoder. A size is stated by the integer that it is. A
strategy is stated in two ways: by its name, and by an object whose only member has that name as its key
and `null` as its value.

## Main definitions

* `ClausePlan.Settings.Key` — the four keys.
* `ClausePlan.Settings.AgreeAt` — two settings have the same value under a key.
* `ClausePlan.Settings.Key.States` — a JSON value states what settings have under a key.
* `ClausePlan.Settings.Key.IsForeign` — the numbers, names and `null` that state nothing under a key.

## Main results

* `ClausePlan.Decode.size_eq_ok_iff`, `ClausePlan.Decode.choice_eq_ok_iff` — which values are read as a
  size, and as a choice.
* `ClausePlan.Settings.ofJson_object_eq_ok_iff` — which settings are read from an object.
* `ClausePlan.Settings.ofJson_overlays` — reading is an overlay on the defaults, and it undoes writing.
-/

namespace ClausePlan

/-! ## Simple values -/

namespace Decode

/-- A size is read from the integer that it is, and from nothing else. -/
lemma size_eq_ok_iff {value : Json} {n : UInt64} :
    size value = .ok n ↔ value = .ofNat n.toNat := by
  constructor
  · intro h
    unfold size at h
    split at h
    case h_1 i =>
      split_ifs at h with hneg hsmall
      have hn : (UInt64.ofNat i.toNat).toNat = i.toNat := UInt64.toNat_ofNat_of_lt hsmall
      have hi : i = (i.toNat : Int) := (Int.toNat_of_nonneg (not_lt.1 hneg)).symm
      rw [← Except.ok.inj h, hn, Json.ofNat, ← hi]
    case h_2 => cases h
  · rintro rfl
    have hsmall : n.toNat < UInt64.size := n.toNat_lt_size
    simp [Json.ofNat, size, hsmall]

section Choice

variable {α : Type} {known : List (String × α)} {a : α}

/-- A variant is found by its name. -/
lemma variant_eq_ok_iff {name : String} :
    variant known name = .ok a ↔ known.lookup name = some a := by
  unfold variant
  cases known.lookup name <;> simp

/-- A variant without data is read from its name, and from an object whose only member has that key and
the value `null`. -/
lemma choice_eq_ok_iff {value : Json} :
    choice .plain known value = .ok a ↔
      ∃ name, known.lookup name = some a ∧
        (value = .string name ∨ value = .object [(name, .null)]) := by
  unfold choice
  split
  case h_1 name => simp [variant_eq_ok_iff]
  case h_2 name content =>
    simp only [bind_eq_ok_iff, variant_eq_ok_iff]
    constructor
    · rintro ⟨a', ha', ⟨⟩, hunit, h⟩
      obtain rfl := Except.ok.inj h
      unfold unit at hunit
      split at hunit
      · exact ⟨name, ha', .inr rfl⟩
      · contradiction
      · cases hunit
    · rintro ⟨name', hname', h⟩
      obtain ⟨rfl, rfl⟩ : name = name' ∧ content = .null := by simpa using h
      exact ⟨a, hname', (), rfl, rfl⟩
  case h_3 members hmembers =>
    constructor
    · nofun
    · rintro ⟨name, -, h | h⟩
      · cases h
      · exact absurd (Json.object.inj h) (hmembers name .null)
  case h_4 hstring _ hobject =>
    constructor
    · nofun
    · rintro ⟨name, -, h | h⟩
      · exact absurd h (hstring name)
      · exact absurd h (hobject _)

end Choice

section Members

variable {α : Type} {decoder : Decoder α} {member : Option Json} {default a : α}

/-- `Reads decoder member default a`: the decoder reads `a` from a member, or there is no member and `a`
is the default. -/
def Reads (decoder : Decoder α) (member : Option Json) (default a : α) : Prop :=
  ∃ given, member.mapM decoder = .ok given ∧ given.getD default = a

/-- What is read from a member that may be absent, given what the decoder reads from a value. -/
lemma reads_iff {Means : Json → α → Prop} (h : ∀ {value a}, decoder value = .ok a ↔ Means value a) :
    Reads decoder member default a ↔
      match member with
      | some value => Means value a
      | none => a = default := by
  cases member with
  | none =>
    show (∃ given, (Except.ok none : Except DecodeError (Option α)) = .ok given ∧ _) ↔ _
    simp [eq_comm]
  | some value =>
    show (∃ given, some <$> decoder value = .ok given ∧ _) ↔ Means value a
    rw [← h]
    cases decoder value <;> simp

end Members

end Decode

namespace Settings

/-- A strategy is read from its name, and from an object that has it as its only key. -/
lemma strategy_eq_ok_iff {value : Json} {a : AliasStrategy} :
    strategy value = .ok a ↔ value = .string a.name ∨ value = .object [(a.name, .null)] := by
  have hknown : ∀ name,
      [("random", AliasStrategy.random), ("sequential", .sequential)].lookup name = some a ↔
        name = a.name := by
    intro name
    simp only [OrderedMap.lookup_cons_eq_ite, List.lookup_nil]
    split_ifs with hrandom hsequential
    · subst hrandom
      cases a <;> decide
    · subst hsequential
      cases a <;> decide
    · cases a <;> simpa [AliasStrategy.name]
  simp only [strategy, Decode.choice_eq_ok_iff, hknown, exists_eq_left]

/-! ## What a member states -/

/-- A member of the JSON form of settings. -/
inductive Key where
  /-- The strategy. -/
  | aliasStrategy
  /-- The length of random suffixes. -/
  | aliasSuffixLength
  /-- The limit on collisions. -/
  | aliasRetryLimit
  /-- The limit on nesting. -/
  | maxDepth
deriving DecidableEq

/-- The key under which a member stands. -/
def Key.name : Key → String
  | aliasStrategy => "alias_strategy"
  | aliasSuffixLength => "alias_suffix_length"
  | aliasRetryLimit => "alias_retry_limit"
  | maxDepth => "max_depth"

/-- Two settings have the same value under a key. -/
def AgreeAt (s t : Settings) : Key → Prop
  | .aliasStrategy => s.aliasStrategy = t.aliasStrategy
  | .aliasSuffixLength => s.aliasSuffixLength = t.aliasSuffixLength
  | .aliasRetryLimit => s.aliasRetryLimit = t.aliasRetryLimit
  | .maxDepth => s.maxDepth = t.maxDepth

namespace Key

/-- A JSON value states what some settings have under a key. -/
def States (value : Json) (s : Settings) : Key → Prop
  | aliasStrategy =>
    value = .string s.aliasStrategy.name ∨ value = .object [(s.aliasStrategy.name, .null)]
  | aliasSuffixLength => value = .ofNat s.aliasSuffixLength.toNat
  | aliasRetryLimit => value = .ofNat s.aliasRetryLimit.toNat
  | maxDepth => value = .ofNat s.maxDepth.toNat

/-- Some settings have under a key what the member there states, or the default if there is no member. -/
def Fits (member : Option Json) (s : Settings) (key : Key) : Prop :=
  match member with
  | some value => key.States value s
  | none => AgreeAt s {} key

/-- A number, a text or `null` that settings cannot have under a key. -/
inductive IsForeign : Key → Json → Prop
  /-- A negative integer. -/
  | negative (key : Key) {n : Int} : n < 0 → IsForeign key (.number (.integer n))
  /-- An integer beyond sixty-four bits. -/
  | tooLarge (key : Key) {n : Int} : (UInt64.size : Int) ≤ n → IsForeign key (.number (.integer n))
  /-- A double, even one that equals an integer. -/
  | double (key : Key) (x : Double) : IsForeign key (.number (.double x))
  /-- The value `null`. -/
  | null (key : Key) : IsForeign key .null
  /-- A text that names no strategy. -/
  | unknownName {name : String} : (∀ a : AliasStrategy, name ≠ a.name) →
    IsForeign aliasStrategy (.string name)

/-- A size is no foreign value. -/
lemma ofNat_ne_of_isForeign {key : Key} {value : Json} (h : key.IsForeign value) (n : UInt64) :
    value ≠ .ofNat n.toNat := by
  have hn : n.toNat < UInt64.size := n.toNat_lt_size
  rintro rfl
  cases h with
  | negative _ hneg => omega
  | tooLarge _ hlarge => omega

/-- A foreign value states nothing. -/
lemma not_states_of_isForeign {key : Key} {value : Json} (h : key.IsForeign value) (s : Settings) :
    ¬key.States value s := by
  cases key with
  | aliasStrategy =>
    rintro (rfl | rfl)
    · cases h with
      | unknownName hname => exact hname _ rfl
    · cases h
  | aliasSuffixLength => exact ofNat_ne_of_isForeign h _
  | aliasRetryLimit => exact ofNat_ne_of_isForeign h _
  | maxDepth => exact ofNat_ne_of_isForeign h _

end Key

/-! ## Reading an object -/

/-- Settings are read from an object member by member. -/
lemma decode_object_eq_ok_iff {members : List (String × Json)} {s : Settings} :
    decode (.object members) = .ok s ↔
      Decode.Reads Decode.size (members.lookup "alias_retry_limit") ({} : Settings).aliasRetryLimit
        s.aliasRetryLimit ∧
      Decode.Reads strategy (members.lookup "alias_strategy") ({} : Settings).aliasStrategy
        s.aliasStrategy ∧
      Decode.Reads Decode.size (members.lookup "alias_suffix_length")
        ({} : Settings).aliasSuffixLength s.aliasSuffixLength ∧
      Decode.Reads Decode.size (members.lookup "max_depth") ({} : Settings).maxDepth s.maxDepth := by
  unfold decode
  simp only [Decode.record, bind_eq_ok_iff, pure, Except.pure, Except.ok.injEq, exists_eq_left']
  constructor
  · rintro ⟨retryLimit, hretry, strategy', hstrategy, suffixLength, hsuffix, maxDepth, hdepth, rfl⟩
    exact ⟨⟨_, hretry, rfl⟩, ⟨_, hstrategy, rfl⟩, ⟨_, hsuffix, rfl⟩, ⟨_, hdepth, rfl⟩⟩
  · obtain ⟨aliasStrategy, aliasSuffixLength, aliasRetryLimit, maxDepth⟩ := s
    rintro ⟨⟨_, hretry, rfl⟩, ⟨_, hstrategy, rfl⟩, ⟨_, hsuffix, rfl⟩, ⟨_, hdepth, rfl⟩⟩
    exact ⟨_, hretry, _, hstrategy, _, hsuffix, _, hdepth, rfl⟩

/-- **The settings that are read from an object** are those that fit every one of its members and, where
there is none, the defaults. -/
lemma ofJson_object_eq_ok_iff {members : List (String × Json)} {s : Settings} :
    ofJson (.object members) = .ok s ↔ ∀ key : Key, key.Fits (members.lookup key.name) s := by
  have hdecode : ofJson (.object members) = .ok s ↔ decode (.object members) = .ok s := by
    unfold ofJson
    cases decode (.object members) <;> simp
  rw [hdecode, decode_object_eq_ok_iff]
  constructor
  · rintro ⟨hretry, hstrategy, hsuffix, hdepth⟩ key
    cases key with
    | aliasStrategy => exact (Decode.reads_iff strategy_eq_ok_iff).1 hstrategy
    | aliasSuffixLength => exact (Decode.reads_iff Decode.size_eq_ok_iff).1 hsuffix
    | aliasRetryLimit => exact (Decode.reads_iff Decode.size_eq_ok_iff).1 hretry
    | maxDepth => exact (Decode.reads_iff Decode.size_eq_ok_iff).1 hdepth
  · intro h
    exact ⟨(Decode.reads_iff Decode.size_eq_ok_iff).2 (h .aliasRetryLimit),
      (Decode.reads_iff strategy_eq_ok_iff).2 (h .aliasStrategy),
      (Decode.reads_iff Decode.size_eq_ok_iff).2 (h .aliasSuffixLength),
      (Decode.reads_iff Decode.size_eq_ok_iff).2 (h .maxDepth)⟩

/-! ## Reading what was written -/

/-- The defaults with the values laid over them that some settings have under some keys. -/
def overlay (c : Settings) (keys : Finset Key) : Settings :=
  let default : Settings := {}
  { aliasStrategy := if .aliasStrategy ∈ keys then c.aliasStrategy else default.aliasStrategy
    aliasSuffixLength :=
      if .aliasSuffixLength ∈ keys then c.aliasSuffixLength else default.aliasSuffixLength
    aliasRetryLimit := if .aliasRetryLimit ∈ keys then c.aliasRetryLimit else default.aliasRetryLimit
    maxDepth := if .maxDepth ∈ keys then c.maxDepth else default.maxDepth }

/-- Under the keys that are laid over, the values are the new ones. -/
lemma agreeAt_overlay_of_mem (c : Settings) {keys : Finset Key} {key : Key} (h : key ∈ keys) :
    AgreeAt (c.overlay keys) c key := by
  cases key <;> exact if_pos h

/-- Under all other keys, the values are the defaults. -/
lemma agreeAt_overlay_of_notMem (c : Settings) {keys : Finset Key} {key : Key} (h : key ∉ keys) :
    AgreeAt (c.overlay keys) {} key := by
  cases key <;> exact if_neg h

/-- A member of the JSON form of settings states what settings have that agree with them under its key. -/
lemma fits_toJson {s c : Settings} {key : Key} (h : AgreeAt s c key) :
    key.Fits (c.toJson.get? key.name) s := by
  cases key with
  | aliasStrategy => exact .inl (congrArg (fun a => Json.string a.name) (Eq.symm h))
  | aliasSuffixLength => exact congrArg (fun n => Json.ofNat n.toNat) (Eq.symm h)
  | aliasRetryLimit => exact congrArg (fun n => Json.ofNat n.toNat) (Eq.symm h)
  | maxDepth => exact congrArg (fun n => Json.ofNat n.toNat) (Eq.symm h)

/-- Settings are read back from their JSON form. -/
lemma ofJson_toJson (c : Settings) : ofJson c.toJson = .ok c :=
  ofJson_object_eq_ok_iff.2 fun key => fits_toJson (by cases key <;> rfl)

/-- Settings that are not read from a value cannot be decoded, and there is no other fault. -/
lemma undecodable_of_ofJson {value : Json} {fault : Fault} (h : ofJson value = .error fault) :
    ∃ cause, fault = .settings (.undecodable cause) := by
  unfold ofJson at h
  split at h
  case h_1 => cases h
  case h_2 cause _ => exact ⟨cause, (Except.error.inj h).symm⟩

/-- An object with a member that states nothing under its key is refused. -/
lemma exists_error_of_not_states {members : List (String × Json)} {key : Key} {value : Json}
    (hvalue : members.lookup key.name = some value) (hstates : ∀ s, ¬key.States value s) :
    ∃ cause, ofJson (.object members) = .error (.settings (.undecodable cause)) := by
  cases hread : ofJson (.object members) with
  | ok s =>
    have hfits := ofJson_object_eq_ok_iff.1 hread key
    rw [hvalue] at hfits
    exact absurd hfits (hstates s)
  | error fault =>
    obtain ⟨cause, rfl⟩ := undecodable_of_ofJson hread
    exact ⟨cause, rfl⟩

/-- **Reading settings is an overlay on the defaults, and it undoes writing.** From an object that has the
members of the JSON form of some settings under some of the four keys, none under the others of the
four, and anything under further keys, the defaults are read with those values laid over them. With all
four members these are the settings themselves. Conversely, settings that are read from an object have
under each key what the member states, or the default where there is none, and they are read again from
their own JSON form. If a member states nothing under its key, nothing is read, and the fault is one of the
settings. A negative number is such a member, and so are a number beyond sixty-four bits, a double, `null`,
and an unknown name of a strategy.

**Proof sketch.** A member that may be absent is read as what it states, or else as the default, so
settings are read from an object iff they fit all of its members. The settings of an overlay do, and no
settings fit a member that states nothing. -/
theorem ofJson_overlays :
    (∀ (c : Settings) (keys : Finset Key) (members : List (String × Json)),
      (∀ key : Key, members.lookup key.name =
        if key ∈ keys then c.toJson.get? key.name else none) →
      ofJson (.object members) = .ok (c.overlay keys)) ∧
    (∀ c : Settings, ofJson c.toJson = .ok c) ∧
    (∀ members s, ofJson (.object members) = .ok s →
      (∀ key : Key, key.Fits (members.lookup key.name) s) ∧ ofJson s.toJson = .ok s) ∧
    (∀ members (key : Key) value, members.lookup key.name = some value →
      (∀ s, ¬key.States value s) →
      ∃ cause, ofJson (.object members) = .error (.settings (.undecodable cause))) ∧
    ∀ members (key : Key) value, members.lookup key.name = some value → key.IsForeign value →
      ∃ cause, ofJson (.object members) = .error (.settings (.undecodable cause)) := by
  refine ⟨fun c keys members hmembers => ?_, ofJson_toJson, fun members s h => ?_, ?_, ?_⟩
  · refine ofJson_object_eq_ok_iff.2 fun key => ?_
    rw [hmembers key]
    split
    · next hmem => exact fits_toJson (agreeAt_overlay_of_mem c hmem)
    · next hmem => exact agreeAt_overlay_of_notMem c hmem
  · exact ⟨ofJson_object_eq_ok_iff.1 h, ofJson_toJson s⟩
  · intro members key value hvalue hstates
    exact exists_error_of_not_states hvalue hstates
  · intro members key value hvalue hforeign
    exact exists_error_of_not_states hvalue (Key.not_states_of_isForeign hforeign)

/-- Two of the four members, the largest size among them, with two members beside them whose keys are
close to the other two. -/
def partialMembers : List (String × Json) :=
  [("alias_retry_limits", .array [.null]),
    ("alias_strategy", .string "sequential"),
    ("alias_suffix_length", .ofNat 18446744073709551615),
    ("maxDepth", .number (.integer (-1)))]

/-- Two of the four members, with the strategy in its other spelling and the given limit on nesting. -/
def spelledMembers (limit : Json) : List (String × Json) :=
  [("alias_strategy", .object [("sequential", .null)]), ("max_depth", limit)]

/-- The members are laid over the defaults, in both spellings of the strategy, and a text and the integer
after the largest size are refused as limits. -/
theorem ofJson_overlays_partialMembers :
    ofJson (.object partialMembers) = .ok ⟨.sequential, 18446744073709551615, 16, 32⟩ ∧
    (∃ s, ofJson (.object (spelledMembers (.ofNat 0))) = .ok s ∧
      Key.maxDepth.States (.ofNat 0) s ∧ AgreeAt s {} .aliasRetryLimit ∧ ofJson s.toJson = .ok s) ∧
    (∃ cause, ofJson (.object (spelledMembers (.string "0"))) =
      .error (.settings (.undecodable cause))) ∧
    ∃ cause, ofJson (.object (spelledMembers (.ofNat 18446744073709551616))) =
      .error (.settings (.undecodable cause)) := by
  obtain ⟨hoverlay, -, hread, hrefused, hforeign⟩ := ofJson_overlays
  have hmembers : ∀ key : Key, partialMembers.lookup key.name =
      if key ∈ ({.aliasStrategy, .aliasSuffixLength} : Finset Key) then
        (⟨.sequential, 18446744073709551615, 0, 0⟩ : Settings).toJson.get? key.name
      else none := by
    rintro (_ | _ | _ | _) <;> rfl
  have hlarge : Key.maxDepth.IsForeign (.ofNat 18446744073709551616) := .tooLarge _ (by decide)
  obtain ⟨hfits, hagain⟩ := hread (spelledMembers (.ofNat 0)) ⟨.sequential, 8, 16, 0⟩ rfl
  exact ⟨hoverlay _ _ _ hmembers, ⟨_, rfl, hfits .maxDepth, hfits .aliasRetryLimit, hagain⟩,
    hrefused _ .maxDepth _ rfl (fun _ => nofun), hforeign _ .maxDepth _ rfl hlarge⟩

end Settings

end ClausePlan
