import ClausePlan.Decode.Basic
import ClausePlan.Fault
import ClausePlan.Json.Reader
/-!
# Settings

In JSON settings are a record whose members may all be absent; an absent member keeps its default.

## Main definitions

* `Settings`: what a caller can choose about planning.
* `Settings.effectiveSuffixLength`: the length of random suffixes, within what a draw can supply.
* `Settings.toJson`, `Settings.ofJson`: the JSON form of settings and back.
* `Settings.ofFile`: the settings in the contents of a file.
-/

namespace ClausePlan

/-- How aliases are told apart. -/
inductive AliasStrategy where
  /-- By random digits. -/
  | random
  /-- By a counter. -/
  | sequential
deriving DecidableEq, Repr

/-- How deep relations may be nested where nothing else is said. -/
def Settings.defaultMaxDepth : UInt64 :=
  32

/-- What a caller can choose about planning. -/
structure Settings where
  /-- How aliases are told apart. -/
  aliasStrategy : AliasStrategy := .random
  /-- The wanted length of random suffixes. -/
  aliasSuffixLength : UInt64 := 8
  /-- How many collisions a random source puts up with for one alias. -/
  aliasRetryLimit : UInt64 := 16
  /-- How deep to-one relations may be nested in one plan. -/
  maxDepth : UInt64 := Settings.defaultMaxDepth
deriving DecidableEq, Repr

namespace Settings

/-- The default settings with aliases told apart by a counter. -/
def sequential : Settings :=
  { aliasStrategy := .sequential }

/-- The length of random suffixes: the wanted one, but at least one digit and no more than the
thirty-two that a draw has. -/
def effectiveSuffixLength (settings : Settings) : Nat :=
  max 1 (min settings.aliasSuffixLength.toNat 32)

end Settings

/-! ### JSON -/

/-- The name of a strategy. -/
def AliasStrategy.name : AliasStrategy → String
  | random => "random"
  | sequential => "sequential"

namespace Settings

/-- The JSON form of settings. -/
def toJson (settings : Settings) : Json :=
  .object [
    ("alias_retry_limit", .ofNat settings.aliasRetryLimit.toNat),
    ("alias_strategy", .string settings.aliasStrategy.name),
    ("alias_suffix_length", .ofNat settings.aliasSuffixLength.toNat),
    ("max_depth", .ofNat settings.maxDepth.toNat)]

/-- Decodes a strategy. -/
def strategy : Decoder AliasStrategy :=
  Decode.choice .plain [("random", .random), ("sequential", .sequential)]

/-- The settings with the given members, and the default for each absent one. -/
def ofMembers (aliasStrategy : Option AliasStrategy)
    (aliasSuffixLength aliasRetryLimit maxDepth : Option UInt64) : Settings :=
  let default : Settings := {}
  { aliasStrategy := aliasStrategy.getD default.aliasStrategy
    aliasSuffixLength := aliasSuffixLength.getD default.aliasSuffixLength
    aliasRetryLimit := aliasRetryLimit.getD default.aliasRetryLimit
    maxDepth := maxDepth.getD default.maxDepth }

/-- Decodes settings. -/
def decode : Decoder Settings := fun value => do
  match ← Decode.record "ConverterConfig" value with
  | .keyed members =>
    let retryLimit ← (members.lookup "alias_retry_limit").mapM Decode.size
    let strategy ← (members.lookup "alias_strategy").mapM strategy
    let suffixLength ← (members.lookup "alias_suffix_length").mapM Decode.size
    let maxDepth ← (members.lookup "max_depth").mapM Decode.size
    return ofMembers strategy suffixLength retryLimit maxDepth
  | .listed items =>
    let strategy ← items[0]?.mapM strategy
    let suffixLength ← items[1]?.mapM Decode.size
    let retryLimit ← items[2]?.mapM Decode.size
    let maxDepth ← items[3]?.mapM Decode.size
    Decode.noMoreThan .plain items 4
    return ofMembers strategy suffixLength retryLimit maxDepth

/-- The settings of a JSON value. -/
def ofJson (value : Json) : Except Fault Settings :=
  match decode value with
  | .ok settings => .ok settings
  | .error cause => .error (.settings (.undecodable cause))

/-- How deep lists and objects may be nested in a file. -/
def fileNesting : Nat :=
  127

/-- The settings in the contents of a file; there are none if the file could not be read. -/
def ofFile (path : String) (contents : Option ByteArray) : Except Fault Settings :=
  match contents.bind String.fromUTF8? with
  | none => .error (.settings (.unreadable path))
  | some text =>
    match Json.parse? fileNesting text with
    | none => .error (.settings (.notJson path))
    | some value => ofJson value

end Settings

end ClausePlan
