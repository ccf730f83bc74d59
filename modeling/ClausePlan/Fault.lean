import ClausePlan.Decode.Error
/-!
# Why a request cannot be planned

A fault is either a defect of the request or of the settings, or an exhausted resource. The whole
attempt is given up when one arises.

## Main definitions

* `Fault`: the causes.
* `Fault.message`: the text of a cause.
-/

namespace ClausePlan

/-- What is wrong with a request tree beyond unknown kinds, lengths of keys and depth. -/
inductive Malformation where
  /-- The nodes are no list. -/
  | notAList
  /-- A node without a tag. -/
  | untagged (node : Json)
  /-- A node whose members do not decode. -/
  | undecodable (cause : DecodeError)
  /-- A collection without a name. -/
  | unnamedCollection
  /-- A relation between two collections that has no key columns. -/
  | keyless (source target : String)
  /-- A reason given in words, for instance by an alias source. -/
  | stated (reason : String)
deriving Repr

/-- What is wrong with settings. -/
inductive SettingsDefect where
  /-- The value does not decode. -/
  | undecodable (cause : DecodeError)
  /-- The file cannot be read as text. -/
  | unreadable (path : String)
  /-- The file holds no JSON value. -/
  | notJson (path : String)
  /-- A reason given in words. -/
  | stated (reason : String)
deriving Repr

/-- Why a request cannot be planned. -/
inductive Fault where
  /-- A node of a kind that does not exist. -/
  | unknownKind (kind : String)
  /-- A relation of a kind that does not go with its node. -/
  | unknownRelationKind (node relation : String)
  /-- A relation whose key has different lengths on its two sides. -/
  | keyLengths (source : String) (localCount foreignCount : Nat)
  /-- No unused alias was found for a seed. -/
  | aliasesExhausted (seed : String) (attempts : Nat)
  /-- Relations are nested too deeply. -/
  | tooDeep (collection : String) (limit : Nat)
  /-- A deferred query was given the wrong number of key values. -/
  | keyValueCount (expected actual : Nat)
  /-- A defect of the request tree. -/
  | malformed (cause : Malformation)
  /-- A defect of the settings. -/
  | settings (cause : SettingsDefect)
deriving Repr

namespace Malformation

/-- The text of a malformation. -/
def message : Malformation → String
  | notAList => "field nodes must be an array"
  | untagged node => s!"field node without a type tag: {node.compact}"
  | undecodable cause => cause.message
  | unnamedCollection => "collection name must not be empty"
  | keyless source target => s!"join from '{source}' to '{target}' has no key fields"
  | stated reason => reason

end Malformation

namespace SettingsDefect

/-- The text of a defect of settings. -/
def message : SettingsDefect → String
  | undecodable cause => s!"invalid converter config: {cause.message}"
  | unreadable path => s!"could not read {path}"
  | notJson path => s!"{path} does not contain valid JSON"
  | stated reason => reason

end SettingsDefect

namespace Fault

/-- The text of a fault. -/
def message : Fault → String
  | unknownKind kind => s!"unsupported field node kind '{kind}'"
  | unknownRelationKind node relation =>
    s!"unsupported relation kind '{relation}' on a {node} node"
  | keyLengths source localCount foreignCount =>
    s!"join from '{source}' has {localCount} local field(s) but {foreignCount} foreign field(s)"
  | aliasesExhausted seed attempts =>
    s!"could not generate a unique alias for '{seed}' after {attempts} attempt(s)"
  | tooDeep collection limit =>
    s!"relation nesting under '{collection}' exceeds the limit of {limit}"
  | keyValueCount expected actual => s!"expected {expected} correlation value(s), got {actual}"
  | malformed cause => s!"malformed field node: {cause.message}"
  | settings cause => cause.message

end Fault

end ClausePlan
