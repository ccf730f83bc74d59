import ClausePlan.Json.Printer
import ClausePlan.Text
/-!
# Why a JSON value does not decode

## Main definitions

* `DecodeError`: the causes, each with what its text needs.
* `DecodeError.message`: the text of a cause.
-/

namespace ClausePlan

/-- What a place in a document has to hold. -/
inductive Expectation where
  /-- A text. -/
  | string
  /-- A list. -/
  | sequence
  /-- An unsigned integer of 64 bits. -/
  | size
  /-- No data. -/
  | unit
  /-- A choice, written as a text or as an object. -/
  | choice
  /-- The name of a variant. -/
  | variant
  /-- A record of the given name. -/
  | record (name : String)
  /-- A tagged record of the given name. -/
  | tagged (name : String)
deriving DecidableEq, Repr

namespace Expectation

/-- How an error text puts an expectation. -/
def text : Expectation → String
  | string => "a string"
  | sequence => "a sequence"
  | size => "usize"
  | unit => "unit"
  | choice => "string or map"
  | variant => "variant identifier"
  | record name => s!"struct {name}"
  | tagged name => s!"internally tagged enum {name}"

end Expectation

/-- Why a JSON value does not decode. -/
inductive DecodeError where
  /-- A value of another kind than its place demands. -/
  | unexpected (found : Json) (wanted : Expectation)
  /-- A negative integer where a size has to stand. -/
  | negativeSize (value : Int)
  /-- The index of a variant where there are only `count` of them. -/
  | variantIndex (index : Int) (count : Nat)
  /-- A choice written as an object with no member or several. -/
  | notSingleMember
  /-- A record without one of its members. -/
  | missing (key : String)
  /-- A variant by a name that is none of the known ones. -/
  | unknownVariant (name : String) (known : List String)
  /-- A list of `present` items for a record of `size` members. -/
  | tooFew (present : Nat) (owner : String) (size : Nat)
  /-- A list with more items than the record below a tag has members. -/
  | tooMany (present size : Nat)
  /-- A list with more items than the record, which is not below a tag, has members. -/
  | surplus (present : Nat)
deriving Repr

/-- How an error text puts a value that was found. -/
def Json.described : Json → String
  | .null => "null"
  | .bool value => s!"boolean `{value}`"
  | .number (.integer value) => s!"integer `{value}`"
  | .number (.double value) => s!"floating point `{value.text}`"
  | .string value => s!"string {Text.quoted value}"
  | .array _ => "sequence"
  | .object _ => "map"

namespace DecodeError

/-- A number of elements in words. -/
def elements (n : Nat) : String :=
  if n = 1 then "1 element" else s!"{n} elements"

/-- The known names of a choice, the last two joined by "or" if there are only two. -/
def alternatives (known : List String) : String :=
  match known.map fun name => s!"`{name}`" with
  | [] => "there are no variants"
  | [only] => s!"expected {only}"
  | [first, second] => s!"expected {first} or {second}"
  | names => "expected one of " ++ ", ".intercalate names

/-- The text of an error. -/
def message : DecodeError → String
  | unexpected found wanted => s!"invalid type: {found.described}, expected {wanted.text}"
  | negativeSize value => s!"invalid value: integer `{value}`, expected usize"
  | variantIndex index count =>
    s!"invalid value: integer `{index}`, expected variant index 0 <= i < {count}"
  | notSingleMember => "invalid value: map, expected map with a single key"
  | missing key => s!"missing field `{key}`"
  | unknownVariant name known => s!"unknown variant `{name}`, {alternatives known}"
  | tooFew present owner size =>
    s!"invalid length {present}, expected {owner} with {elements size}"
  | tooMany present size => s!"invalid length {present}, expected {elements size} in sequence"
  | surplus present => s!"invalid length {present}, expected fewer elements in array"

end DecodeError

end ClausePlan
