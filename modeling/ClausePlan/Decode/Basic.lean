import ClausePlan.Decode.Error
/-!
# Decoding JSON values

The shapes that documents are made of: texts, sizes, lists, choices, records and tagged records. A
record may be written as an object or, with its members in declared order, as a list. In an object
the members are taken in the order of their keys, whatever the order in which a record declares
them, and members of unknown keys are passed over; so the first fault in that order is reported.

## Main definitions

* `Decoder`: decodes a value or says why it cannot.
* `Members`: the members of a record, by key or in order.
* `Decode.choice`: one of several names.
* `Decode.tagged`: the variant that a tag names, with the members beside it.
-/

namespace ClausePlan

/-- Decodes a JSON value or says why it cannot. -/
abbrev Decoder (α : Type) := Json → Except DecodeError α

/-- Whether a value lies inside a tagged record. Below a tag some values may be written in more
ways. -/
inductive Nesting where
  /-- Outside of any tagged record. -/
  | plain
  /-- Inside a tagged record. -/
  | belowTag
deriving DecidableEq, Repr

/-- The members of a record. -/
inductive Members where
  /-- Members by key. -/
  | keyed (members : List (String × Json))
  /-- Members in declared order. -/
  | listed (items : List Json)

namespace Decode

/-! ### Simple values -/

/-- Decodes a text. -/
def string : Decoder String
  | .string value => .ok value
  | found => .error (.unexpected found .string)

/-- Decodes a list, given how its items are decoded. -/
def list {α : Type} (item : Decoder α) : Decoder (List α)
  | .array items => items.mapM item
  | found => .error (.unexpected found .sequence)

/-- Decodes an integer from `0` to `2 ^ 64 - 1`. -/
def size : Decoder UInt64
  | .number (.integer value) =>
    if value < 0 then .error (.negativeSize value)
    else if value.toNat < UInt64.size then .ok (.ofNat value.toNat)
    else .error (.unexpected (.number (.integer value)) .size)
  | found => .error (.unexpected found .size)

/-- Decodes a value that holds no data: `null`, or an empty object below a tag. -/
def unit : Nesting → Decoder Unit
  | _, .null => .ok ()
  | .belowTag, .object [] => .ok ()
  | _, found => .error (.unexpected found .unit)

/-! ### Choices and tags -/

/-- The variant of the given name. -/
def variant {α : Type} (known : List (String × α)) (name : String) : Except DecodeError α :=
  match known.lookup name with
  | some a => .ok a
  | none => .error (.unknownVariant name (known.map Prod.fst))

/-- Decodes one of several variants without data: its name, or an object whose only key is its
name. -/
def choice {α : Type} (nesting : Nesting) (known : List (String × α)) : Decoder α
  | .string name => variant known name
  | .object [(name, value)] => do
    let a ← variant known name
    unit nesting value
    return a
  | .object _ => .error .notSingleMember
  | found => .error (.unexpected found .choice)

/-- Decodes a tag: the name of a variant or, below another tag, its index. -/
def tag {α : Type} (nesting : Nesting) (known : List (String × α)) : Decoder α
  | .string name => variant known name
  | .number (.integer index) =>
    if nesting = .belowTag ∧ 0 ≤ index then
      match known[index.toNat]? with
      | some (_, a) => .ok a
      | none => .error (.variantIndex index known.length)
    else .error (.unexpected (.number (.integer index)) .variant)
  | found => .error (.unexpected found .variant)

/-- Decodes the tag of a tagged record and leaves its members: the tag is the member `type` of an
object or the first item of a list. -/
def tagged {α : Type} (nesting : Nesting) (name : String) (known : List (String × α)) :
    Decoder (α × Members)
  | .object members =>
    match members.lookup "type" with
    | some value => do return (← tag nesting known value, .keyed members)
    | none => .error (.missing "type")
  | .array (value :: items) => do return (← tag nesting known value, .listed items)
  | .array [] => .error (.missing "type")
  | found => .error (.unexpected found (.tagged name))

/-! ### Records -/

/-- The members of a record of the given name. -/
def record (name : String) : Decoder Members
  | .object members => .ok (.keyed members)
  | .array items => .ok (.listed items)
  | found => .error (.unexpected found (.record name))

/-- Refuses a record that lacks the member of the given key. -/
def present {α : Type} (key : String) : Option α → Except DecodeError α
  | some a => .ok a
  | none => .error (.missing key)

/-- Decodes the member of a list at an index; `owner` and `size` describe the record. -/
def item {α : Type} (items : List Json) (owner : String) (size index : Nat) (decoder : Decoder α) :
    Except DecodeError α :=
  match items[index]? with
  | some value => decoder value
  | none => .error (.tooFew items.length owner size)

/-- Refuses a list with more items than the record has members. -/
def noMoreThan (nesting : Nesting) (items : List Json) (size : Nat) : Except DecodeError Unit :=
  if items.length ≤ size then .ok ()
  else match nesting with
    | .belowTag => .error (.tooMany items.length size)
    | .plain => .error (.surplus items.length)

/-- Decodes a record with a single member. -/
def single {α : Type} (nesting : Nesting) (owner key : String) (decoder : Decoder α) :
    Members → Except DecodeError α
  | .keyed members => do present key (← (members.lookup key).mapM decoder)
  | .listed items => do
    let a ← item items owner 1 0 decoder
    noMoreThan nesting items 1
    return a

end Decode

end ClausePlan
