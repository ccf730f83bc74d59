import ClausePlan.Double.Basic
/-!
# JSON values

Requests, settings and key values are JSON. Integers and doubles are different numbers even when
they are equal in value (`1` and `1.0`), and the members of an object are kept as a list.

## Main definitions

* `Json`: a JSON value.
* `Json.get?`, `Json.string?`, `Json.array?`: the parts of a value, if it has the right shape.
* `Json.ofMembers`: the object with the given members, sorted by key, in which the last of several
  members with one key wins.
-/

namespace ClausePlan

/-- A JSON number. -/
inductive Number where
  /-- An integer. Documents hold only those from `-2 ^ 63` to `2 ^ 64 - 1` in this form. -/
  | integer (value : Int)
  /-- Any other number. -/
  | double (value : Double)
deriving DecidableEq, Repr

/-- A JSON value. -/
inductive Json where
  /-- The value `null`. -/
  | null
  /-- A truth value. -/
  | bool (value : Bool)
  /-- A number. -/
  | number (value : Number)
  /-- A text. -/
  | string (value : String)
  /-- A list of values. -/
  | array (items : List Json)
  /-- A list of keys with their values. -/
  | object (members : List (String × Json))
deriving Repr, Inhabited

namespace Json

/-- The integer `n` as a JSON value. -/
def ofNat (n : Nat) : Json :=
  .number (.integer n)

/-- A list of texts as a JSON value. -/
def ofStrings (texts : List String) : Json :=
  .array (texts.map .string)

/-- The value of the member with the given key, if the value is an object that has one. -/
def get? : Json → String → Option Json
  | .object members, key => members.lookup key
  | _, _ => none

/-- The text, if the value is one. -/
def string? : Json → Option String
  | .string value => some value
  | _ => none

/-- The items, if the value is a list. -/
def array? : Json → Option (List Json)
  | .array items => some items
  | _ => none

/-- Puts a member at the place of its key in a list sorted by key, over any member that has the
same key. -/
def insertMember (key : String) (value : Json) : List (String × Json) → List (String × Json)
  | [] => [(key, value)]
  | (k, v) :: members =>
    if key = k then (key, value) :: members
    else if key < k then (key, value) :: (k, v) :: members
    else (k, v) :: insertMember key value members

/-- The object with the given members, sorted by key. Of several members with one key the last one
wins. -/
def ofMembers (members : List (String × Json)) : Json :=
  .object (members.foldl (fun sorted member => insertMember member.1 member.2 sorted) [])

end Json

end ClausePlan
