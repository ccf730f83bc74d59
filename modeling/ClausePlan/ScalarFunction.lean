import ClausePlan.Decode.Basic
/-!
# Functions of one column

A computed column applies a function to a single column. Its result is one value again, so a
computed column fills exactly one place of a select list.

In JSON a function is a tagged record with the single member `fn`: the tag `extractFn` with the name
of a date part, or the tag `arrayFn` with the name of a measure.

## Main definitions

* `ScalarFunction`: a part of a date, or a measure of a list.
* `ScalarFunction.aliasSeed`: the readable part of the aliases of a computed column.
* `ScalarFunction.toJson`, `ScalarFunction.ofJson`: the JSON form of a function, and the function of
  a JSON form.
-/

namespace ClausePlan

/-- A part of a date or time. -/
inductive DatePart where
  /-- The year. -/
  | year
  /-- The month. -/
  | month
  /-- The week of the year. -/
  | week
  /-- The day of the month. -/
  | day
  /-- The day of the week. -/
  | weekday
  /-- The hour. -/
  | hour
  /-- The minute. -/
  | minute
  /-- The second. -/
  | second
deriving DecidableEq, Repr

/-- A measure of the list that a column holds. -/
inductive ListMeasure where
  /-- How many items there are. -/
  | count
deriving DecidableEq, Repr

/-- A function of a single column. -/
inductive ScalarFunction where
  /-- Takes a part of a date. -/
  | extract (part : DatePart)
  /-- Measures a list. -/
  | measure (measure : ListMeasure)
deriving DecidableEq, Repr

/-- The name of a date part. -/
def DatePart.name : DatePart → String
  | year => "year"
  | month => "month"
  | week => "week"
  | day => "day"
  | weekday => "weekday"
  | hour => "hour"
  | minute => "minute"
  | second => "second"

/-- All date parts. -/
def DatePart.all : List DatePart :=
  [year, month, week, day, weekday, hour, minute, second]

/-- The name of a measure. -/
def ListMeasure.name : ListMeasure → String
  | count => "count"

/-- All measures. -/
def ListMeasure.all : List ListMeasure :=
  [count]

namespace ScalarFunction

/-- The name of a function: that of the date part or of the measure. -/
def name : ScalarFunction → String
  | extract part => part.name
  | measure m => m.name

/-- The seed of the alias of a computed column: function and column, joined by an underscore. -/
def aliasSeed (fn : ScalarFunction) (column : String) : String :=
  fn.name ++ "_" ++ column

/-! ### JSON -/

/-- The JSON form of a function. -/
def toJson : ScalarFunction → Json
  | extract part => .object [("fn", .string part.name), ("type", .string "extractFn")]
  | measure m => .object [("fn", .string m.name), ("type", .string "arrayFn")]

/-- Decodes the member of a function that takes a part of a date. -/
def extractOfMembers (members : Members) : Except DecodeError ScalarFunction :=
  extract <$> Decode.single .belowTag "struct variant FnDescriptor::Extract" "fn"
    (Decode.choice .belowTag (DatePart.all.map fun part => (part.name, part))) members

/-- Decodes the member of a function that measures a list. -/
def measureOfMembers (members : Members) : Except DecodeError ScalarFunction :=
  measure <$> Decode.single .belowTag "struct variant FnDescriptor::Array" "fn"
    (Decode.choice .belowTag (ListMeasure.all.map fun m => (m.name, m))) members

/-- Decodes a function. -/
def ofJson (nesting : Nesting) : Decoder ScalarFunction := fun value => do
  let (ofMembers, members) ← Decode.tagged nesting "FnDescriptor"
    [("extractFn", extractOfMembers), ("arrayFn", measureOfMembers)] value
  ofMembers members

end ScalarFunction

end ClausePlan
