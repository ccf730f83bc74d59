import ClausePlan.Plan.Basic
import ClausePlan.Context
import ClausePlan.Text
/-!
# Descriptions for people

## Main definitions

* `Deferred.description`, `Context.description`: what a deferred query or a context holds, in one
  line. Parts that are not shown leave two dots.
-/

namespace ClausePlan

/-- The members of a record in one line. -/
def describeRecord (name : String) (members : List (String × String)) (more : Bool) : String :=
  let shown := members.map (fun (key, value) => s!"{key}: {value}") ++ (if more then [".."] else [])
  name ++ " \x7b " ++ ", ".intercalate shown ++ " \x7d"

/-- A deferred query in one line, without the query itself. -/
def Deferred.description (d : Deferred) : String :=
  describeRecord "NestedManyDescriptor" [
    ("local_join_fields", Text.quotedList d.localColumns),
    ("foreign_join_fields", Text.quotedList d.foreignColumns),
    ("alias", Text.quoted d.name)] true

/-- A strategy in one word. -/
def AliasStrategy.description : AliasStrategy → String
  | random => "Random"
  | sequential => "Sequential"

/-- A slot counter in one line. -/
def SlotCounter.description (slots : SlotCounter) : String :=
  describeRecord "ParameterIndexGenerator" [("cursor", toString slots.issued)] false

/-- Settings in one line. -/
def Settings.description (settings : Settings) : String :=
  describeRecord "ConverterConfig" [
    ("alias_strategy", settings.aliasStrategy.description),
    ("alias_suffix_length", toString settings.aliasSuffixLength),
    ("alias_retry_limit", toString settings.aliasRetryLimit),
    ("max_depth", toString settings.maxDepth)] false

/-- A context in one line, without its alias source. -/
def Context.description {σ : Type} (context : Context σ) : String :=
  describeRecord "ConversionContext" [
    ("parameters", context.slots.description),
    ("config", context.settings.description),
    ("depth", toString context.depth)] true

end ClausePlan
