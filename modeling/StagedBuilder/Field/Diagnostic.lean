import StagedBuilder.Token.Basic

/-!
# Diagnostics

What a struct can do wrong, and the place each fault is shown at. The wording is fixed here;
names in it are written without `r#`.
-/

namespace StagedBuilder

inductive Fault where
  /-- The item is an enum or a union. -/
  | notStruct
  /-- The struct, or one of its fields, has no field names. -/
  | noFieldNames
  /-- The field's setter would be one of the builder's own methods. -/
  | reservedName (name : String)
  | repeatedDefault
  | emptyDefault
  | malformedDefault
  /-- An attribute without arguments has some. -/
  | unexpectedArguments (directive : String)
  | notNullWithDefault
  | notNullWithoutOption
  /-- The field's setter would be the pointer method of another field. -/
  | pointerClash (name target : String)
deriving DecidableEq, Repr

namespace Fault

def message : Fault → String
  | notStruct => "`Builder` can only be derived for structs"
  | noFieldNames => "`Builder` can only be derived for structs with named fields"
  | reservedName name => s!"field `{name}` collides with a method of the generated builder"
  | repeatedDefault => "duplicate `#[default]`"
  | emptyDefault => "`#[default()]` needs an expression"
  | malformedDefault => "expected `#[default]` or `#[default(...)]`"
  | unexpectedArguments directive => s!"`#[{directive}]` takes no arguments"
  | notNullWithDefault => "`#[not_null]` and `#[default]` cannot be combined"
  | notNullWithoutOption =>
    "`#[not_null]` only applies to `Option<_>` fields; other fields are always required"
  | pointerClash name target =>
    s!"field `{name}` collides with the `{name}()` method generated for field `{target}`"

end Fault

/-- A fault and the stretch of source text it is about. -/
structure Diagnostic where
  fault : Fault
  span : Span
deriving DecidableEq, Repr

end StagedBuilder
