import StagedBuilder.Item.Basic
import StagedBuilder.Item.Substitution
import StagedBuilder.Field.Diagnostic

/-!
# The kinds of fields

A field is required unless something says otherwise: a `default` attribute, or an `Option` as
its type, which starts as `None` and may be left so. The attribute `not_null` makes such a
field required again, and `into` lets its setter take whatever converts into its type.

Attributes are told by their path alone, which has to be the one bare name; all others belong to
somebody else and are passed over.
-/

namespace StagedBuilder

/-- What a field holds before its setter is called, and what its setter takes. -/
inductive Kind where
  /-- Nothing; the setter takes the field's type. -/
  | required
  /-- Nothing; the setter takes what the `Option` holds. -/
  | notNull (inner : Ty)
  /-- At first `None`; the setter takes what the `Option` holds. -/
  | nullable (inner : Ty)
  /-- A value, given as an expression or by the type; the setter takes the field's type. -/
  | defaulted (value : Option (List TokenTree))
deriving Inhabited

namespace Kind

/-- Whether the setter of a field of this kind wraps its argument into `Some`. -/
def wraps : Kind → Bool
  | notNull _ | nullable _ => true
  | required | defaulted _ => false

/-- Whether a field of this kind has a value from the start. -/
def isOptional : Kind → Bool
  | nullable _ | defaulted _ => true
  | required | notNull _ => false

end Kind

/-- A field as the builder needs it. -/
structure FieldSpec where
  name : Ident
  nameSpan : Span
  /-- The field's type, with `Self` spelled out. -/
  ty : Ty
  kind : Kind
  into : Bool
deriving Inhabited

namespace FieldSpec

/-- Whether the struct may be built without the field's setter having been called. -/
def isOptional (f : FieldSpec) : Bool := f.kind.isOptional

/-- The type the setter takes, before any conversion. -/
def setterTy (f : FieldSpec) : Ty :=
  match f.kind with
  | .notNull inner | .nullable inner => inner
  | .required | .defaulted _ => f.ty

end FieldSpec

/-- What `Option<T>` holds, if the type is that. The name may be written as a path from `std` or
`core`. -/
def Ty.optionInner? : Ty → Option Ty
  | .path (.plain (.mk _ segments)) =>
    if [["Option"], ["std", "option", "Option"], ["core", "option", "Option"]].contains
        (segments.map fun s => s.name.text) then
      match segments.getLast? with
      | some (.mk _ (.angle _ [.type inner] _)) => some inner
      | _ => none
    else none
  | _ => none

/-- The methods of a builder that belong to no field. -/
def reservedNames : List String := ["build", "builder", "unsafe_build", "maybe_uninit"]

/-! ## Attributes -/

/-- Whether the attribute's path is this bare name. -/
def Attribute.isNamed (a : Attribute) (name : String) : Bool :=
  !a.absolute && a.path == [.plain name]

/-- Where the attribute's arguments stand. -/
def Attribute.argsSpan (a : Attribute) : Span := (TokenTree.spanOf a.args).getD a.span

/-- What the attributes of a field ask for. -/
structure Directives where
  /-- The value given by `default`: an expression, or what the type has. -/
  initial : Option (Option (List TokenTree))
  /-- Where `not_null` stands, the last one if it is repeated. -/
  notNull : Option Span
  into : Bool

namespace Directives

def none : Directives := ⟨.none, .none, false⟩

/-- The value in a `default` attribute: no arguments, or one group in parentheses that holds
something. -/
def defaultValue (a : Attribute) : Except Diagnostic (Option (List TokenTree)) :=
  match a.args with
  | [] => .ok .none
  | [.group .paren [] s] => .error ⟨.emptyDefault, s⟩
  | [.group .paren inner _] => .ok (some inner)
  | _ => .error ⟨.malformedDefault, a.argsSpan⟩

/-- Refuses the arguments of an attribute that has none. -/
def expectBare (a : Attribute) (name : String) : Except Diagnostic Unit :=
  if a.args.isEmpty then .ok () else .error ⟨.unexpectedArguments name, a.argsSpan⟩

/-- Adds what one attribute asks for. -/
def add (d : Directives) (a : Attribute) : Except Diagnostic Directives :=
  -- Only `default` may not stand twice. Attributes of other names are left to others.
  if a.isNamed "default" then
    if d.initial.isSome then .error ⟨.repeatedDefault, a.span⟩
    else (defaultValue a).map fun value => { d with initial := some value }
  else if a.isNamed "not_null" then
    (expectBare a "not_null").map fun _ => { d with notNull := some a.span }
  else if a.isNamed "into" then
    (expectBare a "into").map fun _ => { d with into := true }
  else .ok d

/-- What some attributes ask for, or the first thing that is wrong with them. -/
def ofAttributes (attrs : List Attribute) : Except Diagnostic Directives := attrs.foldlM add none

/-- The kind of a field of this type. -/
def kind (d : Directives) (ty : Ty) : Except Diagnostic Kind :=
  match d.notNull, d.initial, ty.optionInner? with
  | some s, some _, _ => .error ⟨.notNullWithDefault, s⟩
  | some _, .none, some inner => .ok (.notNull inner)
  | some s, .none, .none => .error ⟨.notNullWithoutOption, s⟩
  | .none, some value, _ => .ok (.defaulted value)
  | .none, .none, some inner => .ok (.nullable inner)
  | .none, .none, .none => .ok .required

end Directives

/-- The field as the builder needs it, with `self` for `Self`, or the first thing that is wrong
with it. -/
def Field.classify (self : Ty) (f : Field) : Except Diagnostic FieldSpec :=
  match f.name with
  | none => .error ⟨.noFieldNames, f.span⟩
  | some (name, span) =>
    if reservedNames.contains name.name then .error ⟨.reservedName name.name, span⟩
    else do
      let directives ← Directives.ofAttributes f.attrs
      let ty := Ty.replaceSelf self f.ty
      let kind ← directives.kind ty
      return ⟨name, span, ty, kind, directives.into⟩

end StagedBuilder
