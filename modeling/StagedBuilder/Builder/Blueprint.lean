import StagedBuilder.Field.Basic

/-!
# Blueprints

What is known of a struct once it is clear that it gets a builder: its name, visibility and
parameters, and its fields with their markers.
-/

namespace StagedBuilder

/-- A struct that gets a builder. -/
structure Blueprint where
  visibility : Visibility
  name : Ident
  generics : Generics
  fields : List BuilderField
deriving Inhabited

/-- The item's own type, which is what `Self` means in its fields. -/
def Item.selfTy (i : Item) : Ty :=
  match i.generics.params with
  | [] => .ofIdent i.name
  | params =>
    .path (.plain (.mk false [.mk i.name (.angle false (params.map GenericParam.arg) false)]))

/-- The blueprint of an item, or why it gets no builder. -/
def Item.blueprint (i : Item) : Except Rejection Blueprint :=
  match i.body with
  | .ofEnum keyword | .ofUnion keyword => .error (.faults [⟨.notStruct, keyword⟩])
  | .ofStruct (.unnamed _) | .ofStruct .unit => .error (.faults [⟨.noFieldNames, i.nameSpan⟩])
  | .ofStruct (.named fields) =>
    (builderFields i.selfTy fields).map fun fs => ⟨i.visibility, i.name, i.generics, fs⟩

namespace Blueprint

def builderName (b : Blueprint) : String := b.name.name ++ "Builder"

/-- The name of the module that holds the builder and its markers. -/
def moduleName (b : Blueprint) : String := b.builderName ++ "Fields"

/-- The struct's parameters without their defaults. -/
def params (b : Blueprint) : List GenericParam := b.generics.params.map GenericParam.withoutDefault

def paramNames (b : Blueprint) : List String := b.generics.params.map GenericParam.argument

/-- The type parameters that hold the fields' states. -/
def states (b : Blueprint) : List String := b.fields.map (·.markers.state)

/-- The states in which no field is set. -/
def unsets (b : Blueprint) : List String := b.fields.map (·.markers.unset)

/-- The states in which every field is set. -/
def sets (b : Blueprint) : List String := b.fields.map (·.markers.set)

end Blueprint

end StagedBuilder
