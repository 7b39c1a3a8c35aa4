import StagedBuilder.Builder.Expansion
import StagedBuilder.Item.References

/-!
# Names in the module

The types, bounds and conditions of a struct are copied into the module of its builder, and
they are looked up there. The module has names of its own: the builder and the markers, which
are found in all of it, and the states, which are found in the item that binds them. They hide
what is imported from around the struct.
-/

namespace StagedBuilder

/-- The names that are looked up in what is bound and asked for, and those of the parameters. -/
def ImplHead.heads (h : ImplHead) : List String :=
  h.params.flatMap (fun p => p.declares ++ p.heads) ++ h.predicates.flatMap WherePredicate.heads ++
    h.defaults.flatMap Ty.heads

/-- The names that are looked up in the types that a body names. -/
def Body.heads : Body → List String
  | .start initializers => initializers.flatMap fun i => i.ty.heads
  | .store .. | .pointer _ | .release | .assumeInit | .finish => []

namespace Blueprint

variable (b : Blueprint)

def outputHeads : Output → List String
  | .self | .builder _ => []
  | .struct | .storage => [b.name.name]
  | .pointer ty => ty.heads

def methodHeads (m : Method) : List String :=
  m.parameter.toList.flatMap (fun p => p.ty.heads) ++ b.outputHeads m.output ++ m.body.heads

/-- The names of the struct's that are looked up in an item of the module: its own, those of its
parameters, and those in the types and conditions that were copied there. -/
def copied : ModuleItem → List String
  | .imports | .marker _ => []
  | .builderStruct head => b.name.name :: head.heads
  | .ofBuilder i => i.head.heads ++ i.methods.flatMap b.methodHeads
  | .ofStruct i => b.name.name :: i.head.heads

/-- The name that an item is found by in all of the module. -/
def declared : ModuleItem → List String
  | .builderStruct _ => [b.builderName]
  | .marker name => [name]
  | .imports | .ofBuilder _ | .ofStruct _ => []

/-- The states that an item binds, which are found in that item alone. -/
def bound : ModuleItem → List String
  | .imports | .marker _ => []
  | .builderStruct head => head.states
  | .ofBuilder i => i.head.states
  | .ofStruct i => i.head.states

/-- Whether a name of the struct's is looked up where the module has something else of that
name. -/
def Captures (n : String) : Prop :=
  ∃ i ∈ b.moduleItems, n ∈ b.copied i ∧ n ∈ b.moduleItems.flatMap b.declared ++ bound i

instance {n : String} : Decidable (b.Captures n) :=
  inferInstanceAs (Decidable (∃ i ∈ b.moduleItems, _))

/-- All names by which the struct refers to something: itself, its parameters, and what is
looked up in its bounds, conditions and fields. -/
def givenNames : List String :=
  b.name.name :: (b.params.flatMap (fun p => p.declares ++ p.heads) ++
    b.generics.predicates.flatMap WherePredicate.heads ++ b.fields.flatMap fun f => f.ty.heads)

end Blueprint

end StagedBuilder
