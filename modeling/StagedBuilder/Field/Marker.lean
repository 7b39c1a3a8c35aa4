import StagedBuilder.Character.Identifier
import StagedBuilder.Character.Uppercase

/-!
# Marker names

Each field has three names in the generated code: a type parameter for its state, and two types
for the two states it can be in. They are made from the field's name in upper camel case.

Camel case forgets underscores, so two fields may share it, and a name of underscores has none.
The first field of a camel case name gets it as it is; every other field, and each field
without any, gets its position added after an underscore, which no camel case name contains.
-/

namespace StagedBuilder

/-- Drops underscores and puts the first character of each part in upper case. `atStart` says
that a part begins here. -/
def camel (atStart : Bool) : List Char → List Char
  | [] => []
  | c :: cs =>
    if c = '_' then camel true cs
    else (if atStart then Character.upper c else [c]) ++ camel false cs

/-- The name in upper camel case: `pet_name` gives `PetName`. -/
def upperCamel (name : String) : String := String.ofList (camel true name.toList)

/-- The names of a field's type parameter and of its two states. -/
structure Markers where
  state : String
  set : String
  unset : String
deriving DecidableEq, Repr, Inhabited

namespace Markers

def ofBase (base : String) : Markers := ⟨"Field" ++ base, base ++ "Set", base ++ "Unset"⟩

def names (m : Markers) : List String := [m.state, m.set, m.unset]

/-- The first of the names that is no identifier, if one is not. -/
def unwritable? (m : Markers) : Option String := m.names.find? fun n => !Character.isIdentifier n

end Markers

/-- The bases of some fields' markers. The fields stand from position `index` on, and `seen`
holds the camel case names of the fields before them. -/
def markerBases (index : Nat) (seen : List String) : List String → List String
  | [] => []
  | name :: rest =>
    let base := upperCamel name
    -- The plain base stays with the first field that has it, so `seen` gets no positions.
    (if base.isEmpty || seen.contains base then base ++ "_" ++ toString index else base) ::
      markerBases (index + 1) (base :: seen) rest

/-- The markers of all fields of a struct, by their names. -/
def assignMarkers (names : List String) : List Markers := (markerBases 0 [] names).map .ofBase

end StagedBuilder
