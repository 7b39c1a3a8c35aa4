import StagedBuilder.Record.Template

/-!
# Hobbits

A record of a name, an age, and a pet for those who have one.
-/

namespace StagedBuilder

structure Hobbit where
  name : String
  age : Int32
  pet : Option String
deriving DecidableEq, Repr

namespace Hobbit

/-- Only the pet may be left out. -/
def template : Template where
  item := .struct "Hobbit" [
    .of [.bare "into"] "name" (.named "String"),
    .of [] "age" (.named "i32"),
    .of [.bare "into"] "pet" (.applied "Option" (.named "String"))]
  ofType := fun _ => .absent

def ofValues? : List (Ident × Value) → Option Hobbit
  | [(_, .text name), (_, .number age), (_, pet)] =>
    pet.optText?.map fun pet => ⟨name, .ofInt age, pet⟩
  | _ => none

def build? (route : Route) (calls : List (String × Value)) : Option Hobbit :=
  (template.build? route calls).bind ofValues?

/-- The hobbit as its users are shown it. -/
def display (h : Hobbit) : String :=
  "Hobbit(name=" ++ h.name ++ ", age=" ++ decimal h.age.toInt ++ ", pet=" ++
    h.pet.getD "null" ++ ")"

def fields (h : Hobbit) : List (String × Value) :=
  [("name", .text h.name), ("age", .number h.age.toInt), ("pet", .ofOptText h.pet)]

def shown (h : Hobbit) : String := shownRecord "Hobbit" h.fields

/-- A hobbit to try the builder on. -/
def sampleLines : List String :=
  (build? .inherent [("name", .text "Bilbo"), ("age", .number 201)]).toList.map display

end Hobbit

end StagedBuilder
