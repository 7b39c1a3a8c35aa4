import StagedBuilder.Record.Template

/-!
# Orcs

A record of a name and an age, both of which it needs.
-/

namespace StagedBuilder

structure Orc where
  name : String
  age : Int32
deriving DecidableEq, Repr

namespace Orc

/-- An orc is made from a name, or anything that converts into one, and an age. -/
def template : Template where
  item := .struct "Orc" [
    .of [.bare "into"] "name" (.named "String"),
    .of [] "age" (.named "i32")]
  ofType := fun _ => .absent

def ofValues? : List (Ident × Value) → Option Orc
  | [(_, .text name), (_, .number age)] => some ⟨name, .ofInt age⟩
  | _ => none

def build? (route : Route) (calls : List (String × Value)) : Option Orc :=
  (template.build? route calls).bind ofValues?

/-- Makes an orc by writing its fields through pointers. -/
def buildThroughPointers? (entries : List (String × Value)) : Option Orc :=
  (template.buildThroughPointers? entries).bind ofValues?

/-- Makes an orc of its parts, which are listed with the names of their fields. -/
def new? (entries : List (String × Value)) : Option Orc :=
  match entries.lookup "name", entries.lookup "age" with
  | some (.text name), some (.number age) => some ⟨name, .ofInt age⟩
  | _, _ => none

/-- The orc as its users are shown it. -/
def display (o : Orc) : String :=
  "Orc(name=" ++ o.name ++ ", age=" ++ decimal o.age.toInt ++ ")"

def fields (o : Orc) : List (String × Value) :=
  [("name", .text o.name), ("age", .number o.age.toInt)]

def shown (o : Orc) : String := shownRecord "Orc" o.fields

/-- Two orcs to try the builder on. -/
def sampleLines : List String :=
  [("uruk", "Uruk", 3), ("vincent", "Vince", 12)].filterMap fun (label, name, age) =>
    (build? .inherent [("name", .text name), ("age", .number age)]).map fun o =>
      label ++ ": " ++ o.display

end Orc

end StagedBuilder
