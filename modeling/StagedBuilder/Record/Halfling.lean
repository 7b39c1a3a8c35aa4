import StagedBuilder.Record.Template

/-!
# Halflings

A record with a field of every kind: needed, with a default of its own or of its type, left out
as `None`, and needed although it is an `Option`.
-/

namespace StagedBuilder

structure Halfling where
  name : String
  age : UInt32
  pet : Option String
  home : Option String
  rings : List UInt8
deriving DecidableEq, Repr

namespace Halfling

/-- Name and home are needed. -/
def template : Template where
  item := .struct "Halfling" [
    .of [] "name" (.named "String"),
    .of [.call "default" [.literal .integer "111" .nowhere]] "age" (.named "u32"),
    .of [] "pet" (.applied "Option" (.named "String")),
    .of [.bare "not_null"] "home" (.applied "Option" (.named "String")),
    .of [.bare "default"] "rings" (.applied "Vec" (.named "u8"))]
  ofType := fun _ => .bytes []

def ofValues? : List (Ident × Value) → Option Halfling
  | [(_, .text name), (_, .number age), (_, pet), (_, home), (_, .bytes rings)] => do
    return ⟨name, .ofNat age.toNat, ← pet.optText?, ← home.optText?, rings⟩
  | _ => none

def build? (route : Route) (calls : List (String × Value)) : Option Halfling :=
  (template.build? route calls).bind ofValues?

def fields (h : Halfling) : List (String × Value) :=
  [("name", .text h.name), ("age", .number h.age.toNat), ("pet", .ofOptText h.pet),
    ("home", .ofOptText h.home), ("rings", .bytes h.rings)]

def shown (h : Halfling) : String := shownRecord "Halfling" h.fields

end Halfling

end StagedBuilder
