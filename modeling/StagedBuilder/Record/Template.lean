import StagedBuilder.Builder.Session
import StagedBuilder.Text.Quoted

/-!
# Records made by builders

The records of this library are structs that get a builder like any other. A template is such a
struct's definition together with the values that its fields start from; making a record runs
the struct's builder.
-/

namespace StagedBuilder

/-- A value of a field. -/
inductive Value where
  | text (s : String)
  | number (n : Int)
  | bytes (bs : List UInt8)
  /-- The value `None`. -/
  | absent
  /-- The value `Some`, with what it holds. -/
  | present (v : Value)
deriving DecidableEq, Repr, Inhabited

namespace Value

/-- The value of a literal, or of a call with a string literal as its only argument. -/
def ofTokens : List TokenTree → Value
  | [] => absent
  | [.literal .integer digits _] => number (digits.toNat?.getD 0)
  | [.group .paren [.literal .string quoted _] _] =>
    text (String.ofList (quoted.toList.drop 1).dropLast)
  -- The path of a function that is called says nothing about the value.
  | _ :: rest => ofTokens rest

/-- The text that the value is, or that it wraps. -/
def wrappedText? : Value → Option String
  | text s => some s
  | present v => v.wrappedText?
  | _ => none

/-- The text of an optional text. -/
def optText? : Value → Option (Option String)
  | absent => some none
  | present (text s) => some (some s)
  | _ => none

end Value

/-! ## Definitions -/

/-- A place for definitions that are not read from a text. -/
def Span.nowhere : Span := ⟨.origin, .origin⟩

/-- An attribute that is only a name. -/
def Attribute.bare (name : String) : Attribute := ⟨false, [.plain name], [], .nowhere⟩

/-- An attribute with these tokens in parentheses. -/
def Attribute.call (name : String) (args : List TokenTree) : Attribute :=
  ⟨false, [.plain name], [.group .paren args .nowhere], .nowhere⟩

def Ty.named (name : String) : Ty := .ofIdent (.plain name)

/-- A type by its name, with one argument. -/
def Ty.applied (name : String) (arg : Ty) : Ty :=
  .path (.plain (.mk false [.mk (.plain name) (.angle false [.type arg] false)]))

/-- A field by its attributes, its name and its type. -/
def Field.of (attrs : List Attribute) (name : String) (ty : Ty) : Field :=
  ⟨attrs, .inherited, some (.plain name, .nowhere), ty, .nowhere⟩

/-- A struct without parameters. -/
def Item.struct (name : String) (fields : List Field) : Item :=
  ⟨.isPublic, .plain name, .nowhere, ⟨[], []⟩, .ofStruct (.named fields)⟩

/-! ## Making records -/

/-- A struct that records are made of. -/
structure Template where
  item : Item
  /-- The default value of the types of its fields. -/
  ofType : Ty → Value

/-- From which side a builder is started. -/
inductive Route where
  /-- By the builder's own `builder`. -/
  | inherent
  /-- By that of the trait. -/
  | trait
deriving DecidableEq, Repr

namespace Template

variable (t : Template)

/-- How the values of a record's fields are made. Texts are all that is ever converted, and
they convert into themselves. The defaults of records are literals and calls with literals,
which mean the same wherever they stand. -/
def meaning : Meaning Value :=
  ⟨.absent, .present, fun _ v => v, t.ofType, fun _ tokens => .value (.ofTokens tokens)⟩

/-- The defaults of records give values. -/
theorem givesValues (b : Blueprint) : b.GivesValues t.meaning := fun _ _ _ _ => ⟨_, rfl⟩

def start (b : Blueprint) : Route → Except Refusal (Session Value)
  | .inherent => b.start t.meaning
  | .trait => b.startBuildable t.meaning

/-- Calls setters, then `build`. -/
def build? (route : Route) (calls : List (String × Value)) : Option (List (Ident × Value)) := do
  let b ← t.item.blueprint.toOption
  let s ← (do
    let s ← t.start b route
    let s ← b.callAll t.meaning s calls
    b.call t.meaning s "build" none).toOption
  s.struct?

/-- Writes the fields through their pointers in the given order, then takes the storage as it
is. Each write brings the value that is listed first for its field. -/
def buildThroughPointers? (entries : List (String × Value)) : Option (List (Ident × Value)) := do
  let b ← t.item.blueprint.toOption
  let s ← (do
    let s ← t.start b .inherent
    let s ← entries.foldlM (fun s (field, v) =>
      b.writeThrough t.meaning s field ((entries.lookup field).getD v)) s
    b.call t.meaning s "unsafe_build" none).toOption
  s.struct?

end Template

/-! ## Texts of values -/

def decimal (n : Int) : String :=
  if n < 0 then "-" ++ Nat.repr n.natAbs else Nat.repr n.natAbs

namespace Value

/-- The value as a programmer is shown it. -/
def shown : Value → String
  | text s => Text.quoted s
  | number n => decimal n
  | bytes bs => "[" ++ ", ".intercalate (bs.map fun b => Nat.repr b.toNat) ++ "]"
  | absent => "None"
  | present v => "Some(" ++ v.shown ++ ")"

/-- An optional text as a value. -/
def ofOptText : Option String → Value
  | none => absent
  | some s => present (text s)

end Value

/-- A record as a programmer is shown it: its name, and its fields with their values. -/
def shownRecord (name : String) (fields : List (String × Value)) : String :=
  name ++ " \x7b " ++ ", ".intercalate (fields.map fun (f, v) => f ++ ": " ++ v.shown) ++ " \x7d"

end StagedBuilder
