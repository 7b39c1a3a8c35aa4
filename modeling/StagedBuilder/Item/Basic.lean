import StagedBuilder.Item.Ty

/-!
# Items

The definitions that a builder can be asked for: structs, and the enums and unions that are
refused. Of an item the parts are kept that a builder is made of: visibility, name, parameters,
where clause and fields.
-/

namespace StagedBuilder

/-- Who may see an item or a field. -/
inductive Visibility where
  | inherited
  | isPublic
  /-- The word `crate` alone. -/
  | crate
  /-- What `pub(..)` says, with the path of a module, after `in` or not. -/
  | restricted (hasIn : Bool) (absolute : Bool) (path : List Ident)
deriving DecidableEq, Repr, Inhabited

/-- A field of a struct. A field of a tuple struct has no name. -/
structure Field where
  attrs : List Attribute
  visibility : Visibility
  name : Option (Ident × Span)
  ty : Ty
  /-- From the first to the last token of the field. -/
  span : Span
deriving Inhabited

/-- A parameter of an item. -/
inductive GenericParam where
  | lifetime (param : LifetimeParam)
  | type (attrs : List Attribute) (name : Ident) (bounds : List Bound) (trailing : Bool)
      (default : Option Ty)
  | const (attrs : List Attribute) (name : Ident) (ty : Ty) (default : Option (List Piece))
  /-- A type with a bound that is marked `~const`. All that follows its colon, the default
  included, is kept as tokens. -/
  | unread (attrs : List Attribute) (name : Ident) (bounds : List TokenTree)

instance : Inhabited GenericParam := ⟨.type [] default [] false none⟩

namespace GenericParam

def argument : GenericParam → String
  | lifetime p => "'" ++ p.lifetime.name.text
  | type _ name .. | const _ name .. | unread _ name _ => name.text

def arg : GenericParam → Arg
  | lifetime p => .lifetime p.lifetime
  | type _ name .. | const _ name .. | unread _ name _ => .type (.ofIdent name)

def isLifetime : GenericParam → Bool
  | lifetime _ => true
  | _ => false

/-- The parameter without its default. Bounds that are not told from a default are lost with
it. -/
def withoutDefault : GenericParam → GenericParam
  | lifetime p => lifetime p
  | type attrs name bounds trailing _ => type attrs name bounds trailing none
  | const attrs name ty _ => const attrs name ty none
  | unread attrs name _ => type attrs name [] false none

end GenericParam

inductive WherePredicate where
  | lifetime (l : Lifetime) (bounds : List Lifetime) (trailing : Bool)
  | type (binder : Option Binder) (t : Ty) (bounds : List Bound) (trailing : Bool)

instance : Inhabited WherePredicate := ⟨.type none default [] false⟩

/-- The parameters of an item and the conditions on them. -/
structure Generics where
  params : List GenericParam
  predicates : List WherePredicate
deriving Inhabited

/-- The form of a struct's body. -/
inductive Fields where
  | named (fields : List Field)
  | unnamed (fields : List Field)
  | unit
deriving Inhabited

namespace Fields

def toList : Fields → List Field
  | named fs | unnamed fs => fs
  | unit => []

end Fields

/-- What an item defines. Enums and unions are known by the place of their keyword. -/
inductive ItemBody where
  | ofStruct (fields : Fields)
  | ofEnum (keyword : Span)
  | ofUnion (keyword : Span)
deriving Inhabited

/-- A struct, an enum or a union. -/
structure Item where
  visibility : Visibility
  name : Ident
  nameSpan : Span
  generics : Generics
  body : ItemBody
deriving Inhabited

end StagedBuilder
