import StagedBuilder.Item.Basic
import StagedBuilder.Separated

/-!
# Items in parts

A block can hold items, and then what makes up an item is part of an expression: its
attributes, its visibility, its parameters and the conditions on them, its fields. Here each of
them is taken apart into pieces, in which the types it names can be found. Parameters are the
only ones to change places: lifetimes come first.
-/

namespace StagedBuilder

namespace Piece

/-- Parts with a separator between them, and after the last one if `trailing` says so. -/
def joined (separator : String) (trailing : Bool) : List (List Piece) → List Piece
  | [] => []
  | [p] => p ++ if trailing then [.word separator] else []
  | p :: q :: ps => p ++ .word separator :: joined separator trailing (q :: ps)

def commas (parts : Separated (List Piece)) : List Piece := joined "," parts.trailing parts.items

def sum (bounds : Separated Bound) : List Piece :=
  joined "+" bounds.trailing (bounds.items.map fun b => [.bound b])

def bounds (bounds : Separated Bound) : List Piece :=
  if bounds.items.isEmpty then [] else .word ":" :: sum bounds

/-- A type behind `=`, if there is one. -/
def equals : Option Ty → List Piece
  | none => []
  | some t => [.word "=", .type t]

/-- Attributes of what stands behind them. -/
def outer (attrs : List Attribute) : List Piece := attrs.map (.attr false)

/-- Attributes of what they stand in. -/
def inner (attrs : List Attribute) : List Piece := attrs.map (.attr true)

/-- The separator `::`, if it is there. -/
def colons (isThere : Bool) : List Piece := if isThere then [.word "::"] else []

def names (absolute : Bool) (path : List Ident) : List Piece :=
  colons absolute ++ joined "::" false (path.map fun i => [.word i.text])

end Piece

def Visibility.pieces : Visibility → List Piece
  | inherited => []
  | isPublic => [.word "pub"]
  | crate => [.word "crate"]
  | restricted hasIn absolute path =>
    [.word "pub",
      .group .paren ((if hasIn then [.word "in"] else []) ++ Piece.names absolute path)]

/-- The parameter where it is bound. A colon without bounds is left out. -/
def GenericParam.pieces : GenericParam → List Piece
  | lifetime p => [.lifetime p]
  | type attrs name bounds trailing default =>
    Piece.outer attrs ++
      .word name.text :: (Piece.bounds ⟨bounds, trailing⟩ ++ Piece.equals default)
  | const attrs name ty default =>
    Piece.outer attrs ++ [.word "const", .word name.text, .word ":", .type ty] ++
      (match default with
       | none => []
       | some value => .word "=" :: value)
  | unread attrs name bounds =>
    Piece.outer attrs ++ [.word name.text, .word ":", .verbatim bounds]

/-- The condition. Its colon stays even without bounds. -/
def WherePredicate.pieces : WherePredicate → List Piece
  | lifetime l bounds trailing =>
    [.word ("'" ++ l.name.text), .word ":"] ++
      Piece.sum ⟨bounds.map Bound.lifetime, trailing⟩
  | type binder t bounds trailing =>
    (binder.map Piece.binder).toList ++ [.type t, .word ":"] ++ Piece.sum ⟨bounds, trailing⟩

def Field.pieces (f : Field) : List Piece :=
  Piece.outer f.attrs ++ f.visibility.pieces ++
    (match f.name with
     | none => []
     | some (name, _) => [.word name.text, .word ":"]) ++
    [.type f.ty]

namespace Piece

/-- Parameters between angle brackets, lifetimes first. An empty list is left out. -/
def params (params : Separated GenericParam) : List Piece :=
  if params.items.isEmpty then []
  else .word "<" :: commas ((params.leading GenericParam.isLifetime).map GenericParam.pieces) ++
    [.word ">"]

/-- A where clause. An empty one is left out. -/
def conditions (predicates : Separated WherePredicate) : List Piece :=
  if predicates.items.isEmpty then []
  else .word "where" :: commas (predicates.map WherePredicate.pieces)

/-- The fields of a struct or a variant between their delimiters. -/
def fields (delim : Delim) (fs : Separated Field) : List Piece :=
  [.group delim (commas (fs.map Field.pieces))]

end Piece

end StagedBuilder
