import StagedBuilder.Token.Basic

/-!
# Types

Types as they are written in a struct's fields, in the bounds of its parameters and in its where
clause. Everything that was written is kept, parentheses and trailing separators included.

Types can hold expressions: the length of an array, a constant argument. An expression is kept
as the sequence of its parts, and so are the statements and items that its blocks hold. Which
operator binds which operands does not matter here; what matters is where types are named.
-/

namespace StagedBuilder

/-- A lifetime, by its name without the quote. -/
structure Lifetime where
  name : Ident
deriving DecidableEq, Repr, Inhabited

/-- An attribute: its path, which may begin with `::`, and all tokens after the path. -/
structure Attribute where
  absolute : Bool
  path : List Ident
  args : List TokenTree
  span : Span
deriving Repr, Inhabited

/-- A lifetime parameter with its bounds. -/
structure LifetimeParam where
  attrs : List Attribute
  lifetime : Lifetime
  bounds : List Lifetime
  trailing : Bool
deriving Repr, Inhabited

/-- The lifetimes that `for<..>` binds. -/
structure Binder where
  params : List LifetimeParam
  trailing : Bool
deriving Repr, Inhabited

/-- What stands before the parameters of a function type. The binary interface is named after
`extern`, or left to the default. -/
structure FnHead where
  binder : Option Binder
  isUnsafe : Bool
  abi : Option (Option String)
deriving Repr, Inhabited

mutual

inductive Ty where
  /-- A named type: `u8`, `Vec<T>`, `<T as Trait>::Item`. -/
  | path (p : QPath)
  /-- A type in parentheses. -/
  | paren (inner : Ty)
  | tuple (items : List Ty) (trailing : Bool)
  | slice (item : Ty)
  | array (item : Ty) (length : List Piece)
  /-- A raw pointer: `*const T` or `*mut T`. -/
  | pointer (isMut : Bool) (target : Ty)
  | reference (lifetime : Option Lifetime) (isMut : Bool) (target : Ty)
  /-- The type without values, `!`. -/
  | never
  /-- A type to be found out, `_`. -/
  | infer
  /-- A trait object: `dyn A + B`, or the same without `dyn`. -/
  | object (isDyn : Bool) (bounds : List Bound) (trailing : Bool)
  /-- A type that is only known to satisfy bounds: `impl A + B`. -/
  | existential (bounds : List Bound) (trailing : Bool)
  /-- A function type; `variadic` are the attributes of `...`, if that ends the parameters. -/
  | function (head : FnHead) (inputs : List FnInput) (trailing : Bool)
      (variadic : Option (List Attribute)) (output : Option Ty)
  /-- The `...` behind the name of a function type's parameter, which stands for many types. -/
  | variadic
  /-- A call of a macro, whose arguments are not read. -/
  | invocation (name : Path) (delim : Delim) (args : List TokenTree)
  /-- Tokens in the place of a type that are not read any further. -/
  | verbatim (tokens : List TokenTree)

/-- A path that may begin at a type: `a::b::C<T>`, or `<T as a::Trait>::Item`. -/
inductive QPath where
  | plain (p : Path)
  | within (self : Ty) (trait : Option Path) (rest : List Segment)

/-- A path; an absolute one begins with `::`. -/
inductive Path where
  | mk (absolute : Bool) (segments : List Segment)

/-- A name in a path, with its arguments. -/
inductive Segment where
  | mk (name : Ident) (args : Args)

/-- The arguments after a name in a path. -/
inductive Args where
  | none
  /-- Between angle brackets: `<A, B>`, with `::` before it or not. -/
  | angle (colons : Bool) (args : List Arg) (trailing : Bool)
  /-- In round brackets: `(A, B) -> C`. -/
  | call (inputs : List Ty) (trailing : Bool) (output : Option Ty)

/-- An argument between angle brackets. -/
inductive Arg where
  | lifetime (l : Lifetime)
  | type (t : Ty)
  /-- A constant: a literal or a block. -/
  | const (value : List Piece)
  /-- What an associated type is: `Item = T`. -/
  | binding (name : Ident) (t : Ty)
  /-- What an associated type satisfies: `Item: A + B`. -/
  | constraint (name : Ident) (bounds : List Bound) (trailing : Bool)

/-- A bound on a type. -/
inductive Bound where
  | lifetime (l : Lifetime)
  /-- A trait, perhaps in parentheses, perhaps with `~const` or `?` before it. -/
  | trait (inParens : Bool) (isConst : Bool) (isMaybe : Bool) (binder : Option Binder) (path : Path)

/-- A parameter of a function type. -/
inductive FnInput where
  | mk (attrs : List Attribute) (name : Option Ident) (t : Ty)

/-- A part of an expression, or of a statement or an item inside one. -/
inductive Piece where
  /-- A name, a keyword, a literal or an operator. -/
  | word (text : String)
  /-- Parts between delimiters. -/
  | group (delim : Delim) (inner : List Piece)
  /-- A type, as after `as` or in `let x: T`. -/
  | type (t : Ty)
  /-- A path that names a value. -/
  | path (p : QPath)
  /-- A bound, as on a parameter of a function. -/
  | bound (b : Bound)
  /-- The lifetimes that the condition behind them is about. -/
  | binder (b : Binder)
  /-- A lifetime parameter. -/
  | lifetime (p : LifetimeParam)
  /-- An attribute. An inner one is about what it stands in. -/
  | attr (isInner : Bool) (a : Attribute)
  /-- Tokens that are not read any further: the arguments of a macro, or a whole construct. -/
  | verbatim (tokens : List TokenTree)

end

instance : Inhabited Ty := ⟨.infer⟩
instance : Inhabited Path := ⟨.mk false []⟩

namespace Path

def segments : Path → List Segment
  | mk _ ss => ss

/-- The path of one plain name. -/
def ofIdent (name : Ident) : Path := mk false [.mk name .none]

/-- The name, if the path is nothing but a name. -/
def ident? : Path → Option Ident
  | mk false [.mk name .none] => some name
  | _ => none

end Path

namespace Segment

def name : Segment → Ident
  | mk n _ => n

def args : Segment → Args
  | mk _ a => a

end Segment

namespace Ty

/-- The type of one plain name. -/
def ofIdent (name : Ident) : Ty := path (.plain (.ofIdent name))

/-- The path, if the type is a path that does not begin at a type. -/
def path? : Ty → Option Path
  | path (.plain p) => some p
  | _ => none

/-- The name, if the type is nothing but a name. -/
def ident? (t : Ty) : Option Ident := t.path?.bind Path.ident?

end Ty

end StagedBuilder
