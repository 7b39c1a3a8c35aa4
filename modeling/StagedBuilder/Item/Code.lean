import StagedBuilder.Item.Ty
import StagedBuilder.Token.Code
import StagedBuilder.Separated

/-!
# Types as code

Types are written back as they were read. Operators are single words here, since they were read
as operators. Only the arguments between angle brackets change places: lifetimes come first,
and all others follow in the order they were written in.
-/

namespace StagedBuilder

open Code

def Ident.code (i : Ident) : Code := [.word i.text]

def Lifetime.text (l : Lifetime) : String := "'" ++ l.name.text

def Lifetime.code (l : Lifetime) : Code := [.word l.text]

/-- The separator `::`, if it is there. -/
def Code.colons (isThere : Bool) : Code := if isThere then [.word "::"] else []

namespace Attribute

def pathCode (a : Attribute) : Code :=
  Code.colons a.absolute ++ interspersed "::" (a.path.map Ident.code) false

/-- The attribute, its arguments unread. An inner one has a mark that says so. -/
def codeAs (isInner : Bool) (a : Attribute) : Code :=
  .word "#" :: ((if isInner then [.word "!"] else []) ++
    brackets (a.pathCode ++ TokenTree.codeAll a.args))

def code (a : Attribute) : Code := a.codeAs false

end Attribute

namespace LifetimeParam

/-- A lifetime parameter. A colon without bounds is left out. -/
def code (p : LifetimeParam) : Code :=
  p.attrs.flatMap Attribute.code ++ p.lifetime.code ++
    (if p.bounds.isEmpty then []
     else .word ":" :: interspersed "+" (p.bounds.map Lifetime.code) p.trailing)

end LifetimeParam

namespace Binder

def code (b : Binder) : Code :=
  .word "for" :: angles (interspersed "," (b.params.map LifetimeParam.code) b.trailing)

end Binder

namespace FnHead

/-- All that stands before the parameters. -/
def code (h : FnHead) : Code :=
  (h.binder.map Binder.code).getD [] ++
    (if h.isUnsafe then [.word "unsafe"] else []) ++
    (match h.abi with
     | none => []
     | some none => [.word "extern"]
     | some (some name) => [.word "extern", .word name]) ++
    [.word "fn"]

end FnHead

/-- Whether an argument is a lifetime, which is written before all that are not. -/
def Arg.isLifetime : Arg → Bool
  | .lifetime _ => true
  | _ => false

/-- Arguments between angle brackets, those marked as lifetimes first. -/
def Code.arguments (args : Separated (Bool × Code)) : Code :=
  let ordered := args.leading Prod.fst
  interspersed "," (ordered.items.map Prod.snd) ordered.trailing

mutual

/-- A type as it was written. -/
def Ty.code : Ty → Code
  | .path p => p.code
  | .paren inner => parens inner.code
  | .tuple items trailing => parens (interspersed "," (Ty.codes items) trailing)
  | .slice item => brackets item.code
  | .array item length => brackets (item.code ++ .word ";" :: Piece.codeAll length)
  | .pointer isMut target => .word "*" :: .word (if isMut then "mut" else "const") :: target.code
  | .reference lifetime isMut target =>
    .word "&" :: ((lifetime.map Lifetime.code).getD [] ++
      (if isMut then [.word "mut"] else []) ++ target.code)
  | .never => [.word "!"]
  | .infer => [.word "_"]
  | .object isDyn bounds trailing =>
    (if isDyn then [.word "dyn"] else []) ++ interspersed "+" (Bound.codes bounds) trailing
  | .existential bounds trailing => .word "impl" :: interspersed "+" (Bound.codes bounds) trailing
  | .function head inputs trailing variadic output =>
    let dots := match variadic with
      | none => []
      | some attrs => attrs.flatMap Attribute.code ++ [.word "..."]
    head.code ++ parens (interspersed "," (FnInput.codes inputs) trailing ++ dots) ++
      Ty.outputCode output
  | .variadic => [.word "..."]
  | .invocation name delim args =>
    name.code ++ [.word "!", .group delim (TokenTree.codeAll args)]
  | .verbatim tokens => TokenTree.codeAll tokens

/-- The result type after its arrow, if there is one. -/
def Ty.outputCode : Option Ty → Code
  | none => []
  | some t => .word "->" :: t.code

def Ty.codes : List Ty → List Code
  | [] => []
  | t :: ts => t.code :: Ty.codes ts

def QPath.code : QPath → Code
  | .plain p => p.code
  | .within self trait rest =>
    .word "<" :: self.code ++ Path.traitCode trait ++ [.word ">", .word "::"] ++
      interspersed "::" (Segment.codes rest) false

/-- The trait after `as`, if there is one. -/
def Path.traitCode : Option Path → Code
  | none => []
  | some p => .word "as" :: p.code

def Path.code : Path → Code
  | .mk absolute segments =>
    Code.colons absolute ++ interspersed "::" (Segment.codes segments) false

def Segment.code : Segment → Code
  | .mk name args => name.code ++ args.code

def Segment.codes : List Segment → List Code
  | [] => []
  | s :: ss => s.code :: Segment.codes ss

def Args.code : Args → Code
  | .none => []
  | .angle colons args trailing =>
    Code.colons colons ++ angles (Code.arguments ⟨Arg.codes args, trailing⟩)
  | .call inputs trailing output =>
    parens (interspersed "," (Ty.codes inputs) trailing) ++ Ty.outputCode output

def Arg.code : Arg → Code
  | .lifetime l => l.code
  | .type t => t.code
  | .const value => Piece.codeAll value
  | .binding name t => name.code ++ .word "=" :: t.code
  | .constraint name bounds trailing =>
    name.code ++ .word ":" :: interspersed "+" (Bound.codes bounds) trailing

def Arg.codes : List Arg → List (Bool × Code)
  | [] => []
  | a :: as => (a.isLifetime, a.code) :: Arg.codes as

def Bound.code : Bound → Code
  | .lifetime l => l.code
  | .trait inParens isConst isMaybe binder path =>
    let inner := (if isConst then [.word "~", .word "const"] else []) ++
      (if isMaybe then [.word "?"] else []) ++ (binder.map Binder.code).getD [] ++ path.code
    if inParens then parens inner else inner

def Bound.codes : List Bound → List Code
  | [] => []
  | b :: bs => b.code :: Bound.codes bs

def FnInput.code : FnInput → Code
  | .mk attrs name t =>
    attrs.flatMap Attribute.code ++
      (match name with
       | none => []
       | some i => i.code ++ [.word ":"]) ++ t.code

def FnInput.codes : List FnInput → List Code
  | [] => []
  | i :: is => i.code :: FnInput.codes is

def Piece.code : Piece → Code
  | .word text => [.word text]
  | .group delim inner => [.group delim (Piece.codeAll inner)]
  | .type t => t.code
  | .path p => p.code
  | .bound b => b.code
  | .binder b => b.code
  | .lifetime p => p.code
  | .attr isInner a => a.codeAs isInner
  | .verbatim tokens => TokenTree.codeAll tokens

def Piece.codeAll : List Piece → Code
  | [] => []
  | p :: ps => p.code ++ Piece.codeAll ps

end

end StagedBuilder
