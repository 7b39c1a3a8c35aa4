import StagedBuilder.Item.Ty

/-!
# Spelling out `Self`

`Self` in a type stands for another type. Replacing it is a substitution: every place that
holds a type is visited, inside other types, their arguments and bounds, and inside
expressions, and the type that takes the place of `Self` is not searched again. A path that
merely begins with `Self`, or gives it arguments, is no whole type `Self` and stays; so does
all that is kept as tokens, such as the arguments of a macro.
-/

namespace StagedBuilder

def Ident.self : Ident := .plain "Self"

def Ty.isSelf (t : Ty) : Bool := t.ident? == some .self

mutual

/-- The type with `r` in the place of `Self`. -/
def Ty.replaceSelf (r : Ty) : Ty → Ty
  | .path p => if (Ty.path p).isSelf then r else .path (p.replaceSelf r)
  | .paren inner => .paren (Ty.replaceSelf r inner)
  | .tuple items trailing => .tuple (Ty.replaceSelfAll r items) trailing
  | .slice item => .slice (Ty.replaceSelf r item)
  | .array item length => .array (Ty.replaceSelf r item) (Piece.replaceSelfAll r length)
  | .pointer isMut target => .pointer isMut (Ty.replaceSelf r target)
  | .reference lifetime isMut target => .reference lifetime isMut (Ty.replaceSelf r target)
  | .never => .never
  | .infer => .infer
  | .object isDyn bounds trailing => .object isDyn (Bound.replaceSelfAll r bounds) trailing
  | .existential bounds trailing => .existential (Bound.replaceSelfAll r bounds) trailing
  | .function head inputs trailing variadic output =>
    .function head (FnInput.replaceSelfAll r inputs) trailing variadic (Ty.replaceSelf? r output)
  | .variadic => .variadic
  | .invocation name delim args => .invocation name delim args
  | .verbatim tokens => .verbatim tokens
termination_by structural x => x

def Ty.replaceSelf? (r : Ty) : Option Ty → Option Ty
  | none => none
  | some t => some (Ty.replaceSelf r t)
termination_by structural x => x

def Ty.replaceSelfAll (r : Ty) : List Ty → List Ty
  | [] => []
  | t :: ts => Ty.replaceSelf r t :: Ty.replaceSelfAll r ts
termination_by structural x => x

def QPath.replaceSelf (r : Ty) : QPath → QPath
  | .plain p => .plain (p.replaceSelf r)
  | .within self trait rest =>
    .within (Ty.replaceSelf r self) (Path.replaceSelf? r trait) (Segment.replaceSelfAll r rest)
termination_by structural x => x

def Path.replaceSelf (r : Ty) : Path → Path
  | .mk absolute segments => .mk absolute (Segment.replaceSelfAll r segments)
termination_by structural x => x

def Path.replaceSelf? (r : Ty) : Option Path → Option Path
  | none => none
  | some p => some (p.replaceSelf r)
termination_by structural x => x

def Segment.replaceSelf (r : Ty) : Segment → Segment
  | .mk name args => .mk name (args.replaceSelf r)
termination_by structural x => x

def Segment.replaceSelfAll (r : Ty) : List Segment → List Segment
  | [] => []
  | s :: ss => s.replaceSelf r :: Segment.replaceSelfAll r ss
termination_by structural x => x

def Args.replaceSelf (r : Ty) : Args → Args
  | .none => .none
  | .angle colons args trailing => .angle colons (Arg.replaceSelfAll r args) trailing
  | .call inputs trailing output =>
    .call (Ty.replaceSelfAll r inputs) trailing (Ty.replaceSelf? r output)
termination_by structural x => x

def Arg.replaceSelf (r : Ty) : Arg → Arg
  | .lifetime l => .lifetime l
  | .type t => .type (Ty.replaceSelf r t)
  | .const value => .const (Piece.replaceSelfAll r value)
  | .binding name t => .binding name (Ty.replaceSelf r t)
  | .constraint name bounds trailing => .constraint name (Bound.replaceSelfAll r bounds) trailing
termination_by structural x => x

def Arg.replaceSelfAll (r : Ty) : List Arg → List Arg
  | [] => []
  | a :: as => a.replaceSelf r :: Arg.replaceSelfAll r as
termination_by structural x => x

def Bound.replaceSelf (r : Ty) : Bound → Bound
  | .lifetime l => .lifetime l
  | .trait inParens isConst isMaybe binder path =>
    .trait inParens isConst isMaybe binder (path.replaceSelf r)
termination_by structural x => x

def Bound.replaceSelfAll (r : Ty) : List Bound → List Bound
  | [] => []
  | b :: bs => b.replaceSelf r :: Bound.replaceSelfAll r bs
termination_by structural x => x

def FnInput.replaceSelf (r : Ty) : FnInput → FnInput
  | .mk attrs name t => .mk attrs name (Ty.replaceSelf r t)
termination_by structural x => x

def FnInput.replaceSelfAll (r : Ty) : List FnInput → List FnInput
  | [] => []
  | i :: is => i.replaceSelf r :: FnInput.replaceSelfAll r is
termination_by structural x => x

def Piece.replaceSelf (r : Ty) : Piece → Piece
  | .word text => .word text
  | .group delim inner => .group delim (Piece.replaceSelfAll r inner)
  | .type t => .type (Ty.replaceSelf r t)
  | .path p => .path (p.replaceSelf r)
  | .bound b => .bound (b.replaceSelf r)
  | .binder b => .binder b
  | .lifetime p => .lifetime p
  | .attr isInner a => .attr isInner a
  | .verbatim tokens => .verbatim tokens
termination_by structural x => x

def Piece.replaceSelfAll (r : Ty) : List Piece → List Piece
  | [] => []
  | p :: ps => p.replaceSelf r :: Piece.replaceSelfAll r ps
termination_by structural x => x

end

end StagedBuilder
