import StagedBuilder.Item.Substitution

/-!
# Where a type says `Self`

A path says `Self` if that is its first name. As a whole type it stands for a type. Any other
such path only begins there, with an associated constant or type to follow, with arguments, or
because it names a value. All of them are gathered, from other types, their arguments and
bounds, and the expressions inside them, in the order in which they are written.

Some tokens are kept without being read: what a macro or an attribute is given, and constructs
of which only the extent is known. They are searched for the word, wherever it stands among
them.
-/

namespace StagedBuilder

/-- One place where a type says `Self`. -/
inductive SelfUse where
  /-- A type that is `Self` and nothing else. -/
  | whole
  /-- A path that begins with `Self`, by the names that follow. -/
  | begun (rest : List Ident)
  /-- The word among tokens that are kept as they are. -/
  | kept
deriving DecidableEq, Repr

namespace TokenTree

mutual

/-- How often the word stands in a token. -/
def selfWords : TokenTree → Nat
  | ident name _ => if name = .self then 1 else 0
  | group _ inner _ => selfWordsAll inner
  | lifetime .. | literal .. | punct .. => 0

def selfWordsAll : List TokenTree → Nat
  | [] => 0
  | t :: ts => t.selfWords + selfWordsAll ts

end

/-- The uses in tokens that are kept. -/
def keptUses (tokens : List TokenTree) : List SelfUse := .replicate (selfWordsAll tokens) .kept

end TokenTree

/-- How the path says `Self` itself, if it is no whole type. -/
def Path.begun? : Path → Option SelfUse
  | .mk _ [] => none
  | .mk _ (s :: ss) => if s.name = .self then some (.begun (ss.map Segment.name)) else none

mutual

def Ty.selfUses : Ty → List SelfUse
  | .path p => if (Ty.path p).isSelf then [.whole] else p.selfUses
  | .paren inner => Ty.selfUses inner
  | .tuple items _ => Ty.selfUsesAll items
  | .slice item => Ty.selfUses item
  | .array item length => Ty.selfUses item ++ Piece.selfUsesAll length
  | .pointer _ target => Ty.selfUses target
  | .reference _ _ target => Ty.selfUses target
  | .object _ bounds _ => Bound.selfUsesAll bounds
  | .existential bounds _ => Bound.selfUsesAll bounds
  | .function _ inputs _ _ output => FnInput.selfUsesAll inputs ++ Ty.selfUses? output
  -- The name of a macro is never replaced, nor is what it is given.
  | .invocation name _ args => name.begun?.toList ++ TokenTree.keptUses args
  | .never => []
  | .infer => []
  | .variadic => []
  | .verbatim tokens => TokenTree.keptUses tokens
termination_by structural x => x

def Ty.selfUses? : Option Ty → List SelfUse
  | none => []
  | some t => Ty.selfUses t
termination_by structural x => x

def Ty.selfUsesAll : List Ty → List SelfUse
  | [] => []
  | t :: ts => Ty.selfUses t ++ Ty.selfUsesAll ts
termination_by structural x => x

def QPath.selfUses : QPath → List SelfUse
  | .plain p => p.selfUses
  | .within self trait rest =>
    Ty.selfUses self ++ Path.selfUses? trait ++ Segment.selfUsesAll rest
termination_by structural x => x

def Path.selfUses : Path → List SelfUse
  | .mk absolute segments =>
    (Path.begun? (.mk absolute segments)).toList ++ Segment.selfUsesAll segments
termination_by structural x => x

def Path.selfUses? : Option Path → List SelfUse
  | none => []
  | some p => p.selfUses
termination_by structural x => x

/-- What the arguments of a segment say. Its own name is the path's affair. -/
def Segment.selfUses : Segment → List SelfUse
  | .mk _ args => args.selfUses
termination_by structural x => x

def Segment.selfUsesAll : List Segment → List SelfUse
  | [] => []
  | s :: ss => s.selfUses ++ Segment.selfUsesAll ss
termination_by structural x => x

def Args.selfUses : Args → List SelfUse
  | .none => []
  | .angle _ args _ => Arg.selfUsesAll args
  | .call inputs _ output => Ty.selfUsesAll inputs ++ Ty.selfUses? output
termination_by structural x => x

def Arg.selfUses : Arg → List SelfUse
  | .lifetime _ => []
  | .type t => Ty.selfUses t
  | .const value => Piece.selfUsesAll value
  | .binding _ t => Ty.selfUses t
  | .constraint _ bounds _ => Bound.selfUsesAll bounds
termination_by structural x => x

def Arg.selfUsesAll : List Arg → List SelfUse
  | [] => []
  | a :: as => a.selfUses ++ Arg.selfUsesAll as
termination_by structural x => x

def Bound.selfUses : Bound → List SelfUse
  | .lifetime _ => []
  | .trait _ _ _ _ path => path.selfUses
termination_by structural x => x

def Bound.selfUsesAll : List Bound → List SelfUse
  | [] => []
  | b :: bs => b.selfUses ++ Bound.selfUsesAll bs
termination_by structural x => x

def FnInput.selfUses : FnInput → List SelfUse
  | .mk _ _ t => Ty.selfUses t
termination_by structural x => x

def FnInput.selfUsesAll : List FnInput → List SelfUse
  | [] => []
  | i :: is => i.selfUses ++ FnInput.selfUsesAll is
termination_by structural x => x

def Piece.selfUses : Piece → List SelfUse
  | .group _ inner => Piece.selfUsesAll inner
  | .type t => Ty.selfUses t
  | .path p => p.selfUses
  | .bound b => b.selfUses
  | .word _ => []
  | .binder _ => []
  | .lifetime _ => []
  | .attr _ a => TokenTree.keptUses a.args
  | .verbatim tokens => TokenTree.keptUses tokens
termination_by structural x => x

def Piece.selfUsesAll : List Piece → List SelfUse
  | [] => []
  | p :: ps => p.selfUses ++ Piece.selfUsesAll ps
termination_by structural x => x

end

end StagedBuilder
