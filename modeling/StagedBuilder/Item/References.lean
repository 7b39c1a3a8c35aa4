import StagedBuilder.Item.Basic

/-!
# What a type refers to

A path that does not begin with `::` is looked up by its first name, in the scope where it
stands. These are the names by which a type depends on its surroundings: where something else
has one of them, the type means something else. They are gathered from every path inside a
type, its arguments and bounds, and the expressions that it holds. What is kept as tokens tells
no names, and `Self` is a name like any other.
-/

namespace StagedBuilder

/-- The name that the path is looked up by where it stands. -/
def Path.head? : Path → Option String
  | .mk false (s :: _) => some s.name.name
  | .mk _ _ => none

mutual

/-- The names by which the paths in a type are looked up. -/
def Ty.heads : Ty → List String
  | .path p => p.heads
  | .paren inner => Ty.heads inner
  | .tuple items _ => Ty.headsAll items
  | .slice item => Ty.heads item
  | .array item length => Ty.heads item ++ Piece.headsAll length
  | .pointer _ target => Ty.heads target
  | .reference _ _ target => Ty.heads target
  | .object _ bounds _ => Bound.headsAll bounds
  | .existential bounds _ => Bound.headsAll bounds
  | .function _ inputs _ _ output => FnInput.headsAll inputs ++ Ty.heads? output
  | .invocation name _ _ => name.heads
  | .never => []
  | .infer => []
  | .variadic => []
  | .verbatim _ => []
termination_by structural x => x

def Ty.heads? : Option Ty → List String
  | none => []
  | some t => Ty.heads t
termination_by structural x => x

def Ty.headsAll : List Ty → List String
  | [] => []
  | t :: ts => Ty.heads t ++ Ty.headsAll ts
termination_by structural x => x

def QPath.heads : QPath → List String
  | .plain p => p.heads
  | .within self trait rest => Ty.heads self ++ Path.heads? trait ++ Segment.headsAll rest
termination_by structural x => x

def Path.heads : Path → List String
  | .mk absolute segments =>
    (Path.head? (.mk absolute segments)).toList ++ Segment.headsAll segments
termination_by structural x => x

def Path.heads? : Option Path → List String
  | none => []
  | some p => p.heads
termination_by structural x => x

/-- The names in the arguments of a segment. Its own name is the path's affair. -/
def Segment.heads : Segment → List String
  | .mk _ args => args.heads
termination_by structural x => x

def Segment.headsAll : List Segment → List String
  | [] => []
  | s :: ss => s.heads ++ Segment.headsAll ss
termination_by structural x => x

def Args.heads : Args → List String
  | .none => []
  | .angle _ args _ => Arg.headsAll args
  | .call inputs _ output => Ty.headsAll inputs ++ Ty.heads? output
termination_by structural x => x

def Arg.heads : Arg → List String
  | .lifetime _ => []
  | .type t => Ty.heads t
  | .const value => Piece.headsAll value
  | .binding _ t => Ty.heads t
  | .constraint _ bounds _ => Bound.headsAll bounds
termination_by structural x => x

def Arg.headsAll : List Arg → List String
  | [] => []
  | a :: as => a.heads ++ Arg.headsAll as
termination_by structural x => x

def Bound.heads : Bound → List String
  | .lifetime _ => []
  | .trait _ _ _ _ path => path.heads
termination_by structural x => x

def Bound.headsAll : List Bound → List String
  | [] => []
  | b :: bs => b.heads ++ Bound.headsAll bs
termination_by structural x => x

def FnInput.heads : FnInput → List String
  | .mk _ _ t => Ty.heads t
termination_by structural x => x

def FnInput.headsAll : List FnInput → List String
  | [] => []
  | i :: is => i.heads ++ FnInput.headsAll is
termination_by structural x => x

def Piece.heads : Piece → List String
  | .group _ inner => Piece.headsAll inner
  | .type t => Ty.heads t
  | .path p => p.heads
  | .bound b => b.heads
  | .word _ => []
  | .binder _ => []
  | .lifetime _ => []
  | .attr _ _ => []
  | .verbatim _ => []
termination_by structural x => x

def Piece.headsAll : List Piece → List String
  | [] => []
  | p :: ps => p.heads ++ Piece.headsAll ps
termination_by structural x => x

end

namespace GenericParam

/-- The names that a path can find the parameter by. Paths do not lead to lifetimes. -/
def declares : GenericParam → List String
  | lifetime _ => []
  | type _ name .. | const _ name .. | unread _ name _ => [name.name]

def heads : GenericParam → List String
  | lifetime _ => []
  | type _ _ bounds _ default => Bound.headsAll bounds ++ Ty.heads? default
  | const _ _ ty default => ty.heads ++ (default.map Piece.headsAll).getD []
  | unread _ _ _ => []

end GenericParam

namespace WherePredicate

def heads : WherePredicate → List String
  | lifetime _ _ _ => []
  | type _ t bounds _ => t.heads ++ Bound.headsAll bounds

end WherePredicate

/-! ## Parts of types -/

theorem Segment.heads_subset {s : Segment} {ss : List Segment} (h : s ∈ ss) :
    s.heads ⊆ Segment.headsAll ss := by
  induction ss with
  | nil => cases h
  | cons s' ss ih =>
      rw [Segment.headsAll]
      rcases List.mem_cons.mp h with rfl | h
      · exact List.subset_append_left _ _
      · exact List.Subset.trans (ih h) (List.subset_append_right _ _)

/-- An argument in one of the segments of a path refers to nothing that the path does not. -/
theorem Path.heads_subset {absolute : Bool} {s : Segment} {ss : List Segment} (h : s ∈ ss) :
    s.heads ⊆ (Path.mk absolute ss).heads := by
  rw [Path.heads]
  exact List.Subset.trans (Segment.heads_subset h) (List.subset_append_right _ _)

end StagedBuilder
