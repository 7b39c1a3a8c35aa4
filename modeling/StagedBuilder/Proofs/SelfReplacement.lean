import StagedBuilder.Item.SelfUses

/-!
# What replacing `Self` leaves

Replacing `Self` and gathering its uses walk through a type in the same order, and at each use
one can say what comes of it by the use alone (`SelfUse.spelled`): a whole type gives way to
the uses of the type that takes its place, and a path that only begins with `Self` begins with
it still. So the uses in the result are those of the type, each replaced by what comes of it
(`Ty.selfUses_replaceSelf`). The proof is by the mutual recursion of the two functions, a case
for each form of type, path, argument, bound and piece; the one case with something in it is
that of a path, which the replacement must not turn into a whole `Self` that was none before.
-/

namespace StagedBuilder

/-- What becomes of one use of `Self` when a type takes its place. -/
def SelfUse.spelled (r : Ty) : SelfUse → List SelfUse
  | whole => r.selfUses
  | begun rest => [begun rest]
  | kept => [kept]

/-! ## Replacement leaves paths alone -/

theorem Segment.name_replaceSelf (r : Ty) (s : Segment) : (s.replaceSelf r).name = s.name := by
  cases s
  rfl

theorem Segment.names_replaceSelfAll (r : Ty) (ss : List Segment) :
    (Segment.replaceSelfAll r ss).map Segment.name = ss.map Segment.name := by
  induction ss with
  | nil => rfl
  | cons s ss ih =>
      rw [Segment.replaceSelfAll, List.map_cons, List.map_cons, ih, name_replaceSelf]

theorem Path.begun?_replaceSelf (r : Ty) (p : Path) : (p.replaceSelf r).begun? = p.begun? := by
  match p with
  | .mk absolute [] => rfl
  | .mk absolute (s :: ss) =>
      rw [Path.replaceSelf, Segment.replaceSelfAll, Path.begun?, Path.begun?,
        Segment.name_replaceSelf, Segment.names_replaceSelfAll]

/-- Arguments stay arguments, so a path is a plain name after the replacement just if it was
one. -/
theorem Path.ident?_replaceSelf (r : Ty) (p : Path) : (p.replaceSelf r).ident? = p.ident? := by
  match p with
  | .mk true _ => rfl
  | .mk false [] => rfl
  | .mk false [.mk _ .none] | .mk false [.mk _ (.angle ..)] | .mk false [.mk _ (.call ..)] => rfl
  | .mk false (.mk _ .none :: _ :: _) | .mk false (.mk _ (.angle ..) :: _ :: _)
  | .mk false (.mk _ (.call ..) :: _ :: _) => rfl

theorem Ty.isSelf_replaceSelf (r : Ty) (p : QPath) :
    (Ty.path (p.replaceSelf r)).isSelf = (Ty.path p).isSelf := by
  match p with
  | .within .. => rfl
  | .plain p =>
      show ((p.replaceSelf r).ident? == some .self) = (p.ident? == some .self)
      rw [Path.ident?_replaceSelf]

/-! ## The uses of `Self` -/

/-- A path that is no whole type keeps its beginning. -/
theorem Path.flatMap_begun? (r : Ty) (p : Path) :
    p.begun?.toList.flatMap (SelfUse.spelled r) = p.begun?.toList := by
  match p with
  | .mk _ [] => rfl
  | .mk _ (s :: ss) =>
      rw [Path.begun?]
      split <;> rfl

/-- Tokens that are kept keep what they say. -/
theorem TokenTree.flatMap_keptUses (r : Ty) (tokens : List TokenTree) :
    (keptUses tokens).flatMap (SelfUse.spelled r) = keptUses tokens := by
  rw [keptUses]
  induction selfWordsAll tokens with
  | zero => rfl
  | succ n ih =>
      rw [List.replicate_succ, List.flatMap_cons, ih]
      rfl

mutual

/-- Replacing `Self` turns every whole use into the uses of the type that takes its place, and
keeps every other. -/
theorem Ty.selfUses_replaceSelf (r : Ty) :
    (t : Ty) → (Ty.replaceSelf r t).selfUses = t.selfUses.flatMap (SelfUse.spelled r)
  | .path p => by
      rw [Ty.replaceSelf, Ty.selfUses]
      split
      · simp [SelfUse.spelled]
      · next hp =>
          rw [Ty.selfUses, Ty.isSelf_replaceSelf, if_neg hp]
          exact QPath.selfUses_replaceSelf r p
  | .paren inner => Ty.selfUses_replaceSelf r inner
  | .tuple items _ => Ty.selfUses_replaceSelfAll r items
  | .slice item => Ty.selfUses_replaceSelf r item
  | .array item length => by
      rw [Ty.replaceSelf, Ty.selfUses, Ty.selfUses, List.flatMap_append,
        Ty.selfUses_replaceSelf r item, Piece.selfUses_replaceSelfAll r length]
  | .pointer _ target => Ty.selfUses_replaceSelf r target
  | .reference _ _ target => Ty.selfUses_replaceSelf r target
  | .object _ bounds _ => Bound.selfUses_replaceSelfAll r bounds
  | .existential bounds _ => Bound.selfUses_replaceSelfAll r bounds
  | .function _ inputs _ _ output => by
      rw [Ty.replaceSelf, Ty.selfUses, Ty.selfUses, List.flatMap_append,
        FnInput.selfUses_replaceSelfAll r inputs, Ty.selfUses_replaceSelf? r output]
  | .invocation name _ args => by
      rw [Ty.replaceSelf, Ty.selfUses, List.flatMap_append, Path.flatMap_begun?,
        TokenTree.flatMap_keptUses]
  | .never => rfl
  | .infer => rfl
  | .variadic => rfl
  | .verbatim tokens => (TokenTree.flatMap_keptUses r tokens).symm
termination_by structural t => t

theorem Ty.selfUses_replaceSelf? (r : Ty) :
    (t : Option Ty) →
      Ty.selfUses? (Ty.replaceSelf? r t) = (Ty.selfUses? t).flatMap (SelfUse.spelled r)
  | none => rfl
  | some t => Ty.selfUses_replaceSelf r t
termination_by structural t => t

theorem Ty.selfUses_replaceSelfAll (r : Ty) : (ts : List Ty) →
    Ty.selfUsesAll (Ty.replaceSelfAll r ts) = (Ty.selfUsesAll ts).flatMap (SelfUse.spelled r)
  | [] => rfl
  | t :: ts => by
      rw [Ty.replaceSelfAll, Ty.selfUsesAll, Ty.selfUsesAll, List.flatMap_append,
        Ty.selfUses_replaceSelf r t, Ty.selfUses_replaceSelfAll r ts]
termination_by structural ts => ts

theorem QPath.selfUses_replaceSelf (r : Ty) :
    (p : QPath) → (p.replaceSelf r).selfUses = p.selfUses.flatMap (SelfUse.spelled r)
  | .plain p => Path.selfUses_replaceSelf r p
  | .within self trait rest => by
      rw [QPath.replaceSelf, QPath.selfUses, QPath.selfUses, List.flatMap_append,
        List.flatMap_append, Ty.selfUses_replaceSelf r self, Path.selfUses_replaceSelf? r trait,
        Segment.selfUses_replaceSelfAll r rest]
termination_by structural p => p

theorem Path.selfUses_replaceSelf (r : Ty) :
    (p : Path) → (p.replaceSelf r).selfUses = p.selfUses.flatMap (SelfUse.spelled r)
  | .mk absolute segments => by
      have hbegun := Path.begun?_replaceSelf r (.mk absolute segments)
      rw [Path.replaceSelf] at hbegun ⊢
      rw [Path.selfUses, Path.selfUses, hbegun, List.flatMap_append, Path.flatMap_begun?,
        Segment.selfUses_replaceSelfAll r segments]
termination_by structural p => p

theorem Path.selfUses_replaceSelf? (r : Ty) : (p : Option Path) →
    Path.selfUses? (Path.replaceSelf? r p) = (Path.selfUses? p).flatMap (SelfUse.spelled r)
  | none => rfl
  | some p => Path.selfUses_replaceSelf r p
termination_by structural p => p

theorem Segment.selfUses_replaceSelf (r : Ty) :
    (s : Segment) → (s.replaceSelf r).selfUses = s.selfUses.flatMap (SelfUse.spelled r)
  | .mk _ args => Args.selfUses_replaceSelf r args
termination_by structural s => s

theorem Segment.selfUses_replaceSelfAll (r : Ty) : (ss : List Segment) →
    Segment.selfUsesAll (Segment.replaceSelfAll r ss) =
      (Segment.selfUsesAll ss).flatMap (SelfUse.spelled r)
  | [] => rfl
  | s :: ss => by
      rw [Segment.replaceSelfAll, Segment.selfUsesAll, Segment.selfUsesAll, List.flatMap_append,
        Segment.selfUses_replaceSelf r s, Segment.selfUses_replaceSelfAll r ss]
termination_by structural ss => ss

theorem Args.selfUses_replaceSelf (r : Ty) :
    (a : Args) → (a.replaceSelf r).selfUses = a.selfUses.flatMap (SelfUse.spelled r)
  | .none => rfl
  | .angle _ args _ => Arg.selfUses_replaceSelfAll r args
  | .call inputs _ output => by
      rw [Args.replaceSelf, Args.selfUses, Args.selfUses, List.flatMap_append,
        Ty.selfUses_replaceSelfAll r inputs, Ty.selfUses_replaceSelf? r output]
termination_by structural a => a

theorem Arg.selfUses_replaceSelf (r : Ty) :
    (a : Arg) → (a.replaceSelf r).selfUses = a.selfUses.flatMap (SelfUse.spelled r)
  | .lifetime _ => rfl
  | .type t => Ty.selfUses_replaceSelf r t
  | .const value => Piece.selfUses_replaceSelfAll r value
  | .binding _ t => Ty.selfUses_replaceSelf r t
  | .constraint _ bounds _ => Bound.selfUses_replaceSelfAll r bounds
termination_by structural a => a

theorem Arg.selfUses_replaceSelfAll (r : Ty) : (as : List Arg) →
    Arg.selfUsesAll (Arg.replaceSelfAll r as) = (Arg.selfUsesAll as).flatMap (SelfUse.spelled r)
  | [] => rfl
  | a :: as => by
      rw [Arg.replaceSelfAll, Arg.selfUsesAll, Arg.selfUsesAll, List.flatMap_append,
        Arg.selfUses_replaceSelf r a, Arg.selfUses_replaceSelfAll r as]
termination_by structural as => as

theorem Bound.selfUses_replaceSelf (r : Ty) :
    (b : Bound) → (b.replaceSelf r).selfUses = b.selfUses.flatMap (SelfUse.spelled r)
  | .lifetime _ => rfl
  | .trait _ _ _ _ path => Path.selfUses_replaceSelf r path
termination_by structural b => b

theorem Bound.selfUses_replaceSelfAll (r : Ty) : (bs : List Bound) →
    Bound.selfUsesAll (Bound.replaceSelfAll r bs) =
      (Bound.selfUsesAll bs).flatMap (SelfUse.spelled r)
  | [] => rfl
  | b :: bs => by
      rw [Bound.replaceSelfAll, Bound.selfUsesAll, Bound.selfUsesAll, List.flatMap_append,
        Bound.selfUses_replaceSelf r b, Bound.selfUses_replaceSelfAll r bs]
termination_by structural bs => bs

theorem FnInput.selfUses_replaceSelf (r : Ty) :
    (i : FnInput) → (i.replaceSelf r).selfUses = i.selfUses.flatMap (SelfUse.spelled r)
  | .mk _ _ t => Ty.selfUses_replaceSelf r t
termination_by structural i => i

theorem FnInput.selfUses_replaceSelfAll (r : Ty) : (is : List FnInput) →
    FnInput.selfUsesAll (FnInput.replaceSelfAll r is) =
      (FnInput.selfUsesAll is).flatMap (SelfUse.spelled r)
  | [] => rfl
  | i :: is => by
      rw [FnInput.replaceSelfAll, FnInput.selfUsesAll, FnInput.selfUsesAll, List.flatMap_append,
        FnInput.selfUses_replaceSelf r i, FnInput.selfUses_replaceSelfAll r is]
termination_by structural is => is

theorem Piece.selfUses_replaceSelf (r : Ty) :
    (p : Piece) → (p.replaceSelf r).selfUses = p.selfUses.flatMap (SelfUse.spelled r)
  | .group _ inner => Piece.selfUses_replaceSelfAll r inner
  | .type t => Ty.selfUses_replaceSelf r t
  | .path p => QPath.selfUses_replaceSelf r p
  | .bound b => Bound.selfUses_replaceSelf r b
  | .word _ => rfl
  | .binder _ => rfl
  | .lifetime _ => rfl
  | .attr _ a => (TokenTree.flatMap_keptUses r a.args).symm
  | .verbatim tokens => (TokenTree.flatMap_keptUses r tokens).symm
termination_by structural p => p

theorem Piece.selfUses_replaceSelfAll (r : Ty) : (ps : List Piece) →
    Piece.selfUsesAll (Piece.replaceSelfAll r ps) =
      (Piece.selfUsesAll ps).flatMap (SelfUse.spelled r)
  | [] => rfl
  | p :: ps => by
      rw [Piece.replaceSelfAll, Piece.selfUsesAll, Piece.selfUsesAll, List.flatMap_append,
        Piece.selfUses_replaceSelf r p, Piece.selfUses_replaceSelfAll r ps]
termination_by structural ps => ps

end

/-- In a type that says `Self` nowhere, no use is added: the whole ones are gone, the others
stay. -/
theorem Ty.selfUses_replaceSelf_of_nil {r : Ty} (hr : r.selfUses = []) (t : Ty) :
    (Ty.replaceSelf r t).selfUses = t.selfUses.filter (· ≠ .whole) := by
  rw [Ty.selfUses_replaceSelf]
  generalize t.selfUses = uses
  induction uses with
  | nil => rfl
  | cons u uses ih =>
      rw [List.flatMap_cons, ih]
      cases u with
      | whole =>
          rw [SelfUse.spelled, hr]
          rfl
      | begun rest => rfl
      | kept => rfl

end StagedBuilder
