import StagedBuilder.Proofs.CopiedTypes
import StagedBuilder.Item.Code

/-!
# Spelling out `Self` is a substitution

`Self` is a variable of types, and replacing it obeys the law of substitution: to replace it by
one type and then by another is to replace it by the first in which it was replaced by the
second (`Ty.replaceSelf_replaceSelf`). What holds the law together is that a replacement makes
no new `Self` but those of the type that it puts in: a path that was none before is none after
(`Ty.isSelf_replaceSelf`), so the second pass stops at the places where the first one did.

A type in which nothing would be replaced is left as it is (`Ty.replaceSelf_of_not_mem`). Both
statements are proved along the recursion of the replacement itself, with one case for each
form of type, path, argument, bound and piece.
-/

namespace StagedBuilder

mutual

theorem Ty.replaceSelf_replaceSelf (r s : Ty) : (t : Ty) →
    Ty.replaceSelf s (Ty.replaceSelf r t) = Ty.replaceSelf (Ty.replaceSelf s r) t
  | .path p => by
      rw [Ty.replaceSelf, Ty.replaceSelf]
      split
      · rfl
      · next hp =>
          rw [Ty.replaceSelf, Ty.isSelf_replaceSelf, if_neg hp, QPath.replaceSelf_replaceSelf r s p]
  | .paren inner => by simp only [Ty.replaceSelf, Ty.replaceSelf_replaceSelf r s inner]
  | .tuple items _ => by simp only [Ty.replaceSelf, Ty.replaceSelfAll_replaceSelfAll r s items]
  | .slice item => by simp only [Ty.replaceSelf, Ty.replaceSelf_replaceSelf r s item]
  | .array item length => by
      simp only [Ty.replaceSelf, Ty.replaceSelf_replaceSelf r s item,
        Piece.replaceSelfAll_replaceSelfAll r s length]
  | .pointer _ target => by simp only [Ty.replaceSelf, Ty.replaceSelf_replaceSelf r s target]
  | .reference _ _ target => by simp only [Ty.replaceSelf, Ty.replaceSelf_replaceSelf r s target]
  | .object _ bounds _ => by
      simp only [Ty.replaceSelf, Bound.replaceSelfAll_replaceSelfAll r s bounds]
  | .existential bounds _ => by
      simp only [Ty.replaceSelf, Bound.replaceSelfAll_replaceSelfAll r s bounds]
  | .function _ inputs _ _ output => by
      simp only [Ty.replaceSelf, FnInput.replaceSelfAll_replaceSelfAll r s inputs,
        Ty.replaceSelf?_replaceSelf? r s output]
  | .never => rfl
  | .infer => rfl
  | .variadic => rfl
  | .invocation _ _ _ => rfl
  | .verbatim _ => rfl
termination_by structural t => t

theorem Ty.replaceSelf?_replaceSelf? (r s : Ty) : (t : Option Ty) →
    Ty.replaceSelf? s (Ty.replaceSelf? r t) = Ty.replaceSelf? (Ty.replaceSelf s r) t
  | none => rfl
  | some t => by simp only [Ty.replaceSelf?, Ty.replaceSelf_replaceSelf r s t]
termination_by structural t => t

theorem Ty.replaceSelfAll_replaceSelfAll (r s : Ty) : (ts : List Ty) →
    Ty.replaceSelfAll s (Ty.replaceSelfAll r ts) = Ty.replaceSelfAll (Ty.replaceSelf s r) ts
  | [] => rfl
  | t :: ts => by
      simp only [Ty.replaceSelfAll, Ty.replaceSelf_replaceSelf r s t,
        Ty.replaceSelfAll_replaceSelfAll r s ts]
termination_by structural ts => ts

theorem QPath.replaceSelf_replaceSelf (r s : Ty) : (p : QPath) →
    (p.replaceSelf r).replaceSelf s = p.replaceSelf (Ty.replaceSelf s r)
  | .plain p => by simp only [QPath.replaceSelf, Path.replaceSelf_replaceSelf r s p]
  | .within self trait rest => by
      simp only [QPath.replaceSelf, Ty.replaceSelf_replaceSelf r s self,
        Path.replaceSelf?_replaceSelf? r s trait, Segment.replaceSelfAll_replaceSelfAll r s rest]
termination_by structural p => p

theorem Path.replaceSelf_replaceSelf (r s : Ty) : (p : Path) →
    (p.replaceSelf r).replaceSelf s = p.replaceSelf (Ty.replaceSelf s r)
  | .mk _ segments => by
      simp only [Path.replaceSelf, Segment.replaceSelfAll_replaceSelfAll r s segments]
termination_by structural p => p

theorem Path.replaceSelf?_replaceSelf? (r s : Ty) : (p : Option Path) →
    Path.replaceSelf? s (Path.replaceSelf? r p) = Path.replaceSelf? (Ty.replaceSelf s r) p
  | none => rfl
  | some p => by simp only [Path.replaceSelf?, Path.replaceSelf_replaceSelf r s p]
termination_by structural p => p

theorem Segment.replaceSelf_replaceSelf (r s : Ty) : (g : Segment) →
    (g.replaceSelf r).replaceSelf s = g.replaceSelf (Ty.replaceSelf s r)
  | .mk _ args => by simp only [Segment.replaceSelf, Args.replaceSelf_replaceSelf r s args]
termination_by structural g => g

theorem Segment.replaceSelfAll_replaceSelfAll (r s : Ty) : (gs : List Segment) →
    Segment.replaceSelfAll s (Segment.replaceSelfAll r gs) =
      Segment.replaceSelfAll (Ty.replaceSelf s r) gs
  | [] => rfl
  | g :: gs => by
      simp only [Segment.replaceSelfAll, Segment.replaceSelf_replaceSelf r s g,
        Segment.replaceSelfAll_replaceSelfAll r s gs]
termination_by structural gs => gs

theorem Args.replaceSelf_replaceSelf (r s : Ty) : (a : Args) →
    (a.replaceSelf r).replaceSelf s = a.replaceSelf (Ty.replaceSelf s r)
  | .none => rfl
  | .angle _ args _ => by simp only [Args.replaceSelf, Arg.replaceSelfAll_replaceSelfAll r s args]
  | .call inputs _ output => by
      simp only [Args.replaceSelf, Ty.replaceSelfAll_replaceSelfAll r s inputs,
        Ty.replaceSelf?_replaceSelf? r s output]
termination_by structural a => a

theorem Arg.replaceSelf_replaceSelf (r s : Ty) : (a : Arg) →
    (a.replaceSelf r).replaceSelf s = a.replaceSelf (Ty.replaceSelf s r)
  | .lifetime _ => rfl
  | .type t => by simp only [Arg.replaceSelf, Ty.replaceSelf_replaceSelf r s t]
  | .const value => by simp only [Arg.replaceSelf, Piece.replaceSelfAll_replaceSelfAll r s value]
  | .binding _ t => by simp only [Arg.replaceSelf, Ty.replaceSelf_replaceSelf r s t]
  | .constraint _ bounds _ => by
      simp only [Arg.replaceSelf, Bound.replaceSelfAll_replaceSelfAll r s bounds]
termination_by structural a => a

theorem Arg.replaceSelfAll_replaceSelfAll (r s : Ty) : (as : List Arg) →
    Arg.replaceSelfAll s (Arg.replaceSelfAll r as) = Arg.replaceSelfAll (Ty.replaceSelf s r) as
  | [] => rfl
  | a :: as => by
      simp only [Arg.replaceSelfAll, Arg.replaceSelf_replaceSelf r s a,
        Arg.replaceSelfAll_replaceSelfAll r s as]
termination_by structural as => as

theorem Bound.replaceSelf_replaceSelf (r s : Ty) : (b : Bound) →
    (b.replaceSelf r).replaceSelf s = b.replaceSelf (Ty.replaceSelf s r)
  | .lifetime _ => rfl
  | .trait _ _ _ _ path => by simp only [Bound.replaceSelf, Path.replaceSelf_replaceSelf r s path]
termination_by structural b => b

theorem Bound.replaceSelfAll_replaceSelfAll (r s : Ty) : (bs : List Bound) →
    Bound.replaceSelfAll s (Bound.replaceSelfAll r bs) =
      Bound.replaceSelfAll (Ty.replaceSelf s r) bs
  | [] => rfl
  | b :: bs => by
      simp only [Bound.replaceSelfAll, Bound.replaceSelf_replaceSelf r s b,
        Bound.replaceSelfAll_replaceSelfAll r s bs]
termination_by structural bs => bs

theorem FnInput.replaceSelf_replaceSelf (r s : Ty) : (i : FnInput) →
    (i.replaceSelf r).replaceSelf s = i.replaceSelf (Ty.replaceSelf s r)
  | .mk _ _ t => by simp only [FnInput.replaceSelf, Ty.replaceSelf_replaceSelf r s t]
termination_by structural i => i

theorem FnInput.replaceSelfAll_replaceSelfAll (r s : Ty) : (is : List FnInput) →
    FnInput.replaceSelfAll s (FnInput.replaceSelfAll r is) =
      FnInput.replaceSelfAll (Ty.replaceSelf s r) is
  | [] => rfl
  | i :: is => by
      simp only [FnInput.replaceSelfAll, FnInput.replaceSelf_replaceSelf r s i,
        FnInput.replaceSelfAll_replaceSelfAll r s is]
termination_by structural is => is

theorem Piece.replaceSelf_replaceSelf (r s : Ty) : (p : Piece) →
    (p.replaceSelf r).replaceSelf s = p.replaceSelf (Ty.replaceSelf s r)
  | .group _ inner => by
      simp only [Piece.replaceSelf, Piece.replaceSelfAll_replaceSelfAll r s inner]
  | .type t => by simp only [Piece.replaceSelf, Ty.replaceSelf_replaceSelf r s t]
  | .path p => by simp only [Piece.replaceSelf, QPath.replaceSelf_replaceSelf r s p]
  | .bound b => by simp only [Piece.replaceSelf, Bound.replaceSelf_replaceSelf r s b]
  | .word _ => rfl
  | .binder _ => rfl
  | .lifetime _ => rfl
  | .attr _ _ => rfl
  | .verbatim _ => rfl
termination_by structural p => p

theorem Piece.replaceSelfAll_replaceSelfAll (r s : Ty) : (ps : List Piece) →
    Piece.replaceSelfAll s (Piece.replaceSelfAll r ps) =
      Piece.replaceSelfAll (Ty.replaceSelf s r) ps
  | [] => rfl
  | p :: ps => by
      simp only [Piece.replaceSelfAll, Piece.replaceSelf_replaceSelf r s p,
        Piece.replaceSelfAll_replaceSelfAll r s ps]
termination_by structural ps => ps

end

/-! ## Types in which nothing is replaced -/

mutual

theorem Ty.replaceSelf_of_not_mem (r : Ty) :
    (t : Ty) → .whole ∉ t.selfUses → Ty.replaceSelf r t = t
  | .path p, h => by
      rw [Ty.selfUses] at h
      split at h
      · simp at h
      · next hp => rw [Ty.replaceSelf, if_neg hp, QPath.replaceSelf_of_not_mem r p h]
  | .paren inner, h => by rw [Ty.replaceSelf, Ty.replaceSelf_of_not_mem r inner h]
  | .tuple items _, h => by rw [Ty.replaceSelf, Ty.replaceSelfAll_of_not_mem r items h]
  | .slice item, h => by rw [Ty.replaceSelf, Ty.replaceSelf_of_not_mem r item h]
  | .array item length, h => by
      rw [Ty.selfUses, List.mem_append, not_or] at h
      rw [Ty.replaceSelf, Ty.replaceSelf_of_not_mem r item h.1,
        Piece.replaceSelfAll_of_not_mem r length h.2]
  | .pointer _ target, h => by rw [Ty.replaceSelf, Ty.replaceSelf_of_not_mem r target h]
  | .reference _ _ target, h => by rw [Ty.replaceSelf, Ty.replaceSelf_of_not_mem r target h]
  | .object _ bounds _, h => by rw [Ty.replaceSelf, Bound.replaceSelfAll_of_not_mem r bounds h]
  | .existential bounds _, h => by rw [Ty.replaceSelf, Bound.replaceSelfAll_of_not_mem r bounds h]
  | .function _ inputs _ _ output, h => by
      rw [Ty.selfUses, List.mem_append, not_or] at h
      rw [Ty.replaceSelf, FnInput.replaceSelfAll_of_not_mem r inputs h.1,
        Ty.replaceSelf?_of_not_mem r output h.2]
  | .never, _ => rfl
  | .infer, _ => rfl
  | .variadic, _ => rfl
  | .invocation _ _ _, _ => rfl
  | .verbatim _, _ => rfl
termination_by structural t => t

theorem Ty.replaceSelf?_of_not_mem (r : Ty) :
    (t : Option Ty) → .whole ∉ Ty.selfUses? t → Ty.replaceSelf? r t = t
  | none, _ => rfl
  | some t, h => by rw [Ty.replaceSelf?, Ty.replaceSelf_of_not_mem r t h]
termination_by structural t => t

theorem Ty.replaceSelfAll_of_not_mem (r : Ty) :
    (ts : List Ty) → .whole ∉ Ty.selfUsesAll ts → Ty.replaceSelfAll r ts = ts
  | [], _ => rfl
  | t :: ts, h => by
      rw [Ty.selfUsesAll, List.mem_append, not_or] at h
      rw [Ty.replaceSelfAll, Ty.replaceSelf_of_not_mem r t h.1,
        Ty.replaceSelfAll_of_not_mem r ts h.2]
termination_by structural ts => ts

theorem QPath.replaceSelf_of_not_mem (r : Ty) :
    (p : QPath) → .whole ∉ p.selfUses → p.replaceSelf r = p
  | .plain p, h => by rw [QPath.replaceSelf, Path.replaceSelf_of_not_mem r p h]
  | .within self trait rest, h => by
      rw [QPath.selfUses, List.mem_append, List.mem_append, not_or, not_or] at h
      rw [QPath.replaceSelf, Ty.replaceSelf_of_not_mem r self h.1.1,
        Path.replaceSelf?_of_not_mem r trait h.1.2, Segment.replaceSelfAll_of_not_mem r rest h.2]
termination_by structural p => p

theorem Path.replaceSelf_of_not_mem (r : Ty) :
    (p : Path) → .whole ∉ p.selfUses → p.replaceSelf r = p
  | .mk _ segments, h => by
      rw [Path.selfUses, List.mem_append, not_or] at h
      rw [Path.replaceSelf, Segment.replaceSelfAll_of_not_mem r segments h.2]
termination_by structural p => p

theorem Path.replaceSelf?_of_not_mem (r : Ty) :
    (p : Option Path) → .whole ∉ Path.selfUses? p → Path.replaceSelf? r p = p
  | none, _ => rfl
  | some p, h => by rw [Path.replaceSelf?, Path.replaceSelf_of_not_mem r p h]
termination_by structural p => p

theorem Segment.replaceSelf_of_not_mem (r : Ty) :
    (g : Segment) → .whole ∉ g.selfUses → g.replaceSelf r = g
  | .mk _ args, h => by rw [Segment.replaceSelf, Args.replaceSelf_of_not_mem r args h]
termination_by structural g => g

theorem Segment.replaceSelfAll_of_not_mem (r : Ty) :
    (gs : List Segment) → .whole ∉ Segment.selfUsesAll gs → Segment.replaceSelfAll r gs = gs
  | [], _ => rfl
  | g :: gs, h => by
      rw [Segment.selfUsesAll, List.mem_append, not_or] at h
      rw [Segment.replaceSelfAll, Segment.replaceSelf_of_not_mem r g h.1,
        Segment.replaceSelfAll_of_not_mem r gs h.2]
termination_by structural gs => gs

theorem Args.replaceSelf_of_not_mem (r : Ty) :
    (a : Args) → .whole ∉ a.selfUses → a.replaceSelf r = a
  | .none, _ => rfl
  | .angle _ args _, h => by rw [Args.replaceSelf, Arg.replaceSelfAll_of_not_mem r args h]
  | .call inputs _ output, h => by
      rw [Args.selfUses, List.mem_append, not_or] at h
      rw [Args.replaceSelf, Ty.replaceSelfAll_of_not_mem r inputs h.1,
        Ty.replaceSelf?_of_not_mem r output h.2]
termination_by structural a => a

theorem Arg.replaceSelf_of_not_mem (r : Ty) :
    (a : Arg) → .whole ∉ a.selfUses → a.replaceSelf r = a
  | .lifetime _, _ => rfl
  | .type t, h => by rw [Arg.replaceSelf, Ty.replaceSelf_of_not_mem r t h]
  | .const value, h => by rw [Arg.replaceSelf, Piece.replaceSelfAll_of_not_mem r value h]
  | .binding _ t, h => by rw [Arg.replaceSelf, Ty.replaceSelf_of_not_mem r t h]
  | .constraint _ bounds _, h => by rw [Arg.replaceSelf, Bound.replaceSelfAll_of_not_mem r bounds h]
termination_by structural a => a

theorem Arg.replaceSelfAll_of_not_mem (r : Ty) :
    (as : List Arg) → .whole ∉ Arg.selfUsesAll as → Arg.replaceSelfAll r as = as
  | [], _ => rfl
  | a :: as, h => by
      rw [Arg.selfUsesAll, List.mem_append, not_or] at h
      rw [Arg.replaceSelfAll, Arg.replaceSelf_of_not_mem r a h.1,
        Arg.replaceSelfAll_of_not_mem r as h.2]
termination_by structural as => as

theorem Bound.replaceSelf_of_not_mem (r : Ty) :
    (b : Bound) → .whole ∉ b.selfUses → b.replaceSelf r = b
  | .lifetime _, _ => rfl
  | .trait _ _ _ _ path, h => by rw [Bound.replaceSelf, Path.replaceSelf_of_not_mem r path h]
termination_by structural b => b

theorem Bound.replaceSelfAll_of_not_mem (r : Ty) :
    (bs : List Bound) → .whole ∉ Bound.selfUsesAll bs → Bound.replaceSelfAll r bs = bs
  | [], _ => rfl
  | b :: bs, h => by
      rw [Bound.selfUsesAll, List.mem_append, not_or] at h
      rw [Bound.replaceSelfAll, Bound.replaceSelf_of_not_mem r b h.1,
        Bound.replaceSelfAll_of_not_mem r bs h.2]
termination_by structural bs => bs

theorem FnInput.replaceSelf_of_not_mem (r : Ty) :
    (i : FnInput) → .whole ∉ i.selfUses → i.replaceSelf r = i
  | .mk _ _ t, h => by rw [FnInput.replaceSelf, Ty.replaceSelf_of_not_mem r t h]
termination_by structural i => i

theorem FnInput.replaceSelfAll_of_not_mem (r : Ty) :
    (is : List FnInput) → .whole ∉ FnInput.selfUsesAll is → FnInput.replaceSelfAll r is = is
  | [], _ => rfl
  | i :: is, h => by
      rw [FnInput.selfUsesAll, List.mem_append, not_or] at h
      rw [FnInput.replaceSelfAll, FnInput.replaceSelf_of_not_mem r i h.1,
        FnInput.replaceSelfAll_of_not_mem r is h.2]
termination_by structural is => is

theorem Piece.replaceSelf_of_not_mem (r : Ty) :
    (p : Piece) → .whole ∉ p.selfUses → p.replaceSelf r = p
  | .group _ inner, h => by rw [Piece.replaceSelf, Piece.replaceSelfAll_of_not_mem r inner h]
  | .type t, h => by rw [Piece.replaceSelf, Ty.replaceSelf_of_not_mem r t h]
  | .path p, h => by rw [Piece.replaceSelf, QPath.replaceSelf_of_not_mem r p h]
  | .bound b, h => by rw [Piece.replaceSelf, Bound.replaceSelf_of_not_mem r b h]
  | .word _, _ => rfl
  | .binder _, _ => rfl
  | .lifetime _, _ => rfl
  | .attr _ _, _ => rfl
  | .verbatim _, _ => rfl
termination_by structural p => p

theorem Piece.replaceSelfAll_of_not_mem (r : Ty) :
    (ps : List Piece) → .whole ∉ Piece.selfUsesAll ps → Piece.replaceSelfAll r ps = ps
  | [], _ => rfl
  | p :: ps, h => by
      rw [Piece.selfUsesAll, List.mem_append, not_or] at h
      rw [Piece.replaceSelfAll, Piece.replaceSelf_of_not_mem r p h.1,
        Piece.replaceSelfAll_of_not_mem r ps h.2]
termination_by structural ps => ps

end

/-- Replacing `Self` twice is replacing it once, by the first type in which the second took its
place. So a type that says `Self` nowhere as a whole, as the own type of every item that is
read, takes its place once and for all, and what says it nowhere stays as it is. -/
theorem Ty.self_substitution (r s t : Ty) :
    Ty.replaceSelf s (Ty.replaceSelf r t) = Ty.replaceSelf (Ty.replaceSelf s r) t ∧
      (.whole ∉ r.selfUses → Ty.replaceSelf r (Ty.replaceSelf r t) = Ty.replaceSelf r t) ∧
      (.whole ∉ t.selfUses → Ty.replaceSelf r t = t) ∧
      ∀ text item, Item.ofText text = .ok item → .whole ∉ item.selfTy.selfUses ∧
        Ty.replaceSelf item.selfTy (Ty.replaceSelf item.selfTy t) =
          Ty.replaceSelf item.selfTy t := by
  have hidempotent {own : Ty} (h : .whole ∉ own.selfUses) :
      Ty.replaceSelf own (Ty.replaceSelf own t) = Ty.replaceSelf own t := by
    rw [Ty.replaceSelf_replaceSelf, Ty.replaceSelf_of_not_mem own own h]
  refine ⟨Ty.replaceSelf_replaceSelf r s t, hidempotent, Ty.replaceSelf_of_not_mem r t, ?_⟩
  intro text item hitem
  have hown : .whole ∉ item.selfTy.selfUses := by
    rw [Item.selfTy_selfUses (Item.ofText_saysNoSelf hitem)]
    exact List.not_mem_nil
  exact ⟨hown, hidempotent hown⟩

/-- A type that says `Self` as an argument and in the length of an array. -/
theorem Ty.self_substitution_nested :
    ∃ t r s, Ty.ofText "[Vec<Self>; f::<Self>(Self::N)]" = .ok t ∧ Ty.ofText "&Self" = .ok r ∧
      Ty.ofText "Node" = .ok s ∧
      Ty.replaceSelf s (Ty.replaceSelf r t) = Ty.replaceSelf (Ty.replaceSelf s r) t ∧
      Ty.replaceSelf s (Ty.replaceSelf s t) = Ty.replaceSelf s t ∧
      (Ty.replaceSelf s (Ty.replaceSelf r t)).code.text =
        "[Vec < & Node > ; f :: < & Node > (Self :: N)]" := by
  have hview : ((Ty.ofText "[Vec<Self>; f::<Self>(Self::N)]").toOption.bind fun t =>
      (Ty.ofText "&Self").toOption.bind fun r => (Ty.ofText "Node").toOption.map fun s =>
        (decide (.whole ∉ s.selfUses), (Ty.replaceSelf s (Ty.replaceSelf r t)).code.text)) =
      some (true, "[Vec < & Node > ; f :: < & Node > (Self :: N)]") := by decide +kernel
  obtain ⟨t, ht, hview⟩ := Option.bind_eq_some_iff.mp hview
  obtain ⟨r, hr, hview⟩ := Option.bind_eq_some_iff.mp hview
  obtain ⟨s, hs, hview⟩ := Option.map_eq_some_iff.mp hview
  rw [Prod.mk.injEq, decide_eq_true_iff] at hview
  obtain ⟨htwice, -⟩ := Ty.self_substitution r s t
  obtain ⟨-, honce, -⟩ := Ty.self_substitution s s t
  exact ⟨t, r, s, except_eq_ok_of_toOption ht, except_eq_ok_of_toOption hr,
    except_eq_ok_of_toOption hs, htwice, honce hview.1, hview.2⟩

end StagedBuilder
