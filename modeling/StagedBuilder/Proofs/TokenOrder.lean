import Mathlib
import StagedBuilder.Proofs.Consumption
import StagedBuilder.Token.Lexer

/-!
# Where tokens stand

The tokens of a text stand one behind the other, and those of a group stand inside it. Only the
tokens of a documentation comment share their place: all of them stand where the comment does.
No comma is among these, so that a comma always parts what is before it from what is behind it.
-/

namespace StagedBuilder

/-! ## Places -/

/-- Places are ordered as they are read: by lines, and by columns within a line. -/
instance : LinearOrder Pos :=
  LinearOrder.lift' (fun p => toLex (p.line, p.column)) fun p q h => by
    cases p
    cases q
    simpa using h

theorem Pos.lt_iff_before {p q : Pos} : p < q ↔ p.before q := Prod.Lex.toLex_lt_toLex

theorem Pos.lt_after (p : Pos) (c : Char) : p < p.after c := by
  rw [Pos.lt_iff_before, Pos.before, Pos.after]
  split
  · exact .inl (Nat.lt_succ_self p.line)
  · exact .inr ⟨rfl, Nat.lt_succ_self p.column⟩

namespace Span

variable {r s t : Span}

/-- Whether the stretch holds at least one character. -/
def Proper (s : Span) : Prop := s.start < s.stop

def Within (s r : Span) : Prop := r.start ≤ s.start ∧ s.stop ≤ r.stop

/-- Whether one stretch ends where the other begins, or before that. -/
def Precedes (s t : Span) : Prop := s.stop ≤ t.start

theorem Within.refl (s : Span) : s.Within s := ⟨le_rfl, le_rfl⟩

theorem Within.trans (h : s.Within r) (h' : r.Within t) : s.Within t :=
  ⟨h'.1.trans h.1, h.2.trans h'.2⟩

theorem Precedes.within {s' t' : Span} (h : s.Precedes t) (hs : s'.Within s) (ht : t'.Within t) :
    s'.Precedes t' := (hs.2.trans h).trans ht.1

end Span

/-! ## The order of characters -/

namespace Glyph

def Ordered (gs : List Glyph) : Prop := gs.Pairwise fun g h => g.pos.after g.char ≤ h.pos

theorem le_of_mem_place {cs : List Char} {p : Pos} {g : Glyph} (h : g ∈ place p cs) :
    p ≤ g.pos := by
  induction cs generalizing p with
  | nil => cases h
  | cons c cs ih =>
      rcases List.mem_cons.mp h with rfl | h
      · exact le_rfl
      · exact (Pos.lt_after p c).le.trans (ih h)

theorem ordered_place (p : Pos) (cs : List Char) : Ordered (place p cs) := by
  induction cs generalizing p with
  | nil => exact .nil
  | cons c cs ih => exact .cons (fun g hg => le_of_mem_place hg) (ih (p.after c))

variable {g : Glyph} {gs : List Glyph}

theorem spanOf_bounds (h : Ordered (g :: gs)) :
    (spanOf (g :: gs)).start = g.pos ∧
      ∀ g' ∈ g :: gs, g'.pos.after g'.char ≤ (spanOf (g :: gs)).stop := by
  refine ⟨rfl, fun g' hg' => ?_⟩
  rw [← List.dropLast_append_getLast (List.cons_ne_nil g gs), Ordered, List.pairwise_append] at h
  rw [← List.dropLast_append_getLast (List.cons_ne_nil g gs)] at hg'
  rcases List.mem_append.mp hg' with hfront | hlast
  · exact (h.2.2 g' hfront _ (List.mem_singleton_self _)).trans (Pos.lt_after _ _).le
  · rw [List.mem_singleton.mp hlast]
    exact le_rfl

theorem spanOf_proper (h : Ordered (g :: gs)) : (spanOf (g :: gs)).Proper :=
  (Pos.lt_after g.pos g.char).trans_le ((spanOf_bounds h).2 g List.mem_cons_self)

end Glyph

/-! ## The order of tokens -/

namespace TokenTree

def inside : TokenTree → List TokenTree
  | group _ inner _ => inner
  | _ => []

def IsComma (t : TokenTree) : Prop := ∃ joint s, t = .punct ',' joint s

/-- One token is behind another, or both are of one documentation comment. -/
def Follows (t u : TokenTree) : Prop :=
  t.span.Precedes u.span ∨ t.span = u.span ∧ ¬ t.IsComma ∧ ¬ u.IsComma

/-- The token takes up some of the text, and what it holds lies inside it in order. -/
inductive Placed : TokenTree → Prop
  | intro {t : TokenTree} (proper : t.span.Proper) (placed : ∀ u ∈ t.inside, u.Placed)
      (ordered : t.inside.Pairwise Follows) (within : ∀ u ∈ t.inside, u.span.Within t.span) :
      t.Placed

structure InOrder (ts : List TokenTree) : Prop where
  placed : ∀ t ∈ ts, t.Placed
  ordered : ts.Pairwise Follows

/-- Tokens in the order of the text, all of them inside a stretch of it. -/
structure Fills (s : Span) (ts : List TokenTree) : Prop extends InOrder ts where
  forward : s.start ≤ s.stop
  within : ∀ t ∈ ts, t.span.Within s

variable {r s : Span} {t u : TokenTree} {ts us : List TokenTree}

theorem Placed.proper (h : t.Placed) : t.span.Proper := by
  cases h
  assumption

theorem Placed.fills (h : t.Placed) : Fills t.span t.inside := by
  cases h with
  | intro proper placed ordered within => exact ⟨⟨placed, ordered⟩, le_of_lt proper, within⟩

theorem Fills.placed_group {d : Delim} (h : Fills s ts) (hs : s.Proper) : (group d ts s).Placed :=
  .intro hs h.placed h.ordered h.within

theorem placed_leaf (hs : t.span.Proper) (hinside : t.inside = []) : t.Placed :=
  .intro hs (by simp [hinside]) (by simp [hinside]) (by simp [hinside])

theorem Follows.le (h : Follows t u) (ht : t.Placed) (hu : u.Placed) :
    t.span.start ≤ u.span.start ∧ t.span.stop ≤ u.span.stop := by
  rcases h with h | ⟨h, -⟩
  · exact ⟨(le_of_lt ht.proper).trans h, h.trans (le_of_lt hu.proper)⟩
  · rw [h]
    exact ⟨le_rfl, le_rfl⟩

theorem Follows.precedes_of_comma (h : Follows t u) (hc : t.IsComma ∨ u.IsComma) :
    t.span.Precedes u.span := by
  rcases h with h | ⟨-, ht, hu⟩
  · exact h
  · exact absurd hc (not_or.mpr ⟨ht, hu⟩)

theorem InOrder.sublist (h : InOrder ts) (hsub : us.Sublist ts) : InOrder us :=
  ⟨fun t ht => h.placed t (hsub.subset ht), h.ordered.sublist hsub⟩

theorem InOrder.of_append_left (h : InOrder (ts ++ us)) : InOrder ts :=
  h.sublist (List.sublist_append_left ts us)

theorem InOrder.of_append_right (h : InOrder (ts ++ us)) : InOrder us :=
  h.sublist (List.sublist_append_right ts us)

theorem spanOf_ends (hs : spanOf ts = some s) :
    ∃ first ∈ ts, ∃ last ∈ ts, s.start = first.span.start ∧ s.stop = last.span.stop := by
  cases ts with
  | nil => cases hs
  | cons t ts =>
      cases hs
      exact ⟨t, List.mem_cons_self, _, List.getLast_mem (List.cons_ne_nil t ts), rfl, rfl⟩

theorem spanOf_within (hs : spanOf ts = some s) (h : ∀ t ∈ ts, t.span.Within r) : s.Within r := by
  obtain ⟨first, hfirst, last, hlast, hstart, hstop⟩ := spanOf_ends hs
  rw [Span.Within, hstart, hstop]
  exact ⟨(h first hfirst).1, (h last hlast).2⟩

theorem InOrder.spanOf_bounds (h : InOrder ts) (hs : spanOf ts = some s) :
    s.Proper ∧ ∀ t ∈ ts, t.span.Within s := by
  cases ts with
  | nil => cases hs
  | cons first ts =>
      cases hs
      have hfirst : ∀ t ∈ first :: ts, first.span.start ≤ t.span.start := by
        intro t ht
        rcases List.mem_cons.mp ht with rfl | ht
        · exact le_rfl
        · exact ((List.rel_of_pairwise_cons h.ordered ht).le (h.placed _ List.mem_cons_self)
            (h.placed _ (List.mem_cons_of_mem _ ht))).1
      have hlast : ∀ t ∈ first :: ts,
          t.span.stop ≤ ((first :: ts).getLast (List.cons_ne_nil _ _)).span.stop := by
        intro t ht
        have hsplit := List.dropLast_append_getLast (List.cons_ne_nil first ts)
        have hlastPlaced := h.placed _ (List.getLast_mem (List.cons_ne_nil first ts))
        have hordered := h.ordered
        rw [← hsplit, List.pairwise_append] at hordered
        rw [← hsplit] at ht
        rcases List.mem_append.mp ht with hfront | hend
        · exact ((hordered.2.2 t hfront _ (List.mem_singleton_self _)).le
            (h.placed t (List.mem_of_mem_dropLast hfront)) hlastPlaced).2
        · rw [List.mem_singleton.mp hend]
      exact ⟨(h.placed _ List.mem_cons_self).proper.trans_le (hlast _ List.mem_cons_self),
        fun t ht => ⟨hfirst t ht, hlast t ht⟩⟩

/-- A comma parts the stretches of the tokens before it from those behind it. -/
theorem InOrder.precedes_of_comma {c : TokenTree} (h : InOrder (ts ++ [c] ++ us)) (hc : c.IsComma)
    (hs : spanOf ts = some s) (hr : ∃ vs, vs ⊆ us ∧ spanOf vs = some r) : s.Precedes r := by
  obtain ⟨vs, hsub, hr⟩ := hr
  obtain ⟨-, -, last, hlast, -, hstop⟩ := spanOf_ends hs
  obtain ⟨first, hfirst, -, -, hstart, -⟩ := spanOf_ends hr
  have hbefore : last.span.Precedes c.span :=
    ((List.pairwise_append.mp h.of_append_left.ordered).2.2 last hlast c
      (List.mem_singleton_self c)).precedes_of_comma (.inr hc)
  have hbehind : c.span.Precedes first.span :=
    ((List.pairwise_append.mp h.ordered).2.2 c (by simp) first
      (hsub hfirst)).precedes_of_comma (.inl hc)
  have hproper : c.span.Proper := (h.placed c (by simp)).proper
  rw [Span.Precedes, hstop, hstart]
  exact (hbefore.trans (le_of_lt hproper)).trans hbehind

theorem Fills.nil (h : s.start ≤ s.stop) : Fills s [] := ⟨⟨by simp, .nil⟩, h, by simp⟩

theorem Fills.mono (h : Fills s ts) (hs : s.Within r) : Fills r ts :=
  ⟨h.toInOrder, (hs.1.trans h.forward).trans hs.2, fun t ht => (h.within t ht).trans hs⟩

/-- What fills one stretch and what fills a later one fill the stretch of both. -/
theorem Fills.append (h : Fills s ts) (h' : Fills r us) (hsr : s.Precedes r) :
    Fills (s.join r) (ts ++ us) where
  placed t ht := (List.mem_append.mp ht).elim (h.placed t) (h'.placed t)
  ordered := List.pairwise_append.mpr ⟨h.ordered, h'.ordered, fun t ht u hu =>
    .inl (hsr.within (h.within t ht) (h'.within u hu))⟩
  forward := (h.forward.trans hsr).trans h'.forward
  within t ht := by
    rcases List.mem_append.mp ht with ht | ht
    · exact (h.within t ht).trans ⟨le_rfl, le_trans hsr h'.forward⟩
    · exact (h'.within t ht).trans ⟨h.forward.trans hsr, le_rfl⟩

theorem fills_of_same (hs : s.Proper) (h : ∀ t ∈ ts, t.Placed ∧ t.span = s ∧ ¬ t.IsComma) :
    Fills s ts where
  placed t ht := (h t ht).1
  ordered := List.pairwise_of_forall_mem_list fun t ht u hu =>
    .inr ⟨(h t ht).2.1.trans (h u hu).2.1.symm, (h t ht).2.2, (h u hu).2.2⟩
  forward := le_of_lt hs
  within t ht := by
    rw [(h t ht).2.1]
    exact .refl s

theorem Placed.fills_singleton (h : t.Placed) : Fills t.span [t] :=
  ⟨⟨by simpa using h, List.pairwise_singleton _ _⟩, le_of_lt h.proper, by
    simpa using Span.Within.refl t.span⟩

end TokenTree

end StagedBuilder
