import StagedBuilder.Proofs.TokenOrder

/-!
# The tokens of a text are in its order

A lexeme is cut from at least one character, and takes up the stretch of exactly these. So
lexemes lie one behind the other, and nesting them keeps that: the invariant of the nesting
says where the tokens read so far lie between the delimiters that are still open.
-/

namespace StagedBuilder

/-! ## Readers of at least one character -/

namespace Scanner

open StagedBuilder.Parser

theorem exactly_productive {text : String} (h : text.toList ≠ []) : Productive (exactly text) := by
  rw [exactly]
  cases hcs : text.toList with
  | nil => exact absurd hcs h
  | cons c cs => exact Reads.productive_bind Reads.productive_one

theorem begins_productive {α : Type} {text : String} {f : Unit → Scanner α} (h : text.toList ≠ []) :
    Productive (exactly text >>= f) := Reads.productive_bind (exactly_productive h)

theorem word_productive : Productive word := Reads.productive_bind Reads.productive_one

theorem digits_productive : Productive digits := Reads.productive_bind Reads.productive_one

theorem opening_productive : Productive opening :=
  .orElse (begins_productive (by simp))
    (.orElse (begins_productive (by simp)) (begins_productive (by simp)))

theorem closing_productive : Productive closing :=
  .orElse (begins_productive (by simp))
    (.orElse (begins_productive (by simp)) (begins_productive (by simp)))

/-! ### Literals -/

theorem stringLiteral_productive : Productive stringLiteral :=
  .orElse (begins_productive (by simp)) (begins_productive (by simp))

theorem byteStringLiteral_productive : Productive byteStringLiteral :=
  .orElse (begins_productive (by simp)) (begins_productive (by simp))

theorem cStringLiteral_productive : Productive cStringLiteral :=
  .orElse (begins_productive (by simp)) (begins_productive (by simp))

theorem floatLiteral_productive : Productive floatLiteral := Reads.productive_bind digits_productive

theorem integerLiteral_productive : Productive integerLiteral := by
  refine Reads.productive_after fun _ => .ite (fun _ => begins_productive (by simp)) fun _ => ?_
  refine Reads.productive_after fun _ => .ite (fun _ => begins_productive (by simp)) fun _ => ?_
  refine Reads.productive_after fun _ => .ite (fun _ => begins_productive (by simp)) fun _ => ?_
  exact Reads.productive_bind digits_productive

theorem literal_productive : Productive literal := by
  refine .orElse (Reads.productive_bind stringLiteral_productive) ?_
  refine .orElse (Reads.productive_bind byteStringLiteral_productive) ?_
  refine .orElse (Reads.productive_bind cStringLiteral_productive) ?_
  refine .orElse (Reads.productive_bind (begins_productive (by simp))) ?_
  refine .orElse (Reads.productive_bind (begins_productive (by simp))) ?_
  exact .orElse (Reads.productive_bind floatLiteral_productive)
    (Reads.productive_bind integerLiteral_productive)

/-! ### Names -/

theorem identifier_productive : Productive identifier :=
  Reads.productive_after fun _ => .ite (fun _ => begins_productive (by simp))
    fun _ => Reads.productive_bind word_productive

theorem lifetime_productive : Productive lifetime := begins_productive (by simp)

theorem punctChar_productive : Productive punctChar := by
  refine Reads.productive_after fun _ => Reads.productive_after fun _ => ?_
  exact Reads.productive_after fun _ => Reads.productive_one

/-! ### Comments -/

theorem pos_of_commentLength {depth n : Nat} {gs : List Glyph}
    (h : commentLength depth gs = some n) : 0 < n ∧ gs ≠ [] := by
  unfold commentLength at h
  split at h
  · obtain ⟨m, -, rfl⟩ := Option.map_eq_some_iff.mp h
    simp
  · split at h
    · cases h
      simp
    · obtain ⟨m, -, rfl⟩ := Option.map_eq_some_iff.mp h
      simp
  · obtain ⟨m, -, rfl⟩ := Option.map_eq_some_iff.mp h
    simp
  · cases h

theorem blockComment_productive : Productive blockComment := by
  refine Reads.productive_after fun _ => Reads.productive_after fun _ input => ?_
  -- As many characters are taken as were counted ahead, so that the input itself has to be known.
  refine ReadsAt.bind ReadsAt.ahead fun length used rest hrest ⟨hused, hlength⟩ => ?_
  rw [hused, List.nil_append] at hrest
  cases length with
  | none => exact Reads.failure rest
  | some n =>
      obtain ⟨hpos, hne⟩ := pos_of_commentLength hlength.symm
      refine ReadsAt.bind ReadsAt.take fun _ read rest' _ hread => Reads.pure ?_ rest'
      simp [hread, hrest, hne, Nat.ne_of_gt hpos]

theorem seesDocLine_reads : Reads seesDocLine fun used _ => used = [] :=
  .bind .lookahead fun _ _ h => .bind .lookahead fun _ _ h' => .bind .lookahead fun _ _ h'' =>
    .pure (by simp [h, h', h''])

theorem docText_productive : Productive docText := by
  intro input
  -- Taking three characters reads some where there are any, and a mark is seen only there.
  cases input with
  | nil =>
      intro text rest h
      cases (show docText [] = none from rfl).symm.trans h
  | cons g gs =>
      refine ReadsAt.bind (seesDocLine_reads _) fun line used rest hrest hused => ?_
      rw [hused, List.nil_append] at hrest
      split
      · refine ReadsAt.bind ReadsAt.take fun _ read rest' _ hread => Reads.trivial.mono ?_ rest'
        simp [hused, hread, hrest]
      · refine Reads.mono ?_ (fun _ _ hne => List.append_ne_nil_of_right_ne_nil _ hne) rest
        exact Reads.productive_after fun _ => Reads.productive_after fun _ =>
          Reads.productive_bind blockComment_productive

theorem docComment_productive : Productive docComment :=
  Reads.productive_after fun _ => Reads.productive_after fun _ =>
    Reads.productive_bind docText_productive

/-! ## Lexemes -/

/-- Whether a lexeme stands at a stretch: what it is made of lies there. -/
def Lexeme.At (s : Span) : Lexeme → Prop
  | .opening _ s' | .closing _ s' => s' = s
  | .leaves ts => TokenTree.Fills s ts

open TokenTree in
theorem fills_docAttribute {inner : Bool} {text : String} {s : Span} (hs : s.Proper) :
    Fills s (docAttribute inner text s) := by
  have hpunct : ∀ c, (punct c false s).Placed := fun c => placed_leaf hs rfl
  have hname : (ident (.plain "doc") s).Placed := placed_leaf hs rfl
  have htext : (TokenTree.literal .string (Text.stringLiteral text) s).Placed := placed_leaf hs rfl
  have hinside : Fills s [.ident (.plain "doc") s, .punct '=' false s,
      .literal .string (Text.stringLiteral text) s] :=
    fills_of_same hs (by simp [hpunct, hname, htext, span, IsComma])
  have hgroup := hinside.placed_group (d := .bracket) hs
  refine fills_of_same hs ?_
  cases inner <;> simp [docAttribute, hpunct, hgroup, span, IsComma]

theorem bareLeaf_reads : Reads bareLeaf fun used make =>
    used ≠ [] ∧ ∀ s, (make s).span = s ∧ (make s).inside = [] := by
  refine .after fun _ _ => .ite (fun _ => ?_) fun _ => .orElse ?_ (.orElse ?_ ?_)
  · refine .bind punctChar_productive fun c used hne => .after fun joint more => .pure ?_
    simp [hne, TokenTree.span, TokenTree.inside]
  · refine .bind (.withInput literal_productive) fun ⟨kind, glyphs⟩ used h => .pure ?_
    simp [h.1, TokenTree.span, TokenTree.inside]
  · refine .bind lifetime_productive fun name used hne => .pure ?_
    simp [hne, TokenTree.span, TokenTree.inside]
  · refine .after fun _ _ => .after fun _ _ =>
      .bind identifier_productive fun name used hne => .pure ?_
    simp [hne, TokenTree.span, TokenTree.inside]

/-- A lexeme stands where its characters do. -/
theorem lexeme_reads : Reads lexeme fun used l =>
    used ≠ [] ∧ ((Glyph.spanOf used).Proper → l.At (Glyph.spanOf used)) := by
  refine .bind (.withInput (Q := fun used make =>
    used ≠ [] ∧ ∀ s : Span, s.Proper → (make s).At s) (.orElse ?_ (.orElse ?_ (.orElse ?_ ?_)))) ?_
  · exact .map opening_productive fun used d hne => ⟨hne, fun s _ => rfl⟩
  · exact .map closing_productive fun used d hne => ⟨hne, fun s _ => rfl⟩
  · refine .bind docComment_productive ?_
    rintro ⟨inner, text⟩ used hne
    exact .pure ⟨by simpa using hne, fun s hs => fills_docAttribute hs⟩
  · refine .map bareLeaf_reads ?_
    rintro used make ⟨hne, hleaf⟩
    refine ⟨hne, fun s hs => ?_⟩
    obtain ⟨hspan, hinside⟩ := hleaf s
    have hplaced := TokenTree.placed_leaf (hspan.symm ▸ hs) hinside
    simpa [Lexeme.At, hspan] using hplaced.fills_singleton
  · rintro ⟨make, glyphs⟩ used ⟨⟨hne, hat⟩, hglyphs⟩
    refine .pure ?_
    simp only at hglyphs
    rw [List.append_nil, hglyphs]
    exact ⟨hne, hat _⟩

inductive Lexeme.From : Pos → List Lexeme → Prop
  | nil {p : Pos} : From p []
  | cons {p : Pos} {s : Span} {l : Lexeme} {ls : List Lexeme} (hstart : p ≤ s.start) (hs : s.Proper)
      (hat : l.At s) (hrest : From s.stop ls) : From p (l :: ls)

/-- Whether a lexeme was read from some characters, behind a gap. -/
def Lexeme.ReadFrom (used : List Glyph) (l : Lexeme) : Prop :=
  ∃ gap glyphs, used = gap ++ glyphs ∧ glyphs ≠ [] ∧
    ((Glyph.spanOf glyphs).Proper → l.At (Glyph.spanOf glyphs))

theorem Lexeme.from_of_chained {p : Pos} {used : List Glyph} {ls : List Lexeme}
    (h : Chained Lexeme.ReadFrom used ls) (hordered : Glyph.Ordered used)
    (hp : ∀ g ∈ used, p ≤ g.pos) : Lexeme.From p ls := by
  induction h generalizing p with
  | nil => exact .nil
  | @cons used rest l ls hl hrest ih =>
      obtain ⟨gap, glyphs, rfl, hne, hat⟩ := hl
      obtain ⟨g, gs, rfl⟩ := List.exists_cons_of_ne_nil hne
      rw [List.append_assoc] at hordered hp
      obtain ⟨hglyphs, hlater, hbehind⟩ :=
        List.pairwise_append.mp (List.pairwise_append.mp hordered).2.1
      have hproper := Glyph.spanOf_proper hglyphs
      refine .cons (hp g (by simp)) hproper (hat hproper) (ih hlater fun g' hg' => ?_)
      exact hbehind _ (List.getLast_mem (List.cons_ne_nil g gs)) g' hg'

theorem lexemes_from {text : String} {ls : List Lexeme}
    (h : lexemes.all? (Glyph.ofText text) = some ls) : Lexeme.From Pos.origin ls := by
  have hpiece : Reads (do let _ ← many gap; lexeme) Lexeme.ReadFrom :=
    .after fun _ gap => lexeme_reads.mono fun glyphs l h => ⟨gap, glyphs, rfl, h⟩
  have hreads : Reads lexemes fun used ls =>
      Glyph.Ordered used → (∀ g ∈ used, Pos.origin ≤ g.pos) → Lexeme.From Pos.origin ls := by
    refine .after fun _ mark => .bind (.many hpiece) fun ls used hls =>
      .after fun _ last => .pure ?_
    intro hordered horigin
    refine Lexeme.from_of_chained hls ?_ fun g hg => horigin g (by simp [hg])
    exact (List.pairwise_append.mp (List.pairwise_append.mp hordered).2.1).1
  exact hreads.all? h (Glyph.ordered_place _ _) fun g hg => Glyph.le_of_mem_place hg

end Scanner

/-! ## Nesting -/

namespace TokenTree

open Scanner

/-- Where the tokens stand that were read up to a place: those of each open group behind its
opening delimiter, and the delimiter behind the tokens before it. -/
def Reached : List OpenGroup → List TokenTree → Pos → Prop
  | [], done, p => Fills ⟨Pos.origin, p⟩ done.reverse
  | g :: outer, done, p =>
    g.span.Proper ∧ Fills ⟨g.span.stop, p⟩ done.reverse ∧ Reached outer g.before g.span.start

variable {outer : List OpenGroup} {done ts : List TokenTree} {p : Pos} {s : Span} {ls : List Lexeme}

/-- Tokens that stand behind all others are added to the innermost group. -/
theorem Reached.add (h : Reached outer done p) (hp : p ≤ s.start) (hs : Fills s ts) :
    Reached outer (ts.reverse ++ done) s.stop := by
  cases outer with
  | nil =>
      rw [Reached, List.reverse_append, List.reverse_reverse]
      exact Fills.append h hs hp
  | cons g outer =>
      obtain ⟨hg, hdone, hbefore⟩ := h
      refine ⟨hg, ?_, hbefore⟩
      rw [List.reverse_append, List.reverse_reverse]
      exact hdone.append hs hp

theorem Reached.open_group {d : Delim} (h : Reached outer done p) (hp : p ≤ s.start)
    (hs : s.Proper) : Reached (⟨d, s, done⟩ :: outer) [] s.stop := by
  refine ⟨hs, .nil le_rfl, ?_⟩
  simpa using h.add (s := ⟨s.start, s.start⟩) hp (.nil le_rfl)

theorem Reached.close_group {g : OpenGroup} {d : Delim} (h : Reached (g :: outer) done p)
    (hp : p ≤ s.start) (hs : s.Proper) :
    Reached outer (.group d done.reverse (g.span.join s) :: g.before) s.stop := by
  obtain ⟨hg, hdone, hbefore⟩ := h
  have hproper : (g.span.join s).Proper := ((lt_of_lt_of_le hg hdone.forward).trans_le hp).trans hs
  have hinner : Fills (g.span.join s) done.reverse :=
    hdone.mono ⟨le_of_lt hg, hp.trans (le_of_lt hs)⟩
  exact hbefore.add (s := g.span.join s) le_rfl (hinner.placed_group hproper).fills_singleton

theorem nest_fills (hls : Lexeme.From p ls) (h : Reached outer done p)
    (he : nest outer done ls = some ts) : ∃ stop, Fills ⟨Pos.origin, stop⟩ ts := by
  -- By induction on the lexemes, whatever is open and done where they begin.
  induction hls generalizing outer done with
  | nil =>
      rw [nest] at he
      split at he
      · next hempty =>
          cases he
          cases List.isEmpty_iff.mp hempty
          exact ⟨_, h⟩
      · cases he
  | @cons p s l ls hstart hs hat hrest ih =>
      cases l with
      | leaves us => exact ih (h.add hstart hat) he
      | opening d s' =>
          cases hat
          exact ih (h.open_group hstart hs) he
      | closing d s' =>
          cases hat
          cases outer with
          | nil => cases he
          | cons g outer =>
              rw [nest] at he
              split at he
              · exact ih (h.close_group hstart hs) he
              · cases he

/-- The tokens of a text stand in its order. -/
theorem ofText_inOrder {text : String} (h : ofText? text = some ts) : InOrder ts := by
  obtain ⟨ls, hls, hnest⟩ := Option.bind_eq_some_iff.mp h
  have hstart : Reached [] [] Pos.origin := Fills.nil le_rfl
  obtain ⟨stop, hfills⟩ := nest_fills (lexemes_from hls) hstart hnest
  exact hfills.toInOrder

end TokenTree

end StagedBuilder
