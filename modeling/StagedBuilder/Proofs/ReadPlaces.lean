import StagedBuilder.Proofs.LexedText
import StagedBuilder.Grammar.Items

/-!
# Which tokens an item is read from

What an item keeps of its tokens is found again among them: its name, its keyword, and its
fields, each with the tokens it was read from, its name and its attributes among these. The
fields stand in one group with a comma between any two of them.

A field's stretch is that of its tokens, so there has to be at least one. A field without a
name has perhaps nothing but its type, and so it matters that every type is read from at least
one token.
-/

namespace StagedBuilder

open StagedBuilder.Parser

/-! ## What was read from which tokens -/

section ReadFrom

variable (tokens : List TokenTree)

/-- An attribute is read from its mark and its brackets. Its arguments end where the brackets
do. -/
def Attribute.ReadFrom (a : Attribute) : Prop :=
  ∃ joint mark inner brackets, tokens = [.punct '#' joint mark, .group .bracket inner brackets] ∧
    a.args <:+ inner ∧ a.span = mark.join brackets

/-- A field takes up all tokens it is read from. -/
structure Field.ReadFrom (f : Field) : Prop where
  span : TokenTree.spanOf tokens = some f.span
  name : ∀ i s, f.name = some (i, s) → .ident i s ∈ tokens
  attrs : ∀ a ∈ f.attrs, ∃ part, part <:+: tokens ∧ a.ReadFrom part

/-- Fields are read from the inside of one of the groups, and commas part them. -/
def Field.AllReadFrom (delim : Delim) (fields : List Field) : Prop :=
  ∃ inner s, .group delim inner s ∈ tokens ∧
    Listed Field.ReadFrom (fun separator => ∃ t, separator = [t] ∧ t.IsComma) inner fields

def Fields.ReadFrom : Fields → Prop
  | .named fields => Field.AllReadFrom tokens .brace fields
  | .unnamed fields => Field.AllReadFrom tokens .paren fields
  | .unit => True

def ItemBody.ReadFrom : ItemBody → Prop
  | .ofStruct fields => fields.ReadFrom tokens
  | .ofEnum keyword => .ident (.plain "enum") keyword ∈ tokens
  | .ofUnion keyword => .ident (.plain "union") keyword ∈ tokens

structure Item.ReadFrom (i : Item) : Prop where
  name : .ident i.name i.nameSpan ∈ tokens
  body : i.body.ReadFrom tokens

variable {tokens}

theorem Field.AllReadFrom.mono {more : List TokenTree} {d : Delim} {fields : List Field}
    (h : Field.AllReadFrom tokens d fields) (hsub : tokens ⊆ more) :
    Field.AllReadFrom more d fields :=
  h.imp fun _ h => h.imp fun _ h => ⟨hsub h.1, h.2⟩

theorem Fields.ReadFrom.mono {more : List TokenTree} {fields : Fields}
    (h : fields.ReadFrom tokens) (hsub : tokens ⊆ more) : fields.ReadFrom more := by
  cases fields with
  | named fs => exact Field.AllReadFrom.mono h hsub
  | unnamed fs => exact Field.AllReadFrom.mono h hsub
  | unit => trivial

theorem Item.ReadFrom.mono {more : List TokenTree} {i : Item} (h : i.ReadFrom tokens)
    (hsub : tokens ⊆ more) : i.ReadFrom more := by
  refine ⟨hsub h.name, ?_⟩
  have hbody := h.body
  cases hi : i.body with
  | ofStruct fields =>
      rw [hi] at hbody
      exact Fields.ReadFrom.mono hbody hsub
  | ofEnum k =>
      rw [hi] at hbody
      exact hsub hbody
  | ofUnion k =>
      rw [hi] at hbody
      exact hsub hbody

end ReadFrom

namespace Reader

variable {α : Type}

/-! ## Single tokens -/

theorem identIf_reads {test : Ident → Bool} : Reads (identIf test) fun used r =>
    used = [.ident r.1 r.2] ∧ test r.1 := by
  refine .one fun t r h => ?_
  split at h
  · split at h
    · next htest =>
        cases h
        exact ⟨rfl, htest⟩
    · cases h
  · cases h

theorem keyword_reads {text : String} : Reads (keyword text) fun used s =>
    used = [.ident (.plain text) s] := by
  refine .bind identIf_reads fun ⟨i, s⟩ used ⟨hused, htest⟩ => .pure ?_
  obtain ⟨name, raw⟩ := i
  simp only [Bool.and_eq_true, Bool.not_eq_true', beq_iff_eq] at htest
  rw [hused, List.append_nil, htest.1, htest.2]
  rfl

theorem keyword_productive {text : String} : Productive (keyword text) :=
  Reads.productive_bind Reads.productive_one

theorem op_productive {text : String} (h : text.toList ≠ []) : Productive (op text) := by
  rw [op]
  rcases hcs : text.toList with - | ⟨c, - | ⟨d, cs⟩⟩
  · exact absurd hcs h
  · exact Reads.productive_one
  · exact Reads.productive_bind Reads.productive_one

theorem opChar_reads {c : Char} : Reads (opChars [c]) fun used _ =>
    ∃ joint s, used = [.punct c joint s] := by
  refine .one fun t _ h => ?_
  split at h
  · split at h
    · next joint s hc => exact ⟨joint, s, by rw [hc]⟩
    · cases h
  · cases h

theorem comma_reads : Reads comma fun used _ => ∃ t, used = [t] ∧ t.IsComma := by
  have hcomma : comma = opChars [','] := by simp [comma, op]
  rw [hcomma]
  exact opChar_reads.mono fun used _ ⟨joint, s, hused⟩ => ⟨_, hused, joint, s, rfl⟩

theorem inGroup_reads {d : Delim} {inside : Reader α} {Q : List TokenTree → α → Prop}
    (h : Reads inside Q) : Reads (inGroup d inside) fun used a =>
      ∃ inner s, used = [.group d inner s] ∧ Q inner a := by
  refine .one fun t a ha => ?_
  split at ha
  · next d' inner s =>
      split at ha
      · next hd => exact ⟨inner, s, by rw [hd], h.all? ha⟩
      · cases ha
  · cases ha

theorem inGroup_productive {d : Delim} {inside : Reader α} : Productive (inGroup d inside) :=
  Reads.productive_one

/-! ## Attributes -/

theorem remaining_reads : Reads remaining fun used as => as = used := by
  have hone : Reads (one some : Reader TokenTree) fun used t => used = [t] := .one fun t a h => by
    rw [Option.some.inj h]
  refine (Reads.many hone).mono fun used as h => ?_
  induction h with
  | nil => rfl
  | cons hpart _ ih => rw [hpart, ih, List.singleton_append]

theorem attrAt_reads {start : Span} : Reads (attrAt start) fun used a =>
    ∃ inner s, used = [.group .bracket inner s] ∧ a.args <:+ inner ∧ a.span = start.join s := by
  have hinside : Reads (do let p ← modPath; return (p, ← remaining)) fun used r => r.2 <:+ used :=
    .after fun p path => .bind remaining_reads fun args used h => .pure ⟨path, by simp [h]⟩
  refine .bind (Q := fun used r => ∃ inner, used = [.group .bracket inner r.2.2] ∧ r.2.1 <:+ inner)
    (.one fun t r h => ?_) fun ⟨⟨absolute, path⟩, args, stop⟩ used ⟨inner, hused, hargs⟩ =>
      .pure ⟨inner, stop, by simpa using hused, hargs, rfl⟩
  split at h
  · next inner s =>
      obtain ⟨r', hr', hr⟩ := Option.map_eq_some_iff.mp h
      subst hr
      exact ⟨inner, rfl, hinside.all? hr'⟩
  · cases h

theorem attribute_reads : Reads (do attrAt (← attrMark)) fun used a => a.ReadFrom used := by
  refine .bind (Q := fun used mark => ∃ joint, used = [.punct '#' joint mark])
    (.one fun t mark h => ?_) fun mark used ⟨joint, hmark⟩ =>
      attrAt_reads.mono fun more a ⟨inner, brackets, hmore, hargs, hspan⟩ => ?_
  · split at h
    · next joint s =>
        cases h
        exact ⟨joint, rfl⟩
    · cases h
  · exact ⟨joint, mark, inner, brackets, by rw [hmark, hmore]; rfl, hargs, hspan⟩

theorem attributes_read : Reads attributes fun used attrs =>
    ∀ a ∈ attrs, ∃ part, part <:+: used ∧ a.ReadFrom part :=
  (Reads.manyWhile .lookahead attribute_reads).mono fun _ _ h _ => h.exists_infix

end Reader

namespace Grammar

open Reader

/-! ## Types -/

section Types

variable {g : Grammar}

theorem segment_productive {inExpr : Bool} : Productive (g.segment inExpr) := by
  refine Reads.productive_after fun _ => .ite (fun _ => ?_) fun _ => ?_
  · exact Reads.productive_bind (Reads.productive_bind Reads.productive_one)
  · exact Reads.productive_bind Reads.productive_one

theorem path_productive {inExpr : Bool} : Productive (g.path inExpr) :=
  Reads.productive_after fun _ => Reads.productive_bind segment_productive

theorem qpath_productive {inExpr : Bool} : Productive (g.qpath inExpr) :=
  Reads.productive_after fun _ => .ite (fun _ => Reads.productive_bind (op_productive (by simp)))
    fun _ => Reads.productive_bind path_productive

theorem typePath_productive : Productive g.typePath := Reads.productive_bind qpath_productive

theorem traitBound_productive {inParens : Bool} : Productive (g.traitBound inParens) := by
  refine Reads.productive_after fun _ => Reads.productive_after fun _ => ?_
  exact Reads.productive_after fun _ => Reads.productive_bind path_productive

theorem anyBound_productive : Productive g.anyBound := by
  refine Reads.productive_after fun _ => .ite (fun _ => ?_) fun _ => ?_
  · exact Reads.productive_bind Reads.productive_one
  · exact Reads.productive_after fun _ => .ite (fun _ => inGroup_productive)
      fun _ => traitBound_productive

/-- Bounds, if there are some, take up tokens. -/
theorem boundSum_reads (hb : Productive g.bound) : Reads g.boundSum fun used bs =>
    bs.items ≠ [] → used ≠ [] := by
  have hplus : Reads (op "+") fun _ _ => True := .trivial
  exact (Reads.sepEnd (T := fun _ => True) hb hplus).mono fun used bs h hne =>
    h.ne_nil (fun _ _ hq => hq) hne

theorem boundsWhile_reads (hb : Productive g.bound) {begins : Reader Bool} :
    Reads (g.boundsWhile begins) fun used bs => bs.items ≠ [] → used ≠ [] := by
  refine .bind (boundSum_reads hb) fun bs used h => .ite (fun _ => ?_) fun _ => .pure ?_
  · refine .after fun _ _ => .after fun _ _ => .pure fun hne => ?_
    exact List.append_ne_nil_of_left_ne_nil (h hne) _
  · simpa using h

theorem bounds_productive (hb : Productive g.bound) {allowPlus : Bool} :
    Productive (g.bounds allowPlus) := by
  refine .ite (fun _ => ?_) fun _ => Reads.productive_bind hb
  refine .bind (boundsWhile_reads hb) fun bs used h => ?_
  rw [require]
  split
  · next hne => exact .pure (by simpa using h (by simpa using hne))
  · exact .failure

theorem traitBounds_productive (hb : Productive g.bound) {allowPlus : Bool} :
    Productive (g.traitBounds allowPlus) := Reads.productive_bind (bounds_productive hb)

theorem anyTy_productive (hb : Productive g.bound) {allowPlus : Bool} :
    Productive (g.anyTy allowPlus) := by
  refine Reads.productive_after fun start => ?_
  refine Reads.productive_after fun _ => .ite (fun _ => ?_) fun _ => ?_
  · exact Reads.productive_bind (Reads.productive_bind keyword_productive)
  refine Reads.productive_after fun _ => .ite (fun _ => ?_) fun _ => ?_
  · exact Reads.productive_bind inGroup_productive
  refine Reads.productive_after fun _ => .ite (fun _ => ?_) fun _ => ?_
  · refine Reads.productive_after fun _ => Reads.productive_after fun _ => ?_
    exact Reads.productive_bind keyword_productive
  refine Reads.productive_after fun _ => .ite (fun _ => ?_) fun _ => ?_
  · exact Reads.productive_bind keyword_productive
  refine Reads.productive_after fun _ => .ite (fun _ => inGroup_productive) fun _ => ?_
  refine Reads.productive_after fun _ => .ite (fun _ => ?_) fun _ => ?_
  · exact Reads.productive_bind (op_productive (by simp))
  refine Reads.productive_after fun _ => .ite (fun _ => ?_) fun _ => ?_
  · exact Reads.productive_bind (op_productive (by simp))
  refine Reads.productive_after fun _ => .ite (fun _ => ?_) fun _ => ?_
  · exact Reads.productive_bind (op_productive (by simp))
  refine Reads.productive_after fun _ => .ite (fun _ => ?_) fun _ => ?_
  · exact Reads.productive_bind keyword_productive
  refine Reads.productive_after fun _ => .ite (fun _ => ?_) fun _ => ?_
  · exact Reads.productive_bind keyword_productive
  refine Reads.productive_after fun _ => .ite (fun _ => ?_) fun _ => ?_
  · exact Reads.productive_bind (traitBounds_productive hb)
  · exact Reads.productive_bind typePath_productive

theorem upTo_bound_productive (depth : Nat) : Productive (upTo depth).bound := by
  cases depth with
  | zero => exact .failure
  | succ depth => exact anyBound_productive

theorem upTo_ty_productive (depth : Nat) {allowPlus : Bool} :
    Productive ((upTo depth).ty allowPlus) := by
  cases depth with
  | zero => exact .failure
  | succ depth => exact anyTy_productive (upTo_bound_productive depth)

end Types

/-! ## Fields -/

theorem placed_reads {field : Reader Field} (h : Reads field fun used f => used ≠ [] ∧
      (∀ i s, f.name = some (i, s) → .ident i s ∈ used) ∧
      ∀ a ∈ f.attrs, ∃ part, part <:+: used ∧ a.ReadFrom part) :
    Reads (placed field) fun used f => f.ReadFrom used := by
  refine .bind (.withInput h) fun ⟨f, tokens⟩ used ⟨⟨hne, hname, hattrs⟩, htokens⟩ => .pure ?_
  simp only at htokens
  rw [List.append_nil, htokens]
  refine ⟨?_, hname, hattrs⟩
  obtain ⟨t, ts, rfl⟩ := List.exists_cons_of_ne_nil hne
  rfl

section Items

variable {g : Grammar}

theorem namedField_reads : Reads g.namedField fun used f => f.ReadFrom used := by
  refine placed_reads (.bind attributes_read fun attrs front hattrs => .after fun v vis =>
    .bind identIf_reads fun ⟨i, s⟩ named ⟨hnamed, _⟩ => .after fun _ colon => .after fun t last =>
      .pure ⟨?_, ?_, ?_⟩)
  · simp [hnamed]
  · intro i' s' h
    cases h
    simp [hnamed]
  · intro a ha
    obtain ⟨part, hpart, hread⟩ := hattrs a ha
    exact ⟨part, hpart.trans (List.prefix_append front _).isInfix, hread⟩

theorem unnamedField_reads (hty : Productive (g.ty true)) :
    Reads g.unnamedField fun used f => f.ReadFrom used := by
  refine placed_reads (.bind attributes_read fun attrs front hattrs => .after fun v vis =>
    .bind hty fun t used hne => .pure ⟨?_, ?_, ?_⟩)
  · simp [hne]
  · intro i s h
    cases h
  · intro a ha
    obtain ⟨part, hpart, hread⟩ := hattrs a ha
    exact ⟨part, hpart.trans (List.prefix_append front _).isInfix, hread⟩

theorem fields_read {field : Reader Field} (h : Reads field fun used f => f.ReadFrom used)
    {d : Delim} :
    Reads (inGroup d (sepEnd field comma)) fun used fs => Field.AllReadFrom used d fs.items :=
  (inGroup_reads (.sepEnd h comma_reads)).mono fun used fs ⟨inner, s, hused, hfields⟩ =>
    ⟨inner, s, by simp [hused], hfields⟩

/-! ## Items -/

theorem structBody_reads (hty : Productive (g.ty true)) :
    Reads g.structBody fun used r => r.2.ReadFrom used := by
  refine .after fun _ seen => .ite (fun _ => ?_) fun _ =>
    .after fun _ clause => .after fun _ seen' => .ite (fun _ => ?_) fun _ =>
      .after fun _ _ => .pure trivial
  · refine .bind (fields_read (unnamedField_reads hty)) fun fs used h => .after fun _ clause =>
      .after fun _ last => .pure ?_
    exact h.mono fun t ht => by simp [ht]
  · refine .bind (fields_read namedField_reads) fun fs used h => .pure ?_
    exact h.mono fun t ht => by simp [ht]

theorem structItem_reads (hty : Productive (g.ty true)) {v : Visibility} :
    Reads (g.structItem v) fun used i => i.ReadFrom used := by
  refine .after fun _ front => .bind identIf_reads fun ⟨i, s⟩ named ⟨hnamed, _⟩ =>
    .after fun ps params => .bind (structBody_reads hty) fun ⟨predicates, fields⟩ body hbody =>
      .pure ⟨?_, ?_⟩
  · simp [hnamed]
  · exact hbody.mono fun t ht => by simp [ht]

theorem enumItem_reads {v : Visibility} : Reads (g.enumItem v) fun used i => i.ReadFrom used := by
  refine .bind keyword_reads fun k front hfront =>
    .bind identIf_reads fun ⟨i, s⟩ named ⟨hnamed, _⟩ => .after fun ps params =>
      .after fun _ clause => .after fun _ body => .pure ⟨?_, ?_⟩
  · simp [hnamed]
  · simp [ItemBody.ReadFrom, hfront]

theorem unionItem_reads {v : Visibility} : Reads (g.unionItem v) fun used i => i.ReadFrom used := by
  refine .bind keyword_reads fun k front hfront =>
    .bind identIf_reads fun ⟨i, s⟩ named ⟨hnamed, _⟩ => .after fun ps params =>
      .after fun _ clause => .after fun _ body => .pure ⟨?_, ?_⟩
  · simp [hnamed]
  · simp [ItemBody.ReadFrom, hfront]

theorem anyDefinition_reads (hty : Productive (g.ty true)) :
    Reads g.anyDefinition fun used i => i.ReadFrom used := by
  refine .after fun _ attrs => .after fun v vis => .after fun _ seen => .ite (fun _ => ?_) fun _ =>
    .after fun _ seen' => .ite (fun _ => ?_) fun _ => ?_
  · exact (structItem_reads hty).mono fun _ _ h => h.mono fun t ht => by simp [ht]
  · exact enumItem_reads.mono fun _ _ h => h.mono fun t ht => by simp [ht]
  · exact unionItem_reads.mono fun _ _ h => h.mono fun t ht => by simp [ht]

theorem onlyStruct_reads (hty : Productive (g.ty true)) :
    Reads g.onlyStruct fun used i => i.ReadFrom used :=
  .after fun _ attrs => .after fun v vis =>
    (structItem_reads hty).mono fun _ _ h => h.mono fun t ht => by simp [ht]

end Items

end Grammar

/-! ## Texts -/

/-- What is read from a whole text is read from all its tokens, and these are in order. -/
theorem readText_reads {α : Type} {reader : Grammar → Reader α} {Q : List TokenTree → α → Prop}
    (hreader : ∀ depth, Reads (reader (.upTo depth)) Q) {text : String} {a : α}
    (h : readText reader text = .ok a) :
    ∃ tokens, TokenTree.ofText? text = some tokens ∧ TokenTree.InOrder tokens ∧ Q tokens a := by
  rw [readText] at h
  split at h
  · cases h
  · next tokens htokens =>
      split at h
      · cases h
      · next a' ha =>
          cases h
          exact ⟨tokens, htokens, TokenTree.ofText_inOrder htokens, (hreader _).all? ha⟩

theorem Item.ofText_readFrom {text : String} {i : Item} (h : Item.ofText text = .ok i) :
    ∃ tokens, TokenTree.ofText? text = some tokens ∧ TokenTree.InOrder tokens ∧ i.ReadFrom tokens :=
  readText_reads (fun depth => Grammar.anyDefinition_reads (Grammar.upTo_ty_productive depth)) h

theorem Item.structOfText_readFrom {text : String} {i : Item} (h : Item.structOfText text = .ok i) :
    ∃ tokens, TokenTree.ofText? text = some tokens ∧ TokenTree.InOrder tokens ∧ i.ReadFrom tokens :=
  readText_reads (fun depth => Grammar.onlyStruct_reads (Grammar.upTo_ty_productive depth)) h

end StagedBuilder
