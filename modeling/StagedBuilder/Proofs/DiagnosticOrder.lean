import StagedBuilder.Proofs.ReadPlaces
import StagedBuilder.Proofs.FieldClassification
import StagedBuilder.Builder.Blueprint

/-!
# Diagnostics stand at their own field, in order

Whatever is wrong with a field is shown inside that field: at its name, at one of its
attributes or the arguments of one, or at all of it. As commas part the fields, what is told of
a struct's fields is told from the first place in the text to the last, and no two diagnostics
overlap.
-/

namespace StagedBuilder

open StagedBuilder.Parser

/-! ## The fields of a struct -/

namespace Field

variable {tokens inner : List TokenTree} {fields : List Field} {d : Delim}

theorem listed_apart (h : Listed Field.ReadFrom (fun separator => ∃ t, separator = [t] ∧ t.IsComma)
      inner fields) (ho : TokenTree.InOrder inner) :
    (∀ f ∈ fields, ∃ part, part.Sublist inner ∧ f.ReadFrom part) ∧
      fields.Pairwise fun f g => f.span.Precedes g.span := by
  induction h with
  | nil => exact ⟨by simp, .nil⟩
  | @last used f hf =>
      refine ⟨fun g hg => ?_, List.pairwise_singleton _ _⟩
      rw [List.mem_singleton.mp hg]
      exact ⟨used, List.Sublist.refl used, hf⟩
  | @cons used separator rest f fields hf hs _ ih =>
      obtain ⟨comma, rfl, hcomma⟩ := hs
      obtain ⟨hparts, hapart⟩ := ih ho.of_append_right
      refine ⟨fun g hg => ?_, .cons (fun g hg => ?_) hapart⟩
      · rcases List.mem_cons.mp hg with rfl | hg
        · rw [List.append_assoc]
          exact ⟨used, List.sublist_append_left _ _, hf⟩
        · obtain ⟨part, hpart, hread⟩ := hparts g hg
          exact ⟨part, hpart.trans (List.sublist_append_right _ _), hread⟩
      · obtain ⟨part, hpart, hread⟩ := hparts g hg
        exact ho.precedes_of_comma hcomma hf.span ⟨part, hpart.subset, hread.span⟩

/-- The fields of a struct have their tokens in order, one field behind the other. -/
theorem AllReadFrom.apart (h : AllReadFrom tokens d fields) (ho : TokenTree.InOrder tokens) :
    (∀ f ∈ fields, ∃ part, TokenTree.InOrder part ∧ f.ReadFrom part) ∧
      fields.Pairwise fun f g => f.span.Precedes g.span := by
  obtain ⟨inner, s, hgroup, hlisted⟩ := h
  have hinner : TokenTree.InOrder inner := (ho.placed _ hgroup).fills.toInOrder
  obtain ⟨hparts, hapart⟩ := listed_apart hlisted hinner
  refine ⟨fun f hf => ?_, hapart⟩
  obtain ⟨part, hpart, hread⟩ := hparts f hf
  exact ⟨part, hinner.sublist hpart, hread⟩

end Field

/-! ## One field -/

/-- The places of an attribute that a diagnostic can be about: all of it, or its arguments. -/
def Attribute.Points (a : Attribute) (s : Span) : Prop :=
  s = a.span ∨ TokenTree.spanOf a.args = some s

namespace Directives

variable {d d' : Directives} {a : Attribute} {attrs : List Attribute} {e : Diagnostic}

theorem map_eq_error_iff {ε α β : Type} {x : Except ε α} {f : α → β} {e : ε} :
    x.map f = .error e ↔ x = .error e := by
  cases x <;> simp [Except.map]

theorem argsSpan_points (h : a.args ≠ []) : a.Points a.argsSpan := by
  obtain ⟨t, ts, hargs⟩ := List.exists_cons_of_ne_nil h
  right
  rw [Attribute.argsSpan, hargs]
  rfl

theorem defaultValue_points (h : defaultValue a = .error e) : a.Points e.span := by
  rw [defaultValue.eq_def] at h
  split at h
  · cases h
  · next s hargs =>
      cases h
      right
      rw [hargs]
      rfl
  · cases h
  · next hnil _ _ =>
      cases h
      exact argsSpan_points hnil

theorem expectBare_points {name : String} (h : expectBare a name = .error e) : a.Points e.span := by
  rw [expectBare] at h
  split at h
  · cases h
  · next hne =>
      cases h
      exact argsSpan_points (by simpa using hne)

theorem add_points (h : d.add a = .error e) : a.Points e.span := by
  rw [add] at h
  split at h
  · split at h
    · cases h
      exact .inl rfl
    · exact defaultValue_points (map_eq_error_iff.mp h)
  · split at h
    · exact expectBare_points (map_eq_error_iff.mp h)
    · split at h
      · exact expectBare_points (map_eq_error_iff.mp h)
      · cases h

theorem ofAttributes_points (h : ofAttributes attrs = .error e) : ∃ a ∈ attrs, a.Points e.span := by
  induction attrs using List.reverseRecOn with
  | nil => cases h
  | append_singleton attrs a ih =>
      rw [ofAttributes_concat] at h
      rcases except_bind_eq_error h with h | ⟨d, -, h⟩
      · obtain ⟨b, hb, hpoints⟩ := ih h
        exact ⟨b, List.mem_append_left _ hb, hpoints⟩
      · exact ⟨a, List.mem_append_right _ (List.mem_singleton_self a), add_points h⟩

theorem ofAttributes_notNull {s : Span} (h : ofAttributes attrs = .ok d) (hs : d.notNull = some s) :
    ∃ a ∈ attrs, a.span = s := by
  induction attrs using List.reverseRecOn generalizing d with
  | nil =>
      cases h
      cases hs
  | append_singleton attrs a ih =>
      obtain ⟨d', hd', ha⟩ := ofAttributes_concat_eq_ok.mp h
      have hbefore (hs : d'.notNull = some s) : ∃ b ∈ attrs ++ [a], b.span = s := by
        obtain ⟨b, hb, hspan⟩ := ih hd' hs
        exact ⟨b, List.mem_append_left _ hb, hspan⟩
      cases ha with
      | notNull _ _ => exact ⟨a, by simp, Option.some.inj hs⟩
      | default _ _ _ => exact hbefore hs
      | into _ _ => exact hbefore hs
      | foreign _ => exact hbefore hs

theorem kind_points {ty : Ty} (h : d.kind ty = .error e) : d.notNull = some e.span := by
  rw [kind.eq_def] at h
  split at h <;> cases h <;> assumption

end Directives

namespace Field

variable {self : Ty} {f : Field} {part : List TokenTree} {e : Diagnostic} {spec : FieldSpec}

theorem classify_points (h : f.classify self = .error e) :
    e.span = f.span ∨ (∃ i, f.name = some (i, e.span)) ∨ ∃ a ∈ f.attrs, a.Points e.span := by
  rw [classify.eq_def] at h
  split at h
  · cases h
    exact .inl rfl
  · next name span hname =>
      split at h
      · cases h
        exact .inr (.inl ⟨name, hname⟩)
      · right
        right
        rcases except_bind_eq_error h with h | ⟨directives, hd, h⟩
        · exact Directives.ofAttributes_points h
        · rcases except_bind_eq_error h with h | ⟨kind, -, h⟩
          · obtain ⟨a, ha, hspan⟩ := Directives.ofAttributes_notNull hd (Directives.kind_points h)
            exact ⟨a, ha, .inl hspan.symm⟩
          · cases h

theorem ReadFrom.name_within (h : f.ReadFrom part) (ho : TokenTree.InOrder part) {i : Ident}
    {s : Span} (hname : f.name = some (i, s)) : s.Proper ∧ s.Within f.span :=
  ⟨(ho.placed _ (h.name i s hname)).proper, (ho.spanOf_bounds h.span).2 _ (h.name i s hname)⟩

theorem ReadFrom.attribute_within (h : f.ReadFrom part) (ho : TokenTree.InOrder part)
    {a : Attribute} {s : Span} (ha : a ∈ f.attrs) (hs : a.Points s) :
    s.Proper ∧ s.Within f.span := by
  obtain ⟨tokens, htokens, joint, mark, inner, brackets, rfl, hargs, hspan⟩ := h.attrs a ha
  have hattr := ho.sublist htokens.sublist
  have hfield : ∀ t ∈ [TokenTree.punct '#' joint mark, .group .bracket inner brackets],
      t.span.Within f.span := fun t ht => (ho.spanOf_bounds h.span).2 t (htokens.subset ht)
  rcases hs with rfl | hs
  · have hall : TokenTree.spanOf [.punct '#' joint mark, .group .bracket inner brackets] =
        some a.span := congrArg some hspan.symm
    exact ⟨(hattr.spanOf_bounds hall).1, TokenTree.spanOf_within hall hfield⟩
  · have hgroup : TokenTree.Fills brackets inner := (hattr.placed (.group .bracket inner brackets)
      (by simp)).fills
    refine ⟨((hgroup.toInOrder.sublist hargs.sublist).spanOf_bounds hs).1, ?_⟩
    refine TokenTree.spanOf_within hs fun t ht => (hgroup.within t (hargs.subset ht)).trans ?_
    exact hfield (.group .bracket inner brackets) (by simp)

theorem ReadFrom.classify_within (h : f.ReadFrom part) (ho : TokenTree.InOrder part)
    (he : f.classify self = .error e) : e.span.Proper ∧ e.span.Within f.span := by
  rcases classify_points he with hspan | ⟨i, hname⟩ | ⟨a, ha, hpoints⟩
  · rw [hspan]
    exact ⟨(ho.spanOf_bounds h.span).1, .refl f.span⟩
  · exact h.name_within ho hname
  · exact h.attribute_within ho ha hpoints

theorem ReadFrom.clash_within {specs : List FieldSpec} (h : f.ReadFrom part)
    (ho : TokenTree.InOrder part) (hc : f.classify self = .ok spec)
    (he : pointerClash specs spec = some e) : e.span.Proper ∧ e.span.Within f.span := by
  obtain ⟨target, -, rfl⟩ := Option.map_eq_some_iff.mp he
  exact h.name_within ho (classify_ok hc).1

end Field

/-! ## All fields -/

/-- Whether a diagnostic is about this one of the fields: the first thing that is wrong with it
by itself, or the clash of its setter with the pointer method of some field. -/
def Diagnostic.About (self : Ty) (fields : List Field) (f : Field) (d : Diagnostic) : Prop :=
  f.classify self = .error d ∨
    ∃ spec, f.classify self = .ok spec ∧ pointerClash (soundFields self fields) spec = some d

/-- What is told of some fields is told of each at most once, in their order, and at a place
inside it. -/
structure ToldInOrder (self : Ty) (fields : List Field) (ds : List Diagnostic) : Prop where
  own : ∃ told, told.Sublist fields ∧ List.Forall₂ (fun f (d : Diagnostic) =>
    d.About self fields f ∧ d.span.Proper ∧ d.span.Within f.span) told ds
  disjoint : ds.Pairwise fun d e => d.span.Precedes e.span
  increasing : ds.Pairwise fun d e => d.span.start.before e.span.start

section Fields

variable {self : Ty} {fields : List Field} {ds : List Diagnostic}

theorem classify_of_diagnostic? {f : Field} {d : Diagnostic}
    (h : (f.verdict self).diagnostic? = some d) : f.classify self = .error d := by
  rw [Field.verdict] at h
  split at h
  · next d' hd =>
      cases h
      exact hd
  · split at h <;> cases h

theorem mapM_written_ne_faults {fs : List BuilderField} :
    fs.mapM BuilderField.written ≠ .error (.faults ds) := by
  induction fs with
  | nil => intro h; cases h
  | cons f fs ih =>
      intro h
      rw [List.mapM_cons] at h
      rcases except_bind_eq_error h with h | ⟨g, -, h⟩
      · rw [BuilderField.written] at h
        split at h <;> cases h
      · rcases except_bind_eq_error h with h | ⟨gs, -, h⟩
        · exact ih h
        · cases h

/-- What is told of fields is what each of them answers to one question, in their order. -/
theorem exists_asked (h : builderFields self fields = .error (.faults ds)) :
    ∃ ask : Field → Option Diagnostic, ds = fields.filterMap ask ∧
      ∀ f d, ask f = some d → d.About self fields f := by
  -- Either faults were found and each field is asked for its own, or every field is sound by itself
  -- and is asked for a clash.
  cases hread : readFields self [] [] fields with
  | error r =>
      rw [builderFields_of_refused hread] at h
      cases h
      refine ⟨fun f => (f.verdict self).diagnostic?, ?_,
        fun f d hd => .inl (classify_of_diagnostic? hd)⟩
      cases hm : firstUnwritable? self fields with
      | some marker =>
          rw [readFields_unwritable hm] at hread
          cases hread
      | none =>
          rw [readFields_writable hm] at hread
          split at hread <;> cases hread
          rfl
  | ok specs =>
      obtain rfl := readFields_ok hread
      rw [builderFields_of_read hread] at h
      refine ⟨fun f => (f.verdict self).sound?.bind (pointerClash (soundFields self fields)),
        ?_, ?_⟩
      · rcases except_bind_eq_error h with h | ⟨-, -, h⟩
        · rw [checkPointers] at h
          split at h <;> cases h
          exact List.filterMap_filterMap
        · exact absurd h mapM_written_ne_faults
      · intro f d hd
        obtain ⟨spec, hspec, hclash⟩ := Option.bind_eq_some_iff.mp hd
        exact .inr ⟨spec, Field.classify_of_sound? hspec, hclash⟩

theorem Diagnostic.About.within {f : Field} {d : Diagnostic} {part : List TokenTree}
    (hd : d.About self fields f) (hf : f.ReadFrom part) (ho : TokenTree.InOrder part) :
    d.span.Proper ∧ d.span.Within f.span := by
  rcases hd with he | ⟨spec, hc, he⟩
  · exact hf.classify_within ho he
  · exact hf.clash_within ho hc he

theorem forall₂_filterMap {α β : Type} {as : List α} {f : α → Option β} {P : α → β → Prop}
    (h : ∀ a ∈ as, ∀ b, f a = some b → P a b) :
    ∃ told, told.Sublist as ∧ List.Forall₂ P told (as.filterMap f) := by
  induction as with
  | nil => exact ⟨[], .slnil, .nil⟩
  | cons a as ih =>
      obtain ⟨told, hsub, hall⟩ := ih fun a' ha' => h a' (List.mem_cons_of_mem a ha')
      cases hb : f a with
      | none =>
          rw [List.filterMap_cons_none hb]
          exact ⟨told, hsub.cons a, hall⟩
      | some b =>
          rw [List.filterMap_cons_some hb]
          exact ⟨a :: told, hsub.cons_cons a, .cons (h a List.mem_cons_self b hb) hall⟩

/-- What is told of fields that stand in a text is told in the order of the text. -/
theorem toldInOrder {tokens : List TokenTree} {d : Delim} (ho : TokenTree.InOrder tokens)
    (hread : Field.AllReadFrom tokens d fields)
    (h : builderFields self fields = .error (.faults ds)) : ToldInOrder self fields ds := by
  obtain ⟨hparts, hapart⟩ := hread.apart ho
  obtain ⟨ask, rfl, hask⟩ := exists_asked h
  have hwithin : ∀ f ∈ fields, ∀ d, ask f = some d → d.About self fields f ∧ d.span.Proper ∧
      d.span.Within f.span := by
    intro f hf d hd
    obtain ⟨part, hpart, hfrom⟩ := hparts f hf
    exact ⟨hask f d hd, (hask f d hd).within hfrom hpart⟩
  have hdisjoint : (fields.filterMap ask).Pairwise fun d e =>
      d.span.Proper ∧ d.span.Precedes e.span := by
    rw [List.pairwise_filterMap]
    refine hapart.imp_of_mem fun hf hg hfg d hd e he => ?_
    obtain ⟨-, hproper, hd⟩ := hwithin _ hf d hd
    exact ⟨hproper, hfg.within hd (hwithin _ hg e he).2.2⟩
  refine ⟨forall₂_filterMap hwithin, hdisjoint.imp fun h => h.2, hdisjoint.imp fun h => ?_⟩
  exact Pos.lt_iff_before.mp (lt_of_lt_of_le h.1 h.2)

end Fields

/-! ## Items -/

/-- What is told of an item: of an enum or a union at its keyword, of a struct without field
names at its own name, and of any other struct at its fields. -/
def Item.ToldInOrder (i : Item) (ds : List Diagnostic) : Prop :=
  match i.body with
  | .ofStruct (.named fields) => StagedBuilder.ToldInOrder i.selfTy fields ds
  | .ofStruct _ => ∃ d, ds = [d] ∧ d.span = i.nameSpan ∧ d.span.Proper
  | .ofEnum keyword | .ofUnion keyword => ∃ d, ds = [d] ∧ d.span = keyword ∧ d.span.Proper

theorem Item.toldInOrder {item : Item} {tokens : List TokenTree} {ds : List Diagnostic}
    (ho : TokenTree.InOrder tokens) (hread : item.ReadFrom tokens)
    (h : item.blueprint = .error (.faults ds)) : item.ToldInOrder ds := by
  have hbody := hread.body
  rw [Item.ToldInOrder]
  rw [blueprint] at h
  cases hi : item.body with
  | ofEnum keyword =>
      rw [hi] at h hbody
      cases h
      exact ⟨_, rfl, rfl, (ho.placed _ hbody).proper⟩
  | ofUnion keyword =>
      rw [hi] at h hbody
      cases h
      exact ⟨_, rfl, rfl, (ho.placed _ hbody).proper⟩
  | ofStruct fields =>
      rw [hi] at h hbody
      cases fields with
      | unnamed fs =>
          cases h
          exact ⟨_, rfl, rfl, (ho.placed _ hread.name).proper⟩
      | unit =>
          cases h
          exact ⟨_, rfl, rfl, (ho.placed _ hread.name).proper⟩
      | named fs => exact StagedBuilder.toldInOrder ho hbody (Directives.map_eq_error_iff.mp h)

/-- Every diagnostic stands at tokens of the field that it is about, or at the name or the
keyword of the item. So those of one text do not overlap, and they are told in its order. -/
theorem diagnostics_in_order :
    (∀ text item ds, Item.ofText text = .ok item → item.blueprint = .error (.faults ds) →
      ∃ tokens, TokenTree.ofText? text = some tokens ∧ item.ReadFrom tokens ∧ item.ToldInOrder ds) ∧
    ∀ text item fields self ds, Item.structOfText text = .ok item → item.body = .ofStruct fields →
      builderFields self fields.toList = .error (.faults ds) →
      ∃ tokens, TokenTree.ofText? text = some tokens ∧ item.ReadFrom tokens ∧
        ToldInOrder self fields.toList ds := by
  constructor
  · intro text item ds ht h
    obtain ⟨tokens, htokens, ho, hread⟩ := Item.ofText_readFrom ht
    exact ⟨tokens, htokens, hread, Item.toldInOrder ho hread h⟩
  · intro text item fields self ds ht hbody h
    obtain ⟨tokens, htokens, ho, hread⟩ := Item.structOfText_readFrom ht
    refine ⟨tokens, htokens, hread, ?_⟩
    have hfields := hread.body
    rw [hbody] at hfields
    cases fields with
    | named fs => exact toldInOrder ho hfields h
    | unnamed fs => exact toldInOrder ho hfields h
    | unit => cases h

/-- A struct whose fields have something wrong with them at every kind of place. -/
def faultyText : String :=
  "struct A \x7b\n build: u8,\n /// doc\n #[default] #[default(1)] b: u8,\n ok: u8,\n" ++
    " #[into(x y)] c: u8,\n #[default()] d: u8, #[not_null] e: u8 \x7d"

def clashingText : String := "struct P \x7b a: u8, ptr_a: u8,\n ptr_b: u8, b: u8 \x7d"

def tupleText : String := "struct T(#[a] u8, pub [u8; 2]);"

def faultSpans? {α : Type} : Except Rejection α → Option (List Span)
  | .error (.faults ds) => some (ds.map Diagnostic.span)
  | _ => none

theorem faultSpans?_eq_some {α : Type} {r : Except Rejection α} {spans : List Span}
    (h : faultSpans? r = some spans) :
    ∃ ds, r = .error (.faults ds) ∧ ds.map Diagnostic.span = spans := by
  rw [faultSpans?.eq_def] at h
  split at h
  · exact ⟨_, rfl, Option.some.inj h⟩
  · cases h

theorem diagnostics_in_order_mixed :
    (∃ item ds, Item.ofText faultyText = .ok item ∧ item.blueprint = .error (.faults ds) ∧
      ds.map Diagnostic.span = [⟨⟨2, 1⟩, ⟨2, 6⟩⟩, ⟨⟨4, 12⟩, ⟨4, 25⟩⟩, ⟨⟨6, 7⟩, ⟨6, 12⟩⟩,
        ⟨⟨7, 10⟩, ⟨7, 12⟩⟩, ⟨⟨7, 21⟩, ⟨7, 32⟩⟩] ∧ item.ToldInOrder ds) ∧
    (∃ item ds, Item.ofText clashingText = .ok item ∧ item.blueprint = .error (.faults ds) ∧
      ds.map Diagnostic.span = [⟨⟨1, 18⟩, ⟨1, 23⟩⟩, ⟨⟨2, 1⟩, ⟨2, 6⟩⟩] ∧ item.ToldInOrder ds) ∧
    ∃ item fields ds, Item.structOfText tupleText = .ok item ∧ item.body = .ofStruct fields ∧
      builderFields item.selfTy fields.toList = .error (.faults ds) ∧
      ds.map Diagnostic.span = [⟨⟨1, 9⟩, ⟨1, 16⟩⟩, ⟨⟨1, 18⟩, ⟨1, 29⟩⟩] ∧
      ToldInOrder item.selfTy fields.toList ds := by
  have hderive : ∀ text spans,
      ((Item.ofText text).toOption.bind fun i => faultSpans? i.blueprint) = some spans →
      ∃ item ds, Item.ofText text = .ok item ∧ item.blueprint = .error (.faults ds) ∧
        ds.map Diagnostic.span = spans ∧ item.ToldInOrder ds := by
    intro text spans h
    obtain ⟨item, hitem, h⟩ := Option.bind_eq_some_iff.mp h
    obtain ⟨ds, hds, hspans⟩ := faultSpans?_eq_some h
    have ht := except_eq_ok_of_toOption hitem
    obtain ⟨-, -, -, htold⟩ := diagnostics_in_order.1 text item ds ht hds
    exact ⟨item, ds, ht, hds, hspans, htold⟩
  have htuple : ((Item.structOfText tupleText).toOption.bind fun i =>
      match i.body with
      | .ofStruct fields => faultSpans? (builderFields i.selfTy fields.toList)
      | _ => none) = some [⟨⟨1, 9⟩, ⟨1, 16⟩⟩, ⟨⟨1, 18⟩, ⟨1, 29⟩⟩] := by decide +kernel
  refine ⟨hderive _ _ (by decide +kernel), hderive _ _ (by decide +kernel), ?_⟩
  obtain ⟨item, hitem, h⟩ := Option.bind_eq_some_iff.mp htuple
  split at h
  · next fields hbody =>
      obtain ⟨ds, hds, hspans⟩ := faultSpans?_eq_some h
      have ht := except_eq_ok_of_toOption hitem
      obtain ⟨-, -, -, htold⟩ :=
        diagnostics_in_order.2 tupleText item fields item.selfTy ds ht hbody hds
      exact ⟨item, fields, ds, ht, hbody, hds, hspans, htold⟩
  · cases h

end StagedBuilder
