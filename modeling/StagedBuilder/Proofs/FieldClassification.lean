import StagedBuilder.Proofs.FieldOutcomes

/-!
# What makes a field of which kind

The attributes of a field are read in one pass that stops at the first one that is wrong, and
what was read is then compared with the type. Which fault is told depends on the order; whether
there is one does not, nor does what a sound field is read as. Both can be told of the
attributes as a collection: there is at most one `default`, each attribute of the three has
arguments of its form, and `not_null` stands on an `Option` without `default`
(`Field.classify_isOk_iff`). So attributes may change places, those that are only marks may be
repeated, and those of others may come and go (`Field.classification`).

One step of the pass is inverted once (`Directives.adds_of_add`). The run is an induction on the
attributes from the last one back, since a step depends on what stands before it.
-/

namespace StagedBuilder

/-! ## Options -/

/-- Whether the type is an `Option`, named alone or by its path from `std` or `core`, whose one
argument is the type `inner`. -/
def Ty.IsOption (t inner : Ty) : Prop :=
  ∃ absolute segments name colons trailing, t = .path (.plain (.mk absolute segments)) ∧
    segments.map (·.name.text) ∈
      [["Option"], ["std", "option", "Option"], ["core", "option", "Option"]] ∧
    segments.getLast? = some (.mk name (.angle colons [.type inner] trailing))

theorem Ty.optionInner?_eq_some_iff {t inner : Ty} :
    t.optionInner? = some inner ↔ t.IsOption inner := by
  constructor
  · intro h
    obtain ⟨absolute, segments, name, colons, trailing, rfl, hlast⟩ := Ty.optionInner?_eq_some h
    refine ⟨absolute, segments, name, colons, trailing, rfl, ?_, hlast⟩
    by_contra hnames
    rw [Ty.optionInner?, if_neg (by simpa using hnames)] at h
    cases h
  · rintro ⟨absolute, segments, name, colons, trailing, rfl, hnames, hlast⟩
    rw [Ty.optionInner?, if_pos (by simpa using hnames), hlast]

theorem Ty.optionInner?_eq_none_iff {t : Ty} :
    t.optionInner? = none ↔ ∀ inner, ¬ t.IsOption inner := by
  simp only [← Ty.optionInner?_eq_some_iff, Option.eq_none_iff_forall_ne_some, ne_eq]

/-! ## Attributes -/

namespace Attribute

variable {a b : Attribute} {as bs : List Attribute} {name : String}

/-- Whether one of the attributes has this name. -/
def Present (as : List Attribute) (name : String) : Prop := ∃ a ∈ as, a.isNamed name

/-- The value that a `default` attribute gives: what the type has, or what stands in its one
group. -/
inductive Gives (a : Attribute) : Option (List TokenTree) → Prop
  | bare (h : a.args = []) : Gives a none
  | group {inner : List TokenTree} {span : Span} (h : a.args = [.group .paren inner span])
      (hne : inner ≠ []) : Gives a (some inner)

/-- Whether the attributes are written as they have to be: `default` once at most, without
arguments or with one group in parentheses that holds something, and the other two without
arguments. -/
structure WellWritten (as : List Attribute) : Prop where
  once : (as.filter (·.isNamed "default")).length ≤ 1
  default : ∀ a ∈ as, a.isNamed "default" → a.args = [] ∨
    ∃ inner span, inner ≠ [] ∧ a.args = [.group .paren inner span]
  bare : ∀ a ∈ as, a.isNamed "not_null" ∨ a.isNamed "into" → a.args = []

/-- Whether the attribute belongs to somebody else. -/
def IsForeign (a : Attribute) : Prop :=
  ¬ a.isNamed "default" ∧ ¬ a.isNamed "not_null" ∧ ¬ a.isNamed "into"

theorem not_named (h : a.isNamed name) {other : String} (hne : name ≠ other) :
    ¬ a.isNamed other := by
  simp only [isNamed, Bool.and_eq_true, Bool.not_eq_true', beq_iff_eq] at h ⊢
  rintro ⟨-, hother⟩
  rw [h.2] at hother
  exact hne (by simpa [Ident.plain] using hother)

theorem gives_iff : (∃ v, a.Gives v) ↔
    a.args = [] ∨ ∃ inner span, inner ≠ [] ∧ a.args = [.group .paren inner span] := by
  constructor
  · rintro ⟨v, h | ⟨h, hne⟩⟩
    · exact Or.inl h
    · exact Or.inr ⟨_, _, hne, h⟩
  · rintro (h | ⟨inner, span, hne, h⟩)
    · exact ⟨none, .bare h⟩
    · exact ⟨some inner, .group h hne⟩

theorem Gives.unique {v w : Option (List TokenTree)} (hv : a.Gives v) (hw : a.Gives w) : v = w := by
  cases hv with
  | bare h =>
      cases hw with
      | bare _ => rfl
      | group h' _ => rw [h] at h'; cases h'
  | group h _ =>
      cases hw with
      | bare h' => rw [h] at h'; cases h'
      | group h' _ => rw [h] at h'; cases h'; rfl

theorem present_concat : Present (as ++ [a]) name ↔ Present as name ∨ a.isNamed name := by
  simp [Present, or_and_right, exists_or]

theorem wellWritten_concat : WellWritten (as ++ [a]) ↔ WellWritten as ∧
    (a.isNamed "default" → ¬ Present as "default" ∧ ∃ v, a.Gives v) ∧
    (a.isNamed "not_null" ∨ a.isNamed "into" → a.args = []) := by
  have hpresent : ¬ Present as "default" ↔ (as.filter (·.isNamed "default")).length = 0 := by
    simp [Present]
  have hlength : ((as ++ [a]).filter (·.isNamed "default")).length =
      (as.filter (·.isNamed "default")).length + if a.isNamed "default" then 1 else 0 := by
    rw [List.filter_append, List.length_append, List.filter_singleton]
    split <;> simp [*]
  constructor
  · rintro ⟨honce, hdefault, hbare⟩
    rw [hlength] at honce
    refine ⟨⟨by omega, fun b hb => hdefault b (by simp [hb]), fun b hb => hbare b (by simp [hb])⟩,
      fun ha => ⟨?_, gives_iff.mpr (hdefault a (by simp) ha)⟩, hbare a (by simp)⟩
    rw [if_pos ha] at honce
    rw [hpresent]
    omega
  · rintro ⟨⟨honce, hdefault, hbare⟩, ha, hargs⟩
    refine ⟨?_, fun b hb hname => ?_, fun b hb hname => ?_⟩
    · rw [hlength]
      split
      · next h =>
          have := hpresent.mp (ha h).1
          omega
      · omega
    · rcases List.mem_append.mp hb with hb | hb
      · exact hdefault b hb hname
      · obtain rfl := List.mem_singleton.mp hb
        exact gives_iff.mp (ha hname).2
    · rcases List.mem_append.mp hb with hb | hb
      · exact hbare b hb hname
      · obtain rfl := List.mem_singleton.mp hb
        exact hargs hname

theorem present_cons : Present (a :: as) name ↔ a.isNamed name ∨ Present as name := by
  simp [Present]

end Attribute

/-! ## The pass over the attributes -/

namespace Directives

open Attribute

variable {d d' : Directives} {a : Attribute} {attrs : List Attribute}

/-- What one attribute can do. -/
inductive Adds (d : Directives) (a : Attribute) : Directives → Prop
  | default {v : Option (List TokenTree)} (ha : a.isNamed "default") (hd : d.initial = .none)
      (hv : a.Gives v) : Adds d a { d with initial := some v }
  | notNull (ha : a.isNamed "not_null") (hargs : a.args = []) :
      Adds d a { d with notNull := some a.span }
  | into (ha : a.isNamed "into") (hargs : a.args = []) : Adds d a { d with into := true }
  | foreign (ha : a.IsForeign) : Adds d a d

theorem defaultValue_eq_ok_iff {v : Option (List TokenTree)} :
    defaultValue a = .ok v ↔ a.Gives v := by
  constructor
  · intro h
    rw [defaultValue.eq_def] at h
    split at h
    · next hargs => cases h; exact .bare hargs
    · cases h
    · next inner span hne hargs => cases h; exact .group hargs hne
    · cases h
  · rintro (hargs | ⟨hargs, hne⟩)
    · rw [defaultValue, hargs]
    · rw [defaultValue, hargs]
      split
      · next he => cases he
      · next he => cases he; exact absurd rfl hne
      · next he => cases he; rfl
      · next hother => exact absurd rfl (hother _ _)

theorem expectBare_eq_ok_iff {name : String} {u : Unit} :
    expectBare a name = .ok u ↔ a.args = [] := by
  rw [expectBare]
  split
  · next h => simpa using h
  · next h => simpa using h

theorem map_eq_ok_iff {ε α β : Type} {x : Except ε α} {f : α → β} {y : β} :
    x.map f = .ok y ↔ ∃ v, x = .ok v ∧ f v = y := by
  cases x <;> simp [Except.map]

/-- All that one attribute can have done. -/
theorem adds_of_add (h : d.add a = .ok d') : Adds d a d' := by
  rw [add] at h
  split at h
  · next ha =>
      split at h
      · cases h
      · next hd =>
          obtain ⟨v, hv, rfl⟩ := map_eq_ok_iff.mp h
          exact .default ha (by simpa using hd) (defaultValue_eq_ok_iff.mp hv)
  · next hd =>
      split at h
      · next ha =>
          obtain ⟨u, hu, rfl⟩ := map_eq_ok_iff.mp h
          exact .notNull ha (expectBare_eq_ok_iff.mp hu)
      · next hn =>
          split at h
          · next ha =>
              obtain ⟨u, hu, rfl⟩ := map_eq_ok_iff.mp h
              exact .into ha (expectBare_eq_ok_iff.mp hu)
          · next hi =>
              cases h
              exact .foreign ⟨hd, hn, hi⟩

theorem add_of_adds (h : Adds d a d') : d.add a = .ok d' := by
  cases h with
  | default ha hd hv =>
      rw [add, if_pos ha, hd, if_neg (by simp), map_eq_ok_iff]
      exact ⟨_, defaultValue_eq_ok_iff.mpr hv, rfl⟩
  | notNull ha hargs =>
      rw [add, if_neg (not_named ha (by decide)), if_pos ha, map_eq_ok_iff]
      exact ⟨(), expectBare_eq_ok_iff.mpr hargs, rfl⟩
  | into ha hargs =>
      rw [add, if_neg (not_named ha (by decide)), if_neg (not_named ha (by decide)), if_pos ha,
        map_eq_ok_iff]
      exact ⟨(), expectBare_eq_ok_iff.mpr hargs, rfl⟩
  | foreign ha => rw [add, if_neg ha.1, if_neg ha.2.1, if_neg ha.2.2]

/-- Whether this is what the attributes ask for, in whatever order they stand. -/
structure AskedBy (attrs : List Attribute) (d : Directives) : Prop where
  initial : ∀ v, d.initial = some v ↔ ∃ a ∈ attrs, a.isNamed "default" ∧ a.Gives v
  notNull : d.notNull.isSome ↔ Present attrs "not_null"
  into : d.into ↔ Present attrs "into"

theorem ofAttributes_concat :
    ofAttributes (attrs ++ [a]) = (ofAttributes attrs).bind fun d => d.add a := by
  rw [ofAttributes, List.foldlM_append]
  simp only [List.foldlM_cons, List.foldlM_nil, bind_pure]
  rfl

theorem ofAttributes_concat_eq_ok : ofAttributes (attrs ++ [a]) = .ok d' ↔
    ∃ d, ofAttributes attrs = .ok d ∧ Adds d a d' := by
  rw [ofAttributes_concat]
  constructor
  · intro h
    obtain ⟨d, hd, h⟩ := except_bind_eq_ok h
    exact ⟨d, hd, adds_of_add h⟩
  · rintro ⟨d, hd, h⟩
    rw [hd]
    exact add_of_adds h

theorem AskedBy.initial_eq_none_iff (h : AskedBy attrs d) (hw : WellWritten attrs) :
    d.initial = .none ↔ ¬ Present attrs "default" := by
  rw [Option.eq_none_iff_forall_ne_some]
  constructor
  · rintro hnone ⟨b, hb, hname⟩
    obtain ⟨v, hv⟩ := gives_iff.mpr (hw.default b hb hname)
    exact hnone v ((h.initial v).mpr ⟨b, hb, hname, hv⟩)
  · rintro hnone v hv
    obtain ⟨b, hb, hname, -⟩ := (h.initial v).mp hv
    exact hnone ⟨b, hb, hname⟩

/-- What one attribute adds is what it asks for. -/
theorem AskedBy.concat (h : AskedBy attrs d) (hw : WellWritten attrs) (ha : Adds d a d') :
    WellWritten (attrs ++ [a]) ∧ AskedBy (attrs ++ [a]) d' := by
  -- An attribute that is no `default` leaves the value that is given as it was.
  have hvalue (hn : ¬ a.isNamed "default") (v : Option (List TokenTree)) :
      (∃ b ∈ attrs ++ [a], b.isNamed "default" ∧ b.Gives v) ↔ d.initial = some v := by
    rw [h.initial]
    simp [or_and_right, exists_or, hn]
  cases ha with
  | default ha hd hv =>
      have hnone := (h.initial_eq_none_iff hw).mp hd
      refine ⟨wellWritten_concat.mpr ⟨hw, fun _ => ⟨hnone, _, hv⟩, ?_⟩, fun w => ?_, ?_, ?_⟩
      · rintro (hn | hn)
        · exact absurd hn (not_named ha (by decide))
        · exact absurd hn (not_named ha (by decide))
      · constructor
        · intro hw
          cases hw
          exact ⟨a, by simp, ha, hv⟩
        · rintro ⟨b, hb, hname, hgives⟩
          rcases List.mem_append.mp hb with hb | hb
          · exact absurd ⟨b, hb, hname⟩ hnone
          · obtain rfl := List.mem_singleton.mp hb
            rw [hv.unique hgives]
      · rw [present_concat, h.notNull, or_iff_left (not_named ha (by decide))]
      · rw [present_concat, h.into, or_iff_left (not_named ha (by decide))]
  | notNull ha hargs =>
      have hn : ¬ a.isNamed "default" := not_named ha (by decide)
      refine ⟨wellWritten_concat.mpr ⟨hw, fun hd => absurd hd hn, fun _ => hargs⟩,
        fun v => (hvalue hn v).symm, ?_, ?_⟩
      · simp [present_concat, ha]
      · rw [present_concat, h.into, or_iff_left (not_named ha (by decide))]
  | into ha hargs =>
      have hn : ¬ a.isNamed "default" := not_named ha (by decide)
      refine ⟨wellWritten_concat.mpr ⟨hw, fun hd => absurd hd hn, fun _ => hargs⟩,
        fun v => (hvalue hn v).symm, ?_, ?_⟩
      · rw [present_concat, h.notNull, or_iff_left (not_named ha (by decide))]
      · simp [present_concat, ha]
  | foreign ha =>
      refine ⟨wellWritten_concat.mpr ⟨hw, fun hd => absurd hd ha.1, ?_⟩,
        fun v => (hvalue ha.1 v).symm, ?_, ?_⟩
      · rintro (hn | hn)
        · exact absurd hn ha.2.1
        · exact absurd hn ha.2.2
      · rw [present_concat, h.notNull, or_iff_left ha.2.1]
      · rw [present_concat, h.into, or_iff_left ha.2.2]

theorem askedBy_nil : AskedBy [] Directives.none :=
  ⟨by simp [none], by simp [none, Present], by simp [none, Present]⟩

/-- A pass that ends well has found every attribute well written, and what it gives is what
they ask for together. -/
theorem asked_of_ofAttributes (h : ofAttributes attrs = .ok d) :
    WellWritten attrs ∧ AskedBy attrs d := by
  induction attrs using List.reverseRecOn generalizing d with
  | nil =>
      cases h
      exact ⟨⟨by simp, by simp, by simp⟩, askedBy_nil⟩
  | append_singleton attrs a ih =>
      obtain ⟨s, hs, ha⟩ := ofAttributes_concat_eq_ok.mp h
      obtain ⟨hw, hasked⟩ := ih hs
      exact hasked.concat hw ha

/-- Where every attribute is well written the pass ends well. -/
theorem ofAttributes_of_wellWritten (h : WellWritten attrs) : ∃ d, ofAttributes attrs = .ok d := by
  induction attrs using List.reverseRecOn with
  | nil => exact ⟨_, rfl⟩
  | append_singleton attrs a ih =>
      obtain ⟨hw, hdefault, hbare⟩ := wellWritten_concat.mp h
      obtain ⟨d, hd⟩ := ih hw
      obtain ⟨-, hasked⟩ := asked_of_ofAttributes hd
      by_cases ha : a.isNamed "default"
      · obtain ⟨hnone, v, hv⟩ := hdefault ha
        have hinitial := (hasked.initial_eq_none_iff hw).mpr hnone
        exact ⟨_, ofAttributes_concat_eq_ok.mpr ⟨d, hd, .default ha hinitial hv⟩⟩
      · by_cases hn : a.isNamed "not_null"
        · exact ⟨_, ofAttributes_concat_eq_ok.mpr ⟨d, hd, .notNull hn (hbare (Or.inl hn))⟩⟩
        · by_cases hi : a.isNamed "into"
          · exact ⟨_, ofAttributes_concat_eq_ok.mpr ⟨d, hd, .into hi (hbare (Or.inr hi))⟩⟩
          · exact ⟨_, ofAttributes_concat_eq_ok.mpr ⟨d, hd, .foreign ⟨ha, hn, hi⟩⟩⟩

end Directives

/-! ## Kinds -/

namespace Directives

variable {d d' : Directives} {ty : Ty} {kind : Kind}

/-- What a field of a type can be, by what is asked for. -/
inductive Makes (d : Directives) (ty : Ty) : Kind → Prop
  | defaulted {v : Option (List TokenTree)} (hd : d.initial = some v) (hn : d.notNull = .none) :
      Makes d ty (.defaulted v)
  | notNull {inner : Ty} (hd : d.initial = .none) (hn : d.notNull.isSome) (h : ty.IsOption inner) :
      Makes d ty (.notNull inner)
  | nullable {inner : Ty} (hd : d.initial = .none) (hn : d.notNull = .none)
      (h : ty.IsOption inner) : Makes d ty (.nullable inner)
  | required (hd : d.initial = .none) (hn : d.notNull = .none) (h : ∀ inner, ¬ ty.IsOption inner) :
      Makes d ty .required

theorem makes_of_kind (h : d.kind ty = .ok kind) : Makes d ty kind := by
  rw [Directives.kind] at h
  split at h
  · cases h
  · next hn hd ho =>
      cases h
      exact .notNull hd (by simp [hn]) (Ty.optionInner?_eq_some_iff.mp ho)
  · cases h
  · next hn hd =>
      cases h
      exact .defaulted hd hn
  · next hn hd ho =>
      cases h
      exact .nullable hd hn (Ty.optionInner?_eq_some_iff.mp ho)
  · next hn hd ho =>
      cases h
      exact .required hd hn (Ty.optionInner?_eq_none_iff.mp ho)

theorem kind_isOk_iff : (∃ kind, d.kind ty = .ok kind) ↔
    (d.notNull.isSome → d.initial = .none ∧ ∃ inner, ty.IsOption inner) := by
  simp only [← Ty.optionInner?_eq_some_iff]
  rw [Directives.kind]
  split <;> simp [*]

/-- The place of a `not_null` matters to what is told of it only. -/
theorem kind_congr (hd : d.initial = d'.initial) (hn : d.notNull.isSome = d'.notNull.isSome) :
    (d.kind ty).toOption = (d'.kind ty).toOption := by
  rw [Directives.kind, Directives.kind, ← hd]
  cases hs : d.notNull with
  | none =>
      have hs' : d'.notNull = .none := by simpa [hs] using hn.symm
      rw [hs']
  | some s =>
      obtain ⟨s', hs'⟩ : ∃ s', d'.notNull = some s' := by
        rw [← Option.isSome_iff_exists, ← hn, hs]
        rfl
      rw [hs']
      cases d.initial <;> cases ty.optionInner? <;> rfl

end Directives

/-! ## Fields -/

namespace Attribute

variable {as bs : List Attribute}

/-- Whether two collections of attributes differ only in their order, in how often a mark is
repeated, and in attributes that belong to others. -/
inductive Alike : List Attribute → List Attribute → Prop
  | perm {as bs : List Attribute} (h : as.Perm bs) : Alike as bs
  | repeated {as : List Attribute} {a b : Attribute} (name : String)
      (hname : name = "not_null" ∨ name = "into") (ha : a ∈ as) (hna : a.isNamed name)
      (hnb : b.isNamed name) (hargs : b.args = [] ↔ a.args = []) : Alike as (b :: as)
  | foreign {as : List Attribute} {a : Attribute} (h : a.IsForeign) : Alike as (a :: as)
  | symm {as bs : List Attribute} (h : Alike as bs) : Alike bs as
  | trans {as bs cs : List Attribute} (h : Alike as bs) (h' : Alike bs cs) : Alike as cs

/-- Whether two collections of attributes ask for the same things. -/
structure AskAlike (as bs : List Attribute) : Prop where
  wellWritten : WellWritten as ↔ WellWritten bs
  value : ∀ v, (∃ a ∈ as, a.isNamed "default" ∧ a.Gives v) ↔
    ∃ b ∈ bs, b.isNamed "default" ∧ b.Gives v
  notNull : Present as "not_null" ↔ Present bs "not_null"
  into : Present as "into" ↔ Present bs "into"

theorem WellWritten.perm (h : as.Perm bs) (hw : WellWritten as) : WellWritten bs :=
  ⟨(h.filter _).length_eq ▸ hw.once, fun a ha => hw.default a (h.mem_iff.mpr ha),
    fun a ha => hw.bare a (h.mem_iff.mpr ha)⟩

theorem wellWritten_cons {a : Attribute} (hn : ¬ a.isNamed "default")
    (hargs : WellWritten as → a.isNamed "not_null" ∨ a.isNamed "into" → a.args = []) :
    WellWritten as ↔ WellWritten (a :: as) := by
  have hperm : (as ++ [a]).Perm (a :: as) := List.perm_append_singleton a as
  constructor
  · intro hw
    exact (wellWritten_concat.mpr ⟨hw, fun h => absurd h hn, hargs hw⟩).perm hperm
  · intro hw
    exact (wellWritten_concat.mp (hw.perm hperm.symm)).1

theorem Alike.askAlike (h : Alike as bs) : AskAlike as bs := by
  induction h with
  | perm h =>
      refine ⟨⟨WellWritten.perm h, WellWritten.perm h.symm⟩, fun v => ?_, ?_, ?_⟩ <;>
        simp only [Present, h.mem_iff]
  | @repeated as a b name hname ha hna hnb hargs =>
      have hn : ¬ b.isNamed "default" := by
        rcases hname with rfl | rfl <;> exact not_named hnb (by decide)
      have hpresent (other : String) : Present as other ↔ Present (b :: as) other := by
        rw [present_cons]
        refine ⟨Or.inr, fun h => h.elim (fun hb => ?_) id⟩
        by_cases he : name = other
        · exact ⟨a, ha, he ▸ hna⟩
        · exact absurd hb (not_named hnb he)
      refine ⟨wellWritten_cons hn fun hw _ => hargs.mpr (hw.bare a ha ?_), fun v => by simp [hn],
        hpresent _, hpresent _⟩
      rcases hname with rfl | rfl
      · exact Or.inl hna
      · exact Or.inr hna
  | foreign h =>
      refine ⟨wellWritten_cons h.1 fun _ hn => absurd hn (not_or.mpr h.2), fun v => by simp [h.1],
        ?_, ?_⟩
      · rw [present_cons, or_iff_right h.2.1]
      · rw [present_cons, or_iff_right h.2.2]
  | symm _ ih =>
      exact ⟨ih.wellWritten.symm, fun v => (ih.value v).symm, ih.notNull.symm, ih.into.symm⟩
  | trans _ _ ih ih' =>
      exact ⟨ih.wellWritten.trans ih'.wellWritten, fun v => (ih.value v).trans (ih'.value v),
        ih.notNull.trans ih'.notNull, ih.into.trans ih'.into⟩

end Attribute

namespace Field

open Attribute Directives

variable {self : Ty} {f : Field} {name : Ident} {span : Span} {spec : FieldSpec}

/-- Whether nothing is wrong with a field of this name by itself. -/
structure Acceptable (own : Ty) (f : Field) (name : Ident) : Prop where
  unreserved : name.name ∉ reservedNames
  attrs : WellWritten f.attrs
  notNull : Present f.attrs "not_null" →
    ¬ Present f.attrs "default" ∧ ∃ inner, (Ty.replaceSelf own f.ty).IsOption inner

/-- What a field is read as: of which kind it is, and the values and types that come with it. -/
structure ReadAs (own : Ty) (f : Field) (spec : FieldSpec) : Prop where
  name : f.name = some (spec.name, spec.nameSpan)
  ty : spec.ty = Ty.replaceSelf own f.ty
  defaulted : (∃ v, spec.kind = .defaulted v) ↔ Present f.attrs "default"
  notNull : (∃ inner, spec.kind = .notNull inner) ↔
    ¬ Present f.attrs "default" ∧ Present f.attrs "not_null"
  nullable : (∃ inner, spec.kind = .nullable inner) ↔
    ¬ Present f.attrs "default" ∧ ¬ Present f.attrs "not_null" ∧ ∃ inner, spec.ty.IsOption inner
  required : spec.kind = .required ↔ ¬ Present f.attrs "default" ∧ ¬ Present f.attrs "not_null" ∧
    ¬ ∃ inner, spec.ty.IsOption inner
  value : ∀ v, spec.kind = .defaulted v → ∃ a ∈ f.attrs, a.isNamed "default" ∧ a.Gives v
  inner : ∀ inner, spec.kind = .notNull inner ∨ spec.kind = .nullable inner →
    spec.ty.IsOption inner
  into : spec.into ↔ Present f.attrs "into"

theorem classify_eq (hname : f.name = some (name, span)) (hres : name.name ∉ reservedNames) :
    f.classify self = (ofAttributes f.attrs).bind fun d =>
      (d.kind (Ty.replaceSelf self f.ty)).map fun kind =>
        ⟨name, span, Ty.replaceSelf self f.ty, kind, d.into⟩ := by
  rw [classify, hname]
  dsimp only
  rw [if_neg (by simpa using hres)]
  cases ofAttributes f.attrs with
  | error e => rfl
  | ok d =>
      show (d.kind (Ty.replaceSelf self f.ty) >>= fun kind => _) = Except.map _ _
      cases d.kind (Ty.replaceSelf self f.ty) <;> rfl

theorem classify_isOk_iff (hname : f.name = some (name, span)) :
    (∃ spec, f.classify self = .ok spec) ↔ f.Acceptable self name := by
  constructor
  · rintro ⟨spec, h⟩
    obtain ⟨hn, hres, hty, d, hd, hkind, -⟩ := classify_ok h
    rw [hname, Option.some.injEq, Prod.mk.injEq] at hn
    obtain ⟨hw, hasked⟩ := asked_of_ofAttributes hd
    refine ⟨hn.1 ▸ hres, hw, fun hpresent => ?_⟩
    obtain ⟨hnone, inner, hinner⟩ :=
      kind_isOk_iff.mp ⟨_, hkind⟩ (hasked.notNull.mpr hpresent)
    exact ⟨(hasked.initial_eq_none_iff hw).mp hnone, inner, hty ▸ hinner⟩
  · rintro ⟨hres, hw, hnotNull⟩
    obtain ⟨d, hd⟩ := ofAttributes_of_wellWritten hw
    obtain ⟨-, hasked⟩ := asked_of_ofAttributes hd
    obtain ⟨kind, hkind⟩ : ∃ kind, d.kind (Ty.replaceSelf self f.ty) = .ok kind := by
      refine kind_isOk_iff.mpr fun hn => ?_
      obtain ⟨hnone, hinner⟩ := hnotNull (hasked.notNull.mp hn)
      exact ⟨(hasked.initial_eq_none_iff hw).mpr hnone, hinner⟩
    rw [classify_eq hname hres, hd]
    simp [Except.bind, hkind, Except.map]

theorem readAs_of_classify (h : f.classify self = .ok spec) : f.ReadAs self spec := by
  obtain ⟨hname, hres, hty, d, hd, hkind, hinto⟩ := classify_ok h
  obtain ⟨hw, hasked⟩ := asked_of_ofAttributes hd
  have hdefault : Present f.attrs "default" ↔ ¬ d.initial = .none :=
    not_iff_not.mp (by rw [not_not, hasked.initial_eq_none_iff hw])
  have hnotNull := hasked.notNull.symm
  obtain ⟨name, span, ty, kind, into⟩ := spec
  cases makes_of_kind hkind with
  | @defaulted v hd hn =>
      have hvalue := (hasked.initial v).mp hd
      refine ⟨hname, hty, ?_, ?_, ?_, ?_, ?_, ?_, hinto ▸ hasked.into⟩ <;>
        simp [hdefault, hd, hvalue]
  | @notNull inner hd hn ho =>
      refine ⟨hname, hty, ?_, ?_, ?_, ?_, ?_, ?_, hinto ▸ hasked.into⟩ <;>
        simp [hdefault, hnotNull, hd, hn, ho]
  | @nullable inner hd hn ho =>
      have hex : ∃ inner, ty.IsOption inner := ⟨inner, ho⟩
      refine ⟨hname, hty, ?_, ?_, ?_, ?_, ?_, ?_, hinto ▸ hasked.into⟩ <;>
        simp [hdefault, hnotNull, hd, hn, ho, hex]
  | required hd hn ho =>
      refine ⟨hname, hty, ?_, ?_, ?_, ?_, ?_, ?_, hinto ▸ hasked.into⟩ <;>
        simp [hdefault, hnotNull, hd, hn, ho]

/-- What attributes ask for together does not depend on how they are put. -/
theorem ofAttributes_alike {as bs : List Attribute} (h : Alike as bs) {d d' : Directives}
    (hd : ofAttributes as = .ok d) (hd' : ofAttributes bs = .ok d') :
    d.initial = d'.initial ∧ d.notNull.isSome = d'.notNull.isSome ∧ d.into = d'.into := by
  have halike := h.askAlike
  obtain ⟨-, hasked⟩ := asked_of_ofAttributes hd
  obtain ⟨-, hasked'⟩ := asked_of_ofAttributes hd'
  refine ⟨Option.ext fun v => ?_, Bool.eq_iff_iff.mpr ?_, Bool.eq_iff_iff.mpr ?_⟩
  · rw [hasked.initial, hasked'.initial, halike.value]
  · rw [hasked.notNull, hasked'.notNull, halike.notNull]
  · rw [hasked.into, hasked'.into, halike.into]

variable {g : Field}

theorem classify_reserved_toOption (hname : f.name = some (name, span))
    (hres : name.name ∈ reservedNames) : (f.classify self).toOption = .none := by
  rw [classify, hname]
  dsimp only
  rw [if_pos (by simpa using hres)]
  rfl

theorem classify_illWritten_toOption (hname : f.name = some (name, span))
    (hres : name.name ∉ reservedNames) (hw : ¬ WellWritten f.attrs) :
    (f.classify self).toOption = .none := by
  rw [classify_eq hname hres]
  cases hd : ofAttributes f.attrs with
  | error e => rfl
  | ok d => exact absurd (asked_of_ofAttributes hd).1 hw

theorem classify_alike (hname : g.name = f.name) (hty : g.ty = f.ty)
    (h : Alike f.attrs g.attrs) : (g.classify self).toOption = (f.classify self).toOption := by
  cases hf : f.name with
  | none =>
      rw [classify, classify, hname, hf]
      rfl
  | some n =>
      obtain ⟨name, span⟩ := n
      rw [hf] at hname
      by_cases hres : name.name ∈ reservedNames
      · rw [classify_reserved_toOption hf hres, classify_reserved_toOption hname hres]
      by_cases hw : WellWritten f.attrs
      · obtain ⟨d, hd⟩ := ofAttributes_of_wellWritten hw
        obtain ⟨d', hd'⟩ := ofAttributes_of_wellWritten (h.askAlike.wellWritten.mp hw)
        obtain ⟨hinitial, hnotNull, hinto⟩ := ofAttributes_alike h hd hd'
        have hkind : (d.kind (Ty.replaceSelf self f.ty)).toOption = _ :=
          kind_congr hinitial hnotNull
        rw [classify_eq hf hres, classify_eq hname hres, hd, hd', hty]
        simp only [Except.bind, hinto]
        cases hk : d.kind (Ty.replaceSelf self f.ty) <;>
          cases hk' : d'.kind (Ty.replaceSelf self f.ty) <;>
          simp_all [Except.map, Except.toOption]
      · rw [classify_illWritten_toOption hf hres hw,
          classify_illWritten_toOption hname hres (mt h.askAlike.wellWritten.mpr hw)]

/-- Whether a field's markers can be written is asked only of what it is read as. -/
theorem verdict_congr (h : (g.classify self).toOption = (f.classify self).toOption) :
    (g.verdict self).sound? = (f.verdict self).sound? ∧
      (g.verdict self).unwritable? = (f.verdict self).unwritable? := by
  rw [verdict, verdict]
  cases hg : g.classify self <;> cases hf : f.classify self <;>
    simp only [hg, hf, Except.toOption, Option.some.injEq, reduceCtorEq] at h
  · exact ⟨rfl, rfl⟩
  · rw [h]
    exact ⟨rfl, rfl⟩

/-- A field of a name is sound just if its name is free, its attributes are well written, and
`not_null` stands without `default` on an `Option`. What it is read as is told by which
attributes are there and by its type. So attributes may be put in another order, marks
repeated, and attributes of others added or taken away. -/
theorem classification (self : Ty) (hname : f.name = some (name, span)) :
    ((∃ spec, f.classify self = .ok spec) ↔ f.Acceptable self name) ∧
      (∀ spec, f.classify self = .ok spec → f.ReadAs self spec) ∧
      ∀ g : Field, g.name = f.name → g.ty = f.ty → Alike f.attrs g.attrs →
        (g.classify self).toOption = (f.classify self).toOption ∧
          (g.verdict self).sound? = (f.verdict self).sound? ∧
          (g.verdict self).unwritable? = (f.verdict self).unwritable? := by
  refine ⟨classify_isOk_iff hname, fun spec => readAs_of_classify, fun g hg hty halike => ?_⟩
  have hsame : (g.classify self).toOption = _ := classify_alike hg hty halike
  exact ⟨hsame, verdict_congr hsame⟩

/-- A field whose `Self` is an `Option`, with both marks and an attribute of somebody else, and
the same field with the marks in another order, one of them twice, and without the other
attribute. -/
theorem classification_marks :
    let self := Ty.applied "Option" (.named "u8")
    let f := Field.of [.bare "into", .call "doc" [], .bare "not_null"] "pet" (.ofIdent .self)
    let g := Field.of [.bare "not_null", .bare "into", .bare "not_null"] "pet" (.ofIdent .self)
    f.Acceptable self (.plain "pet") ∧
      ∃ spec, f.classify self = .ok spec ∧ (∃ inner, spec.kind = .notNull inner) ∧ spec.into ∧
        (g.classify self).toOption = some spec := by
  intro self f g
  have hname : f.name = some (.plain "pet", .nowhere) := rfl
  obtain ⟨haccepted, hread, halike⟩ := classification self hname
  have hinto : Present f.attrs "into" := ⟨.bare "into", by simp [f, Field.of], by decide⟩
  have hnotNull : Present f.attrs "not_null" := ⟨.bare "not_null", by simp [f, Field.of], by decide⟩
  have hdefault : ¬ Present f.attrs "default" := by
    rintro ⟨a, ha, hn⟩
    simp only [f, Field.of, List.mem_cons, List.not_mem_nil, or_false] at ha
    rcases ha with rfl | rfl | rfl <;> exact absurd hn (by decide)
  have hf : f.Acceptable self (.plain "pet") := by
    refine ⟨by decide, ⟨by decide, fun a ha hn => absurd ⟨a, ha, hn⟩ hdefault, fun a ha hn => ?_⟩,
      fun _ => ⟨hdefault, .named "u8", false,
        [.mk (.plain "Option") (.angle false [.type (.named "u8")] false)], .plain "Option", false,
        false, rfl, by decide, rfl⟩⟩
    simp only [f, Field.of, List.mem_cons, List.not_mem_nil, or_false] at ha
    rcases ha with rfl | rfl | rfl
    · rfl
    · exact absurd hn (by decide)
    · rfl
  obtain ⟨spec, hspec⟩ := haccepted.mpr hf
  have hkinds := hread spec hspec
  refine ⟨hf, spec, hspec, hkinds.notNull.mpr ⟨hdefault, hnotNull⟩, hkinds.into.mpr hinto, ?_⟩
  have hperm : Alike f.attrs [.call "doc" [], .bare "into", .bare "not_null"] :=
    .perm (List.Perm.swap ..)
  have hdropped : Alike [.call "doc" [], .bare "into", .bare "not_null"]
      [.bare "into", .bare "not_null"] :=
    .symm (.foreign ⟨by decide, by decide, by decide⟩)
  have hrepeated : Alike [.bare "into", .bare "not_null"] g.attrs :=
    .trans (.repeated "not_null" (Or.inl rfl) (by simp) (by decide) (by decide) Iff.rfl)
      (.perm (.refl _))
  rw [(halike g rfl rfl ((hperm.trans hdropped).trans hrepeated)).1, hspec]
  rfl

end Field

end StagedBuilder
