import StagedBuilder.Proofs.Matching
import StagedBuilder.Proofs.MarkerNames

/-!
# The headers of a builder's `impl`s

Every `impl` of a builder has a header of one shape: the struct's own parameters stand first and
are bound, and after them each field either leaves its state open, under the name of its state
parameter, or fixes it to one marker. `Blueprint.Header` is that shape, and the families of
`impl`s differ only in which fields stay open and what the others are fixed to. So matching is
studied once, for the shape.

The state of a builder is written as a function from fields to names (`Blueprint.argsBy`), which
makes "all other states stay untouched" an equation and not a statement about positions.

A header need not mean what it looks like. Where a fixed marker has the name of an open state,
the header binds it, and it stands for the state of another field. `Header.resolve_cases` says
that this is all that can happen to a name: it stands for itself, or for the state of an open
field.
-/

namespace StagedBuilder

namespace Blueprint

variable (b : Blueprint)

/-- The names of the setters as they are written. No struct has two fields of one name, so
wherever there is a struct these are distinct. -/
def setterNames : List String := b.fields.map (·.name.text)

/-- The builder's arguments when each field has the state that a function gives it. -/
def argsBy (σ : BuilderField → String) : BuilderArgs := b.argsWith (b.fields.map σ)

/-- The function with another value for one field. -/
def withValue {α : Type} (f : BuilderField) (a : α) (σ : BuilderField → α) : BuilderField → α :=
  fun g => if g.name.text = f.name.text then a else σ g

/-- The shape of a header: the fields in `isOpen` leave their states open, and `mark` is what
the others are fixed to. -/
structure Header (i : BuilderImpl) (isOpen : BuilderField → Bool)
    (mark : BuilderField → String) : Prop where
  binds : i.head.binds = b.paramNames ++ (b.fields.filter isOpen).map (·.markers.state)
  args : i.args = b.argsBy fun g => if isOpen g then g.markers.state else mark g

variable {b}

theorem field_unique (hn : b.setterNames.Nodup) {f g : BuilderField} (hf : f ∈ b.fields)
    (hg : g ∈ b.fields) (h : f.name.text = g.name.text) : f = g :=
  List.inj_on_of_nodup_map hn hf hg h

theorem position_unique (hn : b.setterNames.Nodup) {f g : BuilderField} {i k : Nat}
    (hi : b.fields[i]? = some f) (hk : b.fields[k]? = some g)
    (h : f.name.text = g.name.text) : i = k := by
  have hlt : i < b.setterNames.length := by
    rw [setterNames, List.length_map]
    exact (List.getElem?_eq_some_iff.mp hi).1
  refine (List.getElem?_inj hlt hn).mp ?_
  rw [setterNames, List.getElem?_map, List.getElem?_map, hi, hk, Option.map_some, Option.map_some,
    h]

theorem withValue_self {α : Type} {f : BuilderField} {a : α} {σ : BuilderField → α} :
    withValue f a σ f = a := if_pos rfl

theorem withValue_of_ne {α : Type} {f g : BuilderField} {a : α} {σ : BuilderField → α}
    (h : g.name.text ≠ f.name.text) : withValue f a σ g = σ g := if_neg h

/-! ## The families -/

theorem params_argument : b.params.map GenericParam.argument = b.paramNames := by
  rw [params, paramNames, List.map_map]
  refine List.map_congr_left fun p _ => ?_
  cases p <;> rfl

theorem headWith_binds (states : List String) :
    (b.headWith states).binds = b.paramNames ++ states := by
  rw [ImplHead.binds, headWith, params_argument]

theorem header_setterImpl (hn : b.setterNames.Nodup) {f : BuilderField} {i : Nat}
    (hi : b.fields[i]? = some f) :
    b.Header (b.setterImpl i f) (fun g => g.name.text ≠ f.name.text)
      (fun _ => f.markers.unset) := by
  refine ⟨?_, ?_⟩
  · show (b.headWith (b.states.eraseIdx i)).binds = _
    rw [headWith_binds, states, eraseIdx_map_key _ hn hi]
  · show b.argsWith (b.states.set i f.markers.unset) = _
    rw [states, set_map_key _ _ hn hi, argsBy]
    congr 1
    refine List.map_congr_left fun g _ => ?_
    by_cases hg : g.name.text = f.name.text <;> simp [hg]

theorem header_buildImpl : b.Header b.buildImpl (·.isOptional) (·.markers.set) :=
  ⟨headWith_binds _, rfl⟩

theorem header_escapeImpl : b.Header b.escapeImpl (fun _ => true) (·.markers.state) := by
  refine ⟨?_, rfl⟩
  show (b.headWith b.states).binds = _
  rw [headWith_binds, List.filter_true, states]

/-- What a setter says it gives: the builder with the field's state fixed to its `Set`. -/
theorem setter_output (hn : b.setterNames.Nodup) {f : BuilderField} {i : Nat}
    (hi : b.fields[i]? = some f) :
    (b.setter i f).output = .builder (b.argsBy (withValue f f.markers.set (·.markers.state))) := by
  show Output.builder (b.argsWith (b.states.set i f.markers.set)) = _
  rw [states, set_map_key _ _ hn hi]
  rfl

/-! ## States as functions -/

theorem argsBy_congr {σ τ : BuilderField → String} (h : ∀ f ∈ b.fields, σ f = τ f) :
    b.argsBy σ = b.argsBy τ := by
  rw [argsBy, argsBy, List.map_congr_left h]

theorem argsBy_resolve {bs : Bindings} {σ : BuilderField → String}
    (h : ∀ n ∈ b.paramNames, bs.resolve n = n) :
    (b.argsBy σ).resolve bs = b.argsBy fun f => bs.resolve (σ f) := by
  rw [BuilderArgs.resolve, argsBy, argsWith, argsBy, argsWith, List.map_map]
  congr 1
  exact (List.map_congr_left h).trans (List.map_id _)

theorem startArgs_eq : b.startArgs = b.argsBy (·.markers.unset) := rfl

/-- The places of two builders' arguments, side by side. -/
theorem mem_places {σ τ : BuilderField → String} {p : String × String} :
    p ∈ (b.argsBy σ).toList.zip (b.argsBy τ).toList ↔
      (∃ n ∈ b.paramNames, p = (n, n)) ∨ ∃ f ∈ b.fields, p = (σ f, τ f) := by
  simp only [argsBy, argsWith, BuilderArgs.toList]
  rw [List.zip_append rfl, List.zip_map', List.zip_eq_zipWith, List.zipWith_self, List.mem_append,
    List.mem_map, List.mem_map]
  constructor
  · rintro (⟨n, hn, rfl⟩ | ⟨f, hf, rfl⟩)
    · exact Or.inl ⟨n, hn, rfl⟩
    · exact Or.inr ⟨f, hf, rfl⟩
  · rintro (⟨n, hn, rfl⟩ | ⟨f, hf, rfl⟩)
    · exact Or.inl ⟨n, hn, rfl⟩
    · exact Or.inr ⟨f, hf, rfl⟩

theorem toList_length (σ τ : BuilderField → String) :
    (b.argsBy σ).toList.length = (b.argsBy τ).toList.length := by
  simp [argsBy, argsWith, BuilderArgs.toList]

/-! ## Matching a header where all places of a name must agree -/

namespace Header

variable {i : BuilderImpl} {isOpen : BuilderField → Bool} {mark σ : BuilderField → String}
  {bs : Bindings}

theorem mem_binds (h : b.Header i isOpen mark) {n : String} :
    n ∈ i.head.binds ↔
      n ∈ b.paramNames ∨ ∃ f ∈ b.fields, isOpen f ∧ f.markers.state = n := by
  rw [h.binds, List.mem_append, List.mem_map]
  simp only [List.mem_filter, and_assoc]

theorem resolve_param (h : b.Header i isOpen mark)
    (hbs : i.bindings? .equal (b.argsBy σ) = some bs) {n : String} (hn : n ∈ b.paramNames) :
    bs.resolve n = n := by
  refine BuilderImpl.resolve_place hbs (p := (n, n)) ?_
  rw [h.args]
  exact mem_places.mpr (Or.inl ⟨n, hn, rfl⟩)

theorem resolve_field (h : b.Header i isOpen mark)
    (hbs : i.bindings? .equal (b.argsBy σ) = some bs) {f : BuilderField} (hf : f ∈ b.fields) :
    bs.resolve (if isOpen f then f.markers.state else mark f) = σ f := by
  refine BuilderImpl.resolve_place hbs
    (p := (if isOpen f then f.markers.state else mark f, σ f)) ?_
  rw [h.args]
  exact mem_places.mpr (Or.inr ⟨f, hf, rfl⟩)

theorem resolve_open (h : b.Header i isOpen mark)
    (hbs : i.bindings? .equal (b.argsBy σ) = some bs) {f : BuilderField} (hf : f ∈ b.fields)
    (ho : isOpen f) : bs.resolve f.markers.state = σ f := by
  have := h.resolve_field hbs hf
  rwa [if_pos ho] at this

theorem resolve_fixed (h : b.Header i isOpen mark)
    (hbs : i.bindings? .equal (b.argsBy σ) = some bs) {f : BuilderField} (hf : f ∈ b.fields)
    (ho : ¬ isOpen f) : bs.resolve (mark f) = σ f := by
  have := h.resolve_field hbs hf
  rwa [if_neg ho] at this

/-- A name stands for itself, or it is the state of an open field and stands for that
field's. -/
theorem resolve_cases (h : b.Header i isOpen mark)
    (hbs : i.bindings? .equal (b.argsBy σ) = some bs) (n : String) :
    bs.resolve n = n ∨
      ∃ f ∈ b.fields, isOpen f ∧ n = f.markers.state ∧ bs.resolve n = σ f := by
  by_cases hb : n ∈ i.head.binds
  · rcases h.mem_binds.mp hb with hn | ⟨f, hf, ho, rfl⟩
    · exact Or.inl (h.resolve_param hbs hn)
    · exact Or.inr ⟨f, hf, ho, rfl, h.resolve_open hbs hf ho⟩
  · exact Or.inl (BuilderImpl.resolve_free hbs hb)

end Header

end Blueprint

end StagedBuilder
