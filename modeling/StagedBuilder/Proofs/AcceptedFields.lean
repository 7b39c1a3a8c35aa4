import StagedBuilder.Builder.Blueprint
import StagedBuilder.Proofs.FieldReading
import StagedBuilder.Proofs.MarkerNames

/-!
# What is known of accepted fields

A blueprint exists only for fields that passed every check. Three of the checks matter to all
that comes later, and they are gathered here once: the markers are the assigned ones, no setter
has the name of one of the builder's own methods, and none has the name of a pointer method.
-/

namespace StagedBuilder

/-- What the checks promise of a struct's fields. -/
structure Accepted (fields : List BuilderField) : Prop where
  markers : fields.map (·.markers) = assignMarkers (fields.map (·.name.name))
  unreserved : ∀ f ∈ fields, f.name.name ∉ reservedNames
  unclashing : ∀ f ∈ fields, ∀ g ∈ fields, pointerName g.name.name ≠ f.name.name

namespace Accepted

variable {fields : List BuilderField}

theorem apart (h : Accepted fields) : Markers.Apart (fields.map (·.markers)) := by
  rw [h.markers]
  exact assignMarkers_apart _

theorem states_nodup (h : Accepted fields) : (fields.map (·.markers.state)).Nodup := by
  have := h.apart.states
  rwa [List.map_map] at this

theorem sets_nodup (h : Accepted fields) : (fields.map (·.markers.set)).Nodup := by
  have := h.apart.sets
  rwa [List.map_map] at this

theorem unsets_nodup (h : Accepted fields) : (fields.map (·.markers.unset)).Nodup := by
  have := h.apart.unsets
  rwa [List.map_map] at this

end Accepted

namespace FieldSpec

/-- Whether a field has no value before its setter is called. -/
def isRequired (f : FieldSpec) : Bool :=
  match f.kind with
  | .required | .notNull _ => true
  | .nullable _ | .defaulted _ => false

theorem isOptional_eq {f : FieldSpec} : f.isOptional = !f.isRequired := by
  rw [isRequired, isOptional]
  cases f.kind <;> rfl

theorem isRequired_iff {f : FieldSpec} : f.isRequired ↔ ¬ f.isOptional := by
  rw [isOptional_eq]
  simp

end FieldSpec

/-! ## Fields with their markers -/

theorem assignMarkers_length (names : List String) :
    (assignMarkers names).length = names.length := by
  rw [assignMarkers, List.length_map]
  generalize 0 = index
  generalize ([] : List String) = seen
  induction names generalizing index seen with
  | nil => rfl
  | cons name names ih => rw [markerBases, List.length_cons, ih, List.length_cons]

theorem withMarkers_specs (specs : List FieldSpec) :
    (withMarkers specs).map (·.toFieldSpec) = specs := by
  have hlen : specs.length ≤ (assignMarkers (specs.map (·.name.name))).length := by
    rw [assignMarkers_length, List.length_map]
  rw [withMarkers, List.map_zipWith, ← List.map_uncurry_zip_eq_zipWith]
  exact List.map_fst_zip hlen

theorem withMarkers_markers (specs : List FieldSpec) :
    (withMarkers specs).map (·.markers) = assignMarkers (specs.map (·.name.name)) := by
  have hlen : (assignMarkers (specs.map (·.name.name))).length ≤ specs.length := by
    rw [assignMarkers_length, List.length_map]
  rw [withMarkers, List.map_zipWith, ← List.map_uncurry_zip_eq_zipWith]
  exact List.map_snd_zip hlen

theorem withMarkers_names (specs : List FieldSpec) :
    (withMarkers specs).map (·.name.name) = specs.map (·.name.name) := by
  conv => rhs; rw [← withMarkers_specs specs, List.map_map]
  rfl

theorem toFieldSpec_mem {specs : List FieldSpec} {f : BuilderField} (h : f ∈ withMarkers specs) :
    f.toFieldSpec ∈ specs := by
  rw [← withMarkers_specs specs]
  exact List.mem_map_of_mem h

/-! ## The checks -/

theorem pointerClashes_eq_nil {specs : List FieldSpec} (h : pointerClashes specs = [])
    {f g : FieldSpec} (hf : f ∈ specs) (hg : g ∈ specs) :
    pointerName g.name.name ≠ f.name.name := by
  have hnone := List.filterMap_eq_nil_iff.mp h f hf
  rw [pointerClash, Option.map_eq_none_iff, List.find?_eq_none] at hnone
  simpa using hnone g hg

/-- All that is known of a field that passes its own checks. -/
theorem Field.classify_ok {self : Ty} {f : Field} {spec : FieldSpec}
    (h : f.classify self = .ok spec) :
    f.name = some (spec.name, spec.nameSpan) ∧ spec.name.name ∉ reservedNames ∧
      spec.ty = Ty.replaceSelf self f.ty ∧
      ∃ directives, Directives.ofAttributes f.attrs = .ok directives ∧
        directives.kind spec.ty = .ok spec.kind ∧ spec.into = directives.into := by
  rw [Field.classify] at h
  split at h
  · cases h
  · next name span hname =>
      split at h
      · cases h
      · next hres =>
          obtain ⟨directives, hdirectives, h⟩ := except_bind_eq_ok h
          obtain ⟨kind, hkind, h⟩ := except_bind_eq_ok h
          injection h with h
          subst h
          exact ⟨hname, by simpa using hres, rfl, directives, hdirectives, hkind, rfl⟩

/-- An `Option` is a path whose last name has one argument, a type. -/
theorem Ty.optionInner?_eq_some {t inner : Ty} (h : t.optionInner? = some inner) :
    ∃ absolute segments name colons trailing, t = .path (.plain (.mk absolute segments)) ∧
      segments.getLast? = some (.mk name (.angle colons [.type inner] trailing)) := by
  rw [Ty.optionInner?.eq_def] at h
  split at h
  · next absolute segments =>
      split at h
      · split at h
        · next name colons held trailing hlast =>
            obtain rfl := Option.some.inj h
            exact ⟨absolute, segments, name, colons, trailing, rfl, hlast⟩
        · cases h
      · cases h
  · cases h

theorem Directives.kind_inner {d : Directives} {ty : Ty} {kind : Kind}
    (h : d.kind ty = .ok kind) {inner : Ty} (hk : kind = .notNull inner ∨ kind = .nullable inner) :
    ty.optionInner? = some inner := by
  rw [Directives.kind] at h
  split at h
  · cases h
  · next hinner =>
      cases h
      rcases hk with hk | hk
      · exact Kind.notNull.inj hk ▸ hinner
      · cases hk
  · cases h
  · cases h
    rcases hk with hk | hk <;> cases hk
  · next hinner =>
      cases h
      rcases hk with hk | hk
      · cases hk
      · exact Kind.nullable.inj hk ▸ hinner
  · cases h
    rcases hk with hk | hk <;> cases hk

/-- A setter takes its field's type, or what that holds if it is an `Option`. -/
theorem Field.setterTy_cases {self : Ty} {f : Field} {spec : FieldSpec}
    (h : f.classify self = .ok spec) :
    spec.setterTy = spec.ty ∨ spec.ty.optionInner? = some spec.setterTy := by
  obtain ⟨-, -, -, directives, -, hkind, -⟩ := Field.classify_ok h
  rw [FieldSpec.setterTy]
  split
  · next inner hk => exact Or.inr (Directives.kind_inner hkind (Or.inl hk))
  · next inner hk => exact Or.inr (Directives.kind_inner hkind (Or.inr hk))
  · exact Or.inl rfl
  · exact Or.inl rfl

theorem Field.verdict_sound {self : Ty} {f : Field} {spec : FieldSpec}
    (h : f.verdict self = .sound spec) : f.classify self = .ok spec := by
  rw [Field.verdict] at h
  split at h
  · cases h
  · next spec' hc =>
      split at h
      · cases h
      · rw [hc, Verdict.sound.inj h]

theorem Field.classify_of_sound? {self : Ty} {f : Field} {spec : FieldSpec}
    (h : (f.verdict self).sound? = some spec) : f.classify self = .ok spec := by
  cases hv : f.verdict self with
  | sound spec' =>
      rw [hv, Verdict.sound?, Option.some.injEq] at h
      exact h ▸ Field.verdict_sound hv
  | faulty d => rw [hv] at h; cases h
  | unwritable m => rw [hv] at h; cases h

theorem mem_soundFields {self : Ty} {fields : List Field} {spec : FieldSpec}
    (h : spec ∈ soundFields self fields) : ∃ f ∈ fields, f.classify self = .ok spec := by
  obtain ⟨f, hf, hs⟩ := List.mem_filterMap.mp h
  exact ⟨f, hf, Field.classify_of_sound? hs⟩

theorem forall₂_soundFields {self : Ty} {fields : List Field}
    (h : ∀ f ∈ fields, (f.verdict self).sound?.isSome) :
    List.Forall₂ (fun f spec => f.classify self = .ok spec) fields (soundFields self fields) := by
  induction fields with
  | nil => exact .nil
  | cons f fields ih =>
      obtain ⟨hf, hfields⟩ := List.forall_mem_cons.mp h
      obtain ⟨spec, hs⟩ := Option.isSome_iff_exists.mp hf
      rw [soundFields, List.filterMap_cons, hs]
      exact .cons (Field.classify_of_sound? hs) (ih hfields)

/-- The fields of a builder are those that are sound by themselves, and no two of them clash. -/
theorem builderFields_ok {self : Ty} {fields : List Field} {fs : List BuilderField}
    (h : builderFields self fields = .ok fs) :
    pointerClashes (soundFields self fields) = [] ∧ withMarkers (soundFields self fields) = fs := by
  obtain ⟨specs, hread, h⟩ := except_bind_eq_ok h
  obtain ⟨u, hcheck, h⟩ := except_bind_eq_ok h
  obtain rfl := readFields_ok hread
  exact ⟨checkPointers_ok hcheck, (mapM_written_ok h).symm⟩

/-- Each field of a builder is what the struct's field in its place is read as. -/
theorem builderFields_classified {self : Ty} {fields : List Field} {fs : List BuilderField}
    (h : builderFields self fields = .ok fs) :
    List.Forall₂ (fun field f => field.classify self = .ok f.toFieldSpec) fields fs := by
  obtain ⟨specs, hread, -⟩ := except_bind_eq_ok h
  obtain ⟨-, rfl⟩ := builderFields_ok h
  have hsound := forall₂_soundFields (readFields_all_sound hread)
  rwa [← withMarkers_specs (soundFields self fields), List.forall₂_map_right_iff] at hsound

theorem exists_classify {self : Ty} {fields : List Field} {fs : List BuilderField}
    (h : builderFields self fields = .ok fs) {f : BuilderField} (hf : f ∈ fs) :
    ∃ field ∈ fields, field.classify self = .ok f.toFieldSpec := by
  obtain ⟨-, rfl⟩ := builderFields_ok h
  exact mem_soundFields (toFieldSpec_mem hf)

theorem accepted_of_builderFields {self : Ty} {fields : List Field} {fs : List BuilderField}
    (h : builderFields self fields = .ok fs) : Accepted fs := by
  have hclassify := fun f (hf : f ∈ fs) => exists_classify h hf
  obtain ⟨hclash, rfl⟩ := builderFields_ok h
  refine ⟨?_, ?_, ?_⟩
  · rw [withMarkers_markers, withMarkers_names]
  · intro f hf
    obtain ⟨field, -, hc⟩ := hclassify f hf
    exact (Field.classify_ok hc).2.1
  · intro f hf g hg
    exact pointerClashes_eq_nil hclash (toFieldSpec_mem hf) (toFieldSpec_mem hg)

/-- A blueprint exists for a struct whose fields have names, and holds what these fields come
to. -/
theorem Item.blueprint_fields {i : Item} {b : Blueprint} (h : i.blueprint = .ok b) :
    ∃ fields, i.body = .ofStruct (.named fields) ∧
      builderFields i.selfTy fields = .ok b.fields := by
  rw [Item.blueprint] at h
  split at h
  · cases h
  · cases h
  · cases h
  · cases h
  · next fields hbody =>
      cases hfs : builderFields i.selfTy fields with
      | error r => rw [hfs] at h; cases h
      | ok fs =>
          rw [hfs] at h
          cases h
          exact ⟨fields, hbody, hfs⟩

theorem Item.blueprint_accepted {i : Item} {b : Blueprint} (h : i.blueprint = .ok b) :
    Accepted b.fields := by
  obtain ⟨fields, -, hfs⟩ := Item.blueprint_fields h
  exact accepted_of_builderFields hfs

/-- What is computed of an item's blueprint is true of one that exists. -/
theorem Item.exists_blueprint {α : Type} {i : Item} {view : Blueprint → α} {a : α}
    (h : i.blueprint.toOption.map view = some a) : ∃ b, i.blueprint = .ok b ∧ view b = a := by
  cases hb : i.blueprint with
  | error r => rw [hb] at h; cases h
  | ok b =>
      rw [hb] at h
      exact ⟨b, rfl, Option.some.inj h⟩

end StagedBuilder
