import StagedBuilder.Proofs.FieldOutcomes

/-!
# Which field gets which marker

The markers are given out in one pass that remembers the camel case names it has met. What a
field gets can be told without the pass (`markerBases_getElem?`): its camel case name as it is,
if that is not empty and no field before it has the same, and otherwise that name with the
field's position behind it.

Fields that are sound by themselves are always given markers, whatever their names are and
however often one name is repeated. That the plain markers of each field can be written is all
that is known of such names here, and it is enough: what is put behind a base is harmless.
-/

namespace StagedBuilder

/-! ## Bases by position -/

theorem upperCamel_ne_positioned (name base : String) (n : Nat) :
    base ++ "_" ++ toString n ≠ upperCamel name := by
  intro he
  refine underscore_not_mem_upperCamel name ?_
  rw [← he]
  exact underscore_mem_positioned base n

/-- The base of the field at a position, where the pass began at `index` with `seen`. -/
theorem markerBases_getElem? {index : Nat} {seen names : List String} {i : Nat} {name : String}
    (h : names[i]? = some name) :
    (markerBases index seen names)[i]? =
      some (if upperCamel name = "" ∨ upperCamel name ∈ seen ++ (names.take i).map upperCamel
        then upperCamel name ++ "_" ++ toString (index + i)
        else upperCamel name) := by
  induction names generalizing index seen i with
  | nil => cases h
  | cons first names ih =>
      rw [markerBases]
      cases i with
      | zero =>
          rw [List.getElem?_cons_zero, Option.some.injEq] at h
          subst h
          simp
      | succ j =>
          rw [List.getElem?_cons_succ] at h
          rw [List.getElem?_cons_succ, ih h, show index + 1 + j = index + (j + 1) by omega]
          -- The first name is among those seen from here on, or among those before this one.
          have hseen : upperCamel name ∈ upperCamel first :: seen ++ (names.take j).map upperCamel ↔
              upperCamel name ∈ seen ++ ((first :: names).take (j + 1)).map upperCamel := by
            rw [List.take_succ_cons, List.map_cons]
            exact List.perm_middle.symm.mem_iff
          simp only [hseen]

/-! ## Fields that are sound by themselves -/

section Sound

variable {self : Ty} {fields : List Field} (h : ∀ f ∈ fields, (f.verdict self).sound?.isSome)

include h

theorem soundFields_names :
    (soundFields self fields).map (fun spec => some (spec.name, spec.nameSpan)) =
      fields.map (·.name) := by
  rw [← List.forall₂_eq_eq_eq, List.forall₂_map_left_iff, List.forall₂_map_right_iff]
  exact (forall₂_soundFields h).flip.imp fun spec f hc => (Field.classify_ok hc).1.symm

theorem firstUnwritable?_of_sound : firstUnwritable? self fields = none := by
  rw [firstUnwritable?, List.findSome?_eq_none_iff]
  intro f hf
  have hs := h f hf
  cases hv : f.verdict self with
  | sound spec => rfl
  | faulty d => rfl
  | unwritable m => rw [hv] at hs; cases hs

theorem fieldFaults_of_sound : fieldFaults self fields = [] := by
  rw [fieldFaults, List.filterMap_eq_nil_iff]
  intro f hf
  have hs := h f hf
  cases hv : f.verdict self with
  | sound spec => rfl
  | faulty d => rw [hv] at hs; cases hs
  | unwritable m => rfl

omit h in
theorem plain_writable {spec : FieldSpec} (hs : spec ∈ soundFields self fields) :
    (Markers.ofBase (upperCamel spec.name.name)).unwritable? = none := by
  obtain ⟨f, -, hf⟩ := List.mem_filterMap.mp hs
  rw [Field.verdict] at hf
  split at hf
  · cases hf
  · split at hf
    · cases hf
    · next hnone =>
        cases hf
        exact hnone

omit h in
/-- Giving out markers never fails. -/
theorem withMarkers_written (self : Ty) (fields : List Field) :
    (withMarkers (soundFields self fields)).mapM BuilderField.written =
      .ok (withMarkers (soundFields self fields)) := by
  refine mapM_written fun g hg => ?_
  have hmarkers : g.markers ∈ assignMarkers ((soundFields self fields).map (·.name.name)) := by
    rw [← withMarkers_markers]
    exact List.mem_map_of_mem hg
  refine assignMarkers_writable_of_plain ?_ hmarkers
  rw [List.forall_mem_map]
  exact fun spec hs => plain_writable hs

/-- Where every field is sound by itself only the names of setters are left to be asked. -/
theorem builderFields_of_sound :
    builderFields self fields =
      (checkPointers (soundFields self fields)).bind fun _ =>
        .ok (withMarkers (soundFields self fields)) := by
  have hread : readFields self [] [] fields = .ok (soundFields self fields) := by
    rw [readFields_writable (firstUnwritable?_of_sound h), fieldFaults_of_sound h]
    rfl
  rw [builderFields_of_read hread, withMarkers_written]

end Sound

/-! ## The markers of each field -/

/-- Whether a field before the position has this camel case name. -/
def TakenBefore (fs : List BuilderField) (i : Nat) (base : String) : Prop :=
  ∃ j g, j < i ∧ fs[j]? = some g ∧ upperCamel g.name.name = base

theorem mem_take_upperCamel {specs : List FieldSpec} {i : Nat} {base : String} :
    base ∈ ((specs.map (·.name.name)).take i).map upperCamel ↔
      TakenBefore (withMarkers specs) i base := by
  rw [← withMarkers_names, ← List.map_take, List.map_map, List.mem_map]
  constructor
  · rintro ⟨g, hg, rfl⟩
    obtain ⟨j, hj, rfl⟩ := List.mem_take_iff_getElem.mp hg
    exact ⟨j, _, by omega, List.getElem?_eq_getElem (by omega), rfl⟩
  · rintro ⟨j, g, hj, hget, rfl⟩
    refine ⟨g, List.mem_of_getElem? (i := j) ?_, rfl⟩
    rw [List.getElem?_take_of_lt hj]
    exact hget

/-- The field at a position has its camel case name for a base, or that name and the
position. -/
theorem withMarkers_base {specs : List FieldSpec} {i : Nat} {f : BuilderField}
    (hi : (withMarkers specs)[i]? = some f) :
    ∃ base, f.markers = .ofBase base ∧
      (base = upperCamel f.name.name ↔ upperCamel f.name.name ≠ "" ∧
        ¬ TakenBefore (withMarkers specs) i (upperCamel f.name.name)) ∧
      (base ≠ upperCamel f.name.name → base = upperCamel f.name.name ++ "_" ++ toString i) := by
  have hname : (specs.map (·.name.name))[i]? = some f.name.name := by
    rw [← withMarkers_names, List.getElem?_map, hi, Option.map_some]
  have hmarkers := congrArg (·[i]?) (withMarkers_markers specs)
  simp only [List.getElem?_map, hi, assignMarkers, markerBases_getElem? hname, Option.map_some,
    Option.some.injEq, List.nil_append, Nat.zero_add] at hmarkers
  refine ⟨_, hmarkers, ?_⟩
  split
  · next hcond =>
      rw [mem_take_upperCamel] at hcond
      refine ⟨iff_of_false (upperCamel_ne_positioned _ _ i) ?_, fun _ => rfl⟩
      rw [not_and_not_right]
      exact hcond.resolve_left
  · next hcond =>
      rw [not_or, mem_take_upperCamel] at hcond
      exact ⟨iff_of_true rfl hcond, fun hne => absurd rfl hne⟩

/-- Fields that are sound by themselves are given markers whose names are distinct, those of
the states and those of the two marks. Each has its camel case name for a base just if that is
not empty and no field before it has the same; otherwise its position is put behind it. -/
theorem markers_assigned {self : Ty} {fields : List Field}
    (h : ∀ f ∈ fields, (f.verdict self).sound?.isSome) :
    ∃ fs : List BuilderField,
      (withMarkers (soundFields self fields)).mapM BuilderField.written = .ok fs ∧
      fs.map (fun f => some (f.name, f.nameSpan)) = fields.map (·.name) ∧
      (pointerClashes (soundFields self fields) = [] → builderFields self fields = .ok fs) ∧
      (fs.map (·.markers.state)).Nodup ∧
      (fs.map (·.markers.set) ++ fs.map (·.markers.unset)).Nodup ∧
      ∀ (i : Nat) (f : BuilderField), fs[i]? = some f → ∃ base, f.markers = .ofBase base ∧
        (base = upperCamel f.name.name ↔
          upperCamel f.name.name ≠ "" ∧ ¬ TakenBefore fs i (upperCamel f.name.name)) ∧
        (base ≠ upperCamel f.name.name → base = upperCamel f.name.name ++ "_" ++ toString i) := by
  have hapart : Markers.Apart ((withMarkers (soundFields self fields)).map (·.markers)) := by
    rw [withMarkers_markers]
    exact assignMarkers_apart _
  have hstates := hapart.states
  have hsets := hapart.sets
  have hunsets := hapart.unsets
  rw [List.map_map] at hstates hsets hunsets
  refine ⟨_, withMarkers_written self fields, ?_, fun hnil => ?_, hstates, ?_,
    fun i f hi => withMarkers_base hi⟩
  · rw [← soundFields_names h]
    conv => rhs; rw [← withMarkers_specs (soundFields self fields), List.map_map]
    rfl
  · rw [builderFields_of_sound h, checkPointers_apart hnil]
    rfl
  · refine List.nodup_append'.mpr ⟨hsets, hunsets, fun n hset hunset => ?_⟩
    obtain ⟨f, hf, rfl⟩ := List.mem_map.mp hset
    obtain ⟨g, hg, he⟩ := List.mem_map.mp hunset
    exact hapart.set_ne_unset _ (List.mem_map_of_mem hf) _ (List.mem_map_of_mem hg) he.symm

/-- Names that share a camel case name or have none, one of them twice. -/
theorem markers_assigned_repeated :
    let ty := Ty.named "u8"
    let fields := ["x", "_x", "pet_name", "petName", "__", "___", "x", "straße", "ß"].map
      fun name => Field.of [] name ty
    (∀ f ∈ fields, (f.verdict ty).sound?.isSome) ∧
      ∃ fs : List BuilderField,
        (withMarkers (soundFields ty fields)).mapM BuilderField.written = .ok fs ∧
        fs.map (·.markers.state) = ["FieldX", "FieldX_1", "FieldPetName", "FieldPetName_3",
          "Field_4", "Field_5", "FieldX_6", "FieldStraße", "FieldSS"] ∧
        (fs.map (·.markers.state)).Nodup ∧
        (fs.map (·.markers.set) ++ fs.map (·.markers.unset)).Nodup := by
  intro ty fields
  have h : ∀ f ∈ fields, (f.verdict ty).sound?.isSome := by decide +kernel
  have hstates : (withMarkers (soundFields ty fields)).map (·.markers.state) =
      ["FieldX", "FieldX_1", "FieldPetName", "FieldPetName_3", "Field_4", "Field_5", "FieldX_6",
        "FieldStraße", "FieldSS"] := by decide +kernel
  obtain ⟨fs, hfs, -, -, hnodup, hmarks, -⟩ := markers_assigned h
  obtain rfl : withMarkers (soundFields ty fields) = fs :=
    Except.ok.inj ((withMarkers_written ty fields).symm.trans hfs)
  exact ⟨h, _, hfs, hstates, hnodup, hmarks⟩

end StagedBuilder
