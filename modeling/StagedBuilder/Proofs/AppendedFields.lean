import StagedBuilder.Proofs.MethodNames

/-!
# Fields behind others

All fields of a struct are read in one pass, and given their markers in another. Either pass
carries something along, the faults found so far or the camel case names met so far, but it
carries it in one direction only. So what the first fields come to is settled before any field
behind them is looked at, with two exceptions: a marker that cannot be written silences all
faults wherever it stands, and a setter can clash with a pointer method of a later field.

Neither exception changes a field that is accepted. If a longer list of fields is accepted so
is every beginning of it, and the fields there are the same, markers included
(`builderFields_take`). If the first fields are refused for what is wrong with one of them by
itself, those behind them are not compared with them either, and only add what is wrong with
themselves (`appended_fields`).
-/

namespace StagedBuilder

/-! ## Markers -/

/-- Behind some names the pass goes on from their number and their camel case names. -/
theorem markerBases_append (index : Nat) (seen names more : List String) :
    markerBases index seen (names ++ more) =
      markerBases index seen names ++
        markerBases (index + names.length) ((names.map upperCamel).reverse ++ seen) more := by
  induction names generalizing index seen with
  | nil => rfl
  | cons name names ih =>
      rw [List.cons_append, markerBases, markerBases, ih, List.length_cons,
        show index + (names.length + 1) = index + 1 + names.length by omega, List.map_cons,
        List.reverse_cons, List.append_assoc, List.singleton_append, List.cons_append]

theorem isPrefix_assignMarkers (names more : List String) :
    assignMarkers names <+: assignMarkers (names ++ more) := by
  rw [assignMarkers, assignMarkers, markerBases_append, List.map_append]
  exact List.prefix_append _ _

theorem isPrefix_withMarkers (specs more : List FieldSpec) :
    withMarkers specs <+: withMarkers (specs ++ more) := by
  obtain ⟨rest, h⟩ := isPrefix_assignMarkers (specs.map (·.name.name)) (more.map (·.name.name))
  have hlen : specs.length = (assignMarkers (specs.map (·.name.name))).length := by
    rw [assignMarkers_length, List.length_map]
  rw [withMarkers, withMarkers, List.map_append, ← h, List.zipWith_append hlen]
  exact List.prefix_append _ _

/-! ## Fields by themselves -/

section Append

variable (self : Ty) (fields more : List Field)

theorem soundFields_append :
    soundFields self (fields ++ more) = soundFields self fields ++ soundFields self more :=
  List.filterMap_append

theorem fieldFaults_append :
    fieldFaults self (fields ++ more) = fieldFaults self fields ++ fieldFaults self more :=
  List.filterMap_append

theorem firstUnwritable?_append :
    firstUnwritable? self (fields ++ more) =
      (firstUnwritable? self fields).or (firstUnwritable? self more) :=
  List.findSome?_append

end Append

theorem pointerClashes_of_append {specs more : List FieldSpec}
    (h : pointerClashes (specs ++ more) = []) : pointerClashes specs = [] := by
  rw [pointerClashes_eq_nil_iff, List.map_append] at h
  rw [pointerClashes_eq_nil_iff]
  exact fun n hn target ht => h n (List.mem_append_left _ hn) target (List.mem_append_left _ ht)

section Fields

variable {self : Ty} {fields more : List Field}

theorem length_soundFields (h : ∀ f ∈ fields, (f.verdict self).sound?.isSome) :
    (soundFields self fields).length = fields.length :=
  (forall₂_soundFields h).length_eq.symm

theorem firstUnwritable?_split {marker : String} (h : firstUnwritable? self fields = some marker) :
    ∃ before f after, fields = before ++ f :: after ∧ f.verdict self = .unwritable marker ∧
      ∀ g ∈ before, (g.verdict self).unwritable? = none := by
  obtain ⟨before, f, after, rfl, hf, hbefore⟩ := List.findSome?_eq_some_iff.mp h
  refine ⟨before, f, after, rfl, ?_, hbefore⟩
  cases hv : f.verdict self with
  | sound spec => rw [hv] at hf; cases hf
  | faulty d => rw [hv] at hf; cases hf
  | unwritable m => rw [hv] at hf; exact congrArg Verdict.unwritable (Option.some.inj hf)

/-! ## All fields -/

/-- A beginning of accepted fields is accepted, and its fields are the same. -/
theorem builderFields_take {gs : List BuilderField}
    (h : builderFields self (fields ++ more) = .ok gs) :
    builderFields self fields = .ok (gs.take fields.length) := by
  obtain ⟨specs, hread, -⟩ := except_bind_eq_ok h
  have hsound : ∀ f ∈ fields, (f.verdict self).sound?.isSome :=
    fun f hf => readFields_all_sound hread f (List.mem_append_left _ hf)
  obtain ⟨hclash, rfl⟩ := builderFields_ok h
  rw [soundFields_append] at hclash ⊢
  have hfirst :
      (withMarkers (soundFields self fields ++ soundFields self more)).take fields.length =
        withMarkers (soundFields self fields) := by
    have hlen : (withMarkers (soundFields self fields)).length = fields.length := by
      rw [← length_soundFields hsound, ← List.length_map, withMarkers_specs]
    rw [← hlen, ← List.prefix_iff_eq_take.mp (isPrefix_withMarkers _ _)]
  rw [builderFields_of_sound hsound, checkPointers_apart (pointerClashes_of_append hclash), hfirst]
  rfl

/-- Fields that are refused for faults, one of which is a field's own, have no clash and no
marker that cannot be written among what they are refused for. -/
theorem refused_for_faults {ds : List Diagnostic}
    (h : builderFields self fields = .error (.faults ds))
    (hf : ∃ f ∈ fields, ∃ d, f.verdict self = .faulty d) :
    firstUnwritable? self fields = none ∧ fieldFaults self fields ≠ [] ∧
      ds = fieldFaults self fields := by
  have hwritable : firstUnwritable? self fields = none := by
    by_contra hne
    obtain ⟨marker, hm⟩ := Option.ne_none_iff_exists'.mp hne
    rw [builderFields_of_unwritable hm] at h
    cases h
  have hne : fieldFaults self fields ≠ [] := by
    obtain ⟨f, hf, d, hd⟩ := hf
    exact List.ne_nil_of_mem (List.mem_filterMap.mpr ⟨f, hf, congrArg Verdict.diagnostic? hd⟩)
  rw [builderFields_of_faults hwritable hne] at h
  cases h
  exact ⟨hwritable, hne, rfl⟩

end Fields

/-- What fields come to is not disturbed by fields behind them. Where both are accepted the
first fields are what they are without the others, markers included. Where the first fields are
refused for a fault of one of them, the others end the reading by a marker that cannot be
written, or what is told of the first fields is told, and then what is wrong with each of the
others. -/
theorem appended_fields (self : Ty) (fields more : List Field) :
    (∀ fs gs, builderFields self fields = .ok fs → builderFields self (fields ++ more) = .ok gs →
      fs.length = fields.length ∧ gs.take fields.length = fs) ∧
    ∀ ds, builderFields self fields = .error (.faults ds) →
      (∃ f ∈ fields, ∃ d, f.verdict self = .faulty d) →
      (∃ before g after marker, more = before ++ g :: after ∧
        g.verdict self = .unwritable marker ∧
        (∀ f ∈ before, (f.verdict self).unwritable? = none) ∧
        builderFields self (fields ++ more) = .error (.unwritable marker)) ∨
      ((∀ g ∈ more, (g.verdict self).unwritable? = none) ∧
        builderFields self (fields ++ more) = .error (.faults (ds ++ fieldFaults self more)) ∧
        (fieldFaults self more ≠ [] →
          builderFields self more = .error (.faults (fieldFaults self more)))) := by
  refine ⟨fun fs gs hfs hgs => ?_, fun ds h hf => ?_⟩
  · have htake := builderFields_take hgs
    rw [hfs, Except.ok.injEq] at htake
    exact ⟨(builderFields_classified hfs).length_eq.symm, htake.symm⟩
  · obtain ⟨hwritable, hne, rfl⟩ := refused_for_faults h hf
    have hall := firstUnwritable?_append self fields more
    rw [hwritable, Option.none_or] at hall
    cases hm : firstUnwritable? self more with
    | some marker =>
        obtain ⟨before, g, after, hsplit, hg, hbefore⟩ := firstUnwritable?_split hm
        exact .inl ⟨before, g, after, marker, hsplit, hg, hbefore,
          builderFields_of_unwritable (hall.trans hm)⟩
    | none =>
        have hfaults := fieldFaults_append self fields more
        refine .inr ⟨List.findSome?_eq_none_iff.mp hm, ?_, builderFields_of_faults hm⟩
        rw [← hfaults]
        refine builderFields_of_faults (hall.trans hm) ?_
        rw [hfaults]
        exact List.append_ne_nil_of_left_ne_nil hne _

/-- Names that share a camel case name with later ones; and a reserved name before a clash that
is not told, before another reserved name, and before a name whose markers cannot be
written. -/
theorem appended_fields_mixed :
    let ty := Ty.named "u8"
    let plain (names : List String) := names.map fun name => Field.of [] name ty
    let reserved (name : String) : Diagnostic := ⟨.reservedName name, .nowhere⟩
    (∃ fs gs, builderFields ty (plain ["x", "pet_name"]) = .ok fs ∧
      builderFields ty (plain ["x", "pet_name"] ++ plain ["_x", "petName", "ptr_y"]) = .ok gs ∧
      gs.map (·.markers.state) =
        ["FieldX", "FieldPetName", "FieldX_2", "FieldPetName_3", "FieldPtrY"] ∧
      gs.take 2 = fs) ∧
    builderFields ty (plain ["build", "ptr_name"]) = .error (.faults [reserved "build"]) ∧
    builderFields ty (plain ["build", "ptr_name"] ++ plain ["name", "builder"]) =
      .error (.faults [reserved "build", reserved "builder"]) ∧
    builderFields ty (plain ["build", "ptr_name"] ++ plain ["builder", "_1"]) =
      .error (.unwritable "1Set") := by
  intro ty plain reserved
  have hnone : firstUnwritable? ty (plain ["build", "ptr_name"]) = none := by decide +kernel
  have hfaults : fieldFaults ty (plain ["build", "ptr_name"]) = [reserved "build"] := by
    decide +kernel
  have hbuild : builderFields ty (plain ["build", "ptr_name"]) =
      .error (.faults [reserved "build"]) := by
    rw [← hfaults]
    exact builderFields_of_faults hnone (hfaults ▸ List.cons_ne_nil _ _)
  have hown : ∃ f ∈ plain ["build", "ptr_name"], ∃ d, f.verdict ty = .faulty d :=
    ⟨_, List.mem_cons_self, reserved "build", rfl⟩
  refine ⟨?_, hbuild, ?_, ?_⟩
  · have hstates : (builderFields ty (plain ["x", "pet_name"] ++
        plain ["_x", "petName", "ptr_y"])).toOption.map (fun gs => gs.map (·.markers.state)) =
        some ["FieldX", "FieldPetName", "FieldX_2", "FieldPetName_3", "FieldPtrY"] := by
      decide +kernel
    obtain ⟨gs, hgs, hstates⟩ := Option.map_eq_some_iff.mp hstates
    have hgs := except_eq_ok_of_toOption hgs
    have hfs := builderFields_take hgs
    exact ⟨_, gs, hfs, hgs, hstates, ((appended_fields ty _ _).1 _ gs hfs hgs).2⟩
  · rcases (appended_fields ty _ (plain ["name", "builder"])).2 _ hbuild hown with
      ⟨before, g, after, marker, hsplit, hg, -⟩ | ⟨-, h, -⟩
    · have hall : ∀ g ∈ plain ["name", "builder"], (g.verdict ty).unwritable? = none := by
        decide +kernel
      have hmem : g ∈ plain ["name", "builder"] :=
        hsplit ▸ List.mem_append_right _ List.mem_cons_self
      cases (congrArg Verdict.unwritable? hg).symm.trans (hall g hmem)
    · have hmore : fieldFaults ty (plain ["name", "builder"]) = [reserved "builder"] := by
        decide +kernel
      rw [h, hmore]
      rfl
  · have hall : ∀ g ∈ plain ["builder", "_1"],
        (g.verdict ty).unwritable? = none ∨ (g.verdict ty).unwritable? = some "1Set" := by
      decide +kernel
    rcases (appended_fields ty _ (plain ["builder", "_1"])).2 _ hbuild hown with
      ⟨before, g, after, marker, hsplit, hg, -, h⟩ | ⟨hgood, -⟩
    · have hmem : g ∈ plain ["builder", "_1"] := hsplit ▸ List.mem_append_right _ List.mem_cons_self
      rcases hall g hmem with hm | hm <;> rw [hg] at hm <;> cases hm
      exact h
    · have hlast := hgood _ (List.mem_cons_of_mem _ List.mem_cons_self)
      exact absurd hlast (by decide +kernel)

end StagedBuilder
