import StagedBuilder.Proofs.WrittenNames
import StagedBuilder.Record.Template

/-!
# What becomes of a struct's fields

Each field is judged by itself: it has a fault, or its markers cannot be written, or it is
sound. All that a struct's fields come to is told by these judgements, in the order of the
fields. A marker that cannot be written silences everything else; faults silence the clashes of
setters with pointer methods, for which only sound fields are asked; and if nothing is wrong
every field gets its markers.

The last step could refuse a marker, too, as the given markers are not those that were judged.
That it never does is `assignMarkers_writable`.
-/

namespace StagedBuilder

open Character

namespace Field

variable {self : Ty} {f : Field} {spec : FieldSpec}

/-- Whether a field that passes all other checks has a base that no identifier begins with. -/
def Unwritable (self : Ty) (f : Field) : Prop :=
  ∃ spec, f.classify self = .ok spec ∧ BeginsBadly (upperCamel spec.name.name)

/-- The first thing that is wrong with the field. -/
def fault? (self : Ty) (f : Field) : Option Diagnostic :=
  match f.classify self with
  | .error d => some d
  | .ok _ => none

theorem NameWritten.of_classify (hid : f.NameWritten) (h : f.classify self = .ok spec) :
    isIdentifier spec.name.name := hid _ (classify_ok h).1

/-! ## One field -/

theorem verdict_of_error {d : Diagnostic} (h : f.classify self = .error d) :
    f.verdict self = .faulty d := by
  rw [verdict, h]

theorem verdict_of_unwritable (hid : f.NameWritten) (h : f.classify self = .ok spec)
    (hbad : BeginsBadly (upperCamel spec.name.name)) :
    f.verdict self = .unwritable (upperCamel spec.name.name ++ "Set") := by
  have hcont : ∀ c ∈ (upperCamel spec.name.name).toList, isIdentContinue c :=
    fun c hc => upperCamel_continues (hid.of_classify h) hc
  simp only [verdict, h, unwritable?_of_beginsBadly hcont hbad]

theorem verdict_of_writable (hid : f.NameWritten) (h : f.classify self = .ok spec)
    (hgood : ¬ BeginsBadly (upperCamel spec.name.name)) : f.verdict self = .sound spec := by
  have hcont : ∀ c ∈ (upperCamel spec.name.name).toList, isIdentContinue c :=
    fun c hc => upperCamel_continues (hid.of_classify h) hc
  simp only [verdict, h, (unwritable?_ofBase hcont).mpr hgood]

/-- A field by itself has a fault, or cannot be given markers, or is sound. -/
theorem verdict_cases (self : Ty) (hid : f.NameWritten) :
    (∃ d, f.classify self = .error d ∧ f.verdict self = .faulty d) ∨
    (∃ spec, f.classify self = .ok spec ∧ BeginsBadly (upperCamel spec.name.name) ∧
      f.verdict self = .unwritable (upperCamel spec.name.name ++ "Set")) ∨
    ∃ spec, f.classify self = .ok spec ∧ ¬ BeginsBadly (upperCamel spec.name.name) ∧
      f.verdict self = .sound spec := by
  cases h : f.classify self with
  | error d => exact Or.inl ⟨d, rfl, verdict_of_error h⟩
  | ok spec =>
      by_cases hbad : BeginsBadly (upperCamel spec.name.name)
      · exact Or.inr (Or.inl ⟨spec, rfl, hbad, verdict_of_unwritable hid h hbad⟩)
      · exact Or.inr (Or.inr ⟨spec, rfl, hbad, verdict_of_writable hid h hbad⟩)

theorem unwritable?_eq_none (hid : f.NameWritten) :
    (f.verdict self).unwritable? = none ↔ ¬ f.Unwritable self := by
  rcases verdict_cases self hid with ⟨d, hc, hv⟩ | ⟨spec, hc, hbad, hv⟩ | ⟨spec, hc, hgood, hv⟩
  · simp [hv, Verdict.unwritable?, Unwritable, hc]
  · simp [hv, Verdict.unwritable?, Unwritable, hc, hbad]
  · simp [hv, Verdict.unwritable?, Unwritable, hc, hgood]

theorem diagnostic?_eq (hid : f.NameWritten) : (f.verdict self).diagnostic? = f.fault? self := by
  rcases verdict_cases self hid with ⟨d, hc, hv⟩ | ⟨spec, hc, -, hv⟩ | ⟨spec, hc, -, hv⟩ <;>
    rw [hv, fault?, hc] <;> rfl

end Field

/-! ## All fields -/

section Fields

variable {self : Ty} {fields : List Field} (hid : ∀ f ∈ fields, f.NameWritten)

include hid

theorem firstUnwritable?_eq_none :
    firstUnwritable? self fields = none ↔ ∀ f ∈ fields, ¬ f.Unwritable self := by
  rw [firstUnwritable?, List.findSome?_eq_none_iff]
  exact forall₂_congr fun f hf => Field.unwritable?_eq_none (hid f hf)

theorem firstUnwritable?_eq_some {before after : List Field} {f : Field} {spec : FieldSpec}
    (heq : fields = before ++ f :: after) (hbefore : ∀ g ∈ before, ¬ g.Unwritable self)
    (hc : f.classify self = .ok spec) (hbad : BeginsBadly (upperCamel spec.name.name)) :
    firstUnwritable? self fields = some (upperCamel spec.name.name ++ "Set") := by
  subst heq
  have hnone : firstUnwritable? self before = none :=
    (firstUnwritable?_eq_none fun g hg => hid g (List.mem_append_left _ hg)).mpr hbefore
  have hf : f.NameWritten := hid f (List.mem_append_right _ List.mem_cons_self)
  rw [firstUnwritable?] at hnone ⊢
  rw [List.findSome?_append, hnone, Option.none_or, List.findSome?_cons,
    Field.verdict_of_unwritable hf hc hbad]
  rfl

theorem fieldFaults_eq : fieldFaults self fields = fields.filterMap (Field.fault? self) :=
  List.filterMap_congr fun f hf => Field.diagnostic?_eq (hid f hf)

theorem soundFields_eq {specs : List FieldSpec} (hgood : ∀ f ∈ fields, ¬ f.Unwritable self)
    (h : fields.map (Field.classify self) = specs.map .ok) : soundFields self fields = specs := by
  induction fields generalizing specs with
  | nil =>
      cases specs with
      | nil => rfl
      | cons spec specs => cases h
  | cons f fields ih =>
      cases specs with
      | nil => cases h
      | cons spec specs =>
          rw [List.map_cons, List.map_cons, List.cons.injEq] at h
          have hspec : ¬ BeginsBadly (upperCamel spec.name.name) :=
            fun hbad => hgood f List.mem_cons_self ⟨spec, h.1, hbad⟩
          have hv := Field.verdict_of_writable (hid f List.mem_cons_self) h.1 hspec
          rw [soundFields, List.filterMap_cons, hv]
          exact congrArg (spec :: ·) (ih (fun g hg => hid g (List.mem_cons_of_mem _ hg))
            (fun g hg => hgood g (List.mem_cons_of_mem _ hg)) h.2)

/-- The markers given to sound fields can all be written. -/
theorem withMarkers_writable {specs : List FieldSpec}
    (hgood : ∀ f ∈ fields, ¬ f.Unwritable self)
    (h : fields.map (Field.classify self) = specs.map .ok) {g : BuilderField}
    (hg : g ∈ withMarkers specs) : g.markers.unwritable? = none := by
  have hmarkers : g.markers ∈ assignMarkers (specs.map (·.name.name)) := by
    rw [← withMarkers_markers]
    exact List.mem_map_of_mem hg
  have hfield : ∀ spec ∈ specs, ∃ f ∈ fields, f.classify self = .ok spec := by
    intro spec hs
    have hmem : Except.ok spec ∈ fields.map (Field.classify self) := by
      rw [h]
      exact List.mem_map_of_mem hs
    exact List.mem_map.mp hmem
  refine assignMarkers_writable ?_ ?_ hmarkers
  · rw [List.forall_mem_map]
    intro spec hs
    obtain ⟨f, hf, hc⟩ := hfield spec hs
    exact (hid f hf).of_classify hc
  · rw [List.forall_mem_map]
    intro spec hs hbad
    obtain ⟨f, hf, hc⟩ := hfield spec hs
    exact hgood f hf ⟨spec, hc, hbad⟩

end Fields

/-! ## The outcome -/

theorem builderFields_of_read {self : Ty} {fields : List Field} {specs : List FieldSpec}
    (h : readFields self [] [] fields = .ok specs) :
    builderFields self fields =
      (checkPointers specs).bind fun _ => (withMarkers specs).mapM BuilderField.written := by
  rw [builderFields, h]
  rfl

theorem builderFields_of_refused {self : Ty} {fields : List Field} {r : Rejection}
    (h : readFields self [] [] fields = .error r) : builderFields self fields = .error r := by
  rw [builderFields, h]
  rfl

theorem builderFields_of_unwritable {self : Ty} {fields : List Field} {marker : String}
    (h : firstUnwritable? self fields = some marker) :
    builderFields self fields = .error (.unwritable marker) :=
  builderFields_of_refused (readFields_unwritable h)

theorem builderFields_of_faults {self : Ty} {fields : List Field}
    (h : firstUnwritable? self fields = none) (hne : fieldFaults self fields ≠ []) :
    builderFields self fields = .error (.faults (fieldFaults self fields)) := by
  refine builderFields_of_refused ?_
  rw [readFields_writable h, List.nil_append, if_neg (by simpa using hne)]

theorem checkPointers_clash {specs : List FieldSpec} (h : pointerClashes specs ≠ []) :
    checkPointers specs = .error (.faults (pointerClashes specs)) := by
  rw [checkPointers]
  split
  · next hnil => exact absurd hnil h
  · rfl

theorem checkPointers_apart {specs : List FieldSpec} (h : pointerClashes specs = []) :
    checkPointers specs = .ok () := by
  rw [checkPointers, h]

theorem exists_specs {self : Ty} {fields : List Field}
    (h : fields.filterMap (Field.fault? self) = []) :
    ∃ specs : List FieldSpec, fields.map (Field.classify self) = specs.map .ok := by
  induction fields with
  | nil => exact ⟨[], rfl⟩
  | cons f fields ih =>
      rw [List.filterMap_cons] at h
      cases hc : f.classify self with
      | error d =>
          rw [Field.fault?, hc] at h
          cases h
      | ok spec =>
          rw [Field.fault?, hc] at h
          obtain ⟨specs, hspecs⟩ := ih h
          exact ⟨spec :: specs, by rw [List.map_cons, List.map_cons, hc, hspecs]⟩

section Outcome

variable {self : Ty} {fields : List Field} (hid : ∀ f ∈ fields, f.NameWritten)

include hid

theorem builderFields_unwritable {before after : List Field} {f : Field} {spec : FieldSpec}
    (heq : fields = before ++ f :: after) (hbefore : ∀ g ∈ before, ¬ g.Unwritable self)
    (hc : f.classify self = .ok spec) (hbad : BeginsBadly (upperCamel spec.name.name)) :
    builderFields self fields = .error (.unwritable (upperCamel spec.name.name ++ "Set")) :=
  builderFields_of_unwritable (firstUnwritable?_eq_some hid heq hbefore hc hbad)

theorem builderFields_faulty (hgood : ∀ f ∈ fields, ¬ f.Unwritable self)
    (h : fields.filterMap (Field.fault? self) ≠ []) :
    builderFields self fields = .error (.faults (fields.filterMap (Field.fault? self))) := by
  rw [← fieldFaults_eq hid] at h ⊢
  exact builderFields_of_faults ((firstUnwritable?_eq_none hid).mpr hgood) h

theorem builderFields_sound {specs : List FieldSpec} (hgood : ∀ f ∈ fields, ¬ f.Unwritable self)
    (h : fields.map (Field.classify self) = specs.map .ok) :
    builderFields self fields =
      (checkPointers specs).bind fun _ => .ok (withMarkers specs) := by
  have hfaults : fieldFaults self fields = [] := by
    rw [fieldFaults_eq hid, List.filterMap_eq_nil_iff]
    intro f hf
    have hmem : f.classify self ∈ specs.map .ok := h ▸ List.mem_map_of_mem hf
    obtain ⟨spec, -, hc⟩ := List.mem_map.mp hmem
    rw [Field.fault?, ← hc]
  have hread : readFields self [] [] fields = .ok specs := by
    rw [readFields_writable ((firstUnwritable?_eq_none hid).mpr hgood), hfaults,
      soundFields_eq hid hgood h]
    rfl
  have hwritten := mapM_written fun g hg => withMarkers_writable hid hgood h hg
  rw [builderFields_of_read hread, hwritten]

variable (self) in
/-- Each field is judged by itself. The first one whose markers cannot be written decides,
whatever is wrong with others; otherwise the faults are told in the order of their fields;
otherwise the clashes with pointer methods are; otherwise all fields get their markers. -/
theorem builderFields_outcome :
    (∀ f ∈ fields,
      (∃ d, f.classify self = .error d ∧ f.verdict self = .faulty d) ∨
      (∃ spec, f.classify self = .ok spec ∧ BeginsBadly (upperCamel spec.name.name) ∧
        f.verdict self = .unwritable (upperCamel spec.name.name ++ "Set")) ∨
      ∃ spec, f.classify self = .ok spec ∧ ¬ BeginsBadly (upperCamel spec.name.name) ∧
        f.verdict self = .sound spec) ∧
    ((∃ marker, builderFields self fields = .error (.unwritable marker)) ↔
      ∃ f ∈ fields, f.Unwritable self) ∧
    (∀ before f after spec, fields = before ++ f :: after →
      (∀ g ∈ before, ¬ g.Unwritable self) → f.classify self = .ok spec →
      BeginsBadly (upperCamel spec.name.name) →
      builderFields self fields = .error (.unwritable (upperCamel spec.name.name ++ "Set"))) ∧
    ((∀ f ∈ fields, ¬ f.Unwritable self) →
      (fields.filterMap (Field.fault? self) ≠ [] →
        builderFields self fields = .error (.faults (fields.filterMap (Field.fault? self)))) ∧
      (fields.filterMap (Field.fault? self) = [] →
        ∃ specs : List FieldSpec, fields.map (Field.classify self) = specs.map .ok ∧
          (pointerClashes specs ≠ [] →
            builderFields self fields = .error (.faults (pointerClashes specs))) ∧
          (pointerClashes specs = [] →
            builderFields self fields = .ok (withMarkers specs)))) := by
  have hfaulty : (∀ f ∈ fields, ¬ f.Unwritable self) →
      fields.filterMap (Field.fault? self) ≠ [] →
      builderFields self fields = .error (.faults (fields.filterMap (Field.fault? self))) :=
    builderFields_faulty hid
  have hsound : (∀ f ∈ fields, ¬ f.Unwritable self) →
      fields.filterMap (Field.fault? self) = [] →
      ∃ specs : List FieldSpec, fields.map (Field.classify self) = specs.map .ok ∧
        (pointerClashes specs ≠ [] →
          builderFields self fields = .error (.faults (pointerClashes specs))) ∧
        (pointerClashes specs = [] →
          builderFields self fields = .ok (withMarkers specs)) := by
    intro hgood hnil
    obtain ⟨specs, hspecs⟩ := exists_specs hnil
    have heq := builderFields_sound hid hgood hspecs
    refine ⟨specs, hspecs, fun hclash => ?_, fun hapart => ?_⟩
    · rw [heq, checkPointers_clash hclash]
      rfl
    · rw [heq, checkPointers_apart hapart]
      rfl
  refine ⟨fun f hf => Field.verdict_cases self (hid f hf), ⟨?_, ?_⟩, ?_,
    fun hgood => ⟨hfaulty hgood, hsound hgood⟩⟩
  -- Without an unwritable field each of the other outcomes is something else than this error.
  · rintro ⟨marker, h⟩
    by_contra hnone
    have hgood : ∀ f ∈ fields, ¬ f.Unwritable self := fun f hf hu => hnone ⟨f, hf, hu⟩
    by_cases hnil : fields.filterMap (Field.fault? self) = []
    · obtain ⟨specs, -, hclash, hapart⟩ := hsound hgood hnil
      by_cases hc : pointerClashes specs = []
      · rw [hapart hc] at h
        cases h
      · rw [hclash hc] at h
        cases h
    · rw [hfaulty hgood hnil] at h
      cases h
  · rintro ⟨f, hf, hu⟩
    cases hm : firstUnwritable? self fields with
    | some marker => exact ⟨marker, builderFields_of_refused (readFields_unwritable hm)⟩
    | none => exact absurd hu ((firstUnwritable?_eq_none hid).mp hm f hf)
  · exact fun before f after spec heq hbefore hc hbad =>
      builderFields_unwritable hid heq hbefore hc hbad

end Outcome

/-- A struct with all that can be wrong with names. -/
def misnamedText : String := "struct S \x7b build: u8, _1: u8, name: u8, ptr_name: u8 \x7d"

/-- A name that is reserved, a name whose markers cannot be written, and a clash with a pointer
method. All of them together, and then one less each time; and all of them as they are read
from a text. -/
theorem builderFields_outcome_mixed :
    let ty := Ty.named "u8"
    let reserved := Field.of [] "build" ty
    let numbered := Field.of [] "_1" ty
    let plain := Field.of [] "name" ty
    let clashing := Field.of [] "ptr_name" ty
    (∀ f ∈ [reserved, numbered, plain, clashing], f.NameWritten) ∧
      builderFields ty [reserved, numbered, plain, clashing] = .error (.unwritable "1Set") ∧
      builderFields ty [reserved, plain, clashing] =
        .error (.faults [⟨.reservedName "build", .nowhere⟩]) ∧
      builderFields ty [plain, clashing] =
        .error (.faults [⟨.pointerClash "ptr_name" "name", .nowhere⟩]) ∧
      ∃ item fields, Item.structOfText misnamedText = .ok item ∧
        item.body = .ofStruct (.named fields) ∧ (∀ f ∈ fields, f.NameWritten) ∧
        ∃ marker, builderFields ty fields = .error (.unwritable marker) := by
  intro ty reserved numbered plain clashing
  have hnamed : ∀ name, isIdentifier name → (Field.of [] name ty).NameWritten := by
    rintro name h n hn
    rw [← Option.some.inj hn]
    exact h
  have hid : ∀ f ∈ [reserved, numbered, plain, clashing], f.NameWritten := by
    simp only [List.mem_cons, List.not_mem_nil, or_false, forall_eq_or_imp, forall_eq]
    exact ⟨hnamed _ (by decide), hnamed _ (by decide), hnamed _ (by decide), hnamed _ (by decide)⟩
  have hsub : [plain, clashing] ⊆ [reserved, plain, clashing] := List.subset_cons_self _ _
  have hsub' : [reserved, plain, clashing] ⊆ [reserved, numbered, plain, clashing] :=
    List.cons_subset_cons _ (List.subset_cons_self _ _)
  have hgood : ∀ f ∈ [reserved, plain, clashing], ¬ f.Unwritable ty := by
    intro f hf
    refine (Field.unwritable?_eq_none (hid f (hsub' hf))).mp ?_
    have hall : ∀ g ∈ [reserved, plain, clashing], (g.verdict ty).unwritable? = none := by
      simp only [List.mem_cons, List.not_mem_nil, or_false, forall_eq_or_imp, forall_eq]
      exact ⟨by decide +kernel, by decide +kernel, by decide +kernel⟩
    exact hall f hf
  refine ⟨hid, ?_, ?_, ?_, ?_⟩
  · have hbase : upperCamel "_1" = "1" := by decide +kernel
    have hbad : BeginsBadly (upperCamel "_1") := ⟨'1', by rw [hbase]; decide, by decide⟩
    have h := (builderFields_outcome ty hid).2.2.1 [reserved] numbered [plain, clashing]
      ⟨.plain "_1", .nowhere, ty, .required, false⟩ rfl
      (fun g hg => hgood g (List.mem_cons.mpr (Or.inl (List.mem_singleton.mp hg)))) rfl hbad
    have hmarker : upperCamel "_1" ++ "Set" = "1Set" := by rw [hbase]; rfl
    rw [h, ← hmarker]
    rfl
  · have h := (builderFields_outcome ty fun f hf => hid f (hsub' hf)).2.2.2 hgood
    exact h.1 (List.cons_ne_nil _ _)
  · have h := (builderFields_outcome ty fun f hf => hid f (hsub' (hsub hf))).2.2.2
      fun f hf => hgood f (hsub hf)
    obtain ⟨specs, hspecs, hclash, -⟩ := h.2 rfl
    obtain rfl : specs = [⟨.plain "name", .nowhere, ty, .required, false⟩,
        ⟨.plain "ptr_name", .nowhere, ty, .required, false⟩] :=
      List.map_injective_iff.mpr (fun _ _ => Except.ok.inj) hspecs.symm
    have hfound : pointerClashes [⟨.plain "name", .nowhere, ty, .required, false⟩,
        ⟨.plain "ptr_name", .nowhere, ty, .required, false⟩] =
        [⟨.pointerClash "ptr_name" "name", .nowhere⟩] := by decide +kernel
    rw [hfound] at hclash
    exact hclash (List.cons_ne_nil _ _)
  · have hview : (Item.structOfText misnamedText).toOption.bind (fun i =>
        match i.body with
        | .ofStruct (.named fields) => some (fields.map fun f => (f.verdict ty).unwritable?)
        | _ => none) = some [none, some "1Set", none, none] := by decide +kernel
    obtain ⟨item, hread, hview⟩ := Option.bind_eq_some_iff.mp hview
    have hread := except_eq_ok_of_toOption hread
    split at hview
    · next fields hbody =>
        have hid : ∀ f ∈ fields, f.NameWritten := Item.names_written (Or.inr hread) _ hbody
        have hmem : some "1Set" ∈ fields.map fun f => (f.verdict ty).unwritable? := by
          rw [Option.some.inj hview]
          decide
        obtain ⟨f, hf, hmarker⟩ := List.mem_map.mp hmem
        have hbad : f.Unwritable ty := by
          by_contra hnot
          rw [(Field.unwritable?_eq_none (hid f hf)).mpr hnot] at hmarker
          cases hmarker
        exact ⟨item, fields, hread, hbody, hid,
          (builderFields_outcome ty hid).2.1.mpr ⟨f, hf, hbad⟩⟩
    · cases hview

end StagedBuilder
