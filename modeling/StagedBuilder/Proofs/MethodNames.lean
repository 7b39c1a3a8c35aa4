import StagedBuilder.Proofs.Calls
import StagedBuilder.Proofs.MarkerAssignment

/-!
# The names of a builder's methods

A builder has four methods of its own, and a setter and a pointer method for each field. Two
checks keep their names apart: a field that is called like one of the four is refused when it
is read, and one that is called like the pointer method of another when all fields are sound.
`methodNames_nodup_iff` says that there is no other way for two of the names to be the same, if
the fields themselves have different names, so the checks refuse a struct just where its
builder would have two methods of one name (`method_names_apart`).

Names are compared without `r#`, which two fields and their methods cannot be told apart by.
-/

namespace StagedBuilder

/-! ## Faults that are about names -/

namespace Fault

/-- Whether the fault is that a method of the builder would have the name of another. -/
def isCollision : Fault → Bool
  | reservedName _ | pointerClash _ _ => true
  | notStruct | noFieldNames | repeatedDefault | emptyDefault | malformedDefault
  | unexpectedArguments _ | notNullWithDefault | notNullWithoutOption => false

end Fault

namespace Directives

theorem defaultValue_fault {a : Attribute} {d : Diagnostic} (h : defaultValue a = .error d) :
    ¬ d.fault.isCollision := by
  rw [defaultValue.eq_def] at h
  split at h <;> cases h <;> exact Bool.false_ne_true

theorem expectBare_fault {a : Attribute} {name : String} {d : Diagnostic}
    (h : expectBare a name = .error d) : ¬ d.fault.isCollision := by
  rw [expectBare] at h
  split at h
  · cases h
  · cases h
    exact Bool.false_ne_true

theorem add_fault {s : Directives} {a : Attribute} {d : Diagnostic} (h : s.add a = .error d) :
    ¬ d.fault.isCollision := by
  have hmap {α : Type} {x : Except Diagnostic α} {g : α → Directives}
      (he : x.map g = .error d) : x = .error d := by
    cases x with
    | error e => exact congrArg Except.error (Except.error.inj he)
    | ok v => cases he
  rw [add] at h
  split at h
  · split at h
    · cases h
      exact Bool.false_ne_true
    · exact defaultValue_fault (hmap h)
  · split at h
    · exact expectBare_fault (hmap h)
    · split at h
      · exact expectBare_fault (hmap h)
      · cases h

theorem foldlM_add_fault {attrs : List Attribute} {s : Directives} {d : Diagnostic}
    (h : attrs.foldlM add s = .error d) : ¬ d.fault.isCollision := by
  induction attrs generalizing s with
  | nil => cases h
  | cons a attrs ih =>
      rw [List.foldlM_cons] at h
      rcases except_bind_eq_error h with ha | ⟨s', -, h⟩
      · exact add_fault ha
      · exact ih h

theorem kind_fault {s : Directives} {ty : Ty} {d : Diagnostic} (h : s.kind ty = .error d) :
    ¬ d.fault.isCollision := by
  rw [kind] at h
  split at h <;> cases h <;> exact Bool.false_ne_true

end Directives

/-! ## One field -/

namespace Field

variable {self : Ty} {f : Field}

/-- The field's name without `r#`, if it has one. -/
def bareName? (f : Field) : Option String := f.name.map (·.1.name)

/-- Whether nothing is wrong with the field by itself, but for its name. -/
def collidesAtMost (self : Ty) (f : Field) : Bool :=
  match f.verdict self with
  | .sound _ => true
  | .faulty d => d.fault.isCollision
  | .unwritable _ => false

theorem classify_reserved {name : Ident} {span : Span} (hname : f.name = some (name, span))
    (hres : name.name ∈ reservedNames) :
    f.classify self = .error ⟨.reservedName name.name, span⟩ := by
  rw [classify, hname]
  exact if_pos (by simpa using hres)

/-- Only a reserved name is a collision by itself. -/
theorem reserved_of_classify {d : Diagnostic} (h : f.classify self = .error d)
    (hc : d.fault.isCollision) : ∃ n ∈ f.bareName?, n ∈ reservedNames := by
  rw [classify] at h
  split at h
  · cases h
    exact absurd hc Bool.false_ne_true
  · next name span hname =>
      split at h
      · next hres =>
          refine ⟨name.name, ?_, by simpa using hres⟩
          rw [bareName?, hname]
          rfl
      · rcases except_bind_eq_error h with hd | ⟨directives, -, h⟩
        · exact absurd hc (Directives.foldlM_add_fault hd)
        · rcases except_bind_eq_error h with hk | ⟨kind, -, h⟩
          · exact absurd hc (Directives.kind_fault hk)
          · cases h

theorem writable_of_collidesAtMost (h : f.collidesAtMost self) :
    (f.verdict self).unwritable? = none := by
  rw [collidesAtMost] at h
  split at h
  · next hv => rw [hv]; rfl
  · next hv => rw [hv]; rfl
  · cases h

theorem fault_of_collidesAtMost (h : f.collidesAtMost self) {d : Diagnostic}
    (hd : (f.verdict self).diagnostic? = some d) : d.fault.isCollision := by
  rw [collidesAtMost] at h
  split at h
  · next hv => rw [hv] at hd; cases hd
  · next hv =>
      rw [hv] at hd
      cases hd
      exact h
  · cases h

theorem diagnostic?_of_reserved {n : String} (hn : n ∈ f.bareName?) (hres : n ∈ reservedNames) :
    (f.verdict self).diagnostic?.isSome := by
  obtain ⟨⟨name, span⟩, hname, rfl⟩ := Option.map_eq_some_iff.mp hn
  rw [verdict_of_error (classify_reserved hname hres)]
  rfl

theorem sound_of_unreserved (h : f.collidesAtMost self)
    (hn : ∀ n ∈ f.bareName?, n ∉ reservedNames) : (f.verdict self).sound?.isSome := by
  cases hv : f.verdict self with
  | sound spec => rfl
  | unwritable m =>
      have := writable_of_collidesAtMost h
      rw [hv] at this
      cases this
  | faulty d =>
      have hc : d.fault.isCollision := fault_of_collidesAtMost h (by rw [hv]; rfl)
      rw [verdict] at hv
      split at hv
      · next e he =>
          cases hv
          obtain ⟨n, hmem, hres⟩ := reserved_of_classify he hc
          exact absurd hres (hn n hmem)
      · split at hv <;> cases hv

/-- Whether the field is called like the pointer method of a field with one of these names. -/
def Clashes (names : List String) (f : Field) : Prop :=
  ∃ target ∈ names, f.bareName? = some (pointerName target)

instance {names : List String} : DecidablePred (Clashes names) := fun f =>
  inferInstanceAs (Decidable (∃ target ∈ names, f.bareName? = some (pointerName target)))

/-- Whether the diagnostic says, at the field's name, that the field is called like the pointer
method of the other field that it names. -/
def ClashTold (names : List String) (f : Field) (d : Diagnostic) : Prop :=
  ∃ name span, f.name = some (name, span) ∧ ∃ target ∈ names,
    name.name = pointerName target ∧ d = ⟨.pointerClash name.name target, span⟩

end Field

/-! ## The names of all methods -/

/-- The names of the fields without `r#`. -/
def fieldNames (fields : List Field) : List String := fields.filterMap Field.bareName?

/-- The names of all methods of a builder for fields with these names. -/
def methodNames (names : List String) : List String :=
  reservedNames ++ (names ++ names.map pointerName)

theorem methodNames_nodup_iff {names : List String} :
    (methodNames names).Nodup ↔ names.Nodup ∧ (∀ n ∈ names, n ∉ reservedNames) ∧
      ∀ n ∈ names, ∀ target ∈ names, n ≠ pointerName target := by
  have hreserved : reservedNames.Nodup := by decide
  have hpointers : (names.map pointerName).Nodup ↔ names.Nodup :=
    List.nodup_map_iff pointerName_injective
  have hfour : reservedNames.Disjoint (names.map pointerName) := by
    intro n hn hp
    obtain ⟨target, -, rfl⟩ := List.mem_map.mp hp
    exact Blueprint.reserved_ne_pointer hn target rfl
  have hsetters : names.Disjoint (names.map pointerName) ↔
      ∀ n ∈ names, ∀ target ∈ names, n ≠ pointerName target := by
    simp only [List.disjoint_iff_ne, List.forall_mem_map]
  have hnames : reservedNames.Disjoint names ↔ ∀ n ∈ names, n ∉ reservedNames :=
    ⟨fun h n hn hr => h hr hn, fun h n hr hn => h n hn hr⟩
  rw [methodNames, List.nodup_append', List.nodup_append', List.disjoint_append_right, hpointers,
    hsetters, hnames]
  exact ⟨fun h => ⟨h.2.1.1, h.2.2.1, h.2.1.2.2⟩,
    fun h => ⟨hreserved, ⟨h.1, h.1, h.2.2⟩, h.2.1, hfour⟩⟩

namespace Blueprint

/-- The names of the builder's methods without `r#`. -/
def methodNames (b : Blueprint) : List String :=
  b.impls.flatMap fun i => i.methods.map (·.name.name)

theorem methodNames_perm (b : Blueprint) :
    b.methodNames.Perm (StagedBuilder.methodNames (b.fields.map (·.name.name))) := by
  have hsetters : b.setterImpls.flatMap (fun i => i.methods.map (·.name.name)) =
      b.fields.map (·.name.name) := by
    rw [setterImpls, List.flatMap_map]
    show b.fields.zipIdx.flatMap (fun p => [p.1.name.name]) = _
    rw [← List.map_eq_flatMap]
    conv => rhs; rw [← List.zipIdx_map_fst 0 b.fields, List.map_map]
    rfl
  have hpointers : (b.fields.map pointerMethod).map (·.name.name) =
      (b.fields.map (·.name.name)).map pointerName := by
    rw [List.map_map, List.map_map]
    rfl
  have hnames : b.methodNames = "builder" :: (b.fields.map (·.name.name) ++ "build" ::
      ((b.fields.map (·.name.name)).map pointerName ++ ["maybe_uninit", "unsafe_build"])) := by
    rw [← hpointers, ← hsetters, methodNames, impls, List.cons_append, List.flatMap_cons,
      List.flatMap_append]
    simp [startImpl, startMethod, buildImpl, buildMethod, escapeImpl, releaseMethod,
      unsafeBuildMethod, Ident.plain]
  rw [hnames, StagedBuilder.methodNames, reservedNames, List.perm_iff_count]
  intro n
  simp only [List.count_cons, List.count_append, List.count_nil]
  omega

end Blueprint

/-! ## What is told of fields -/

/-- The faults told of fields that are about names. -/
def collisions (self : Ty) (fields : List Field) : List Diagnostic :=
  match builderFields self fields with
  | .error (.faults ds) => ds.filter (·.fault.isCollision)
  | .error (.unwritable _) | .ok _ => []

theorem pointerClash_eq_none {specs : List FieldSpec} {f : FieldSpec} :
    pointerClash specs f = none ↔
      ∀ target ∈ specs.map (·.name.name), f.name.name ≠ pointerName target := by
  rw [pointerClash, Option.map_eq_none_iff, List.find?_eq_none, List.forall_mem_map]
  simp only [beq_iff_eq, ne_comm, ne_eq]

theorem pointerClash_eq_some {specs : List FieldSpec} {f : FieldSpec} {d : Diagnostic}
    (h : pointerClash specs f = some d) :
    ∃ target ∈ specs.map (·.name.name), f.name.name = pointerName target ∧
      d = ⟨.pointerClash f.name.name target, f.nameSpan⟩ := by
  obtain ⟨target, hfind, rfl⟩ := Option.map_eq_some_iff.mp h
  have hname : pointerName target.name.name = f.name.name := by
    simpa using List.find?_some hfind
  exact ⟨_, List.mem_map_of_mem (List.mem_of_find?_eq_some hfind), hname.symm, rfl⟩

theorem pointerClashes_collide {specs : List FieldSpec} :
    ∀ d ∈ pointerClashes specs, d.fault.isCollision := by
  intro d hd
  obtain ⟨f, -, hf⟩ := List.mem_filterMap.mp hd
  obtain ⟨target, -, -, rfl⟩ := pointerClash_eq_some hf
  rfl

theorem pointerClashes_eq_nil_iff {specs : List FieldSpec} :
    pointerClashes specs = [] ↔ ∀ n ∈ specs.map (·.name.name),
      ∀ target ∈ specs.map (·.name.name), n ≠ pointerName target := by
  rw [pointerClashes, List.filterMap_eq_nil_iff, List.forall_mem_map]
  exact forall₂_congr fun _ _ => pointerClash_eq_none

theorem collisions_of_faults {self : Ty} {fields : List Field} {ds : List Diagnostic}
    (h : builderFields self fields = .error (.faults ds)) (hds : ∀ d ∈ ds, d.fault.isCollision) :
    collisions self fields = ds := by
  rw [collisions, h]
  exact List.filter_eq_self.mpr hds

section Fields

variable {self : Ty} {fields : List Field}

theorem fieldNames_of_sound (h : ∀ f ∈ fields, (f.verdict self).sound?.isSome) :
    (soundFields self fields).map (·.name.name) = fieldNames fields := by
  have hnames := congrArg (List.filterMap (Option.map fun n : Ident × Span => n.1.name))
    (soundFields_names h)
  rw [List.filterMap_map, List.filterMap_map] at hnames
  rw [← List.filterMap_eq_map]
  exact hnames

/-- A field with a reserved name is refused before setters are compared with pointer methods. -/
theorem builderFields_of_reserved (hother : ∀ f ∈ fields, f.collidesAtMost self)
    (hres : ∃ n ∈ fieldNames fields, n ∈ reservedNames) :
    ∃ ds, ds ≠ [] ∧ (∀ d ∈ ds, d.fault.isCollision) ∧
      builderFields self fields = .error (.faults ds) := by
  have hwritable : firstUnwritable? self fields = none :=
    List.findSome?_eq_none_iff.mpr fun f hf => Field.writable_of_collidesAtMost (hother f hf)
  have hne : fieldFaults self fields ≠ [] := by
    obtain ⟨n, hn, hr⟩ := hres
    obtain ⟨f, hf, hname⟩ := List.mem_filterMap.mp hn
    have hfault : (f.verdict self).diagnostic?.isSome := Field.diagnostic?_of_reserved hname hr
    obtain ⟨d, hd⟩ := Option.isSome_iff_exists.mp hfault
    exact List.ne_nil_of_mem (List.mem_filterMap.mpr ⟨f, hf, hd⟩)
  refine ⟨_, hne, fun d hd => ?_, builderFields_of_faults hwritable hne⟩
  obtain ⟨f, hf, hd⟩ := List.mem_filterMap.mp hd
  exact Field.fault_of_collidesAtMost (hother f hf) hd

theorem sound_of_unreserved (hother : ∀ f ∈ fields, f.collidesAtMost self)
    (hres : ∀ n ∈ fieldNames fields, n ∉ reservedNames) :
    ∀ f ∈ fields, (f.verdict self).sound?.isSome := by
  intro f hf
  exact Field.sound_of_unreserved (hother f hf) fun n hn =>
    hres n (List.mem_filterMap.mpr ⟨f, hf, hn⟩)

/-- Where no name is reserved the clashes with pointer methods are all that is told. -/
theorem collisions_of_unreserved (h : ∀ f ∈ fields, (f.verdict self).sound?.isSome) :
    collisions self fields = pointerClashes (soundFields self fields) := by
  have hfields := builderFields_of_sound h
  by_cases hnil : pointerClashes (soundFields self fields) = []
  · rw [collisions, hfields, checkPointers_apart hnil, hnil]
    rfl
  · rw [checkPointers_clash hnil] at hfields
    exact collisions_of_faults hfields pointerClashes_collide

/-- Clashes are told one for each field that has one, in the order of the fields. -/
theorem clashes_told (h : ∀ f ∈ fields, (f.verdict self).sound?.isSome) {specs : List FieldSpec}
    {names : List String} (hnames : specs.map (·.name.name) = names) :
    List.Forall₂ (Field.ClashTold names) (fields.filter (Field.Clashes names))
      ((soundFields self fields).filterMap (pointerClash specs)) := by
  subst hnames
  induction fields with
  | nil => exact .nil
  | cons f fields ih =>
      obtain ⟨hf, hfields⟩ := List.forall_mem_cons.mp h
      have ih := ih hfields
      obtain ⟨spec, hspec⟩ := Option.isSome_iff_exists.mp hf
      have hname := (Field.classify_ok (Field.classify_of_sound? hspec)).1
      have hclashes : f.Clashes (specs.map (·.name.name)) ↔
          ∃ target ∈ specs.map (·.name.name), spec.name.name = pointerName target := by
        rw [Field.Clashes, Field.bareName?, hname]
        simp only [Option.map_some, Option.some.injEq]
      rw [soundFields, List.filterMap_cons, hspec, List.filterMap_cons]
      cases hc : pointerClash specs spec with
      | none =>
          have hnot : ¬ f.Clashes (specs.map (·.name.name)) := by
            rw [hclashes]
            rintro ⟨target, htarget, he⟩
            exact pointerClash_eq_none.mp hc target htarget he
          rw [List.filter_cons_of_neg (by simpa using hnot)]
          exact ih
      | some d =>
          obtain ⟨target, htarget, he, hd⟩ := pointerClash_eq_some hc
          have hyes : f.Clashes (specs.map (·.name.name)) := hclashes.mpr ⟨target, htarget, he⟩
          rw [List.filter_cons_of_pos (by simpa using hyes)]
          exact .cons ⟨_, _, hname, target, htarget, he, hd⟩ ih

end Fields

/-- Fields of different names with which nothing else is wrong are refused just if two methods
of the builder would have one name, and for nothing but that. Where no field has a reserved
name, there is one diagnostic for each field that is called like the pointer method of
another. -/
theorem method_names_apart {self : Ty} {fields : List Field} (hdistinct : (fieldNames fields).Nodup)
    (hother : ∀ f ∈ fields, f.collidesAtMost self) :
    (collisions self fields = [] ↔ (methodNames (fieldNames fields)).Nodup) ∧
      ((methodNames (fieldNames fields)).Nodup → ∃ fs, builderFields self fields = .ok fs) ∧
      (¬ (methodNames (fieldNames fields)).Nodup →
        builderFields self fields = .error (.faults (collisions self fields))) ∧
      ((∀ n ∈ fieldNames fields, n ∉ reservedNames) →
        List.Forall₂ (Field.ClashTold (fieldNames fields))
          (fields.filter (Field.Clashes (fieldNames fields))) (collisions self fields)) ∧
      ∀ b : Blueprint, builderFields self fields = .ok b.fields →
        b.methodNames.Perm (methodNames (fieldNames fields)) := by
  rw [methodNames_nodup_iff, and_iff_right hdistinct]
  by_cases hres : ∀ n ∈ fieldNames fields, n ∉ reservedNames
  · have hsound := sound_of_unreserved hother hres
    have hnames := fieldNames_of_sound hsound
    have hfields := builderFields_of_sound hsound
    have hcollisions := collisions_of_unreserved hsound
    have hnil : pointerClashes (soundFields self fields) = [] ↔ _ := pointerClashes_eq_nil_iff
    rw [hnames, ← hcollisions] at hnil
    rw [and_iff_right hres]
    refine ⟨hnil, fun h => ?_, fun h => ?_, fun _ => ?_, fun b hb => ?_⟩
    · rw [hfields, checkPointers_apart (hcollisions ▸ hnil.mpr h)]
      exact ⟨_, rfl⟩
    · have hclash : pointerClashes (soundFields self fields) ≠ [] :=
        fun he => h (hnil.mp (hcollisions.trans he))
      rw [hfields, checkPointers_clash hclash, hcollisions]
      rfl
    · rw [hcollisions]
      exact clashes_told hsound hnames
    · have hb' : b.fields.map (·.name.name) = fieldNames fields := by
        rw [← (builderFields_ok hb).2, withMarkers_names, hnames]
      rw [← hb']
      exact b.methodNames_perm
  · obtain ⟨ds, hne, hds, herror⟩ : ∃ ds, ds ≠ [] ∧ (∀ d ∈ ds, d.fault.isCollision) ∧
        builderFields self fields = .error (.faults ds) := by
      refine builderFields_of_reserved hother ?_
      simpa using hres
    have hcollisions := collisions_of_faults herror hds
    refine ⟨iff_of_false (hcollisions ▸ hne) fun h => hres h.1, fun h => absurd h.1 hres,
      fun _ => ?_, fun h => absurd h hres, fun b hb => ?_⟩
    · rw [hcollisions, herror]
    · rw [herror] at hb
      cases hb

/-- A chain of fields, each called like the pointer method of the one before, and one beside
it. -/
theorem method_names_apart_chain :
    let ty := Ty.named "u8"
    let fields := ["ptr_ptr_name", "other", "name", "ptr_name"].map fun name => Field.of [] name ty
    (fieldNames fields).Nodup ∧ (∀ f ∈ fields, f.collidesAtMost ty) ∧
      ¬ (methodNames (fieldNames fields)).Nodup ∧
      builderFields ty fields = .error (.faults
        [⟨.pointerClash "ptr_ptr_name" "ptr_name", .nowhere⟩,
          ⟨.pointerClash "ptr_name" "name", .nowhere⟩]) := by
  intro ty fields
  have hdistinct : (fieldNames fields).Nodup := by decide
  have hother : ∀ f ∈ fields, f.collidesAtMost ty := by decide +kernel
  have hnot : ¬ (methodNames (fieldNames fields)).Nodup := by decide
  have hcollisions : collisions ty fields = [⟨.pointerClash "ptr_ptr_name" "ptr_name", .nowhere⟩,
      ⟨.pointerClash "ptr_name" "name", .nowhere⟩] := by decide +kernel
  refine ⟨hdistinct, hother, hnot, ?_⟩
  rw [← hcollisions]
  exact (method_names_apart hdistinct hother).2.2.1 hnot

end StagedBuilder
