import StagedBuilder.Builder.Scope
import StagedBuilder.Proofs.MarkerCapture

/-!
# When the module hides a name

The module of a builder copies what the struct says of its parameters and fields, and makes up
names of its own. Nothing keeps the two apart. What is copied anywhere is what the struct
refers to (`copied_subset`), and the pointer methods bring all of it together with all that is
made up (`escape_copied`). So a name is hidden somewhere just if it is of both kinds
(`captures_iff`).

A setter may take less than the field's type, what an `Option` holds, but that refers to
nothing else (`setterTy_heads`).
-/

namespace StagedBuilder

/-! ## What a setter takes -/

/-- What an `Option` holds refers to nothing that the type does not. -/
theorem Ty.optionInner?_heads {t inner : Ty} (h : t.optionInner? = some inner) :
    inner.heads ⊆ t.heads := by
  obtain ⟨absolute, segments, name, colons, trailing, rfl, hlast⟩ := Ty.optionInner?_eq_some h
  have hseg := @Path.heads_subset absolute _ _ (List.mem_of_getLast? hlast)
  have hheads : inner.heads = (Segment.mk name (.angle colons [.type inner] trailing)).heads := by
    rw [Segment.heads, Args.heads, Arg.headsAll, Arg.headsAll, Arg.heads, List.append_nil]
  rw [hheads]
  exact hseg

namespace Blueprint

variable {b : Blueprint}

theorem setterTy_heads {self : Ty} {fields : List Field}
    (h : builderFields self fields = .ok b.fields) {f : BuilderField} (hf : f ∈ b.fields) :
    f.setterTy.heads ⊆ f.ty.heads := by
  obtain ⟨field, -, hc⟩ := exists_classify h hf
  rcases Field.setterTy_cases hc with hty | hinner
  · rw [hty]
    exact List.Subset.refl _
  · exact Ty.optionInner?_heads hinner

/-! ## The items of the module -/

theorem mem_moduleItems {i : ModuleItem} : i ∈ b.moduleItems ↔
    i = .imports ∨ i = .builderStruct (b.headWith b.states) ∨
      (∃ n ∈ b.sets ++ b.unsets, i = .marker n) ∨ i = .ofStruct b.buildableImpl ∨
      ∃ j ∈ b.impls, i = .ofBuilder j := by
  simp only [moduleItems, impls, List.mem_append, List.mem_cons, List.mem_map, List.not_mem_nil,
    or_false]
  constructor
  · rintro ((((((rfl | rfl) | ⟨n, hn, rfl⟩) | ⟨n, hn, rfl⟩) | (rfl | rfl)) | ⟨j, hj, rfl⟩) |
      (rfl | rfl))
    all_goals simp [*]
  · rintro (rfl | rfl | ⟨n, hn | hn, rfl⟩ | rfl | ⟨j, ((rfl | hj) | (rfl | rfl)), rfl⟩)
    all_goals simp [*]

theorem declared_eq :
    b.moduleItems.flatMap b.declared = b.builderName :: (b.sets ++ b.unsets) := by
  have hmarkers (names : List String) :
      (names.map ModuleItem.marker).flatMap b.declared = names := by
    rw [List.flatMap_map]
    exact List.flatMap_singleton' names
  have himpls (impls : List BuilderImpl) :
      (impls.map ModuleItem.ofBuilder).flatMap b.declared = [] := by
    rw [List.flatMap_map]
    exact List.flatMap_eq_nil_iff.mpr fun _ _ => rfl
  simp only [moduleItems, List.flatMap_append, hmarkers, himpls]
  simp [declared]

theorem mem_heads {head : ImplHead} {n : String} : n ∈ head.heads ↔
    (∃ p ∈ head.params, n ∈ p.declares ∨ n ∈ p.heads) ∨ (∃ p ∈ head.predicates, n ∈ p.heads) ∨
      ∃ t ∈ head.defaults, n ∈ t.heads := by
  simp [ImplHead.heads]

theorem mem_givenNames {n : String} : n ∈ b.givenNames ↔ n = b.name.name ∨
    (∃ p ∈ b.params, n ∈ p.declares ∨ n ∈ p.heads) ∨
      (∃ p ∈ b.generics.predicates, n ∈ p.heads) ∨ ∃ f ∈ b.fields, n ∈ f.ty.heads := by
  simp [givenNames]

theorem headWith_heads (states : List String) : (b.headWith states).heads ⊆ b.givenNames := by
  intro n hn
  rcases mem_heads.mp hn with hp | hp | ⟨t, ht, -⟩
  · exact mem_givenNames.mpr (Or.inr (Or.inl hp))
  · exact mem_givenNames.mpr (Or.inr (Or.inr (Or.inl hp)))
  · cases ht

theorem ty_heads {f : BuilderField} (hf : f ∈ b.fields) : f.ty.heads ⊆ b.givenNames :=
  fun _ hn => mem_givenNames.mpr (Or.inr (Or.inr (Or.inr ⟨f, hf, hn⟩)))

theorem startHead_heads : b.startHead.heads ⊆ b.givenNames := by
  intro n hn
  rcases mem_heads.mp hn with hp | hp | ⟨t, ht, hn⟩
  · exact mem_givenNames.mpr (Or.inr (Or.inl hp))
  · exact mem_givenNames.mpr (Or.inr (Or.inr (Or.inl hp)))
  · obtain ⟨f, hf, he⟩ := List.mem_filterMap.mp ht
    have hty : f.ty = t := by
      split at he
      · exact Option.some.inj he
      · cases he
    exact ty_heads hf (hty ▸ hn)

theorem name_mem : b.name.name ∈ b.givenNames := List.mem_cons_self

theorem startMethod_heads : b.methodHeads b.startMethod ⊆ b.givenNames := by
  intro n hn
  obtain ⟨i, hi, hn⟩ := List.mem_flatMap.mp (show n ∈ b.initializers.flatMap _ from hn)
  obtain ⟨f, hf, he⟩ := List.mem_filterMap.mp hi
  obtain ⟨value, -, rfl⟩ := Option.map_eq_some_iff.mp he
  exact ty_heads hf hn

theorem method_heads {self : Ty} {fields : List Field}
    (h : builderFields self fields = .ok b.fields) {j : BuilderImpl} (hj : j ∈ b.impls) {m : Method}
    (hm : m ∈ j.methods) : b.methodHeads m ⊆ b.givenNames := by
  -- The families of `impl`s. Only a setter may take less than all of its field's type.
  rcases mem_impls.mp hj with rfl | ⟨f, i, hi, rfl⟩ | rfl | rfl
  · rw [List.mem_singleton.mp hm]
    exact startMethod_heads
  · have hf := List.mem_of_getElem? hi
    rw [List.mem_singleton.mp hm]
    intro n hn
    have hn : n ∈ f.setterTy.heads := by
      simpa [methodHeads, setter, outputHeads, Body.heads] using hn
    exact ty_heads hf (setterTy_heads h hf hn)
  · rw [List.mem_singleton.mp hm]
    intro n hn
    have hn : n = b.name.name := by
      simpa [methodHeads, buildMethod, outputHeads, Body.heads] using hn
    exact hn ▸ name_mem
  · rcases List.mem_append.mp hm with hm | hm
    · obtain ⟨f, hf, rfl⟩ := List.mem_map.mp hm
      intro n hn
      have hn : n ∈ f.ty.heads := by
        simpa [methodHeads, pointerMethod, outputHeads, Body.heads] using hn
      exact ty_heads hf hn
    · intro n hn
      have hn : n = b.name.name := by
        simp only [List.mem_cons, List.not_mem_nil, or_false] at hm
        rcases hm with rfl | rfl
        · simpa [methodHeads, releaseMethod, outputHeads, Body.heads] using hn
        · simpa [methodHeads, unsafeBuildMethod, outputHeads, Body.heads] using hn
      exact hn ▸ name_mem

/-- Only names of the struct's are copied. -/
theorem copied_subset {self : Ty} {fields : List Field}
    (h : builderFields self fields = .ok b.fields) {i : ModuleItem} (hi : i ∈ b.moduleItems) :
    b.copied i ⊆ b.givenNames := by
  rcases mem_moduleItems.mp hi with rfl | rfl | ⟨n, -, rfl⟩ | rfl | ⟨j, hj, rfl⟩
  · exact List.nil_subset _
  · exact List.cons_subset.mpr ⟨name_mem, headWith_heads _⟩
  · exact List.nil_subset _
  · exact List.cons_subset.mpr ⟨name_mem, startHead_heads⟩
  · refine List.append_subset.mpr ⟨?_, ?_⟩
    · rcases mem_impls.mp hj with rfl | ⟨f, i, -, rfl⟩ | rfl | rfl
      · exact startHead_heads
      · exact headWith_heads _
      · exact headWith_heads _
      · exact headWith_heads _
    · intro n hn
      obtain ⟨m, hm, hn⟩ := List.mem_flatMap.mp hn
      exact method_heads h hj hm hn

/-- Only states are bound. -/
theorem bound_subset {i : ModuleItem} (hi : i ∈ b.moduleItems) : bound i ⊆ b.states := by
  rcases mem_moduleItems.mp hi with rfl | rfl | ⟨n, -, rfl⟩ | rfl | ⟨j, hj, rfl⟩
  · exact List.nil_subset _
  · exact List.Subset.refl _
  · exact List.nil_subset _
  · exact List.nil_subset _
  · rcases mem_impls.mp hj with rfl | ⟨f, i, -, rfl⟩ | rfl | rfl
    · exact List.nil_subset _
    · exact List.eraseIdx_subset
    · exact List.map_subset _ (List.filter_subset_self _)
    · exact List.Subset.refl _

/-- What exists in every state has all names in one place: those that the struct gives, and all
states. -/
theorem escape_copied : b.givenNames ⊆ b.copied (.ofBuilder b.escapeImpl) := by
  have hmethod {m : Method} (hm : m ∈ b.escapeImpl.methods) :
      b.methodHeads m ⊆ b.copied (.ofBuilder b.escapeImpl) :=
    fun n hn => List.mem_append_right _ (List.mem_flatMap.mpr ⟨m, hm, hn⟩)
  intro n hn
  rcases mem_givenNames.mp hn with rfl | hp | hp | ⟨f, hf, hn⟩
  · refine hmethod (m := releaseMethod) (List.mem_append_right _ List.mem_cons_self) ?_
    simp [methodHeads, releaseMethod, outputHeads]
  · exact List.mem_append_left _ (mem_heads.mpr (Or.inl hp))
  · exact List.mem_append_left _ (mem_heads.mpr (Or.inr (Or.inl hp)))
  · refine hmethod (List.mem_append_left _ (List.mem_map_of_mem hf)) ?_
    simp [methodHeads, pointerMethod, outputHeads, hn]

theorem escapeImpl_mem : .ofBuilder b.escapeImpl ∈ b.moduleItems :=
  mem_moduleItems.mpr (Or.inr (Or.inr (Or.inr (Or.inr
    ⟨_, mem_impls.mpr (Or.inr (Or.inr (Or.inr rfl))), rfl⟩))))

theorem mem_made (ha : Accepted b.fields) {n : String} :
    n ∈ b.builderName :: (b.sets ++ b.unsets ++ b.states) ↔ n = b.builderName ∨
      ∃ base ∈ b.bases, n = "Field" ++ base ∨ n = base ++ "Set" ∨ n = base ++ "Unset" := by
  rw [states_eq ha, sets_eq ha, unsets_eq ha]
  simp only [List.mem_cons, List.mem_append, List.mem_map, or_assoc]
  refine or_congr_right ⟨?_, ?_⟩
  · rintro (⟨base, hbase, rfl⟩ | ⟨base, hbase, rfl⟩ | ⟨base, hbase, rfl⟩)
    · exact ⟨base, hbase, Or.inr (Or.inl rfl)⟩
    · exact ⟨base, hbase, Or.inr (Or.inr rfl)⟩
    · exact ⟨base, hbase, Or.inl rfl⟩
  · rintro ⟨base, hbase, rfl | rfl | rfl⟩
    · exact Or.inr (Or.inr ⟨base, hbase, rfl⟩)
    · exact Or.inl ⟨base, hbase, rfl⟩
    · exact Or.inr (Or.inl ⟨base, hbase, rfl⟩)

/-- A name is hidden in the module just if the struct refers to something by it and the
expansion makes it up: it is the builder's, or a base of a marker with `Field` before it or
with `Set` or `Unset` behind it. -/
theorem captures_iff {item : Item} (h : item.blueprint = .ok b) (n : String) :
    b.Captures n ↔ n ∈ b.givenNames ∧ (n = b.builderName ∨
      ∃ base ∈ b.bases, n = "Field" ++ base ∨ n = base ++ "Set" ∨ n = base ++ "Unset") := by
  obtain ⟨fields, -, hfs⟩ := Item.blueprint_fields h
  rw [← mem_made (accepted_of_builderFields hfs), Captures, declared_eq]
  constructor
  · rintro ⟨i, hi, hcopied, hmade⟩
    refine ⟨copied_subset hfs hi hcopied, ?_⟩
    rcases List.mem_append.mp hmade with hmade | hmade
    · exact List.mem_append_left b.states hmade
    · exact List.mem_append_right (b.builderName :: (b.sets ++ b.unsets)) (bound_subset hi hmade)
  -- The `impl` for every state refers to all that is given and binds all states.
  · rintro ⟨hgiven, hmade⟩
    exact ⟨_, escapeImpl_mem, escape_copied hgiven, hmade⟩

/-- A field whose type has the name of the field's `Set`. -/
def dataSet : Item := .struct "S" [.of [] "data" (.named "DataSet")]

theorem captures_iff_dataSet :
    ∃ b, dataSet.blueprint = .ok b ∧ b.givenNames = ["S", "DataSet"] ∧ b.bases = ["Data"] ∧
      b.Captures "DataSet" ∧ ¬ b.Captures "S" := by
  have hview : dataSet.blueprint.toOption.map (fun b => (b.givenNames, b.bases, b.builderName)) =
      some (["S", "DataSet"], ["Data"], "SBuilder") := by decide +kernel
  obtain ⟨b, h, hview⟩ := Item.exists_blueprint hview
  simp only [Prod.mk.injEq] at hview
  obtain ⟨hgiven, hbases, hbuilder⟩ := hview
  refine ⟨b, h, hgiven, hbases, (captures_iff h _).mpr ⟨?_, Or.inr ⟨"Data", ?_, ?_⟩⟩, fun hc => ?_⟩
  · rw [hgiven]
    decide
  · rw [hbases]
    decide
  · decide
  · have hmade := ((captures_iff h _).mp hc).2
    rw [hbuilder, hbases] at hmade
    simp at hmade

/-- A struct that has the name of its field's `Set`, with a field that holds it. -/
def nameSet : Item :=
  .struct "NameSet" [.of [] "name" (.applied "Option" (.applied "Box" (.named "Self")))]

/-- `Self` is spelled out as the struct in what the setter takes, and there it means the
marker. -/
theorem captures_nameSet :
    ∃ b, nameSet.blueprint = .ok b ∧ b.name.name = "NameSet" ∧
      b.fields.map (fun f => (f.setterTy.heads, f.markers.set)) =
        [(["Box", "NameSet"], "NameSet")] ∧
      b.Captures "NameSet" := by
  have hview : nameSet.blueprint.toOption.map (fun b => (b.name.name,
      b.fields.map fun f => (f.setterTy.heads, f.markers.set), decide (b.Captures "NameSet"))) =
      some ("NameSet", [(["Box", "NameSet"], "NameSet")], true) := by decide +kernel
  obtain ⟨b, h, hview⟩ := Item.exists_blueprint hview
  simp only [Prod.mk.injEq, decide_eq_true_eq] at hview
  exact ⟨b, h, hview⟩

end Blueprint

end StagedBuilder
