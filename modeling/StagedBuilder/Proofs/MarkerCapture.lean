import StagedBuilder.Proofs.TypestateSoundness

/-!
# When a state has the name of a marker

The names of one kind are kept apart by their bases, and so are the two markers of all fields.
A state and a marker are not: `Field` before one base can give the same as `Set` or `Unset`
behind another. Which bases do that is an equation of words, and it has the obvious solutions
only, as no ending of `Field` is a beginning of `Set` or `Unset` (`state_eq_ending_iff`).

So three names for each field are different names unless, for some word, it stands behind
`Field` in one base and before `Set` or `Unset` in another (`markers_apart_iff`). Where it
does, the field with the first base has a setter that never means its own marker: the `impl`
binds that name to the state of the other field, and the setter leaves its field in whatever
state the other one is. So no field is ever in that `Set`, and if both fields are required no
order of setters leads to a builder that has `build` (`build_refused_of_captured`). The fields
`field_x` and `x_set` are such a pair.
-/

namespace StagedBuilder

/-! ## The equation -/

/-- Whatever begins like `Field` and ends in another way has both, one after the other. -/
theorem state_eq_ending_iff {base base' ending : String} (h : 'd' ∉ ending.toList) :
    "Field" ++ base = base' ++ ending ↔ ∃ w, base' = "Field" ++ w ∧ base = w ++ ending := by
  constructor
  · intro he
    have hl := congrArg String.toList he
    rw [String.toList_append, String.toList_append] at hl
    rcases List.append_eq_append_iff.mp hl with ⟨w, hw, hw'⟩ | ⟨w, hw, hw'⟩
    · refine ⟨String.ofList w, ?_, ?_⟩
      · rw [← String.toList_inj, String.toList_append, @String.toList_ofList w, hw]
      · rw [← String.toList_inj, String.toList_append, @String.toList_ofList w, hw']
    · rcases List.eq_nil_or_concat w with rfl | ⟨init, x, rfl⟩
      · refine ⟨"", ?_, ?_⟩
        · rw [← String.toList_inj, String.append_empty, hw, List.append_nil]
        · rw [← String.toList_inj, String.empty_append, hw', List.nil_append]
      · -- A part of `Field` that the ending begins with would bring its last letter.
        have hlast := congrArg List.getLast? hw
        rw [List.concat_eq_append, ← List.append_assoc, List.getLast?_concat] at hlast
        have hx : x = 'd' := (Option.some.inj hlast).symm
        refine absurd ?_ h
        rw [hw', List.concat_eq_append, hx]
        simp
  · rintro ⟨w, rfl, rfl⟩
    rw [String.append_assoc]

/-- A base alone does not solve it: there is one `F` more on one side. -/
theorem state_ne_ending {base ending : String} (h : 'F' ∉ ending.toList) :
    "Field" ++ base ≠ base ++ ending := by
  intro he
  have hl := congrArg (fun s => s.toList.count 'F') he
  simp only [String.toList_append, List.count_append, List.count_eq_zero.mpr h] at hl
  have hfield : "Field".toList.count 'F' = 1 := by decide
  omega

theorem disjoint_ending_iff {bases : List String} {ending : String} (h : 'd' ∉ ending.toList) :
    (bases.map ("Field" ++ ·)).Disjoint (bases.map (· ++ ending)) ↔
      ∀ w, "Field" ++ w ∈ bases → w ++ ending ∉ bases := by
  constructor
  · intro hd w hf he
    have heq := (state_eq_ending_iff h).mpr ⟨w, rfl, rfl⟩
    exact hd (List.mem_map_of_mem he) (heq ▸ List.mem_map_of_mem hf)
  · intro hw n hstate hending
    obtain ⟨base, hbase, rfl⟩ := List.mem_map.mp hstate
    obtain ⟨base', hbase', heq⟩ := List.mem_map.mp hending
    obtain ⟨w, rfl, rfl⟩ := (state_eq_ending_iff h).mp heq.symm
    exact hw w hbase' hbase

namespace Blueprint

variable {b : Blueprint}

/-- What the markers of the fields are made from. -/
def bases (b : Blueprint) : List String := markerBases 0 [] (b.fields.map (·.name.name))

theorem markers_eq (ha : Accepted b.fields) : b.fields.map (·.markers) = b.bases.map .ofBase := by
  rw [ha.markers, assignMarkers, bases]

theorem states_eq (ha : Accepted b.fields) : b.states = b.bases.map ("Field" ++ ·) := by
  have h := congrArg (List.map Markers.state) (markers_eq ha)
  rwa [List.map_map, List.map_map] at h

theorem sets_eq (ha : Accepted b.fields) : b.sets = b.bases.map (· ++ "Set") := by
  have h := congrArg (List.map Markers.set) (markers_eq ha)
  rwa [List.map_map, List.map_map] at h

theorem unsets_eq (ha : Accepted b.fields) : b.unsets = b.bases.map (· ++ "Unset") := by
  have h := congrArg (List.map Markers.unset) (markers_eq ha)
  rwa [List.map_map, List.map_map] at h

theorem markers_of_base (ha : Accepted b.fields) {i : Nat} {f : BuilderField}
    (hi : b.fields[i]? = some f) : ∃ base, b.bases[i]? = some base ∧ f.markers = .ofBase base := by
  have h := congrArg (·[i]?) (markers_eq ha)
  simp only [List.getElem?_map, hi, Option.map_some] at h
  obtain ⟨base, hbase, he⟩ := Option.map_eq_some_iff.mp h.symm
  exact ⟨base, hbase, he.symm⟩

/-! ## All names of a struct -/

theorem names_nodup_iff (ha : Accepted b.fields) :
    (b.states ++ b.sets ++ b.unsets).Nodup ↔
      b.states.Disjoint b.sets ∧ b.states.Disjoint b.unsets := by
  have hmarkers : b.sets.Disjoint b.unsets := by
    intro n hset hunset
    obtain ⟨f, hf, rfl⟩ := List.mem_map.mp hset
    obtain ⟨g, hg, he⟩ := List.mem_map.mp hunset
    exact set_ne_unset ha hf hg he.symm
  rw [List.nodup_append', List.nodup_append', List.disjoint_append_left]
  exact ⟨fun h => ⟨h.1.2.2, h.2.2.1⟩,
    fun h => ⟨⟨ha.states_nodup, ha.sets_nodup, h.1⟩, ha.unsets_nodup, h.2, hmarkers⟩⟩

/-! ## The setter of a field -/

theorem hidden_iff (ha : Accepted b.fields) {i : Nat} {base ending : String}
    (hbase : b.bases[i]? = some base) (hF : 'F' ∉ ending.toList) (hd : 'd' ∉ ending.toList) :
    base ++ ending ∈ b.states.eraseIdx i ↔
      ∃ w, b.bases[i]? = some ("Field" ++ w) ∧ w ++ ending ∈ b.bases := by
  rw [List.mem_eraseIdx_iff_getElem?, states_eq ha]
  constructor
  · rintro ⟨j, -, hj⟩
    rw [List.getElem?_map, Option.map_eq_some_iff] at hj
    obtain ⟨base', hbase', heq⟩ := hj
    obtain ⟨w, rfl, rfl⟩ := (state_eq_ending_iff hd).mp heq
    exact ⟨w, hbase, List.mem_of_getElem? hbase'⟩
  · rintro ⟨w, hw, hmem⟩
    obtain rfl : base = "Field" ++ w := Option.some.inj (hbase.symm.trans hw)
    obtain ⟨j, hj⟩ := List.mem_iff_getElem?.mp hmem
    have heq := (state_eq_ending_iff hd).mpr ⟨w, rfl, rfl⟩
    refine ⟨j, ?_, ?_⟩
    -- The state is not the field's own, as no base solves the equation with itself.
    · rintro rfl
      have hsame := Option.some.inj (hj.symm.trans hw)
      exact state_ne_ending hF (hsame ▸ heq)
    · rw [List.getElem?_map, hj, Option.map_some, heq]

/-- The names of all fields are different, three for each, unless a word stands behind `Field`
in one base and before `Set` or `Unset` in another. Where it does, the `impl` of a setter binds
the name of a marker that the setter is about. -/
theorem markers_apart_iff {self : Ty} {fields : List Field}
    (h : builderFields self fields = .ok b.fields) :
    ((b.states ++ b.sets ++ b.unsets).Nodup ↔
      ∀ w, "Field" ++ w ∈ b.bases → w ++ "Set" ∉ b.bases ∧ w ++ "Unset" ∉ b.bases) ∧
    ∀ i f, b.fields[i]? = some f →
      (f.markers.set ∈ (b.setterImpl i f).head.states ↔
        ∃ w, b.bases[i]? = some ("Field" ++ w) ∧ w ++ "Set" ∈ b.bases) ∧
      (f.markers.unset ∈ (b.setterImpl i f).head.states ↔
        ∃ w, b.bases[i]? = some ("Field" ++ w) ∧ w ++ "Unset" ∈ b.bases) := by
  have ha := accepted_of_builderFields h
  refine ⟨?_, fun i f hi => ?_⟩
  · rw [names_nodup_iff ha, states_eq ha, sets_eq ha, unsets_eq ha,
      disjoint_ending_iff (by decide), disjoint_ending_iff (by decide)]
    exact ⟨fun h w hw => ⟨h.1 w hw, h.2 w hw⟩, fun h => ⟨fun w hw => (h w hw).1,
      fun w hw => (h w hw).2⟩⟩
  · obtain ⟨base, hbase, hmarkers⟩ := markers_of_base ha hi
    rw [hmarkers]
    exact ⟨hidden_iff ha hbase (by decide) (by decide), hidden_iff ha hbase (by decide) (by decide)⟩

/-! ## What becomes of a run -/

section Captured

variable (ha : Accepted b.fields) (hn : b.setterNames.Nodup) {f g : BuilderField}
  (hf : f ∈ b.fields) (hg : g ∈ b.fields) (hcap : f.markers.set = g.markers.state)

include ha hn hf hg hcap

/-- Where the `Set` of a field is the state of another, no setter brings a field into it. The
one that is meant to do so gives its field the state of the other. -/
theorem set_not_given {σ : BuilderField → String} (hσ : ∀ k ∈ b.fields, σ k ≠ f.markers.set)
    {i : Nat} {k : BuilderField} (hi : b.fields[i]? = some k) {bs : Bindings}
    (hbs : (b.setterImpl i k).bindings? .equal (b.argsBy σ) = some bs) :
    bs.resolve k.markers.set ≠ f.markers.set := by
  have hh := header_setterImpl hn hi
  intro hset
  rcases hh.resolve_cases hbs k.markers.set with hself | ⟨j, hj, -, -, hother⟩
  · obtain rfl : k = f := List.inj_on_of_nodup_map ha.sets_nodup (List.mem_of_getElem? hi) hf
      (hself.symm.trans hset)
    have hne : g.name.text ≠ k.name.text := fun he =>
      Nat.lt_irrefl _ (field_unique hn hg hf he ▸ length_of_set_eq_state ha hf hg hcap)
    have hstate := hh.resolve_open hbs hg (by simpa using hne)
    rw [← hcap, hset] at hstate
    exact hσ g hg hstate.symm
  · exact hσ j hj (hother.symm.trans hset)

theorem set_not_reached {σ : BuilderField → String} (hσ : ∀ k ∈ b.fields, σ k ≠ f.markers.set)
    {names rest : List String} (hsetters : ∀ n ∈ names, n ∈ b.setterNames)
    (hacc : b.Accepts .equal (some (b.argsBy σ)) (names ++ rest)) :
    ∃ τ, (∀ k ∈ b.fields, τ k ≠ f.markers.set) ∧ b.Accepts .equal (some (b.argsBy τ)) rest := by
  induction names generalizing σ with
  | nil => exact ⟨σ, hσ, hacc⟩
  | cons n names ih =>
      obtain ⟨hname, hnames⟩ := List.forall_mem_cons.mp hsetters
      obtain ⟨k, hk, rfl⟩ := List.mem_map.mp hname
      obtain ⟨i, hi⟩ := List.mem_iff_getElem?.mp hk
      obtain ⟨s, hs, hacc⟩ := accepts_cons.mp hacc
      obtain ⟨bs, hbs, rfl⟩ := setter_of_step? ha hn hi hs
      rw [setter_after hn hi hbs] at hacc
      refine ih (fun l hl => ?_) hnames hacc
      by_cases hlk : l.name.text = k.name.text
      · rw [withValue, if_pos hlk]
        exact set_not_given ha hn hf hg hcap hσ hi hbs
      · rw [withValue_of_ne hlk]
        exact hσ l hl

/-- Where the `Set` of a required field is the state of another, setters never lead to `build`,
in whatever order they are called: it asks for that `Set`. -/
theorem build_refused_of_captured (hreqf : f.isRequired) (hreqg : g.isRequired)
    {names : List String} (hsetters : ∀ n ∈ names, n ∈ b.setterNames) :
    ¬ b.Accepts .equal (some b.startArgs) (names ++ ["build"]) := by
  intro hacc
  have hstart : ∀ k ∈ b.fields, k.markers.unset ≠ f.markers.set :=
    fun k hk => (set_ne_unset ha hf hk).symm
  obtain ⟨τ, hτ, hacc⟩ := set_not_reached ha hn hf hg hcap hstart hsetters hacc
  obtain ⟨s, hs, -⟩ := accepts_cons.mp hacc
  obtain ⟨bs, hbs, rfl⟩ := build_of_step? ha hs
  have hfixed := header_buildImpl.resolve_fixed hbs hf (FieldSpec.isRequired_iff.mp hreqf)
  rcases header_buildImpl.resolve_cases hbs f.markers.set with hself | ⟨k, hk, hopen, hname, -⟩
  · exact hτ f hf (hfixed.symm.trans hself)
  · obtain rfl : k = g :=
      List.inj_on_of_nodup_map ha.states_nodup hk hg (hname.symm.trans hcap)
    exact FieldSpec.isRequired_iff.mp hreqg hopen

end Captured

/-- Two required fields, where the `Set` of the first is the state of the second. -/
def fieldAndSet : List Field := [.of [] "field_x" (.named "u8"), .of [] "x_set" (.named "u8")]

theorem markers_apart_iff_fieldAndSet :
    ∃ b : Blueprint, builderFields (.named "S") fieldAndSet = .ok b.fields ∧
      b.bases = ["FieldX", "XSet"] ∧ ¬ (b.states ++ b.sets ++ b.unsets).Nodup ∧
      ∀ f, b.fields[0]? = some f → f.markers.set ∈ (b.setterImpl 0 f).head.states := by
  have hview : (Item.struct "S" fieldAndSet).blueprint.toOption.map bases =
      some ["FieldX", "XSet"] := by decide +kernel
  obtain ⟨b, hb, hbases⟩ := Item.exists_blueprint hview
  have h : builderFields (.named "S") fieldAndSet = .ok b.fields := by
    obtain ⟨fields, hbody, h⟩ := Item.blueprint_fields hb
    cases hbody
    exact h
  obtain ⟨hnodup, hhidden⟩ := markers_apart_iff h
  refine ⟨b, h, hbases, fun hall => ?_, fun f hf => ?_⟩
  · refine (hnodup.mp hall "X" ?_).1 ?_
    · rw [hbases]
      decide
    · rw [hbases]
      decide
  · refine (hhidden 0 f hf).1.mpr ⟨"X", ?_, ?_⟩
    · rw [hbases]
      decide
    · rw [hbases]
      decide

/-- Setting both fields leaves a builder that has no `build`, whichever is set first: `field_x`
is left in the state of `x_set`, and what `build` asks for is the `Set` of its own. Nor is
there any other way to `build`. -/
theorem build_refused_fieldAndSet :
    ∃ b, (Item.struct "S" fieldAndSet).blueprint = .ok b ∧ b.setterNames = ["field_x", "x_set"] ∧
      b.states = ["FieldFieldX", "FieldXSet"] ∧ b.sets = ["FieldXSet", "XSetSet"] ∧
      b.firstMissing? (some b.startArgs) 0 ["field_x", "x_set", "build"] = some 2 ∧
      b.firstMissing? (some b.startArgs) 0 ["x_set", "field_x", "build"] = some 2 ∧
      ∀ names, (∀ n ∈ names, n ∈ b.setterNames) →
        b.firstMissing? (some b.startArgs) 0 (names ++ ["build"]) ≠ none := by
  have hview : (Item.struct "S" fieldAndSet).blueprint.toOption.map (fun b =>
      ([b.setterNames, b.states, b.sets], b.fields.map fun f => f.isRequired,
        b.firstMissing? (some b.startArgs) 0 ["field_x", "x_set", "build"],
        b.firstMissing? (some b.startArgs) 0 ["x_set", "field_x", "build"])) =
      some ([["field_x", "x_set"], ["FieldFieldX", "FieldXSet"], ["FieldXSet", "XSetSet"]],
        [true, true], some 2, some 2) := by decide +kernel
  obtain ⟨b, h, hview⟩ := Item.exists_blueprint hview
  simp only [Prod.mk.injEq, List.cons.injEq] at hview
  obtain ⟨⟨hnames, hstates, hsets, -⟩, hrequired, hfirst, hsecond⟩ := hview
  refine ⟨b, h, hnames, hstates, hsets, hfirst, hsecond, fun names hsetters hnone => ?_⟩
  have hn : b.setterNames.Nodup := by
    rw [hnames]
    decide
  obtain ⟨f, rest, hfields, hreqf, hrest⟩ := List.map_eq_cons_iff.mp hrequired
  obtain ⟨g, hrest, hreqg⟩ := List.map_eq_singleton_iff.mp hrest
  rw [hrest] at hfields
  have hcap : f.markers.set = g.markers.state := by
    rw [sets, hfields] at hsets
    rw [states, hfields] at hstates
    exact (List.cons.inj hsets).1.trans (List.cons.inj (List.cons.inj hstates).2).1.symm
  have hf : f ∈ b.fields := hfields ▸ List.mem_cons_self
  have hg : g ∈ b.fields := hfields ▸ List.mem_cons_of_mem _ List.mem_cons_self
  exact build_refused_of_captured (Item.blueprint_accepted h) hn hf hg hcap hreqf hreqg hsetters
    (firstMissing?_eq_none_iff.mp hnone)

end Blueprint

end StagedBuilder
