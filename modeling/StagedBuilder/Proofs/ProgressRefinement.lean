import StagedBuilder.Proofs.Uncaptured
import StagedBuilder.Proofs.Runs
import StagedBuilder.Record.Probe

/-!
# The typestate is a set of fields

The typestate implements something much simpler, a set of the fields that are set and a flag
for a builder that is gone. `Progress` is that, with a step of its own which knows nothing of
headers, markers or bindings.

`step?_eq` relates one call to one step of it, and `followAs_eq_run` a run of calls to a run.
Both are equations between answers, so they say of a refused call too that it is refused on
either side.
-/

namespace StagedBuilder

/-! ## Progress -/

/-- How far a builder has come: the setters that were called, and whether it is gone. -/
structure Progress where
  done : Finset String
  consumed : Bool
deriving DecidableEq

namespace Progress

/-- No setter was called. -/
def initial : Progress := ⟨∅, false⟩

/-- The progress after a call, if the call is accepted. -/
def step? (b : Blueprint) (p : Progress) (name : String) : Option Progress :=
  if p.consumed then none
  else if name ∈ b.setterNames then
    if name ∈ p.done then none else some ⟨insert name p.done, false⟩
  else if name = "build" then
    if ∀ f ∈ b.fields, f.isRequired → f.name.text ∈ p.done then some ⟨p.done, true⟩ else none
  else if name = "unsafe_build" ∨ name = "maybe_uninit" then some ⟨p.done, true⟩
  else if name ∈ b.fields.map fun f => pointerName f.name.name then some p
  else none

/-- The progress after each of some calls, where a call that is refused changes nothing. -/
def run (b : Blueprint) (p : Progress) : List String → List (Option Progress)
  | [] => []
  | name :: names =>
    match p.step? b name with
    | some q => some q :: q.run b names
    | none => none :: p.run b names

variable {b : Blueprint} {done : Finset String}

theorem step?_setter {f : BuilderField} (hf : f ∈ b.fields) :
    step? b ⟨done, false⟩ f.name.text =
      if f.name.text ∈ done then none else some ⟨insert f.name.text done, false⟩ := by
  have hmem : f.name.text ∈ b.setterNames := List.mem_map_of_mem hf
  rw [step?, if_neg Bool.false_ne_true, if_pos hmem]

theorem step?_build (ha : Accepted b.fields) :
    step? b ⟨done, false⟩ "build" =
      if ∀ f ∈ b.fields, f.isRequired → f.name.text ∈ done then some ⟨done, true⟩ else none := by
  rw [step?, if_neg Bool.false_ne_true,
    if_neg (Blueprint.not_mem_setterNames_of_reserved ha (by decide)), if_pos rfl]

theorem step?_leave (ha : Accepted b.fields) {name : String}
    (hname : name = "unsafe_build" ∨ name = "maybe_uninit") :
    step? b ⟨done, false⟩ name = some ⟨done, true⟩ := by
  have hreserved : name ∈ reservedNames ∧ name ≠ "build" := by
    rcases hname with rfl | rfl <;> decide
  rw [step?, if_neg Bool.false_ne_true,
    if_neg (Blueprint.not_mem_setterNames_of_reserved ha hreserved.1), if_neg hreserved.2,
    if_pos hname]

theorem step?_pointer (ha : Accepted b.fields) {f : BuilderField} (hf : f ∈ b.fields) :
    step? b ⟨done, false⟩ (pointerName f.name.name) = some ⟨done, false⟩ := by
  have hne : ∀ {name : String}, name ∈ reservedNames → pointerName f.name.name ≠ name :=
    fun hname he => Blueprint.reserved_ne_pointer hname _ he.symm
  have hmem : pointerName f.name.name ∈ b.fields.map fun f => pointerName f.name.name :=
    List.mem_map.mpr ⟨f, hf, rfl⟩
  rw [step?, if_neg Bool.false_ne_true,
    if_neg (Blueprint.not_mem_setterNames_of_pointer ha hf), if_neg (hne (by decide)),
    if_neg (not_or.mpr ⟨hne (by decide), hne (by decide)⟩),
    if_pos hmem]

end Progress

namespace Blueprint

variable {b : Blueprint} {repeats : Repeats}

/-- The marker that a field has when the setters in `done` were called. -/
def marker (done : Finset String) (f : BuilderField) : String :=
  if f.name.text ∈ done then f.markers.set else f.markers.unset

/-- The builder's arguments at some progress, as long as there is a builder. -/
def argsAt (b : Blueprint) (p : Progress) : Option BuilderArgs :=
  if p.consumed then none else some (b.argsBy (marker p.done))

namespace Uncaptured

variable {f : BuilderField}

theorem marker_eq_set (hu : b.Uncaptured) {done : Finset String} (hf : f ∈ b.fields) :
    marker done f = f.markers.set ↔ f.name.text ∈ done := by
  rw [marker]
  split
  · next hd => simp [hd]
  · next hd => simp [hd, (hu.set_ne_unset hf hf).symm]

theorem marker_eq_unset (hu : b.Uncaptured) {done : Finset String} (hf : f ∈ b.fields) :
    marker done f = f.markers.unset ↔ f.name.text ∉ done := by
  rw [marker]
  split
  · next hd => simp [hd, hu.set_ne_unset hf hf]
  · next hd => simp [hd]

end Uncaptured

/-! ## One call -/

theorem argsAt_going {done : Finset String} :
    b.argsAt ⟨done, false⟩ = some (b.argsBy (marker done)) := rfl

theorem withValue_marker (hn : b.setterNames.Nodup) {done : Finset String} {f : BuilderField}
    (hf : f ∈ b.fields) :
    b.argsBy (withValue f f.markers.set (marker done)) =
      b.argsBy (marker (insert f.name.text done)) := by
  refine argsBy_congr fun g hg => ?_
  rw [marker]
  by_cases hgf : g.name.text = f.name.text
  · rw [withValue, if_pos hgf, if_pos (hgf ▸ Finset.mem_insert_self _ _), field_unique hn hg hf hgf]
  · rw [withValue_of_ne hgf, marker]
    simp only [Finset.mem_insert, hgf, false_or]

section Calls

variable {done : Finset String} {f : BuilderField} {bs : Bindings}

/-- The setter of a field that is not set can be called, and sets that field alone. -/
theorem setter_of_fresh (hu : b.Uncaptured) (hn : b.setterNames.Nodup) {i : Nat}
    (hi : b.fields[i]? = some f) (hd : f.name.text ∉ done) :
    ∃ bs, (b.setterImpl i f).bindings? repeats (b.argsBy (marker done)) = some bs ∧
      after (b.argsBy (marker done)) bs (b.setter i f).output =
        b.argsAt ⟨insert f.name.text done, false⟩ := by
  have hf := List.mem_of_getElem? hi
  have hh := header_setterImpl hn hi
  have hfix : ∀ g ∈ b.fields, ¬ decide (g.name.text ≠ f.name.text) →
      f.markers.unset = marker done g := by
    intro g hg hgf
    have hgf : g = f := field_unique hn hg hf (by simpa using hgf)
    rw [hgf]
    exact ((hu.marker_eq_unset hf).mpr hd).symm
  obtain ⟨bs, hbs, hparam, hstate⟩ :=
    hh.bindings?_of_fixed hu.states_nodup hu.params_apart
      (fun _ _ _ g hg => hu.unset_ne_state hf hg) hfix
  -- No name that the `impl` binds is the `Set` of the field, so the result has it as it is.
  have hset : bs.resolve f.markers.set = f.markers.set := by
    refine BuilderImpl.resolve_free hbs fun hb => ?_
    rcases hh.mem_binds.mp hb with hp | ⟨g, hg, -, he⟩
    · exact hu.param_ne_set hp hf rfl
    · exact hu.set_ne_state hf hg he.symm
  refine ⟨bs, hbs, ?_⟩
  rw [setter_output hn hi, after, argsBy_resolve hparam, argsAt_going, ← withValue_marker hn hf]
  congr 1
  refine argsBy_congr fun g hg => ?_
  by_cases hgf : g.name.text = f.name.text
  · rw [withValue, withValue, if_pos hgf, if_pos hgf, hset]
  · rw [withValue_of_ne hgf, withValue_of_ne hgf]
    exact hstate g hg (by simpa using hgf)

/-- A setter that can be called was not called before. -/
theorem fresh_of_setter (hu : b.Uncaptured) (hn : b.setterNames.Nodup) {i : Nat}
    (hi : b.fields[i]? = some f)
    (hbs : (b.setterImpl i f).bindings? repeats (b.argsBy (marker done)) = some bs) :
    f.name.text ∉ done := by
  have hf := List.mem_of_getElem? hi
  have hfixed : f.markers.unset = marker done f :=
    (header_setterImpl hn hi).fixed_of_bindings? hbs hf (by simp)
      (fun hp => hu.param_ne_unset hp hf rfl) fun g hg => hu.unset_ne_state hf hg
  exact (hu.marker_eq_unset hf).mp hfixed.symm

theorem build_matches (hu : b.Uncaptured) :
    (∃ bs, b.buildImpl.bindings? repeats (b.argsBy (marker done)) = some bs) ↔
      ∀ f ∈ b.fields, f.isRequired → f.name.text ∈ done := by
  constructor
  · rintro ⟨bs, hbs⟩ f hf hreq
    have hfixed : f.markers.set = marker done f :=
      header_buildImpl.fixed_of_bindings? hbs hf (FieldSpec.isRequired_iff.mp hreq)
        (fun hp => hu.param_ne_set hp hf rfl) fun g hg => hu.set_ne_state hf hg
    exact (hu.marker_eq_set hf).mp hfixed.symm
  · intro hdone
    obtain ⟨bs, hbs, -⟩ := header_buildImpl.bindings?_of_fixed hu.states_nodup hu.params_apart
      (fun f hf _ g hg => hu.set_ne_state hf hg)
      fun f hf ho => ((hu.marker_eq_set hf).mpr (hdone f hf (FieldSpec.isRequired_iff.mpr ho))).symm
    exact ⟨bs, hbs⟩

end Calls

/-- What is let through is a step of progress. -/
theorem progress_of_taken (ha : Accepted b.fields) (hn : b.setterNames.Nodup)
    (hu : b.Uncaptured) {done : Finset String} {name : String} {s : Step}
    (h : b.Taken repeats (b.argsBy (marker done)) name s) :
    ∃ q, Progress.step? b ⟨done, false⟩ name = some q ∧ s.next = b.argsAt q := by
  cases h with
  | setter hi hbs =>
      have hd := fresh_of_setter hu hn hi hbs
      obtain ⟨bs', hbs', hafter⟩ := setter_of_fresh hu hn hi hd
      rw [hbs, Option.some.injEq] at hbs'
      subst hbs'
      refine ⟨_, ?_, hafter⟩
      rw [Progress.step?_setter (List.mem_of_getElem? hi), if_neg hd]
  | build hbs =>
      refine ⟨⟨done, true⟩, ?_, rfl⟩
      rw [Progress.step?_build ha, if_pos ((build_matches hu).mp ⟨_, hbs⟩)]
  | pointer hf => exact ⟨⟨done, false⟩, Progress.step?_pointer ha hf, rfl⟩
  | release => exact ⟨⟨done, true⟩, Progress.step?_leave ha (Or.inr rfl), rfl⟩
  | unsafeBuild => exact ⟨⟨done, true⟩, Progress.step?_leave ha (Or.inl rfl), rfl⟩

/-- A step of progress is let through. -/
theorem taken_of_progress (repeats : Repeats) (hn : b.setterNames.Nodup) (hu : b.Uncaptured)
    {done : Finset String} {name : String} {q : Progress}
    (h : Progress.step? b ⟨done, false⟩ name = some q) :
    ∃ s, b.Taken repeats (b.argsBy (marker done)) name s ∧ s.next = b.argsAt q := by
  rw [Progress.step?, if_neg Bool.false_ne_true] at h
  -- The tests of `Progress.step?`, one inside the other: a setter, `build`, an exit, a pointer.
  split at h
  · next hname =>
      split at h
      · cases h
      · next hd =>
          obtain ⟨f, hf, rfl⟩ := List.mem_map.mp hname
          obtain ⟨i, hi⟩ := List.mem_iff_getElem?.mp hf
          obtain ⟨bs, hbs, hafter⟩ := setter_of_fresh hu hn hi hd
          cases h
          exact ⟨_, .setter hi hbs, hafter⟩
  · split at h
    · next hname =>
        subst hname
        split at h
        · next hdone =>
            obtain ⟨bs, hbs⟩ := (build_matches hu).mpr hdone
            cases h
            exact ⟨_, .build hbs, rfl⟩
        · cases h
    · obtain ⟨bs, hbs⟩ := escape_matches repeats hu.states_nodup hu.params_apart (marker done)
      split at h
      · next hname =>
          cases h
          rcases hname with rfl | rfl
          · exact ⟨_, .unsafeBuild hbs, rfl⟩
          · exact ⟨_, .release hbs, rfl⟩
      · split at h
        · next hname =>
            obtain ⟨f, hf, rfl⟩ := List.mem_map.mp hname
            cases h
            exact ⟨_, .pointer hf hbs, rfl⟩
        · cases h

/-- A call does what a step of progress does, and is refused where there is none. -/
theorem step?_eq (repeats : Repeats) (ha : Accepted b.fields) (hn : b.setterNames.Nodup)
    (hu : b.Uncaptured) (p : Progress) (name : String) :
    ((b.argsAt p).bind fun args => b.step? repeats args name).map Step.next =
      (p.step? b name).map b.argsAt := by
  obtain ⟨done, consumed⟩ := p
  cases consumed with
  | true => rfl
  | false =>
      rw [argsAt_going, Option.bind_some]
      cases hs : b.step? repeats (b.argsBy (marker done)) name with
      | some s =>
          obtain ⟨q, hq, hnext⟩ := progress_of_taken ha hn hu (taken_of_step? hs)
          rw [hq, Option.map_some, Option.map_some, hnext]
      | none =>
          cases hq : Progress.step? b ⟨done, false⟩ name with
          | none => rfl
          | some q =>
              -- A step of progress is always let through, so this call was not refused.
              obtain ⟨s, htaken, -⟩ := taken_of_progress repeats hn hu hq
              obtain ⟨m, hm⟩ := step?_of_taken ha hn htaken
              rw [hs] at hm
              cases hm

/-! ## Runs -/

theorem followAs_eq_run (repeats : Repeats) (ha : Accepted b.fields)
    (hn : b.setterNames.Nodup) (hu : b.Uncaptured) (p : Progress) (calls : List String) :
    (b.followAs repeats (b.argsAt p) calls).map (Option.map Step.next) =
      (p.run b calls).map (Option.map b.argsAt) := by
  induction calls generalizing p with
  | nil => rfl
  | cons name names ih =>
      have hstep := step?_eq repeats ha hn hu p name
      cases hq : p.step? b name with
      | none =>
          rw [hq, Option.map_none, Option.map_eq_none_iff] at hstep
          rw [followAs_refused hstep, Progress.run, hq, List.map_cons, List.map_cons, ih p]
          rfl
      | some q =>
          rw [hq, Option.map_some, Option.map_eq_some_iff] at hstep
          obtain ⟨s, hs, hnext⟩ := hstep
          rw [followAs_taken hs, Progress.run, hq, List.map_cons, List.map_cons, hnext, ih q,
            Option.map_some, Option.map_some, hnext]

theorem argsAt_initial : b.argsAt .initial = some b.startArgs := by
  rw [startArgs_eq]
  refine congrArg some (argsBy_congr fun f _ => ?_)
  rw [marker, Progress.initial, if_neg (Finset.notMem_empty _)]

/-- Setters of fields that are not set can be called one after the other, and set them all. -/
theorem setters_accepted (repeats : Repeats) (ha : Accepted b.fields) (hn : b.setterNames.Nodup)
    (hu : b.Uncaptured) {done : Finset String} {order : List String} (hnodup : order.Nodup)
    (hsetters : order ⊆ b.setterNames) (hfresh : ∀ name ∈ order, name ∉ done) :
    b.Accepts repeats (b.argsAt ⟨done, false⟩) order ∧
      stateAfter (b.argsAt ⟨done, false⟩) (b.followAs repeats (b.argsAt ⟨done, false⟩) order) =
        b.argsAt ⟨order.toFinset ∪ done, false⟩ := by
  -- By induction on the order, whatever fields are set before.
  induction order generalizing done with
  | nil =>
      refine ⟨accepts_nil, ?_⟩
      rw [List.toFinset_nil, Finset.empty_union]
      rfl
  | cons name order ih =>
      obtain ⟨hname, hrest⟩ := List.nodup_cons.mp hnodup
      obtain ⟨f, hf, rfl⟩ := List.mem_map.mp (hsetters List.mem_cons_self)
      have hstep := step?_eq repeats ha hn hu ⟨done, false⟩ f.name.text
      rw [Progress.step?_setter hf, if_neg (hfresh _ List.mem_cons_self), Option.map_some,
        Option.map_eq_some_iff] at hstep
      obtain ⟨s, hs, hnext⟩ := hstep
      have hfresh' : ∀ n ∈ order, n ∉ insert f.name.text done := by
        intro n hmem
        rw [Finset.mem_insert, not_or]
        exact ⟨fun he => hname (he ▸ hmem), hfresh n (List.mem_cons_of_mem _ hmem)⟩
      obtain ⟨hacc, hlast⟩ := ih hrest (List.subset_of_cons_subset hsetters) hfresh'
      rw [← hnext] at hacc hlast
      refine ⟨accepts_cons.mpr ⟨s, hs, hacc⟩, ?_⟩
      rw [stateAfter_taken hs, hlast, List.toFinset_cons, Finset.insert_union,
        Finset.union_insert]

/-- A run of calls on a new builder is, call by call, a run of `Progress`. So setters can be
called in any order, and the order does not show in the builder's type. -/
theorem typestate_refines_progress {item : Item} (h : item.blueprint = .ok b)
    (hn : b.setterNames.Nodup) (hu : b.Uncaptured) (repeats : Repeats) :
    (∀ calls, (b.followAs repeats (some b.startArgs) calls).map (Option.map Step.next) =
      (Progress.initial.run b calls).map (Option.map b.argsAt)) ∧
    ∀ order order', order.Nodup → order ⊆ b.setterNames → order.Perm order' →
      b.Accepts repeats (some b.startArgs) order ∧ b.Accepts repeats (some b.startArgs) order' ∧
      stateAfter (some b.startArgs) (b.followAs repeats (some b.startArgs) order) =
        stateAfter (some b.startArgs) (b.followAs repeats (some b.startArgs) order') := by
  have ha := Item.blueprint_accepted h
  rw [← argsAt_initial]
  refine ⟨followAs_eq_run repeats ha hn hu .initial, fun order order' hnodup hsetters hperm => ?_⟩
  have hfresh : ∀ {names : List String}, ∀ n ∈ names, n ∉ Progress.initial.done :=
    fun n _ => Finset.notMem_empty n
  obtain ⟨hacc, hlast⟩ := setters_accepted repeats ha hn hu hnodup hsetters hfresh
  obtain ⟨hacc', hlast'⟩ := setters_accepted repeats ha hn hu (hperm.nodup_iff.mp hnodup)
    (fun n hmem => hsetters (hperm.mem_iff.mpr hmem)) hfresh
  refine ⟨hacc, hacc', ?_⟩
  rw [List.toFinset_eq_of_perm _ _ hperm] at hlast
  exact hlast.trans hlast'.symm

/-- A run on the builder of a struct with fields of every kind. -/
theorem typestate_refines_progress_probe :
    let calls := ["build", "nn", "ptr_def", "req", "nn", "build", "req"]
    let answers := [false, true, true, true, false, true, false]
    ∃ b, Probe.template.item.blueprint = .ok b ∧ b.setterNames.Nodup ∧ b.Uncaptured ∧
      (Progress.initial.run b calls).map Option.isSome = answers ∧
      (b.followAs .free (some b.startArgs) calls).map (Option.map Step.next) =
        (Progress.initial.run b calls).map (Option.map b.argsAt) ∧
      stateAfter (some b.startArgs) (b.followAs .free (some b.startArgs) ["req", "nn", "opt"]) =
        stateAfter (some b.startArgs)
          (b.followAs .free (some b.startArgs) ["opt", "req", "nn"]) := by
  intro calls answers
  have hview : Probe.template.item.blueprint.toOption.map (fun b =>
      (b.setterNames, decide (b.states ++ b.sets ++ b.unsets).Nodup, b.paramNames,
        (Progress.initial.run b calls).map Option.isSome)) =
      some (["req", "def", "zero", "opt", "nn"], true, [], answers) := by decide +kernel
  obtain ⟨b, h, hview⟩ := Item.exists_blueprint hview
  simp only [Prod.mk.injEq, decide_eq_true_eq] at hview
  obtain ⟨hnames, hdistinct, hparams, hrun⟩ := hview
  have hn : b.setterNames.Nodup := by
    rw [hnames]
    decide
  have hu : b.Uncaptured := ⟨hdistinct, by simp [hparams]⟩
  obtain ⟨hsteps, horder⟩ := typestate_refines_progress h hn hu .free
  refine ⟨b, h, hn, hu, hrun, hsteps calls, (horder _ _ (by decide) ?_ ?_).2.2⟩
  · rw [hnames]
    decide
  · decide

end Blueprint

end StagedBuilder
