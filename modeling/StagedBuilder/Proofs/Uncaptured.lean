import StagedBuilder.Proofs.Headers

/-!
# Headers that capture nothing

Where no marker has the name of a state or of a parameter, a header means what it looks like:
it matches exactly the builders that hold its fixed markers, and each state it leaves open
stands for what is in that field's place. No name is then bound twice to different things, so
nothing here depends on what becomes of repeated names. A header without fixed markers needs
less than that, only that no parameter has the name of a state.
-/

namespace StagedBuilder

namespace Blueprint

variable {b : Blueprint} {repeats : Repeats}

/-- No two of the names that the expansion makes up are the same, and none is a parameter of the
struct. -/
structure Uncaptured (b : Blueprint) : Prop where
  distinct : (b.states ++ b.sets ++ b.unsets).Nodup
  params : ∀ n ∈ b.paramNames, n ∉ b.states ++ b.sets ++ b.unsets

namespace Uncaptured

variable {f g : BuilderField}

theorem states_nodup (hu : b.Uncaptured) : b.states.Nodup :=
  hu.distinct.of_append_left.of_append_left

theorem params_apart (hu : b.Uncaptured) : ∀ n ∈ b.paramNames, n ∉ b.states :=
  fun n hn hmem => hu.params n hn (List.mem_append_left _ (List.mem_append_left _ hmem))

theorem set_ne_state (hu : b.Uncaptured) (hf : f ∈ b.fields) (hg : g ∈ b.fields) :
    f.markers.set ≠ g.markers.state := by
  have hdisjoint := List.disjoint_of_nodup_append hu.distinct.of_append_left
  exact fun he => hdisjoint (List.mem_map_of_mem hg) (he ▸ List.mem_map_of_mem hf)

theorem unset_ne_state (hu : b.Uncaptured) (hf : f ∈ b.fields) (hg : g ∈ b.fields) :
    f.markers.unset ≠ g.markers.state := by
  have hdisjoint := List.disjoint_of_nodup_append hu.distinct
  exact fun he => hdisjoint (List.mem_append_left _ (List.mem_map_of_mem hg))
    (he ▸ List.mem_map_of_mem hf)

theorem set_ne_unset (hu : b.Uncaptured) (hf : f ∈ b.fields) (hg : g ∈ b.fields) :
    f.markers.set ≠ g.markers.unset := by
  have hdisjoint := List.disjoint_of_nodup_append hu.distinct
  exact fun he => hdisjoint (List.mem_append_right _ (List.mem_map_of_mem hf))
    (he ▸ List.mem_map_of_mem hg)

theorem param_ne_set (hu : b.Uncaptured) {n : String} (hn : n ∈ b.paramNames)
    (hf : f ∈ b.fields) : f.markers.set ≠ n := by
  rintro rfl
  refine hu.params _ hn (List.mem_append_left _ (List.mem_append_right _ ?_))
  exact List.mem_map_of_mem hf

theorem param_ne_unset (hu : b.Uncaptured) {n : String} (hn : n ∈ b.paramNames)
    (hf : f ∈ b.fields) : f.markers.unset ≠ n := by
  rintro rfl
  exact hu.params _ hn (List.mem_append_right _ (List.mem_map_of_mem hf))

end Uncaptured

/-! ## Headers that capture nothing -/

namespace Header

variable {i : BuilderImpl} {isOpen : BuilderField → Bool} {mark σ : BuilderField → String}
  {bs : Bindings}

/-- The substitution that a header asks for: the state of each open field, and nothing else. -/
def openStates (b : Blueprint) (isOpen : BuilderField → Bool) (σ : BuilderField → String)
    (n : String) : String :=
  match b.fields.find? fun f => isOpen f && f.markers.state == n with
  | some f => σ f
  | none => n

theorem openStates_of_open (hs : b.states.Nodup) {f : BuilderField} (hf : f ∈ b.fields)
    (ho : isOpen f) : openStates b isOpen σ f.markers.state = σ f := by
  rw [openStates]
  split
  · next g hg =>
      have hstate : g.markers.state = f.markers.state := by
        have := List.find?_some hg
        simp only [Bool.and_eq_true, beq_iff_eq] at this
        exact this.2
      rw [List.inj_on_of_nodup_map hs (List.mem_of_find?_eq_some hg) hf hstate]
  · next hnone =>
      have := List.find?_eq_none.mp hnone f hf
      simp [ho] at this

theorem openStates_of_ne {n : String}
    (h : ∀ f ∈ b.fields, isOpen f → f.markers.state ≠ n) : openStates b isOpen σ n = n := by
  rw [openStates]
  split
  · next g hg =>
      have hfound := List.find?_some hg
      simp only [Bool.and_eq_true, beq_iff_eq] at hfound
      exact absurd hfound.2 (h g (List.mem_of_find?_eq_some hg) hfound.1)
  · rfl

/-- A builder that holds the fixed markers is matched, and then every place holds what the
header asks for there. -/
theorem bindings?_of_fixed (h : b.Header i isOpen mark) (hs : b.states.Nodup)
    (hparams : ∀ n ∈ b.paramNames, n ∉ b.states)
    (hmark : ∀ f ∈ b.fields, ¬ isOpen f → ∀ g ∈ b.fields, mark f ≠ g.markers.state)
    (hfix : ∀ f ∈ b.fields, ¬ isOpen f → mark f = σ f) :
    ∃ bs, i.bindings? repeats (b.argsBy σ) = some bs ∧
      (∀ n ∈ b.paramNames, bs.resolve n = n) ∧
      ∀ f ∈ b.fields, isOpen f → bs.resolve f.markers.state = σ f := by
  -- `openStates` is a substitution under which the header is the builder's arguments.
  have hplace : ∀ p ∈ i.args.toList.zip (b.argsBy σ).toList,
      openStates b isOpen σ p.1 = p.2 := by
    intro p hp
    rw [h.args] at hp
    rcases mem_places.mp hp with ⟨n, hn, rfl⟩ | ⟨f, hf, rfl⟩
    · exact openStates_of_ne fun g hg _ he =>
        hparams n hn (List.mem_map.mpr ⟨g, hg, he⟩)
    · by_cases ho : isOpen f
      · simp only [ho, if_true]
        exact openStates_of_open hs hf ho
      · simp only [ho]
        rw [← hfix f hf ho]
        exact openStates_of_ne fun g hg _ => (hmark f hf ho g hg).symm
  have hfree : ∀ n ∉ i.head.binds, openStates b isOpen σ n = n := by
    intro n hn
    refine openStates_of_ne fun g hg ho he => hn ?_
    exact h.mem_binds.mpr (Or.inr ⟨g, hg, ho, he⟩)
  have hlen : i.args.toList.length = (b.argsBy σ).toList.length := by
    rw [h.args]
    exact toList_length _ _
  obtain ⟨bs, hbs, hres⟩ : ∃ bs, i.bindings? repeats (b.argsBy σ) = some bs ∧
      ∀ p ∈ i.args.toList.zip (b.argsBy σ).toList, bs.resolve p.1 = p.2 :=
    BuilderImpl.bindings?_of_subst hlen hplace hfree
  rw [h.args] at hres
  refine ⟨bs, hbs, fun n hn => ?_, fun f hf ho => ?_⟩
  · exact hres (n, n) (mem_places.mpr (Or.inl ⟨n, hn, rfl⟩))
  · have := hres _ (mem_places.mpr (Or.inr ⟨f, hf, rfl⟩))
    simpa only [ho, if_true] using this

theorem fixed_of_bindings? (h : b.Header i isOpen mark)
    (hbs : i.bindings? repeats (b.argsBy σ) = some bs)
    {f : BuilderField} (hf : f ∈ b.fields) (ho : ¬ isOpen f) (hparam : mark f ∉ b.paramNames)
    (hmark : ∀ g ∈ b.fields, mark f ≠ g.markers.state) : mark f = σ f := by
  have hp : (mark f, σ f) ∈ i.args.toList.zip (b.argsBy σ).toList := by
    rw [h.args]
    exact mem_places.mpr (Or.inr ⟨f, hf, by rw [if_neg ho]⟩)
  refine BuilderImpl.place_free hbs hp fun hb => ?_
  rcases h.mem_binds.mp hb with hn | ⟨g, hg, -, he⟩
  · exact hparam hn
  · exact hmark g hg he.symm

end Header

/-- What exists in every state does whatever the states are, if no parameter has the name of
one. -/
theorem escape_matches (repeats : Repeats) (hs : b.states.Nodup)
    (hparams : ∀ n ∈ b.paramNames, n ∉ b.states) (σ : BuilderField → String) :
    ∃ bs, b.escapeImpl.bindings? repeats (b.argsBy σ) = some bs := by
  obtain ⟨bs, hbs, -⟩ := header_escapeImpl.bindings?_of_fixed hs hparams
    (fun _ _ ho => absurd rfl ho) fun _ _ ho => absurd rfl ho
  exact ⟨bs, hbs⟩

end Blueprint

end StagedBuilder
