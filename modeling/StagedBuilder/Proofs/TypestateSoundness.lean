import StagedBuilder.Proofs.Runs
import StagedBuilder.Record.Template

/-!
# The typestate is sound

Whatever calls are made, in whatever order, `build` is accepted only after the setters of all
required fields, and no setter is accepted twice.

The difficulty is capture. A setter's header binds the states of all other fields, and one of
these can have the name of the field's own `Set` or `Unset`: `field_x` has the markers
`FieldXSet` and `FieldXUnset`, and `x_set` has the state `FieldXSet`. The marker then stands
for whatever that other field's state is. So a field that was set need not have its own `Set`:
it may hold what another field's state was at that time. `Tracks` keeps account of that. A
field not yet set has its own `Unset`. A field that was set has its own `Set`, or a marker of a
field with a shorter base, because a `Set` can only be captured by a state whose base is
shorter. So no `Unset` ever wanders to a field with a base that is not longer than that of its
owner, and this is what decides every header: one in which an `Unset` is captured never
matches, and one in which a `Set` is captured matches only after that field was set.

All this is about the matching of a compiler, for which every place of a name must hold the
same. Following signatures name by name, where the last place counts, a captured `Set` is
compared with nothing, and `build` can come too early.
-/

namespace StagedBuilder

namespace Blueprint

variable {b : Blueprint}

/-- The states of a builder whose accepted setters are `done`. -/
structure Tracks (b : Blueprint) (done : List String) (σ : BuilderField → String) : Prop where
  fresh : ∀ f ∈ b.fields, f.name.text ∉ done → σ f = f.markers.unset
  spent : ∀ f ∈ b.fields, f.name.text ∈ done → σ f = f.markers.set ∨
    ∃ g ∈ b.fields, g.markers.set.length < f.markers.set.length ∧
      (σ f = g.markers.set ∨ σ f = g.markers.unset)
  literal : ∀ f ∈ b.fields, f.name.text ∈ done →
    ∀ g ∈ b.fields, g.name.text ≠ f.name.text → f.markers.unset ≠ g.markers.state

theorem tracks_start : b.Tracks [] (·.markers.unset) :=
  ⟨fun _ _ _ => rfl, fun _ _ h => absurd h List.not_mem_nil,
    fun _ _ h => absurd h List.not_mem_nil⟩

/-! ## Markers and their owners -/

theorem marker_mem {f : BuilderField} (hf : f ∈ b.fields) :
    f.markers ∈ b.fields.map (·.markers) := List.mem_map_of_mem hf

theorem set_ne_unset (ha : Accepted b.fields) {f g : BuilderField} (hf : f ∈ b.fields)
    (hg : g ∈ b.fields) : f.markers.set ≠ g.markers.unset :=
  ha.apart.set_ne_unset _ (marker_mem hf) _ (marker_mem hg)

theorem unset_inj (ha : Accepted b.fields) {f g : BuilderField} (hf : f ∈ b.fields)
    (hg : g ∈ b.fields) (h : f.markers.unset = g.markers.unset) : f = g :=
  List.inj_on_of_nodup_map ha.unsets_nodup hf hg h

theorem length_of_set_eq_state (ha : Accepted b.fields) {f g : BuilderField}
    (hf : f ∈ b.fields) (hg : g ∈ b.fields) (h : f.markers.set = g.markers.state) :
    g.markers.set.length < f.markers.set.length :=
  ha.apart.set_eq_state _ (marker_mem hf) _ (marker_mem hg) h

theorem length_of_unset_eq_state (ha : Accepted b.fields) {f g : BuilderField}
    (hf : f ∈ b.fields) (hg : g ∈ b.fields) (h : f.markers.unset = g.markers.state) :
    g.markers.set.length = f.markers.set.length :=
  ha.apart.unset_eq_state _ (marker_mem hf) _ (marker_mem hg) h

/-- Nobody holds the `Unset` of a field whose base is not shorter than his own, but that field
itself before it is set. -/
theorem Tracks.ne_unset (ha : Accepted b.fields) {done : List String}
    {σ : BuilderField → String} (ht : b.Tracks done σ) {f g : BuilderField} (hf : f ∈ b.fields)
    (hg : g ∈ b.fields) (hlen : g.markers.set.length ≤ f.markers.set.length)
    (hne : g.name.text ≠ f.name.text ∨ g.name.text ∈ done) : σ g ≠ f.markers.unset := by
  intro he
  by_cases hd : g.name.text ∈ done
  · rcases ht.spent g hg hd with hs | ⟨k, hk, hlt, hs | hs⟩
    · exact set_ne_unset ha hg hf (hs.symm.trans he)
    · exact set_ne_unset ha hk hf (hs.symm.trans he)
    · -- It would have come from a field with a shorter base than the owner's.
      have hkf := unset_inj ha hk hf (hs.symm.trans he)
      rw [hkf] at hlt
      omega
  · have hgf := unset_inj ha hg hf ((ht.fresh g hg hd).symm.trans he)
    rw [hgf] at hne hd
    exact hne.elim (fun h => h rfl) hd

/-! ## Setters -/

section Setter

variable (ha : Accepted b.fields) (hn : b.setterNames.Nodup) {done : List String}
  {σ : BuilderField → String} (ht : b.Tracks done σ) {f : BuilderField} {i : Nat}
  (hi : b.fields[i]? = some f) {bs : Bindings}
  (hbs : (b.setterImpl i f).bindings? .equal (b.argsBy σ) = some bs)

include hn hi hbs

theorem setter_after :
    after (b.argsBy σ) bs (b.setter i f).output =
      some (b.argsBy (withValue f (bs.resolve f.markers.set) σ)) := by
  have hh := header_setterImpl hn hi
  rw [setter_output hn hi, after, argsBy_resolve fun n hm => hh.resolve_param hbs hm]
  congr 1
  refine argsBy_congr fun g hg => ?_
  by_cases hgf : g.name.text = f.name.text
  · rw [withValue, withValue, if_pos hgf, if_pos hgf]
  · rw [withValue_of_ne hgf, withValue_of_ne hgf]
    exact hh.resolve_open hbs hg (by simpa using hgf)

include ha ht

/-- A setter that is accepted finds its own `Unset`, and finds it for the first time. -/
theorem setter_finds_unset : σ f = f.markers.unset ∧ f.name.text ∉ done := by
  have hf := List.mem_of_getElem? hi
  have hh := header_setterImpl hn hi
  have hfixed : bs.resolve f.markers.unset = σ f := hh.resolve_fixed hbs hf (by simp)
  rcases hh.resolve_cases hbs f.markers.unset with hself | ⟨g, hg, hopen, hname, hother⟩
  · have hσ : σ f = f.markers.unset := hfixed.symm.trans hself
    refine ⟨hσ, fun hd => ?_⟩
    exact ht.ne_unset ha hf hf (Nat.le_refl _) (Or.inr hd) hσ
  · -- The `Unset` is captured: another field of the same length would have to hold it.
    have hgf : g.name.text ≠ f.name.text := by simpa using hopen
    have hlen := length_of_unset_eq_state ha hf hg hname
    have hd : f.name.text ∉ done := fun hd => ht.literal f hf hd g hg hgf hname
    have hσ : σ g = f.markers.unset :=
      hother.symm.trans (hfixed.trans (ht.fresh f hf hd))
    exact absurd hσ (ht.ne_unset ha hf hg (Nat.le_of_eq hlen) (Or.inl hgf))

theorem tracks_setter :
    b.Tracks (f.name.text :: done) (withValue f (bs.resolve f.markers.set) σ) := by
  have hf := List.mem_of_getElem? hi
  have hh := header_setterImpl hn hi
  obtain ⟨hσ, -⟩ := setter_finds_unset ha hn ht hi hbs
  refine ⟨fun g hg hd => ?_, fun g hg hd => ?_, fun g hg hd k hk hne => ?_⟩
  · rw [List.mem_cons, not_or] at hd
    rw [withValue_of_ne hd.1]
    exact ht.fresh g hg hd.2
  · by_cases hgf : g.name.text = f.name.text
    · obtain rfl := field_unique hn hg hf hgf
      rw [withValue_self]
      rcases hh.resolve_cases hbs g.markers.set with hself | ⟨k, hk, -, hname, hother⟩
      · exact Or.inl hself
      · -- The `Set` is captured: the field takes over the state of one with a shorter base.
        have hlt := length_of_set_eq_state ha hf hk hname
        rw [hother]
        by_cases hkd : k.name.text ∈ done
        · rcases ht.spent k hk hkd with hs | ⟨l, hl, hlt', hs⟩
          · exact Or.inr ⟨k, hk, hlt, Or.inl hs⟩
          · exact Or.inr ⟨l, hl, by omega, hs⟩
        · exact Or.inr ⟨k, hk, hlt, Or.inr (ht.fresh k hk hkd)⟩
    · rw [withValue_of_ne hgf]
      exact ht.spent g hg (List.mem_of_ne_of_mem hgf hd)
  · by_cases hgf : g.name.text = f.name.text
    · obtain rfl := field_unique hn hg hf hgf
      -- A field with a state of this name would hold this `Unset`, against `ne_unset`.
      intro hname
      have hlen := length_of_unset_eq_state ha hf hk hname
      have hother : bs.resolve k.markers.state = σ k :=
        hh.resolve_open hbs hk (by simpa using hne)
      have hfixed : bs.resolve g.markers.unset = σ g := hh.resolve_fixed hbs hf (by simp)
      have hσk : σ k = g.markers.unset := by rw [← hother, ← hname, hfixed, hσ]
      exact ht.ne_unset ha hf hk (Nat.le_of_eq hlen) (Or.inl hne) hσk
    · exact ht.literal g hg (List.mem_of_ne_of_mem hgf hd) k hk hne

end Setter

/-! ## The end -/

/-- `build` finds every required field set. -/
theorem build_finds_set (ha : Accepted b.fields) (hn : b.setterNames.Nodup)
    {done : List String} {σ : BuilderField → String} (ht : b.Tracks done σ) {bs : Bindings}
    (hbs : b.buildImpl.bindings? .equal (b.argsBy σ) = some bs) {f : BuilderField}
    (hf : f ∈ b.fields) (hreq : f.isRequired) : f.name.text ∈ done := by
  by_contra hd
  have hfixed : bs.resolve f.markers.set = σ f :=
    header_buildImpl.resolve_fixed hbs hf (FieldSpec.isRequired_iff.mp hreq)
  rw [ht.fresh f hf hd] at hfixed
  rcases header_buildImpl.resolve_cases hbs f.markers.set with hself | ⟨g, hg, -, hname, hother⟩
  · exact set_ne_unset ha hf hf (hself.symm.trans hfixed)
  · -- The `Set` is captured: a field with a shorter base would have to hold this one's `Unset`.
    have hlt := length_of_set_eq_state ha hf hg hname
    have hne : g.name.text ≠ f.name.text := fun he =>
      Nat.lt_irrefl _ (field_unique hn hg hf he ▸ hlt)
    exact ht.ne_unset ha hf hg (Nat.le_of_lt hlt) (Or.inl hne) (hother.symm.trans hfixed)

/-! ## Runs -/

/-- What an accepted call of this name does to a builder whose accepted setters are `done`. -/
inductive Advance (b : Blueprint) (done : List String) (σ : BuilderField → String)
    (name : String) : Option BuilderArgs → Prop
  | set {τ : BuilderField → String} (hname : name ∈ b.setterNames) (hnew : name ∉ done)
      (ht : b.Tracks (name :: done) τ) : Advance b done σ name (some (b.argsBy τ))
  | stay (hname : name ∉ b.setterNames) (hbuild : name ≠ "build") :
      Advance b done σ name (some (b.argsBy σ))
  | leave (hname : name ∉ b.setterNames)
      (hbuild : name = "build" → ∀ f ∈ b.fields, f.isRequired → f.name.text ∈ done) :
      Advance b done σ name none

theorem Tracks.advance (ha : Accepted b.fields) (hn : b.setterNames.Nodup)
    {done : List String} {σ : BuilderField → String} (ht : b.Tracks done σ) {name : String}
    {s : Step} (h : b.step? .equal (b.argsBy σ) name = some s) :
    b.Advance done σ name s.next := by
  cases taken_of_step? h with
  | setter hi hbs =>
      have hf := List.mem_of_getElem? hi
      rw [setter_after hn hi hbs]
      exact .set (List.mem_map_of_mem hf) (setter_finds_unset ha hn ht hi hbs).2
        (tracks_setter ha hn ht hi hbs)
  | build hbs =>
      exact .leave (not_mem_setterNames_of_reserved ha (by decide))
        fun _ f hf hreq => build_finds_set ha hn ht hbs hf hreq
  | pointer hf hbs =>
      exact .stay (not_mem_setterNames_of_pointer ha hf)
        (reserved_ne_pointer (by decide) _).symm
  | release hbs =>
      exact .leave (not_mem_setterNames_of_reserved ha (by decide)) (by simp)
  | unsafeBuild hbs =>
      exact .leave (not_mem_setterNames_of_reserved ha (by decide)) (by simp)

/-- Where a run accepts `build`, every required field was set before, in the run or before
it. -/
theorem Tracks.set_before_build (ha : Accepted b.fields) (hn : b.setterNames.Nodup)
    {done : List String} {σ : BuilderField → String} (ht : b.Tracks done σ)
    (calls : List String) {before after : List String}
    (h : b.acceptedCalls .equal (some (b.argsBy σ)) calls = before ++ "build" :: after)
    {f : BuilderField} (hf : f ∈ b.fields) (hreq : f.isRequired) :
    f.name.text ∈ done ∨ f.name.text ∈ before := by
  -- By induction on the calls. Each accepted setter moves from `before` into `done`.
  induction calls generalizing done σ before with
  | nil => simp [acceptedCalls] at h
  | cons name names ih =>
      cases hs : (some (b.argsBy σ)).bind fun args => b.step? .equal args name with
      | none =>
          rw [acceptedCalls_refused hs] at h
          exact ih ht h
      | some s =>
          rw [acceptedCalls_taken hs] at h
          have hadv := ht.advance ha hn hs
          generalize s.next = next at h hadv
          cases before with
          | nil =>
              rw [List.nil_append, List.cons.injEq] at h
              obtain ⟨rfl, -⟩ := h
              cases hadv with
              | set hname =>
                  exact absurd hname (not_mem_setterNames_of_reserved ha (by decide))
              | stay _ hbuild => exact absurd rfl hbuild
              | leave _ hbuild => exact Or.inl (hbuild rfl f hf hreq)
          | cons first before =>
              rw [List.cons_append, List.cons.injEq] at h
              obtain ⟨rfl, h⟩ := h
              cases hadv with
              | set _ _ ht =>
                  rcases ih ht h with hd | hb
                  · rcases List.mem_cons.mp hd with he | hd
                    · exact Or.inr (he ▸ List.mem_cons_self)
                    · exact Or.inl hd
                  · exact Or.inr (List.mem_cons_of_mem _ hb)
              | stay => exact (ih ht h).imp_right (List.mem_cons_of_mem _)
              | leave => simp [acceptedCalls_none] at h

/-- A run accepts the setter of a field at most once, and not at all if it was accepted
before. -/
theorem Tracks.set_once (ha : Accepted b.fields) (hn : b.setterNames.Nodup)
    {done : List String} {σ : BuilderField → String} (ht : b.Tracks done σ)
    (calls : List String) {setter : String} (hsetter : setter ∈ b.setterNames) :
    (b.acceptedCalls .equal (some (b.argsBy σ)) calls).count setter ≤
      if setter ∈ done then 0 else 1 := by
  -- By induction on the calls. An accepted setter was not in `done`, and is in it from then on.
  induction calls generalizing done σ with
  | nil => simp [acceptedCalls]
  | cons name names ih =>
      cases hs : (some (b.argsBy σ)).bind fun args => b.step? .equal args name with
      | none =>
          rw [acceptedCalls_refused hs]
          exact ih ht
      | some s =>
          rw [acceptedCalls_taken hs]
          have hadv := ht.advance ha hn hs
          generalize s.next = next at hadv
          cases hadv with
          | set _ hnew ht =>
              have hrest := ih ht
              by_cases he : name = setter
              · subst he
                rw [if_pos List.mem_cons_self] at hrest
                rw [List.count_cons_self, if_neg hnew]
                omega
              · rw [List.count_cons_of_ne he]
                simpa [List.mem_cons, Ne.symm he] using hrest
          | stay hname =>
              rw [List.count_cons_of_ne (ne_of_mem_of_not_mem hsetter hname).symm]
              exact ih ht
          | leave hname =>
              rw [List.count_cons_of_ne (ne_of_mem_of_not_mem hsetter hname).symm,
                acceptedCalls_none]
              exact Nat.zero_le _

/-- In every run of calls on a new builder, `build` is accepted only after the setters of all
fields that have no value from the start, and no setter is accepted twice. -/
theorem build_after_required {item : Item} (h : item.blueprint = .ok b)
    (hn : b.setterNames.Nodup) (calls : List String) :
    let accepted := b.acceptedCalls .equal (some b.startArgs) calls
    (∀ before after, accepted = before ++ "build" :: after → ∀ f ∈ b.fields,
      f.isRequired → f.name.text ∈ before) ∧
    ∀ f ∈ b.fields, accepted.count f.name.text ≤ 1 := by
  have ha := Item.blueprint_accepted h
  refine ⟨fun before after hrun f hf hreq => ?_, fun f hf => ?_⟩
  · rcases tracks_start.set_before_build ha hn calls hrun hf hreq with hd | hb
    · cases hd
    · exact hb
  · exact tracks_start.set_once ha hn calls (List.mem_map_of_mem hf)

/-- A struct in which the `Set` of one field is the state of the other. -/
def capturing : Item :=
  .struct "Capturing"
    [.of [] "x_set" (.applied "Option" (.named "u8")), .of [] "field_x" (.named "u8")]

/-- The calls of a run on its builder, of which three are accepted. After `field_x` that field
has the `Unset` of `x_set`, and it counts as set all the same. -/
theorem build_after_required_capturing :
    let calls := ["build", "field_x", "x", "field_x", "ptr_x_set", "build", "build"]
    let accepted := ["field_x", "ptr_x_set", "build"]
    ∃ b, capturing.blueprint = .ok b ∧ b.setterNames.Nodup ∧
      b.acceptedCalls .equal (some b.startArgs) calls = accepted ∧
      (∀ before after, accepted = before ++ "build" :: after → ∀ f ∈ b.fields,
        f.isRequired → f.name.text ∈ before) ∧
      ∀ f ∈ b.fields, accepted.count f.name.text ≤ 1 := by
  intro calls accepted
  have hview : capturing.blueprint.toOption.map (fun b =>
      (b.setterNames, b.acceptedCalls .equal (some b.startArgs) calls)) =
        some (["x_set", "field_x"], accepted) := by decide +kernel
  obtain ⟨b, h, hview⟩ := Item.exists_blueprint hview
  obtain ⟨hnames, hrun⟩ := Prod.mk.inj hview
  have hn : b.setterNames.Nodup := by
    rw [hnames]
    decide
  have hsound := build_after_required h hn calls
  rw [hrun] at hsound
  exact ⟨b, h, hn, hrun, hsound⟩

end Blueprint

end StagedBuilder
