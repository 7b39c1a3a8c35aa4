import StagedBuilder.Builder.Session
import StagedBuilder.Proofs.Matching
import StagedBuilder.Proofs.AcceptedFields
import StagedBuilder.Proofs.Headers

/-!
# Slots

The storage of a builder is a list of slots that runs beside the list of fields. Here it is
written as a function from fields to what their slots hold (`Blueprint.slots`), and the methods
that touch the storage are computed in these terms: a builder starts with the first values and
nothing else, a setter changes the slot of its own field, and a storage without an empty slot
is a struct.

What the values are is said in the words of a user of the builder, by the kind of the field
alone (`FieldSpec.untouched?`, `FieldSpec.given`), and the code's own bookkeeping is shown to
come out at the same values. For the start that takes an assumption: the tokens of a default
stand in the method that starts a builder, where they can do more than give a value, and the
first values are what a builder starts with only if they do not (`Blueprint.GivesValues`).
-/

namespace StagedBuilder

variable {V : Type} {m : Meaning V}

/-! ## Values -/

namespace FieldSpec

/-- What a field holds when its setter is not called, if it may be left out and its default
gives a value. -/
def untouched? (m : Meaning V) (f : FieldSpec) : Option V :=
  match f.kind with
  | .nullable _ => some m.absent
  | .defaulted none => some (m.ofType f.ty)
  | .defaulted (some tokens) => (m.eval f.ty tokens).value?
  | .required | .notNull _ => none

/-- What a field holds when its setter is called with a value. -/
def given (m : Meaning V) (f : FieldSpec) (v : V) : V :=
  let converted (ty : Ty) := if f.into then m.convert ty v else v
  match f.kind with
  | .nullable inner | .notNull inner => m.present (converted inner)
  | .required | .defaulted _ => converted f.ty

/-- The conversion of a value, if the field's setter converts what it is called with. -/
def conversion (m : Meaning V) (f : FieldSpec) (v : V) : List (Event V) :=
  if f.into then [.converted (m.convert f.setterTy v)] else []

/-- What happens when the field's setter is called with a value: first the value is converted,
then what the field held until then goes. -/
def setterEvents (m : Meaning V) (f : FieldSpec) (v : V) : List (Event V) :=
  f.conversion m v ++ (f.untouched? m).toList.map .dropped

/-- The first value of a field is what its initializer comes to, if that is a value. -/
theorem initial?_evaluation {f : FieldSpec} (hv : f.GivesValue m) :
    (f.initial?.map fun i => i.evaluation m f.ty) = (f.untouched? m).map .value := by
  rw [initial?, untouched?]
  cases hk : f.kind with
  | required => rfl
  | notNull inner => rfl
  | nullable inner => rfl
  | defaulted value =>
      cases value with
      | none => rfl
      | some tokens =>
          obtain ⟨v, hv⟩ := hv tokens hk
          show some (m.eval f.ty tokens) = (m.eval f.ty tokens).value?.map .value
          rw [hv]
          rfl

theorem untouched?_isSome {f : FieldSpec} (hv : f.GivesValue m) :
    (f.untouched? m).isSome = f.isOptional := by
  have hsome := congrArg Option.isSome (initial?_evaluation hv)
  rw [Option.isSome_map, Option.isSome_map] at hsome
  rw [← hsome, initial?, isOptional]
  cases f.kind with
  | required => rfl
  | notNull inner => rfl
  | nullable inner => rfl
  | defaulted value => cases value <;> rfl

theorem stored_eq (f : FieldSpec) (v : V) :
    (m.stored f.setterTy f.into f.kind.wraps v).1 = f.given m v := by
  rw [Meaning.stored, setterTy, given]
  cases f.kind <;> rfl

theorem stored_events (f : FieldSpec) (v : V) :
    (m.stored f.setterTy f.into f.kind.wraps v).2 = f.conversion m v := by
  rw [Meaning.stored, conversion]
  cases f.into <;> rfl

end FieldSpec

namespace Blueprint

variable {b : Blueprint} {c : BuilderField → Option V} {f : BuilderField}

/-! ## The storage as a function -/

/-- The storage in which a function says what each field's slot holds. -/
def slots (b : Blueprint) (c : BuilderField → Option V) : Storage V :=
  b.fields.map fun f => (f.name, c f)

theorem names_nodup (hn : b.setterNames.Nodup) : (b.fields.map (·.name)).Nodup := by
  have hmap : b.setterNames = (b.fields.map (·.name)).map Ident.text := by
    rw [List.map_map]
    rfl
  rw [hmap] at hn
  exact hn.of_map _

theorem name_eq_iff (hn : b.setterNames.Nodup) {g : BuilderField} (hg : g ∈ b.fields)
    (hf : f ∈ b.fields) : g.name = f.name ↔ g.name.text = f.name.text :=
  ⟨congrArg Ident.text, fun h => field_unique hn hg hf h ▸ rfl⟩

/-- The field whose setter has this name. -/
def field? (b : Blueprint) (name : String) : Option BuilderField :=
  b.fields.find? fun f => f.name.text = name

theorem field?_eq (hn : b.setterNames.Nodup) (hf : f ∈ b.fields) :
    b.field? f.name.text = some f := by
  rw [field?]
  cases hfind : b.fields.find? (fun g => g.name.text = f.name.text) with
  | none => simpa using List.find?_eq_none.mp hfind f hf
  | some g =>
      have hname : g.name.text = f.name.text := by simpa using List.find?_some hfind
      rw [field_unique hn (List.mem_of_find?_eq_some hfind) hf hname]

theorem slots_congr {d : BuilderField → Option V} (h : ∀ f ∈ b.fields, c f = d f) :
    b.slots c = b.slots d :=
  List.map_congr_left fun f hf => by rw [h f hf]

theorem slots_get? (hn : b.setterNames.Nodup) (hf : f ∈ b.fields) :
    (b.slots c).get? f.name = c f := by
  rw [Storage.get?, slots, lookup_map_key c (names_nodup hn) hf, Option.join_some]

theorem slots_put (hn : b.setterNames.Nodup) (hf : f ∈ b.fields) (v : V) :
    (b.slots c).put f.name v = b.slots (withValue f (some v) c) := by
  rw [Storage.put, slots, slots, List.map_map]
  refine List.map_congr_left fun g hg => ?_
  show (if g.name = f.name then (g.name, some v) else (g.name, c g)) =
    (g.name, if g.name.text = f.name.text then some v else c g)
  by_cases hgf : g.name.text = f.name.text
  · rw [if_pos ((name_eq_iff hn hg hf).mpr hgf), if_pos hgf]
  · rw [if_neg fun he => hgf ((name_eq_iff hn hg hf).mp he), if_neg hgf]

theorem slots_values? {d : BuilderField → V} (h : ∀ f ∈ b.fields, c f = some (d f)) :
    (b.slots c).values? = some (b.fields.map fun f => (f.name, d f)) := by
  rw [Storage.values?, slots]
  generalize b.fields = fields at h
  induction fields with
  | nil => rfl
  | cons f fs ih =>
      rw [List.map_cons, List.mapM_cons, h f List.mem_cons_self,
        ih fun g hg => h g (List.mem_cons_of_mem _ hg)]
      rfl

/-! ## The start -/

theorem runAll_cons {i : Initializer} {v : V} (h : i.value.evaluation m i.ty = .value v)
    (s : Storage V) (is : List Initializer) :
    Initializer.runAll m s (i :: is) =
      (Initializer.runAll m (s.put i.field v) is).map fun (s, events) =>
        (s, .initialized v :: events) := by
  rw [Initializer.runAll, h]
  rfl

/-- The initializers of some of the fields write what these hold when they are not touched. -/
theorem runAll_slots (hn : b.setterNames.Nodup) (hm : b.GivesValues m) {fields : List BuilderField}
    (hsub : fields ⊆ b.fields) :
    Initializer.runAll m (b.slots c) (fields.filterMap fun f =>
      f.initial?.map fun value => ⟨f.name, f.ty, value⟩) =
      some (b.slots fun g =>
          if g.name.text ∈ fields.map (·.name.text) then (g.untouched? m).or (c g) else c g,
        fields.filterMap fun f => (f.untouched? m).map .initialized) := by
  -- The slots change with every initializer, so the induction is for all of them.
  induction fields generalizing c with
  | nil => rfl
  | cons f fields ih =>
      have hf := hsub List.mem_cons_self
      have hvalue := FieldSpec.initial?_evaluation (hm f hf)
      rw [List.filterMap_cons, List.filterMap_cons]
      cases hi : f.initial? with
      | none =>
          rw [hi, Option.map_none, eq_comm, Option.map_eq_none_iff] at hvalue
          rw [Option.map_none, hvalue, ih (List.subset_of_cons_subset hsub)]
          refine congrArg (fun s => some (s, _)) (slots_congr fun g hg => ?_)
          simp only [List.map_cons, List.mem_cons]
          by_cases hgf : g.name.text = f.name.text
          · simp [field_unique hn hg hf hgf, hvalue]
          · simp [hgf]
      | some value =>
          rw [hi, Option.map_some, eq_comm, Option.map_eq_some_iff] at hvalue
          obtain ⟨v, hfirst, hvalue⟩ := hvalue
          rw [Option.map_some, hfirst, Option.map_some]
          show Initializer.runAll m (b.slots c) (_ :: _) = _
          rw [runAll_cons hvalue.symm, slots_put hn hf, ih (List.subset_of_cons_subset hsub),
            Option.map_some]
          refine congrArg (fun s => some (s, _)) (slots_congr fun g hg => ?_)
          simp only [List.map_cons, List.mem_cons]
          by_cases hgf : g.name.text = f.name.text
          · simp [field_unique hn hg hf hgf, hfirst, withValue_self]
          · simp [hgf, withValue_of_ne hgf]

/-- What happens when a builder starts: the first values of the optional fields are made. -/
def startEvents (b : Blueprint) (m : Meaning V) : List (Event V) :=
  b.fields.filterMap fun f => (f.untouched? m).map .initialized

theorem startImpl_matches : ∃ bs, b.startImpl.bindings? .equal b.startArgs = some bs := by
  obtain ⟨bs, hbs, -⟩ : ∃ bs, b.startImpl.bindings? .equal b.startArgs = some bs ∧
      ∀ p ∈ b.startImpl.args.toList.zip b.startArgs.toList, bs.resolve p.1 = p.2 := by
    refine BuilderImpl.bindings?_of_subst (σ := id) rfl (fun p hp => ?_) fun _ _ => rfl
    rw [startArgs, List.zip_eq_zipWith, List.zipWith_self, List.mem_map] at hp
    obtain ⟨n, -, rfl⟩ := hp
    rfl
  exact ⟨bs, hbs⟩

theorem start_run (hn : b.setterNames.Nodup) (hm : b.GivesValues m) :
    b.start m =
      .ok ⟨.builder b.startArgs (b.slots fun f => f.untouched? m), b.startEvents m⟩ := by
  obtain ⟨bs, hbs⟩ := b.startImpl_matches
  have hempty : Storage.empty (b.fields.map (·.name)) = b.slots fun _ => (none : Option V) := by
    rw [Storage.empty, slots, List.map_map]
    rfl
  have hall : Initializer.runAll m (b.slots fun _ => none) b.initializers =
      some (b.slots fun f => f.untouched? m, b.startEvents m) := by
    rw [initializers, runAll_slots hn hm (List.Subset.refl _)]
    refine congrArg (fun s => some (s, _)) (slots_congr fun f hf => ?_)
    rw [if_pos (List.mem_map_of_mem hf), Option.or_none]
  have hrun : b.startMethod.run m (b.slots fun _ => none) none =
      .ok (.builder (b.slots fun f => f.untouched? m), b.startEvents m) := by
    simp only [Method.run, startMethod, hall]
  rw [start, startAt, hbs, hempty]
  show Session.afterRun [] (some b.startArgs) (b.startMethod.run m _ none) = _
  rw [hrun]
  rfl

/-- A new builder holds what its fields hold when they are not touched. -/
theorem start_eq (hn : b.setterNames.Nodup) (hm : b.GivesValues m) :
    ∃ events, b.start m =
      .ok ⟨.builder b.startArgs (b.slots fun f => f.untouched? m), events⟩ :=
  ⟨_, start_run hn hm⟩

/-! ## Setters -/

/-- A setter that finds a value where it drops one changes the slot of its field. It drops what
it finds there after it made the new value. Where it drops nothing, what is there is
forgotten. -/
theorem setter_run_over (hn : b.setterNames.Nodup) (hf : f ∈ b.fields)
    (hslot : f.isOptional → (c f).isSome) (i : Nat) (v : V) :
    (b.setter i f).run m (b.slots c) (some v) =
      .ok (.builder (b.slots (withValue f (some (f.given m v)) c)),
        f.conversion m v ++ if f.isOptional then (c f).toList.map .dropped else []) := by
  rw [Method.run, setter]
  simp only [FieldSpec.stored_eq, FieldSpec.stored_events, slots_put hn hf, slots_get? hn hf]
  split
  · next hopt =>
      obtain ⟨old, hold⟩ := Option.isSome_iff_exists.mp (hslot hopt)
      rw [hold]
      rfl
  · rw [List.append_nil]

/-- Where a setter finds a value just where it drops one, nothing is forgotten. -/
theorem setter_run (hn : b.setterNames.Nodup) (hf : f ∈ b.fields)
    (hslot : (c f).isSome = f.isOptional) (i : Nat) (v : V) :
    (b.setter i f).run m (b.slots c) (some v) =
      .ok (.builder (b.slots (withValue f (some (f.given m v)) c)),
        f.conversion m v ++ (c f).toList.map .dropped) := by
  rw [setter_run_over hn hf fun hopt => hslot.trans hopt]
  split
  · rfl
  · next hopt =>
      rw [Bool.not_eq_true] at hopt
      rw [hopt, Option.isSome_eq_false_iff, Option.isNone_iff_eq_none] at hslot
      rw [hslot, Option.toList_none, List.map_nil]

end Blueprint

end StagedBuilder
