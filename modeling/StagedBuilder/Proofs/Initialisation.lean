import StagedBuilder.Proofs.Slots
import StagedBuilder.Proofs.TypestateSoundness
import StagedBuilder.Proofs.WrittenNames
import StagedBuilder.Record.Probe

/-!
# No slot is misused

The storage of a builder is never asked whether a slot is empty. `InUse` says why it need not
be: the builder's type and its storage are two records of the same calls. The type knows which
setters were called (`Tracks`), and each slot holds what is right for a field whose setter was
called, or was not (`held`).

So a setter writes to a slot without dropping anything just where the slot is empty, and
`build` finds none empty. A run of setters keeps all this (`InUse.callAll`), whatever their
order.

All of it stands on what a builder starts with. The type says nothing of the first values: it
takes them to be there, and whether they are is up to the tokens of the defaults. Tokens that
return from the method that starts a builder leave slots empty for good, and then a setter
drops what is not there and `build` gives away what nobody wrote
(`returned_default_unwritten`).
-/

namespace StagedBuilder

namespace Blueprint

variable {V : Type} {b : Blueprint} {m : Meaning V}

/-- What a field holds after these setter calls. -/
def held (m : Meaning V) (calls : List (String × V)) (f : BuilderField) : Option V :=
  match calls.lookup f.name.text with
  | some v => some (f.given m v)
  | none => f.untouched? m

theorem held_isSome {calls : List (String × V)} {f : BuilderField} (hm : f.GivesValue m) :
    (held m calls f).isSome ↔ ¬ f.isRequired ∨ f.name.text ∈ calls.map (·.1) := by
  rw [held]
  cases hv : calls.lookup f.name.text with
  | some v =>
      have hmem : f.name.text ∈ calls.map (·.1) :=
        List.mem_map.mpr ⟨_, mem_of_lookup_eq_some hv, rfl⟩
      simp [hmem]
  | none =>
      have hmem : f.name.text ∉ calls.map (·.1) := by
        rw [List.mem_map]
        rintro ⟨p, hp, he⟩
        simpa [he] using List.lookup_eq_none_iff.mp hv p hp
      have hopt : (f.untouched? m).isSome ↔ ¬ f.isRequired := by
        rw [FieldSpec.untouched?_isSome hm, FieldSpec.isRequired_iff, not_not]
      simpa only [hmem, or_false] using hopt

theorem slots_held_cons (hn : b.setterNames.Nodup) {f : BuilderField} (hf : f ∈ b.fields)
    (calls : List (String × V)) (v : V) :
    b.slots (held m ((f.name.text, v) :: calls)) =
      b.slots (withValue f (some (f.given m v)) (held m calls)) := by
  refine slots_congr fun g hg => ?_
  rw [held, List.lookup_cons]
  by_cases hgf : g.name.text = f.name.text
  · obtain rfl := field_unique hn hg hf hgf
    rw [withValue_self, beq_self_eq_true]
  · rw [withValue_of_ne hgf, beq_false_of_ne hgf, held]

/-! ## Sessions -/

theorem call_of_step? {args : BuilderArgs} {storage : Storage V} {before : List (Event V)}
    {name : String} {arg : Option V} {s : Step} (h : b.step? .equal args name = some s) :
    b.call m ⟨.builder args storage, before⟩ name arg =
      Session.afterRun before s.next (s.method.run m storage arg) := by
  rw [call]
  simp only [h]

theorem callAll_cons (s : Session V) (name : String) (v : V) (calls : List (String × V)) :
    b.callAll m s ((name, v) :: calls) =
      (b.call m s name (some v)).bind fun s => b.callAll m s calls := rfl

/-- What happens when a setter is called. -/
def callEvents (b : Blueprint) (m : Meaning V) (c : String × V) : List (Event V) :=
  match b.field? c.1 with
  | some f => f.setterEvents m c.2
  | none => []

theorem callEvents_eq (hn : b.setterNames.Nodup) {f : BuilderField} (hf : f ∈ b.fields) (v : V) :
    b.callEvents m (f.name.text, v) = f.setterEvents m v := by
  rw [callEvents, field?_eq hn hf]

/-- A builder after these setter calls, the last one first. -/
structure InUse (b : Blueprint) (m : Meaning V) (calls : List (String × V)) (args : BuilderArgs)
    (storage : Storage V) : Prop where
  values : b.GivesValues m
  once : (calls.map (·.1)).Nodup
  typed : ∃ σ, args = b.argsBy σ ∧ b.Tracks (calls.map (·.1)) σ
  stored : storage = b.slots (held m calls)

theorem inUse_start (hm : b.GivesValues m) :
    b.InUse m [] b.startArgs (b.slots fun f => f.untouched? m) :=
  ⟨hm, List.nodup_nil, ⟨_, startArgs_eq, tracks_start⟩, rfl⟩

namespace InUse

variable {done : List (String × V)} {args : BuilderArgs} {storage : Storage V}

/-! ## One call -/

theorem get?_isSome (hn : b.setterNames.Nodup) (hin : b.InUse m done args storage)
    {f : BuilderField} (hf : f ∈ b.fields) :
    (storage.get? f.name).isSome ↔ ¬ f.isRequired ∨ f.name.text ∈ done.map (·.1) := by
  rw [hin.stored, slots_get? hn hf, held_isSome (hin.values f hf)]

theorem setter_call_run (ha : Accepted b.fields) (hn : b.setterNames.Nodup)
    (hin : b.InUse m done args storage) {f : BuilderField} (hf : f ∈ b.fields) {s : Step}
    (h : b.step? .equal args f.name.text = some s) :
    s.method.body = .store f.name f.into f.kind.wraps (storage.get? f.name).isSome ∧
      (storage.get? f.name).isSome = !f.isRequired ∧
      ∃ args', s.next = some args' ∧ ∀ v,
        s.method.run m storage (some v) =
          .ok (.builder (storage.put f.name (f.given m v)), f.setterEvents m v) ∧
        b.InUse m ((f.name.text, v) :: done) args' (storage.put f.name (f.given m v)) := by
  obtain ⟨i, hi⟩ := List.mem_iff_getElem?.mp hf
  obtain ⟨σ, rfl, ht⟩ := hin.typed
  obtain ⟨bs, hbs, rfl⟩ := setter_of_step? ha hn hi h
  have hnew := (setter_finds_unset ha hn ht hi hbs).2
  -- The setter is called for the first time, so its slot holds at most the field's first value.
  have hslot : (storage.get? f.name).isSome = !f.isRequired := by
    rw [Bool.eq_iff_iff, hin.get?_isSome hn hf]
    simp [hnew]
  refine ⟨?_, hslot, _, setter_after hn hi hbs, fun v => ?_⟩
  · rw [hslot, ← FieldSpec.isOptional_eq]
    rfl
  · have hheld : held m done f = f.untouched? m := by
      rw [held, lookup_eq_none_of_key hnew]
    have hsome : (held m done f).isSome = f.isOptional := by
      rw [hheld, FieldSpec.untouched?_isSome (hin.values f hf)]
    have hrun := setter_run (m := m) hn hf hsome i v
    rw [hheld] at hrun
    rw [hin.stored, slots_put hn hf]
    refine ⟨hrun, hin.values, List.nodup_cons.mpr ⟨hnew, hin.once⟩, ?_, ?_⟩
    · exact ⟨_, rfl, tracks_setter ha hn ht hi hbs⟩
    · exact (slots_held_cons hn hf done v).symm

/-- A setter that can be called finds a value just where it drops one. It changes the slot of
its field, and the builder is in use again. -/
theorem setter_call (ha : Accepted b.fields) (hn : b.setterNames.Nodup)
    (hin : b.InUse m done args storage) {f : BuilderField} (hf : f ∈ b.fields) {s : Step}
    (h : b.step? .equal args f.name.text = some s) :
    s.method.body = .store f.name f.into f.kind.wraps (storage.get? f.name).isSome ∧
      (storage.get? f.name).isSome = !f.isRequired ∧
      ∃ args', s.next = some args' ∧ ∀ v, ∃ made,
        s.method.run m storage (some v) = .ok (.builder (storage.put f.name (f.given m v)), made) ∧
        b.InUse m ((f.name.text, v) :: done) args' (storage.put f.name (f.given m v)) := by
  obtain ⟨hbody, hslot, args', hnext, hrun⟩ := hin.setter_call_run ha hn hf h
  exact ⟨hbody, hslot, args', hnext, fun v => ⟨_, hrun v⟩⟩

/-- Where `build` can be called no slot is empty. -/
theorem build_call (ha : Accepted b.fields) (hn : b.setterNames.Nodup)
    (hin : b.InUse m done args storage) {s : Step}
    (h : b.step? .equal args "build" = some s) :
    s.method = buildMethod ∧ s.next = none ∧ ∀ f ∈ b.fields, (held m done f).isSome := by
  obtain ⟨σ, rfl, ht⟩ := hin.typed
  obtain ⟨bs, hbs, rfl⟩ := build_of_step? ha h
  refine ⟨rfl, rfl, fun f hf => (held_isSome (hin.values f hf)).mpr ?_⟩
  by_cases hreq : f.isRequired
  · exact Or.inr (build_finds_set ha hn ht hbs hf hreq)
  · exact Or.inl hreq

theorem full_values? (hin : b.InUse m done args storage)
    (hfull : ∀ f ∈ b.fields, (held m done f).isSome) :
    storage.values? = some (b.fields.map fun f => (f.name, (held m done f).getD m.absent)) := by
  rw [hin.stored]
  refine slots_values? fun f hf => ?_
  obtain ⟨v, hv⟩ := Option.isSome_iff_exists.mp (hfull f hf)
  rw [hv, Option.getD_some]

theorem build_run (hin : b.InUse m done args storage)
    (hfull : ∀ f ∈ b.fields, (held m done f).isSome) :
    buildMethod.run m storage none =
      .ok (.struct (b.fields.map fun f => (f.name, (held m done f).getD m.absent)), []) := by
  show storage.finish = _
  rw [Storage.finish, hin.full_values? hfull]

/-! ## Runs of setters -/

theorem callAll_run (ha : Accepted b.fields) (hn : b.setterNames.Nodup)
    (hin : b.InUse m done args storage) {calls : List (String × V)} {rest : List String}
    (hsetters : ∀ c ∈ calls, c.1 ∈ b.setterNames)
    (hacc : b.Accepts .equal (some args) (calls.map (·.1) ++ rest)) (before : List (Event V)) :
    ∃ args' storage',
      b.callAll m ⟨.builder args storage, before⟩ calls =
        .ok ⟨.builder args' storage', before ++ calls.flatMap (b.callEvents m)⟩ ∧
      b.InUse m (calls.reverse ++ done) args' storage' ∧ b.Accepts .equal (some args') rest := by
  -- By induction on the calls, with `InUse` for the calls so far. The first one is a setter's.
  induction calls generalizing done args storage before with
  | nil =>
      refine ⟨args, storage, ?_, hin, hacc⟩
      rw [List.flatMap_nil, List.append_nil]
      rfl
  | cons c calls ih =>
      obtain ⟨name, v⟩ := c
      obtain ⟨f, hf, rfl⟩ := List.mem_map.mp (hsetters _ List.mem_cons_self)
      obtain ⟨s, hs, hacc⟩ := accepts_cons.mp hacc
      obtain ⟨-, -, args', hnext, hrun⟩ := hin.setter_call_run ha hn hf hs
      obtain ⟨hrun, hin'⟩ := hrun v
      rw [hnext] at hacc
      have hcall : b.call m ⟨.builder args storage, before⟩ f.name.text (some v) =
          .ok ⟨.builder args' (storage.put f.name (f.given m v)),
            before ++ f.setterEvents m v⟩ := by
        rw [call_of_step? hs, hrun, hnext]
        rfl
      obtain ⟨args'', storage'', hall, hin'', hacc''⟩ :=
        ih hin' (fun c hc => hsetters c (List.mem_cons_of_mem _ hc)) hacc
          (before ++ f.setterEvents m v)
      refine ⟨args'', storage'', ?_, ?_, hacc''⟩
      · rw [callAll_cons, hcall, List.flatMap_cons, callEvents_eq hn hf, ← List.append_assoc]
        exact hall
      · rw [List.reverse_cons, List.append_assoc]
        exact hin''

/-- Setters that are accepted one after the other run one after the other. Whatever else was
accepted after them is accepted by the builder that they leave. -/
theorem callAll (ha : Accepted b.fields) (hn : b.setterNames.Nodup)
    (hin : b.InUse m done args storage) {calls : List (String × V)} {rest : List String}
    (hsetters : ∀ c ∈ calls, c.1 ∈ b.setterNames)
    (hacc : b.Accepts .equal (some args) (calls.map (·.1) ++ rest)) (before : List (Event V)) :
    ∃ args' storage' events,
      b.callAll m ⟨.builder args storage, before⟩ calls =
        .ok ⟨.builder args' storage', events⟩ ∧
      b.InUse m (calls.reverse ++ done) args' storage' ∧ b.Accepts .equal (some args') rest := by
  obtain ⟨args', storage', hall, hin', hrest⟩ := hin.callAll_run ha hn hsetters hacc before
  exact ⟨args', storage', _, hall, hin', hrest⟩

end InUse

/-- Where defaults give values, the slots of a builder hold a value after any accepted setters
just where the field has one from the start or was set. So a setter that is accepted then finds
a value just where it drops one, it changes no slot but its own, and `build` is accepted only
when no slot is empty. -/
theorem initialisation_invariant {item : Item} (h : item.blueprint = .ok b)
    (hn : b.setterNames.Nodup) {m : Meaning V} (hm : b.GivesValues m) (calls : List (String × V))
    (hsetters : ∀ c ∈ calls, c.1 ∈ b.setterNames)
    (hacc : b.Accepts .equal (some b.startArgs) (calls.map (·.1))) :
    ∃ new args storage events, b.start m = .ok new ∧
      b.callAll m new calls = .ok ⟨.builder args storage, events⟩ ∧
      storage.map (·.1) = b.fields.map (·.name) ∧
      (∀ f ∈ b.fields, (storage.get? f.name).isSome ↔
        ¬ f.isRequired ∨ f.name.text ∈ calls.map (·.1)) ∧
      (∀ f ∈ b.fields, ∀ s, b.step? .equal args f.name.text = some s →
        s.method.body = .store f.name f.into f.kind.wraps (storage.get? f.name).isSome ∧
        (storage.get? f.name).isSome = !f.isRequired ∧
        ∀ v, ∃ storage' made, s.method.run m storage (some v) = .ok (.builder storage', made) ∧
          (storage'.get? f.name).isSome ∧
          ∀ g ∈ b.fields, g.name ≠ f.name → storage'.get? g.name = storage.get? g.name) ∧
      ∀ s, b.step? .equal args "build" = some s →
        (∀ f ∈ b.fields, (storage.get? f.name).isSome) ∧
        ∃ vs, s.method.run m storage none = .ok (.struct vs, []) := by
  have ha := Item.blueprint_accepted h
  obtain ⟨before, hstart⟩ := start_eq hn hm
  -- Nothing has to be accepted after the calls.
  rw [← List.append_nil (calls.map (·.1))] at hacc
  obtain ⟨args, storage, events, hall, hin, -⟩ :=
    (inUse_start hm).callAll ha hn hsetters hacc before
  rw [List.append_nil] at hin
  have hmem : ∀ name, name ∈ calls.reverse.map (·.1) ↔ name ∈ calls.map (·.1) := by
    intro name
    rw [List.map_reverse, List.mem_reverse]
  refine ⟨_, args, storage, events, hstart, hall, ?_, fun f hf => ?_, fun f hf s hs => ?_,
    fun s hs => ?_⟩
  · rw [hin.stored, slots, List.map_map]
    rfl
  · rw [hin.get?_isSome hn hf, hmem]
  · obtain ⟨hbody, hslot, args', -, hrun⟩ := hin.setter_call ha hn hf hs
    refine ⟨hbody, hslot, fun v => ?_⟩
    obtain ⟨made, hrun, -⟩ := hrun v
    refine ⟨_, made, hrun, ?_, fun g hg hgf => ?_⟩
    · rw [hin.stored, slots_put hn hf, slots_get? hn hf, withValue_self]
      rfl
    · have hne : g.name.text ≠ f.name.text := fun he => hgf ((name_eq_iff hn hg hf).mpr he)
      rw [hin.stored, slots_put hn hf, slots_get? hn hg, slots_get? hn hg, withValue_of_ne hne]
  · obtain ⟨hmethod, -, hfull⟩ := hin.build_call ha hn hs
    refine ⟨fun f hf => ?_, _, hmethod ▸ hin.build_run hfull⟩
    rw [hin.stored, slots_get? hn hf]
    exact hfull f hf

/-- Two setters on the builder of a struct with fields of every kind. Of its five slots one is
still empty, that of `req`. -/
theorem initialisation_invariant_probe :
    let m := Probe.template.meaning
    let calls := [("opt", Value.text "a"), ("nn", Value.text "b")]
    ∃ b, Probe.template.item.blueprint = .ok b ∧ b.setterNames.Nodup ∧ b.GivesValues m ∧
      (∀ c ∈ calls, c.1 ∈ b.setterNames) ∧
      b.Accepts .equal (some b.startArgs) (calls.map (·.1)) ∧
      ∃ new args storage events, b.start m = .ok new ∧
        b.callAll m new calls = .ok ⟨.builder args storage, events⟩ ∧
        b.fields.map (fun f => (storage.get? f.name).isSome) = [false, true, true, true, true] := by
  intro m calls
  have hview : Probe.template.item.blueprint.toOption.map (fun b =>
      (b.setterNames, decide (b.Accepts .equal (some b.startArgs) (calls.map (·.1))),
        b.fields.map fun f => decide (¬ f.isRequired ∨ f.name.text ∈ calls.map (·.1)))) =
      some (["req", "def", "zero", "opt", "nn"], true, [false, true, true, true, true]) := by
    decide +kernel
  obtain ⟨b, h, hview⟩ := Item.exists_blueprint hview
  simp only [Prod.mk.injEq, decide_eq_true_eq] at hview
  obtain ⟨hnames, hacc, hslots⟩ := hview
  have hn : b.setterNames.Nodup := by
    rw [hnames]
    decide
  have hsetters : ∀ c ∈ calls, c.1 ∈ b.setterNames := by
    rw [hnames]
    decide
  obtain ⟨new, args, storage, events, hstart, hall, -, hsome, -⟩ :=
    initialisation_invariant h hn (Probe.template.givesValues b) calls hsetters hacc
  refine ⟨b, h, hn, Probe.template.givesValues b, hsetters, hacc, new, args, storage, events,
    hstart, hall, ?_⟩
  rw [← hslots]
  refine List.map_congr_left fun f hf => ?_
  rw [Bool.eq_iff_iff, hsome f hf, decide_eq_true_iff]

/-! ## Where a default is no value

Nothing but the assumption on the defaults keeps a builder from these two calls. -/

section Empty

variable {c : BuilderField → Option V} {f : BuilderField} (hf : f ∈ b.fields) (hc : c f = none)
  {args : BuilderArgs} {s : Step} (before : List (Event V))

include hf hc

theorem slots_values?_of_empty : (b.slots c).values? = none := by
  rw [Storage.values?, slots]
  generalize b.fields = fields at hf
  induction fields with
  | nil => cases hf
  | cons g fields ih =>
      rw [List.map_cons, List.mapM_cons]
      rcases List.mem_cons.mp hf with rfl | hf
      · rw [hc]
        rfl
      · rw [ih hf]
        cases c g <;> rfl

/-- `build` takes a struct from a storage in which a slot is empty. -/
theorem build_call_of_empty (ha : Accepted b.fields) (h : b.step? .equal args "build" = some s) :
    b.call m ⟨.builder args (b.slots c), before⟩ "build" none = .error (.misuse .unfinished) := by
  obtain ⟨-, -, rfl⟩ := build_of_step? ha h
  have hrun : buildMethod.run m (b.slots c) none = .error .unfinished := by
    show (b.slots c).finish = _
    rw [Storage.finish, slots_values?_of_empty hf hc]
  rw [call_of_step? h, hrun]
  rfl

/-- The setter of a field with a first value drops what its slot holds, even if that is
nothing. -/
theorem setter_call_of_empty (ha : Accepted b.fields) (hn : b.setterNames.Nodup)
    (hopt : f.isOptional) (h : b.step? .equal args f.name.text = some s) (v : V) :
    b.call m ⟨.builder args (b.slots c), before⟩ f.name.text (some v) =
      .error (.misuse (.emptySlot f.name)) := by
  obtain ⟨i, hi⟩ := List.mem_iff_getElem?.mp hf
  obtain ⟨bs, -, rfl⟩ := setter_of_step? ha hn hi h
  have hrun : (b.setter i f).run m (b.slots c) (some v) = .error (.emptySlot f.name) := by
    rw [Method.run, setter]
    simp only [hopt, if_true, slots_get? hn hf, hc]
  rw [call_of_step? h, hrun]
  rfl

end Empty

/-- A struct whose default is no value. -/
def returningText : String := "struct S \x7b #[default(return __builder)] a: u8 \x7d"

/-- What `return __builder` comes to in the method that starts a builder: that ends there, with
the builder as it is. Other tokens are taken for the values of records. -/
def returning : Meaning Value :=
  { Probe.template.meaning with
    eval := fun _ tokens =>
      match tokens with
      | [.ident keyword _, .ident name _] =>
        if keyword = .plain "return" ∧ name = .plain "__builder" then .detour .returned
        else .value (.ofTokens tokens)
      | _ => .value (.ofTokens tokens) }

/-- The builder is returned before its only slot is written, though the field has a first value
and the builder's type says that it can be built. So `build` gives away what nobody wrote, and
the setter drops it. -/
theorem returned_default_unwritten :
    ∃ item b new f, Item.ofText returningText = .ok item ∧ item.blueprint = .ok b ∧
      b.fields = [f] ∧ ¬ f.isRequired ∧ f.name.text = "a" ∧
      b.start returning = .ok new ∧ new.holding = .builder b.startArgs [(f.name, none)] ∧
      b.Accepts .equal (some b.startArgs) ["build"] ∧
      b.call returning new "build" none = .error (.misuse .unfinished) ∧
      b.Accepts .equal (some b.startArgs) ["a"] ∧
      ∀ v, b.call returning new "a" (some v) = .error (.misuse (.emptySlot f.name)) := by
  have hview : ((Item.ofText returningText).toOption.bind fun i =>
      i.blueprint.toOption.map fun b => (b.setterNames, b.fields.map (·.isOptional),
        decide (b.Accepts .equal (some b.startArgs) ["build"]),
        decide (b.Accepts .equal (some b.startArgs) ["a"]),
        (b.start returning).toOption.map fun new =>
          decide (new.holding = .builder b.startArgs (b.slots fun _ => none)))) =
      some (["a"], [true], true, true, some true) := by decide +kernel
  obtain ⟨item, b, ht, h, hview⟩ := Item.exists_read hview
  simp only [Prod.mk.injEq, decide_eq_true_eq, Option.map_eq_some_iff] at hview
  obtain ⟨hnames, hoptional, hbuild, hset, ⟨holding, before⟩, hnew, rfl⟩ := hview
  have ha := Item.blueprint_accepted h
  have hn : b.setterNames.Nodup := by
    rw [hnames]
    decide
  obtain ⟨f, hfields, hopt⟩ := List.map_eq_singleton_iff.mp hoptional
  have hf : f ∈ b.fields := hfields ▸ List.mem_singleton_self f
  have hname : f.name.text = "a" := by
    rw [setterNames, hfields] at hnames
    exact List.singleton_injective hnames
  have hslots : b.slots (fun _ => (none : Option Value)) = [(f.name, none)] := by
    rw [slots, hfields]
    rfl
  refine ⟨item, b, _, f, ht, h, hfields, ?_, hname, except_eq_ok_of_toOption hnew,
    congrArg (Holding.builder _) hslots, hbuild, ?_, hset, fun v => ?_⟩
  · exact fun hreq => FieldSpec.isRequired_iff.mp hreq hopt
  · obtain ⟨s, hs, -⟩ := accepts_cons.mp hbuild
    exact build_call_of_empty hf rfl before ha hs
  · obtain ⟨s, hs, -⟩ := accepts_cons.mp hset
    rw [← hname] at hs ⊢
    exact setter_call_of_empty hf rfl before ha hn hopt hs v

end Blueprint

end StagedBuilder
