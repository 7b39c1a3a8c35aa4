import StagedBuilder.Proofs.Initialisation

/-!
# What is built

The struct that `build` gives is told by the setter calls alone. A field whose setter was
called holds what it was given, any other field holds what it holds when it is not touched. As
setters are called at most once the order of the calls plays no part: `held` looks a call up by
its name, and a list with distinct names may be looked up in any order (`held_perm`).

A builder can be started from two sides, its own and the struct's, and both start it alike.
-/

namespace StagedBuilder

namespace Blueprint

variable {V : Type} {b : Blueprint} {m : Meaning V}

/-- Starts a builder from one side. -/
def startBy (b : Blueprint) (m : Meaning V) : Route → Except Refusal (Session V)
  | .inherent => b.start m
  | .trait => b.startBuildable m

/-- The arguments of a builder that was started from one side. -/
def argsBySide (b : Blueprint) : Route → BuilderArgs
  | .inherent => b.startArgs
  | .trait => b.buildableImpl.builder

/-- The struct that comes of a new builder when these setters and then `build` are called. -/
def built? (b : Blueprint) (m : Meaning V) (route : Route) (calls : List (String × V)) :
    Except Refusal (Option (List (Ident × V))) := do
  let new ← b.startBy m route
  let ready ← b.callAll m new calls
  let last ← b.call m ready "build" none
  return last.struct?

theorem argsBySide_eq (route : Route) : b.argsBySide route = b.startArgs := by
  cases route <;> rfl

theorem startBy_eq (route : Route) : b.startBy m route = b.start m := by
  cases route <;> rfl

theorem held_perm {calls calls' : List (String × V)} (hl : (calls.map (·.1)).Nodup)
    (hp : calls.Perm calls') : held m calls' = held m calls := by
  funext f
  rw [held, held, lookup_perm hl hp]

/-- The fields of the struct that is built after these calls. -/
def builtFields (b : Blueprint) (m : Meaning V) (calls : List (String × V)) : List (Ident × V) :=
  b.fields.map fun f => (f.name, (held m calls f).getD m.absent)

theorem builtFields_lookup (hn : b.setterNames.Nodup) {calls : List (String × V)}
    {f : BuilderField} (hf : f ∈ b.fields) (hsome : (held m calls f).isSome) :
    (b.builtFields m calls).lookup f.name = held m calls f := by
  obtain ⟨v, hv⟩ := Option.isSome_iff_exists.mp hsome
  rw [builtFields, lookup_map_key _ (names_nodup hn) hf, hv, Option.getD_some]

/-- An accepted run of setters ends in a struct. -/
theorem built?_eq (ha : Accepted b.fields) (hn : b.setterNames.Nodup) (hm : b.GivesValues m)
    {route : Route}
    {calls : List (String × V)} (hsetters : ∀ c ∈ calls, c.1 ∈ b.setterNames)
    (hacc : b.Accepts .equal (some b.startArgs) (calls.map (·.1) ++ ["build"])) :
    b.built? m route calls = .ok (some (b.builtFields m calls)) ∧
      (calls.map (·.1)).Nodup ∧ ∀ f ∈ b.fields, (held m calls f).isSome := by
  obtain ⟨before, hstart⟩ := start_eq hn hm
  have hnew : b.InUse m [] b.startArgs (b.slots fun f => f.untouched? m) := inUse_start hm
  obtain ⟨args, storage, events, hall, hin, hrest⟩ := hnew.callAll ha hn hsetters hacc before
  obtain ⟨s, hs, -⟩ := accepts_cons.mp hrest
  obtain ⟨hmethod, hnext, hfull⟩ := hin.build_call ha hn hs
  have hrun := hin.build_run hfull
  have honce : (calls.map (·.1)).Nodup := by
    have := hin.once
    rwa [List.append_nil, List.map_reverse, List.nodup_reverse] at this
  -- The invariant has the calls in reverse, which is no matter where none is repeated.
  rw [List.append_nil, held_perm honce (List.reverse_perm calls).symm] at hrun hfull
  refine ⟨?_, honce, hfull⟩
  have hcall : b.call m ⟨.builder args storage, events⟩ "build" none =
      .ok ⟨.struct (b.builtFields m calls), events ++ []⟩ := by
    rw [call_of_step? hs, hmethod, hrun, hnext]
    rfl
  rw [built?, startBy_eq, hstart]
  show (b.callAll m _ calls).bind _ = _
  rw [hall]
  show (b.call m _ "build" none).bind _ = _
  rw [hcall]
  rfl

/-- Where defaults give values, every accepted run of setters that ends in `build` gives a
struct, from whichever side the builder was started. In it each field holds what it was given,
or what it holds when it is not touched, and the order of the setters does not matter. -/
theorem built_values {item : Item} (h : item.blueprint = .ok b) (hn : b.setterNames.Nodup)
    {m : Meaning V} (hm : b.GivesValues m) (route : Route) (calls : List (String × V))
    (hsetters : ∀ c ∈ calls, c.1 ∈ b.setterNames)
    (hacc : b.Accepts .equal (some (b.argsBySide route)) (calls.map (·.1) ++ ["build"])) :
    ∃ vs, b.built? m route calls = .ok (some vs) ∧ vs.map (·.1) = b.fields.map (·.name) ∧
      (∀ f ∈ b.fields, ∀ v, (f.name.text, v) ∈ calls → vs.lookup f.name = some (f.given m v)) ∧
      (∀ f ∈ b.fields, f.name.text ∉ calls.map (·.1) → ¬ f.isRequired ∧
        ∃ v, f.untouched? m = some v ∧ vs.lookup f.name = some v) ∧
      ∀ other calls', calls.Perm calls' →
        b.Accepts .equal (some (b.argsBySide other)) (calls'.map (·.1) ++ ["build"]) →
        b.built? m other calls' = .ok (some vs) := by
  have ha := Item.blueprint_accepted h
  rw [argsBySide_eq] at hacc
  obtain ⟨hbuilt, honce, hfull⟩ := built?_eq ha hn hm hsetters hacc
  refine ⟨_, hbuilt, ?_, fun f hf v hv => ?_, fun f hf hnot => ?_, fun other calls' hp hacc' => ?_⟩
  · rw [builtFields, List.map_map]
    rfl
  · rw [builtFields_lookup hn hf (hfull f hf), held, lookup_of_mem honce hv]
  · have hsome := hfull f hf
    have hnone : held m calls f = f.untouched? m := by
      rw [held, lookup_eq_none_of_key hnot]
    refine ⟨((held_isSome (hm f hf)).mp hsome).resolve_right hnot, ?_⟩
    obtain ⟨v, hv⟩ := Option.isSome_iff_exists.mp hsome
    exact ⟨v, hnone ▸ hv, (builtFields_lookup hn hf hsome).trans hv⟩
  · rw [argsBySide_eq] at hacc'
    have hsetters' : ∀ c ∈ calls', c.1 ∈ b.setterNames :=
      fun c hc => hsetters c (hp.mem_iff.mpr hc)
    rw [(built?_eq ha hn hm hsetters' hacc').1, builtFields, held_perm honce hp]
    rfl

/-- Two orders of the same setters on the builder of a struct with fields of every kind. -/
theorem built_values_probe :
    let m := Probe.template.meaning
    let calls := [("opt", Value.text "a"), ("nn", .text "b"), ("req", .text "c")]
    ∃ b vs, Probe.template.item.blueprint = .ok b ∧ b.setterNames.Nodup ∧ b.GivesValues m ∧
      b.Accepts .equal (some (b.argsBySide .trait)) (calls.map (·.1) ++ ["build"]) ∧
      b.built? m .trait calls = .ok (some vs) ∧
      b.built? m .inherent calls.reverse = .ok (some vs) ∧
      (∀ f ∈ b.fields, ∀ v, (f.name.text, v) ∈ calls → vs.lookup f.name = some (f.given m v)) ∧
      ∀ f ∈ b.fields, f.name.text ∉ calls.map (·.1) → ¬ f.isRequired ∧
        ∃ v, f.untouched? m = some v ∧ vs.lookup f.name = some v := by
  intro m calls
  have hview : Probe.template.item.blueprint.toOption.map (fun b =>
      (b.setterNames,
        decide (b.Accepts .equal (some (b.argsBySide .trait)) (calls.map (·.1) ++ ["build"])),
        decide (b.Accepts .equal (some (b.argsBySide .inherent))
          (calls.reverse.map (·.1) ++ ["build"])))) =
      some (["req", "def", "zero", "opt", "nn"], true, true) := by decide +kernel
  obtain ⟨b, h, hview⟩ := Item.exists_blueprint hview
  simp only [Prod.mk.injEq, decide_eq_true_eq] at hview
  obtain ⟨hnames, hacc, hacc'⟩ := hview
  have hn : b.setterNames.Nodup := by
    rw [hnames]
    decide
  have hsetters : ∀ c ∈ calls, c.1 ∈ b.setterNames := by
    rw [hnames]
    decide
  obtain ⟨vs, hbuilt, -, hgiven, huntouched, horder⟩ :=
    built_values h hn (Probe.template.givesValues b) .trait calls hsetters hacc
  have hother := horder .inherent calls.reverse (List.reverse_perm calls).symm hacc'
  exact ⟨b, vs, h, hn, Probe.template.givesValues b, hacc, hbuilt, hother, hgiven, huntouched⟩

end Blueprint

end StagedBuilder
