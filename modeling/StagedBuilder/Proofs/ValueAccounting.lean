import StagedBuilder.Proofs.BuiltValues

/-!
# Where values are

A value comes into a builder as the first value of an optional field or by a setter. From then
on it is in one place: in a slot, or dropped, or in the struct. A setter trades what its slot
holds for the new value (`Storage.contents_put`), so the places of all values stay in balance
with what came in, over any run of setters (`held_balance`). And `build` moves what is in the
slots, all of it and nothing else.

What a builder drops is told by the calls alone: each setter drops the first value of its
field, if it has one, after it converted its argument. Nothing else is ever dropped before the
struct is.
-/

namespace StagedBuilder

variable {V : Type}

/-- The value that is dropped, if one is. -/
def Event.dropped? : Event V → Option V
  | .dropped v => some v
  | .initialized _ | .converted _ => none

namespace Storage

/-- The values in all slots. -/
def contents (s : Storage V) : List V := s.filterMap (·.2)

theorem contents_cons (field : Ident) (slot : Option V) (s : Storage V) :
    Storage.contents ((field, slot) :: s) = slot.toList ++ s.contents := by
  rw [contents, List.filterMap_cons]
  cases slot <;> rfl

theorem put_cons (name field : Ident) (slot : Option V) (s : Storage V) (v : V) :
    Storage.put ((name, slot) :: s) field v =
      (name, if name = field then some v else slot) :: s.put field v := by
  show (if name = field then (name, some v) else (name, slot)) :: s.put field v = _
  split <;> rfl

theorem put_of_not_mem {s : Storage V} {field : Ident} (h : field ∉ s.map (·.1)) (v : V) :
    s.put field v = s := by
  have hsame : ∀ slot ∈ s, (if slot.1 = field then (slot.1, some v) else slot) = slot :=
    fun slot hs => if_neg fun he => h (List.mem_map.mpr ⟨slot, hs, he⟩)
  exact (List.map_congr_left hsame).trans (List.map_id' s)

theorem get?_cons_self (field : Ident) (slot : Option V) (s : Storage V) :
    Storage.get? ((field, slot) :: s) field = slot := by
  rw [get?, List.lookup_cons_self, Option.join_some]

theorem get?_cons_of_ne {name field : Ident} (h : name ≠ field) (slot : Option V)
    (s : Storage V) : Storage.get? ((name, slot) :: s) field = s.get? field := by
  rw [get?, get?, List.lookup_cons, beq_false_of_ne h.symm]

/-- A value that is put into a slot takes the place of what was there. -/
theorem contents_put {s : Storage V} (hn : (s.map (·.1)).Nodup) {field : Ident}
    (hf : field ∈ s.map (·.1)) (v : V) :
    ((s.put field v).contents ++ (s.get? field).toList).Perm (v :: s.contents) := by
  induction s with
  | nil => cases hf
  | cons slot s ih =>
      obtain ⟨name, old⟩ := slot
      rw [List.map_cons, List.nodup_cons] at hn
      rw [put_cons, contents_cons, contents_cons]
      by_cases h : name = field
      · subst h
        rw [put_of_not_mem hn.1, if_pos rfl, get?_cons_self]
        exact List.perm_append_comm.cons v
      · have hf : field ∈ s.map (·.1) := by
          rw [List.map_cons, List.mem_cons] at hf
          exact hf.resolve_left fun he => h he.symm
        rw [if_neg h, get?_cons_of_ne h, List.append_assoc]
        exact ((ih hn.2 hf).append_left old.toList).trans List.perm_middle

theorem contents_of_values? {s : Storage V} {vs : List (Ident × V)} (h : s.values? = some vs) :
    s.contents = vs.map (·.2) := by
  induction s generalizing vs with
  | nil =>
      rw [values?, List.mapM_nil] at h
      rw [← Option.some.inj h]
      rfl
  | cons slot s ih =>
      obtain ⟨name, v | v⟩ := slot
      · cases h
      · have hcons : Storage.values? ((name, some v) :: s) =
            (values? s).bind fun vs => some ((name, v) :: vs) := by
          rw [values?, List.mapM_cons]
          rfl
        rw [hcons, Option.bind_eq_some_iff] at h
        obtain ⟨vs, hvs, h⟩ := h
        rw [contents_cons, ih hvs, ← Option.some.inj h]
        rfl

end Storage

namespace Session

/-- The values that are still in slots. -/
def stored (s : Session V) : List V :=
  match s.holding with
  | .builder _ storage | .storage storage => storage.contents
  | .struct _ => []

/-- What the field's slot holds, as long as there are slots. -/
def slot? (s : Session V) (field : Ident) : Option V :=
  match s.holding with
  | .builder _ storage | .storage storage => storage.get? field
  | .struct _ => none

/-- The values that were moved into the struct. -/
def moved (s : Session V) : List V := (s.struct?.getD []).map (·.2)

/-- The values that were dropped so far, the first one first. -/
def dropped (s : Session V) : List V := s.events.filterMap Event.dropped?

end Session

namespace Blueprint

variable {b : Blueprint} {m : Meaning V}

/-- The value that a setter call stores. -/
def brought? (b : Blueprint) (m : Meaning V) (c : String × V) : Option V :=
  (b.field? c.1).map fun f => f.given m c.2

/-- The first value that a setter call replaces, if the field has one. -/
def replaced? (b : Blueprint) (m : Meaning V) (c : String × V) : Option V :=
  (b.field? c.1).bind fun f => f.untouched? m

/-- All values that come into a builder by these calls: the first values, and those that are
set. -/
def entered (b : Blueprint) (m : Meaning V) (calls : List (String × V)) : List V :=
  b.fields.filterMap (fun f => f.untouched? m) ++ calls.filterMap (b.brought? m)

/-! ## What is dropped -/

theorem startEvents_dropped : (b.startEvents m).filterMap Event.dropped? = [] := by
  rw [startEvents, List.filterMap_filterMap, List.filterMap_eq_nil_iff]
  intro f _
  cases f.untouched? m <;> rfl

theorem callEvents_dropped (c : String × V) :
    (b.callEvents m c).filterMap Event.dropped? = (b.replaced? m c).toList := by
  rw [callEvents, replaced?]
  cases b.field? c.1 with
  | none => rfl
  | some f =>
      have hconversion : (f.conversion m c.2).filterMap Event.dropped? = [] := by
        rw [FieldSpec.conversion]
        cases f.into <;> rfl
      show (f.setterEvents m c.2).filterMap Event.dropped? = (f.untouched? m).toList
      rw [FieldSpec.setterEvents, List.filterMap_append, hconversion, List.nil_append]
      cases f.untouched? m <;> rfl

/-- A run of setters drops the first values of their fields, in the order of the calls. -/
theorem history_dropped (calls : List (String × V)) :
    (b.startEvents m ++ calls.flatMap (b.callEvents m)).filterMap Event.dropped? =
      calls.filterMap (b.replaced? m) := by
  rw [List.filterMap_append, startEvents_dropped, List.nil_append, List.filterMap_flatMap,
    List.filterMap_eq_flatMap_toList]
  exact List.flatMap_congr fun c _ => callEvents_dropped c

/-! ## The balance -/

theorem slots_contents (c : BuilderField → Option V) :
    (b.slots c).contents = b.fields.filterMap c := by
  rw [Storage.contents, slots, List.filterMap_map]
  rfl

theorem slots_names (c : BuilderField → Option V) :
    (b.slots c).map (·.1) = b.fields.map (·.name) := by
  rw [slots, List.map_map]
  rfl

/-- What is in the slots and what the setters replaced is what came in. -/
theorem held_balance (hn : b.setterNames.Nodup) {calls : List (String × V)}
    (hsetters : ∀ c ∈ calls, c.1 ∈ b.setterNames) (hl : (calls.map (·.1)).Nodup) :
    ((b.slots (held m calls)).contents ++ calls.filterMap (b.replaced? m)).Perm
      (b.entered m calls) := by
  -- The head of the list is the latest call: it trades what its slot held for what it was given.
  induction calls with
  | nil =>
      rw [slots_contents]
      exact List.Perm.refl _
  | cons c calls ih =>
      obtain ⟨name, v⟩ := c
      obtain ⟨f, hf, rfl⟩ := List.mem_map.mp (hsetters _ List.mem_cons_self)
      rw [List.map_cons, List.nodup_cons] at hl
      have ih := ih (fun c hc => hsetters c (List.mem_cons_of_mem _ hc)) hl.2
      have hold : (b.slots (held m calls)).get? f.name = f.untouched? m := by
        rw [slots_get? hn hf, held, lookup_eq_none_of_key hl.1]
      have hput : ((b.slots (held m ((f.name.text, v) :: calls))).contents ++
          (f.untouched? m).toList).Perm (f.given m v :: (b.slots (held m calls)).contents) := by
        rw [slots_held_cons hn hf, ← slots_put hn hf, ← hold]
        refine Storage.contents_put ?_ ?_ _
        · rw [slots_names]
          exact names_nodup hn
        · rw [slots_names]
          exact List.mem_map_of_mem hf
      have hreplaced : ((f.name.text, v) :: calls).filterMap (b.replaced? m) =
          (f.untouched? m).toList ++ calls.filterMap (b.replaced? m) := by
        rw [List.filterMap_cons, replaced?, field?_eq hn hf, Option.bind_some]
        cases f.untouched? m <;> rfl
      have hentered : (b.entered m ((f.name.text, v) :: calls)).Perm
          (f.given m v :: b.entered m calls) := by
        rw [entered, List.filterMap_cons, brought?, field?_eq hn hf]
        exact List.perm_middle
      rw [hreplaced, ← List.append_assoc]
      exact (hput.append_right _).trans ((ih.cons _).trans hentered.symm)

/-! ## Runs -/

/-- Where `build` is accepted it moves what is in the slots into the struct, and nothing is
dropped. -/
theorem InUse.build_moves (ha : Accepted b.fields) (hn : b.setterNames.Nodup)
    {done : List (String × V)} {args : BuilderArgs} {storage : Storage V}
    (hin : b.InUse m done args storage) (hacc : b.Accepts .equal (some args) ["build"])
    (before : List (Event V)) :
    ∃ vs, b.call m ⟨.builder args storage, before⟩ "build" none = .ok ⟨.struct vs, before⟩ ∧
      vs.map (·.2) = storage.contents := by
  obtain ⟨step, hstep, -⟩ := accepts_cons.mp hacc
  obtain ⟨hmethod, hnext, hfull⟩ := hin.build_call ha hn hstep
  refine ⟨_, ?_, (Storage.contents_of_values? (hin.full_values? hfull)).symm⟩
  rw [call_of_step? hstep, hmethod, hin.build_run hfull, hnext]
  show Except.ok (Session.mk _ (before ++ [])) = _
  rw [List.append_nil]
  rfl

/-- Where defaults give values, each value that came into a builder is in one place, after any
accepted setters and after `build`. The setters drop the first values of their fields, one
each, after they converted their arguments; a builder that goes away drops nothing, and a
struct that does drops what is in its fields. -/
theorem values_accounted {item : Item} (h : item.blueprint = .ok b) (hn : b.setterNames.Nodup)
    {m : Meaning V} (hm : b.GivesValues m) (route : Route) (calls : List (String × V))
    (hsetters : ∀ c ∈ calls, c.1 ∈ b.setterNames)
    (hacc : b.Accepts .equal (some (b.argsBySide route)) (calls.map (·.1))) :
    (calls.map (·.1)).Nodup ∧
    ∃ new s, b.startBy m route = .ok new ∧ b.callAll m new calls = .ok s ∧
      (s.stored ++ s.dropped).Perm (b.entered m calls) ∧ s.moved = [] ∧
      (∀ f ∈ b.fields, s.slot? f.name = held m calls f) ∧
      s.events = b.startEvents m ++ calls.flatMap (b.callEvents m) ∧
      s.dropped = calls.filterMap (b.replaced? m) ∧
      s.holding.goAway = [] ∧
      (b.Accepts .equal (some (b.argsBySide route)) (calls.map (·.1) ++ ["build"]) →
        ∃ last, b.call m s "build" none = .ok last ∧ last.stored = [] ∧ last.moved = s.stored ∧
          last.events = s.events ∧ last.holding.goAway = s.stored.map .dropped) := by
  have ha := Item.blueprint_accepted h
  rw [argsBySide_eq] at hacc ⊢
  have hnew : b.InUse m [] b.startArgs (b.slots fun f => f.untouched? m) := inUse_start hm
  have hrun (rest : List String)
      (hacc : b.Accepts .equal (some b.startArgs) (calls.map (·.1) ++ rest)) :=
    hnew.callAll_run ha hn hsetters hacc (b.startEvents m)
  obtain ⟨args, storage, hall, hin, -⟩ := hrun [] (by rwa [List.append_nil])
  rw [List.append_nil] at hin
  have hl : (calls.map (·.1)).Nodup := by
    have := hin.once
    rwa [List.map_reverse, List.nodup_reverse] at this
  -- `InUse` has the latest call first. No setter was called twice, so the order is of no matter.
  have hheld : held m calls.reverse = held m calls :=
    held_perm hl (List.reverse_perm calls).symm
  have hstored : storage = b.slots (held m calls) := by
    rw [hin.stored, hheld]
  have hdropped := history_dropped (b := b) (m := m) calls
  refine ⟨hl, _, _, (startBy_eq route).trans (start_run hn hm), hall, ?_, rfl, fun f hf => ?_, rfl,
    hdropped, rfl, fun hbuild => ?_⟩
  · show (storage.contents ++ List.filterMap _ _).Perm _
    rw [hdropped, hstored]
    exact held_balance hn hsetters hl
  · show storage.get? f.name = _
    rw [hstored, slots_get? hn hf]
  -- The run of the same calls, of which it is now known that `build` is accepted after them.
  · obtain ⟨args', storage', hall', hin', hrest⟩ := hrun _ hbuild
    obtain ⟨rfl, rfl⟩ : args' = args ∧ storage' = storage := by
      rw [hall'] at hall
      injection hall with hall
      injection hall with hall
      injection hall with hargs hstorage
      exact ⟨hargs, hstorage⟩
    obtain ⟨vs, hcall, hmoved⟩ :=
      hin.build_moves ha hn hrest (b.startEvents m ++ calls.flatMap (b.callEvents m))
    refine ⟨_, hcall, rfl, hmoved, rfl, ?_⟩
    show vs.map (fun p => Event.dropped p.2) = storage'.contents.map Event.dropped
    rw [← hmoved, List.map_map]
    rfl

/-- Three setters and `build` on the builder of a struct with fields of every kind. Of the
three first values only that of `opt` is replaced, so it alone is dropped. -/
theorem values_accounted_probe :
    let m := Probe.template.meaning
    let calls := [("opt", Value.text "a"), ("nn", .text "b"), ("req", .text "c")]
    ∃ b new s last, Probe.template.item.blueprint = .ok b ∧ b.setterNames.Nodup ∧ b.GivesValues m ∧
      (∀ c ∈ calls, c.1 ∈ b.setterNames) ∧
      b.Accepts .equal (some (b.argsBySide .inherent)) (calls.map (·.1)) ∧
      b.startBy m .inherent = .ok new ∧ b.callAll m new calls = .ok s ∧
      (s.stored ++ s.dropped).Perm [.text "init", .text "default", .absent,
        .present (.text "a"), .present (.text "b"), .text "c"] ∧
      s.events = [.initialized (.text "init"), .initialized (.text "default"),
        .initialized .absent, .dropped .absent, .converted (.text "b")] ∧
      s.dropped = [.absent] ∧ s.holding.goAway = [] ∧
      b.call m s "build" none = .ok last ∧ last.moved = s.stored ∧ last.events = s.events := by
  intro m calls
  let came : List Value := [.text "init", .text "default", .absent, .present (.text "a"),
    .present (.text "b"), .text "c"]
  let history : List (Event Value) := [.initialized (.text "init"),
    .initialized (.text "default"), .initialized .absent, .dropped .absent, .converted (.text "b")]
  have hview : Probe.template.item.blueprint.toOption.map (fun b => (b.setterNames,
      decide (b.Accepts .equal (some (b.argsBySide .inherent)) (calls.map (·.1))),
      decide (b.Accepts .equal (some (b.argsBySide .inherent)) (calls.map (·.1) ++ ["build"])),
      decide (b.entered m calls = came),
      decide (b.startEvents m ++ calls.flatMap (b.callEvents m) = history),
      decide (calls.filterMap (b.replaced? m) = [.absent]))) =
      some (["req", "def", "zero", "opt", "nn"], true, true, true, true, true) := by
    decide +kernel
  obtain ⟨b, h, hview⟩ := Item.exists_blueprint hview
  simp only [Prod.mk.injEq, decide_eq_true_eq] at hview
  obtain ⟨hnames, hacc, hbuild, hentered, hevents, hreplaced⟩ := hview
  have hn : b.setterNames.Nodup := by
    rw [hnames]
    decide
  have hsetters : ∀ c ∈ calls, c.1 ∈ b.setterNames := by
    rw [hnames]
    decide
  obtain ⟨-, new, s, hstart, hall, hbalance, -, -, hhistory, hdropped, haway, hlast⟩ :=
    values_accounted h hn (Probe.template.givesValues b) .inherent calls hsetters hacc
  obtain ⟨last, hcall, -, hmoved, hsame, -⟩ := hlast hbuild
  rw [hentered] at hbalance
  exact ⟨b, new, s, last, h, hn, Probe.template.givesValues b, hsetters, hacc, hstart, hall,
    hbalance, hhistory.trans hevents, hdropped.trans hreplaced, haway, hcall, hmoved, hsame⟩

end Blueprint

end StagedBuilder
