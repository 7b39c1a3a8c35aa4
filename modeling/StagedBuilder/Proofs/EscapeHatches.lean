import StagedBuilder.Proofs.BuiltValues
import StagedBuilder.Proofs.Uncaptured

/-!
# The ways out that check nothing

A pointer method gives access to a slot that the builder's type knows nothing of, so once
values are written through pointers the type and the storage tell different stories: a field
may be unset and full, or set and overwritten. What is in a slot is then told by the calls
alone. It is the value that was stored last (`lastStored`), whoever stored it, and each touch
of a field changes that slot and no other (`touch_eq`). A setter still finds a value where it
drops one, since the slot of an optional field is never empty. That its first value is there is
assumed (`GivesValues`).

All three ways out take the storage as it is. So where every field holds a value they agree
(`escapes_agree`).
-/

namespace StagedBuilder

variable {V : Type}

/-- What is done to one field of a builder. -/
inductive Touch (V : Type) where
  /-- Its setter is called. -/
  | set (f : BuilderField) (v : V)
  /-- A value is written through its pointer. -/
  | write (f : BuilderField) (v : V)

namespace Touch

def field : Touch V → BuilderField
  | set f _ | write f _ => f

def isWrite : Touch V → Bool
  | set _ _ => false
  | write _ _ => true

/-- The method that is called for it. -/
def method : Touch V → String
  | set f _ => f.name.text
  | write f _ => pointerName f.name.name

/-- The value that is stored. What is written through a pointer is neither converted nor
wrapped. -/
def stored (m : Meaning V) : Touch V → V
  | set f v => f.given m v
  | write _ v => v

/-- Writing the same value through the field's pointer. -/
def raw (m : Meaning V) (t : Touch V) : Touch V := .write t.field (t.stored m)

end Touch

namespace Blueprint

variable {b : Blueprint} {m : Meaning V}

def touch (b : Blueprint) (m : Meaning V) (s : Session V) : Touch V → Except Refusal (Session V)
  | .set f v => b.call m s f.name.text (some v)
  | .write f v => b.writeThrough m s f.name.name v

def touchAll (b : Blueprint) (m : Meaning V) (s : Session V) (touches : List (Touch V)) :
    Except Refusal (Session V) :=
  touches.foldlM (b.touch m) s

/-- What is in hand after a new builder was touched so and was left by a method. -/
def left? (b : Blueprint) (m : Meaning V) (route : Route) (touches : List (Touch V))
    (way : String) : Except Refusal (Holding V) := do
  let new ← b.startBy m route
  let s ← b.touchAll m new touches
  let last ← b.call m s way none
  return last.holding

/-- The value that was stored last in a field: at the start, by its setter or through its
pointer. -/
def lastStored (m : Meaning V) (touches : List (Touch V)) (f : BuilderField) : Option V :=
  touches.foldl (fun held t => if t.field.name = f.name then some (t.stored m) else held)
    (f.untouched? m)

/-- The fields with what was stored last in them. -/
def finished (b : Blueprint) (m : Meaning V) (touches : List (Touch V)) : List (Ident × V) :=
  b.fields.map fun f => (f.name, (lastStored m touches f).getD m.absent)

/-! ## What was stored last -/

theorem lastStored_concat (touches : List (Touch V)) (t : Touch V) (f : BuilderField) :
    lastStored m (touches ++ [t]) f =
      if t.field.name = f.name then some (t.stored m) else lastStored m touches f := by
  rw [lastStored, List.foldl_append]
  rfl

/-- A field that has a value from the start always has one. -/
theorem lastStored_isSome {f : BuilderField} (hm : f.GivesValue m) (hopt : f.isOptional)
    (touches : List (Touch V)) : (lastStored m touches f).isSome := by
  induction touches using List.reverseRecOn with
  | nil => exact (FieldSpec.untouched?_isSome hm).trans hopt
  | append_singleton touches t ih =>
      rw [lastStored_concat]
      split
      · rfl
      · exact ih

theorem slots_concat (hn : b.setterNames.Nodup) {t : Touch V} (ht : t.field ∈ b.fields)
    (touches : List (Touch V)) :
    b.slots (lastStored m (touches ++ [t])) =
      b.slots (withValue t.field (some (t.stored m)) (lastStored m touches)) := by
  refine slots_congr fun f hf => ?_
  rw [lastStored_concat, withValue]
  by_cases he : f.name.text = t.field.name.text
  · rw [if_pos he, if_pos ((name_eq_iff hn hf ht).mpr he).symm]
  · rw [if_neg he, if_neg fun h => he (congrArg Ident.text h.symm)]

theorem lastStored_raw (touches : List (Touch V)) (f : BuilderField) :
    lastStored m (touches.map (Touch.raw m)) f = lastStored m touches f := by
  rw [lastStored, List.foldl_map]
  rfl

/-- Where each field is touched once it does not matter which one is first. -/
theorem lastStored_perm {touches touches' : List (Touch V)}
    (hl : (touches.map (·.field.name)).Nodup) (hp : touches.Perm touches') (f : BuilderField) :
    lastStored m touches f = lastStored m touches' f := by
  refine hp.foldl_eq' (fun t ht u hu held => ?_) _
  by_cases htf : t.field.name = f.name
  · by_cases huf : u.field.name = f.name
    · rw [List.inj_on_of_nodup_map hl ht hu (htf.trans huf.symm)]
    · rw [if_pos htf, if_neg huf, if_neg huf, if_pos htf]
  · rw [if_neg htf]
    split <;> rfl

/-- A field that is touched once holds what was stored then. -/
theorem lastStored_of_once {touches : List (Touch V)} (honce : (touches.map (·.field.name)).Nodup)
    {t : Touch V} (ht : t ∈ touches) : lastStored m touches t.field = some (t.stored m) := by
  obtain ⟨before, after, rfl⟩ := List.append_of_mem ht
  have hlast : (before ++ t :: after).Perm (before ++ after ++ [t]) :=
    List.perm_middle.trans (List.perm_append_singleton t _).symm
  rw [lastStored_perm honce hlast, lastStored_concat, if_pos rfl]

/-! ## Touching fields -/

section Touching

variable (ha : Accepted b.fields) {σ : BuilderField → String} {c : BuilderField → Option V}
  {f : BuilderField} (hf : f ∈ b.fields) {s : Step}

include ha hf

theorem set_eq (hn : b.setterNames.Nodup) (hc : f.isOptional → (c f).isSome)
    (h : b.step? .equal (b.argsBy σ) f.name.text = some s) (v : V) (before : List (Event V)) :
    ∃ τ, s.next = some (b.argsBy τ) ∧
      b.call m ⟨.builder (b.argsBy σ) (b.slots c), before⟩ f.name.text (some v) =
        .ok ⟨.builder (b.argsBy τ) (b.slots (withValue f (some (f.given m v)) c)),
          before ++ (f.conversion m v ++
            if f.isOptional then (c f).toList.map .dropped else [])⟩ := by
  obtain ⟨i, hi⟩ := List.mem_iff_getElem?.mp hf
  obtain ⟨bs, hbs, rfl⟩ := setter_of_step? ha hn hi h
  have hnext := setter_after hn hi hbs
  refine ⟨_, hnext, ?_⟩
  rw [call_of_step? h, hnext, setter_run_over hn hf hc]
  rfl

theorem write_eq (hn : b.setterNames.Nodup) (hp : (b.fields.map (·.name.name)).Nodup)
    (h : b.step? .equal (b.argsBy σ) (pointerName f.name.name) = some s) (v : V)
    (before : List (Event V)) :
    s.next = some (b.argsBy σ) ∧
      b.writeThrough m ⟨.builder (b.argsBy σ) (b.slots c), before⟩ f.name.name v =
        .ok ⟨.builder (b.argsBy σ) (b.slots (withValue f (some v) c)), before⟩ := by
  obtain rfl := pointer_of_step? ha hp hf h
  have hpointee : b.pointee? (⟨.builder (b.argsBy σ) (b.slots c), before⟩ : Session V)
      (pointerName f.name.name) = some f.name := by
    rw [pointee?]
    simp only [h]
    rfl
  have hcall : b.call m ⟨.builder (b.argsBy σ) (b.slots c), before⟩ (pointerName f.name.name) none =
      .ok ⟨.builder (b.argsBy σ) (b.slots c), before⟩ := by
    rw [call_of_step? h]
    show Except.ok (Session.mk _ (before ++ [])) = _
    rw [List.append_nil]
    rfl
  refine ⟨rfl, ?_⟩
  rw [writeThrough, hpointee, ← slots_put hn hf]
  simp only [hcall]
  rfl

end Touching

/-- A touch that is accepted changes the slot of its field and no other. -/
theorem touch_eq (ha : Accepted b.fields) (hn : b.setterNames.Nodup)
    (hp : (b.fields.map (·.name.name)).Nodup) {σ : BuilderField → String} {t : Touch V}
    (ht : t.field ∈ b.fields) {c : BuilderField → Option V}
    (hc : ∀ f ∈ b.fields, f.isOptional → (c f).isSome) {s : Step}
    (h : b.step? .equal (b.argsBy σ) t.method = some s) (before : List (Event V)) :
    ∃ τ events, s.next = some (b.argsBy τ) ∧
      b.touch m ⟨.builder (b.argsBy σ) (b.slots c), before⟩ t =
        .ok ⟨.builder (b.argsBy τ) (b.slots (withValue t.field (some (t.stored m)) c)),
          events⟩ := by
  cases t with
  | set f v =>
      obtain ⟨τ, hnext, hcall⟩ := set_eq ha ht hn (hc f ht) h v before
      exact ⟨τ, _, hnext, hcall⟩
  | write f v => exact ⟨σ, before, write_eq ha ht hn hp h v before⟩

/-- Touches that are accepted one after the other leave each field with what was stored last in
it. Whatever else is accepted after them is accepted by the builder that they leave. -/
theorem touchAll_eq (ha : Accepted b.fields) (hn : b.setterNames.Nodup)
    (hp : (b.fields.map (·.name.name)).Nodup) (hm : b.GivesValues m)
    (done : List (Touch V)) {touches : List (Touch V)}
    (hfields : ∀ t ∈ touches, t.field ∈ b.fields) {σ : BuilderField → String}
    (hacc : b.Accepts .equal (some (b.argsBy σ)) (touches.map Touch.method))
    (before : List (Event V)) :
    ∃ τ events,
      b.touchAll m ⟨.builder (b.argsBy σ) (b.slots (lastStored m done)), before⟩ touches =
        .ok ⟨.builder (b.argsBy τ) (b.slots (lastStored m (done ++ touches))), events⟩ ∧
      ∀ rest, b.Accepts .equal (some (b.argsBy σ)) (touches.map Touch.method ++ rest) ↔
        b.Accepts .equal (some (b.argsBy τ)) rest := by
  -- By induction on the touches, for all that may have been touched before.
  induction touches generalizing done σ before with
  | nil =>
      rw [List.append_nil]
      exact ⟨σ, before, rfl, fun _ => Iff.rfl⟩
  | cons t touches ih =>
      obtain ⟨ht, hfields⟩ := List.forall_mem_cons.mp hfields
      obtain ⟨s, hs, hacc⟩ := accepts_cons.mp hacc
      have hoptional : ∀ f ∈ b.fields, f.isOptional → (lastStored m done f).isSome :=
        fun f hf hopt => lastStored_isSome (hm f hf) hopt done
      obtain ⟨τ, events, hnext, htouch⟩ := touch_eq (m := m) ha hn hp ht hoptional hs before
      rw [hnext] at hacc
      rw [← slots_concat hn ht] at htouch
      obtain ⟨τ', events', hall, hrest⟩ := ih (done ++ [t]) hfields hacc events
      rw [List.append_assoc] at hall
      refine ⟨τ', events', ?_, fun rest => ?_⟩
      · show (b.touch m _ t).bind (fun s => b.touchAll m s touches) = _
        rw [htouch]
        exact hall
      · rw [← hrest rest, ← hnext]
        exact accepts_cons_of_step? hs

/-- No setter is accepted twice. -/
theorem sets_once (ha : Accepted b.fields) (hn : b.setterNames.Nodup) {touches : List (Touch V)}
    (hm : b.GivesValues m) (hfields : ∀ t ∈ touches, t.field ∈ b.fields)
    (hsets : ∀ t ∈ touches, ¬ t.isWrite)
    (hacc : b.Accepts .equal (some b.startArgs) (touches.map Touch.method)) :
    (touches.map (·.field.name)).Nodup := by
  let calls := touches.map fun t => (t.field.name.text, t.stored m)
  have hnames : calls.map (·.1) = touches.map Touch.method := by
    rw [List.map_map]
    refine List.map_congr_left fun t ht => ?_
    cases t with
    | set f v => rfl
    | write f v => exact absurd rfl (hsets _ ht)
  have hsetters : ∀ c ∈ calls, c.1 ∈ b.setterNames :=
    List.forall_mem_map.mpr fun t ht => List.mem_map_of_mem (hfields t ht)
  have hnew : b.InUse m [] b.startArgs (b.slots fun f => f.untouched? m) := inUse_start hm
  rw [← List.append_nil (touches.map Touch.method), ← hnames] at hacc
  obtain ⟨_, _, -, hin, -⟩ := hnew.callAll_run ha hn hsetters hacc []
  have honce := hin.once
  rw [List.append_nil, List.map_reverse, List.nodup_reverse, List.map_map] at honce
  refine List.Nodup.of_map Ident.text ?_
  rw [List.map_map]
  exact honce

/-! ## The ways out -/

theorem finished_slots {touches : List (Touch V)}
    (hfull : ∀ f ∈ b.fields, (lastStored m touches f).isSome) :
    b.slots (lastStored m touches) = (b.finished m touches).map fun p => (p.1, some p.2) := by
  rw [finished, List.map_map, slots]
  refine List.map_congr_left fun f hf => ?_
  obtain ⟨v, hv⟩ := Option.isSome_iff_exists.mp (hfull f hf)
  rw [Function.comp_apply, hv, Option.getD_some]

theorem finished_values? {touches : List (Touch V)}
    (hfull : ∀ f ∈ b.fields, (lastStored m touches f).isSome) :
    (b.slots (lastStored m touches)).values? = some (b.finished m touches) := by
  refine slots_values? fun f hf => ?_
  obtain ⟨v, hv⟩ := Option.isSome_iff_exists.mp (hfull f hf)
  rw [hv, Option.getD_some]

theorem finished_lookup (hn : b.setterNames.Nodup) {touches : List (Touch V)} {f : BuilderField}
    (hf : f ∈ b.fields) (hsome : (lastStored m touches f).isSome) :
    (b.finished m touches).lookup f.name = lastStored m touches f := by
  obtain ⟨v, hv⟩ := Option.isSome_iff_exists.mp hsome
  rw [finished, lookup_map_key _ (names_nodup hn) hf, hv, Option.getD_some]

section Leaving

variable (ha : Accepted b.fields) (hn : b.setterNames.Nodup)
  (hp : (b.fields.map (·.name.name)).Nodup) (hm : b.GivesValues m) (route : Route)
  {touches : List (Touch V)}
  (hfields : ∀ t ∈ touches, t.field ∈ b.fields)
  (hfull : ∀ f ∈ b.fields, (lastStored m touches f).isSome)

include ha hn hp hm hfields

theorem left?_eq {way : String}
    (hacc : b.Accepts .equal (some b.startArgs) (touches.map Touch.method ++ [way])) :
    ∃ τ s events, b.step? .equal (b.argsBy τ) way = some s ∧
      b.left? m route touches way =
        (b.call m ⟨.builder (b.argsBy τ) (b.slots (lastStored m touches)), events⟩ way none).map
          Session.holding := by
  obtain ⟨τ, events, hall, hrest⟩ := touchAll_eq ha hn hp hm [] hfields
    (accepts_of_append hacc) (b.startEvents m)
  obtain ⟨s, hs, -⟩ := accepts_cons.mp ((hrest [way]).mp hacc)
  refine ⟨τ, s, events, hs, ?_⟩
  have hstart : b.startBy m route =
      .ok ⟨.builder (b.argsBy (·.markers.unset)) (b.slots (lastStored m [])), b.startEvents m⟩ :=
    (startBy_eq route).trans (start_run hn hm)
  rw [left?, hstart]
  show (b.touchAll m _ touches).bind _ = _
  rw [hall]
  show (b.call m _ way none).bind _ = _
  rw [List.nil_append]
  cases b.call m _ way none <;> rfl

include hfull

/-- What is checked and what is not: both take the storage for a finished struct. -/
theorem left?_struct {way : String} (hway : way = "unsafe_build" ∨ way = "build")
    (hacc : b.Accepts .equal (some b.startArgs) (touches.map Touch.method ++ [way])) :
    b.left? m route touches way = .ok (.struct (b.finished m touches)) := by
  obtain ⟨τ, s, events, hs, hleft⟩ := left?_eq ha hn hp hm route hfields hacc
  have hrun : s.next = none ∧ s.method.run m (b.slots (lastStored m touches)) none =
      .ok (.struct (b.finished m touches), []) := by
    have hfinish : (b.slots (lastStored m touches)).finish =
        .ok (.struct (b.finished m touches), []) := by
      rw [Storage.finish, finished_values? hfull]
    rcases hway with rfl | rfl
    · rcases reserved_of_step? ha (by decide) hs with ⟨he, -⟩ | ⟨he, -⟩ | ⟨-, rfl⟩
      · exact absurd he (by decide)
      · exact absurd he (by decide)
      · exact ⟨rfl, hfinish⟩
    · obtain ⟨-, -, rfl⟩ := build_of_step? ha hs
      exact ⟨rfl, hfinish⟩
  rw [hleft, call_of_step? hs, hrun.1, hrun.2]
  rfl

theorem left?_storage
    (hacc : b.Accepts .equal (some b.startArgs) (touches.map Touch.method ++ ["maybe_uninit"])) :
    b.left? m route touches "maybe_uninit" =
      .ok (.storage ((b.finished m touches).map fun p => (p.1, some p.2))) := by
  obtain ⟨τ, s, events, hs, hleft⟩ := left?_eq ha hn hp hm route hfields hacc
  obtain rfl : s = ⟨releaseMethod, none⟩ := by
    rcases reserved_of_step? ha (by decide) hs with ⟨he, -⟩ | ⟨-, hs⟩ | ⟨he, -⟩
    · exact absurd he (by decide)
    · exact hs
    · exact absurd he (by decide)
  rw [hleft, call_of_step? hs, ← finished_slots hfull]
  rfl

end Leaving

/-! ## What is always there -/

theorem escape_accepts (ha : Accepted b.fields) (hn : b.setterNames.Nodup)
    (hb : b.escapeImpl.head.binds.Nodup) {σ : BuilderField → String} {writes : List (Touch V)}
    (hwrites : ∀ t ∈ writes, t.field ∈ b.fields ∧ t.isWrite) {way : String}
    (hway : way = "unsafe_build" ∨ way = "maybe_uninit") :
    b.Accepts .equal (some (b.argsBy σ)) (writes.map Touch.method ++ [way]) := by
  rw [show b.escapeImpl.head.binds = b.paramNames ++ b.states from headWith_binds _,
    List.nodup_append'] at hb
  obtain ⟨bs, hbs⟩ := escape_matches .equal hb.2.1 (fun _ hn => hb.2.2 hn) σ
  induction writes with
  | nil =>
      have htaken : ∃ s, b.step? .equal (b.argsBy σ) way = some s := by
        rcases hway with rfl | rfl
        · obtain ⟨method, hs⟩ := step?_of_taken ha hn (.unsafeBuild hbs)
          exact ⟨_, hs⟩
        · obtain ⟨method, hs⟩ := step?_of_taken ha hn (.release hbs)
          exact ⟨_, hs⟩
      obtain ⟨s, hs⟩ := htaken
      exact accepts_cons.mpr ⟨s, hs, accepts_nil⟩
  | cons t writes ih =>
      obtain ⟨⟨ht, hwrite⟩, hrest⟩ := List.forall_mem_cons.mp hwrites
      cases t with
      | set f v => cases hwrite
      | write f v =>
          obtain ⟨method, hs⟩ := step?_of_taken ha hn (.pointer ht hbs)
          exact accepts_cons.mpr ⟨_, hs, ih hrest⟩

/-- Where defaults give values, whatever setters and raw writes fill a builder, its ways out
agree: the struct, or the storage that holds it, has in each field what was stored there last.
The two that check nothing are always open, unless the struct has a parameter of the name of a
state, which no header can bind beside it. So the values that setters store can as well be
written through pointers, in any order. -/
theorem escapes_agree {item : Item} (h : item.blueprint = .ok b) (hn : b.setterNames.Nodup)
    (hp : (b.fields.map (·.name.name)).Nodup) {m : Meaning V} (hm : b.GivesValues m)
    (route : Route) (touches : List (Touch V)) (hfields : ∀ t ∈ touches, t.field ∈ b.fields)
    (hacc : b.Accepts .equal (some (b.argsBySide route)) (touches.map Touch.method))
    (hfull : ∀ f ∈ b.fields, (lastStored m touches f).isSome) :
    ∃ vs, vs.map (·.1) = b.fields.map (·.name) ∧
      (∀ f ∈ b.fields, vs.lookup f.name = lastStored m touches f) ∧
      (∀ way, way = "unsafe_build" ∨ way = "build" →
        b.Accepts .equal (some (b.argsBySide route)) (touches.map Touch.method ++ [way]) →
        b.left? m route touches way = .ok (.struct vs)) ∧
      (b.Accepts .equal (some (b.argsBySide route)) (touches.map Touch.method ++ ["maybe_uninit"]) →
        b.left? m route touches "maybe_uninit" =
          .ok (.storage (vs.map fun p => (p.1, some p.2)))) ∧
      (b.escapeImpl.head.binds.Nodup → ∀ way, way = "unsafe_build" ∨ way = "maybe_uninit" →
        b.Accepts .equal (some (b.argsBySide route)) (touches.map Touch.method ++ [way])) ∧
      ((∀ t ∈ touches, ¬ t.isWrite) → ∀ other writes, writes.Perm (touches.map (Touch.raw m)) →
        (b.escapeImpl.head.binds.Nodup →
          b.Accepts .equal (some (b.argsBySide other))
            (writes.map Touch.method ++ ["unsafe_build"])) ∧
        (b.Accepts .equal (some (b.argsBySide other))
            (writes.map Touch.method ++ ["unsafe_build"]) →
          b.left? m other writes "unsafe_build" = .ok (.struct vs))) := by
  have ha := Item.blueprint_accepted h
  simp only [argsBySide_eq] at hacc ⊢
  refine ⟨b.finished m touches, ?_, fun f hf => finished_lookup hn hf (hfull f hf),
    fun way hway hacc => left?_struct ha hn hp hm route hfields hfull hway hacc,
    fun hacc => left?_storage ha hn hp hm route hfields hfull hacc, fun hb way hway => ?_,
    fun hsets other writes hperm => ?_⟩
  · rw [finished, List.map_map]
    rfl
  · obtain ⟨τ, _, -, hrest⟩ := touchAll_eq ha hn hp hm [] hfields hacc []
    have hnone : ∀ t ∈ ([] : List (Touch V)), t.field ∈ b.fields ∧ t.isWrite := by simp
    exact (hrest [way]).mpr (escape_accepts ha hn hb hnone hway)
  -- Each field was touched once, so the writes store the same in it, whatever their order.
  · have hwrites : ∀ t ∈ writes, t.field ∈ b.fields ∧ t.isWrite := by
      intro t ht
      obtain ⟨u, hu, rfl⟩ := List.mem_map.mp (hperm.mem_iff.mp ht)
      exact ⟨hfields u hu, rfl⟩
    have honce : ((touches.map (Touch.raw m)).map (·.field.name)).Nodup := by
      rw [List.map_map]
      exact sets_once ha hn hm hfields hsets hacc
    have hsame : ∀ f, lastStored m writes f = lastStored m touches f := fun f =>
      (lastStored_perm honce hperm.symm f).symm.trans (lastStored_raw touches f)
    have hfinished : b.finished m writes = b.finished m touches := by
      rw [finished, funext hsame, finished]
    refine ⟨fun hb => escape_accepts ha hn hb hwrites (Or.inl rfl), fun hacc => ?_⟩
    rw [← hfinished]
    exact left?_struct ha hn hp hm other (fun t ht => (hwrites t ht).1)
      (fun f hf => hsame f ▸ hfull f hf) (Or.inl rfl) hacc

/-- Touches of fields by the names of their setters, raw writes where it says so. -/
def touchesOf (b : Blueprint) (plan : List (Bool × String × V)) : List (Touch V) :=
  plan.filterMap fun (isRaw, name, v) =>
    (b.field? name).map fun f => if isRaw then .write f v else .set f v

theorem touchesOf_fields (plan : List (Bool × String × V)) :
    ∀ t ∈ b.touchesOf plan, t.field ∈ b.fields := by
  intro t ht
  obtain ⟨⟨isRaw, name, v⟩, -, he⟩ := List.mem_filterMap.mp ht
  obtain ⟨f, hf, rfl⟩ := Option.map_eq_some_iff.mp he
  have hmem : f ∈ b.fields := List.mem_of_find?_eq_some hf
  cases isRaw <;> exact hmem

/-- Fields of every kind are set and written, some of them both ways. At the end `req` and `nn`
have what their setters stored, and `opt` what was written over it. Then three setters, and the
same values through pointers. -/
theorem escapes_agree_probe :
    let m := Probe.template.meaning
    let mixed := [(true, "req", Value.text "w"), (false, "opt", .text "a"),
      (true, "nn", .present (.text "n")), (false, "req", .text "c"), (false, "nn", .text "b"),
      (true, "opt", .absent)]
    let sets := [(false, "opt", Value.text "a"), (false, "nn", .text "b"),
      (false, "req", .text "c")]
    let last := [some (Value.text "c"), some (.text "init"), some (.text "default"), some .absent,
      some (.present (.text "b"))]
    ∃ b, Probe.template.item.blueprint = .ok b ∧
      (∃ vs, (b.fields.map fun f => vs.lookup f.name) = last ∧
        b.left? m .inherent (b.touchesOf mixed) "unsafe_build" = .ok (.struct vs) ∧
        b.left? m .inherent (b.touchesOf mixed) "build" = .ok (.struct vs) ∧
        b.left? m .inherent (b.touchesOf mixed) "maybe_uninit" =
          .ok (.storage (vs.map fun p => (p.1, some p.2)))) ∧
      ∃ vs, b.left? m .inherent (b.touchesOf sets) "build" = .ok (.struct vs) ∧
        b.left? m .trait ((b.touchesOf sets).map (Touch.raw m)).reverse "unsafe_build" =
          .ok (.struct vs) := by
  intro m mixed sets last
  let filled (b : Blueprint) (plan : List (Bool × String × Value)) : Bool :=
    decide (∀ f ∈ b.fields, (lastStored m (b.touchesOf plan) f).isSome)
  let accepted (b : Blueprint) (plan : List (Bool × String × Value)) : Bool :=
    decide (b.Accepts .equal (some (b.argsBySide .inherent))
      ((b.touchesOf plan).map Touch.method ++ ["build"]))
  have hview : Probe.template.item.blueprint.toOption.map (fun b =>
      (b.setterNames, b.fields.map (·.name.name),
        decide b.escapeImpl.head.binds.Nodup && (b.touchesOf sets).all fun t => !t.isWrite,
        filled b mixed && filled b sets, accepted b mixed && accepted b sets,
        decide (b.fields.map (lastStored m (b.touchesOf mixed)) = last))) =
      some (["req", "def", "zero", "opt", "nn"], ["req", "def", "zero", "opt", "nn"], true, true,
        true, true) := by decide +kernel
  obtain ⟨b, h, hview⟩ := Item.exists_blueprint hview
  simp only [Prod.mk.injEq, Bool.and_eq_true, decide_eq_true_eq, filled, accepted, List.all_eq_true,
    Bool.not_eq_true', ← Bool.not_eq_true] at hview
  obtain ⟨hnames, hbare, ⟨hbinds, hsets⟩, ⟨hmixed, hset⟩, ⟨hbuild, hbuild'⟩, hlast⟩ := hview
  have hn : b.setterNames.Nodup := by
    rw [hnames]
    decide
  have hp : (b.fields.map (·.name.name)).Nodup := by
    rw [hbare]
    decide
  have hm : b.GivesValues m := Probe.template.givesValues b
  obtain ⟨vs, -, hvalues, hstruct, hstorage, hways, -⟩ := escapes_agree h hn hp hm .inherent
    (b.touchesOf mixed) (touchesOf_fields mixed) (accepts_of_append hbuild) hmixed
  obtain ⟨us, -, -, hstruct', -, -, hraw⟩ := escapes_agree h hn hp hm .inherent
    (b.touchesOf sets) (touchesOf_fields sets) (accepts_of_append hbuild') hset
  obtain ⟨hopen, hwritten⟩ := hraw hsets .trait _ (List.reverse_perm _)
  refine ⟨b, h, ⟨vs, ?_, hstruct _ (Or.inl rfl) (hways hbinds _ (Or.inl rfl)),
    hstruct _ (Or.inr rfl) hbuild, hstorage (hways hbinds _ (Or.inr rfl))⟩,
    us, hstruct' _ (Or.inr rfl) hbuild', hwritten (hopen hbinds)⟩
  exact (List.map_congr_left hvalues).trans hlast

end Blueprint

end StagedBuilder
