import StagedBuilder.Proofs.BuiltValues
import StagedBuilder.Proofs.EscapeHatches
import StagedBuilder.Proofs.ProgressRefinement
import StagedBuilder.Record.Template

/-!
# Making records

A record is made by a run of its struct's builder, and there are several such runs for one
record: the builder is started from either side, the fields come in any order, and they are set
or written through pointers. Where no name is captured none of these runs is refused as long as
each field that needs a value is given one, and each field once. So a record is made in all of
these ways, and its fields are told by what they were given alone (`Template.build?_eq`,
`Template.buildThroughPointers?_eq`).
-/

namespace StagedBuilder

namespace Blueprint

variable {V : Type} {b : Blueprint} {m : Meaning V}

/-! ## Runs that are never refused -/

/-- Whether entries give values to fields of the struct, to each field once and to every field
that needs one. -/
structure Supplied (b : Blueprint) (entries : List (String × V)) : Prop where
  distinct : b.setterNames.Nodup
  once : (entries.map (·.1)).Nodup
  known : entries.map (·.1) ⊆ b.setterNames
  complete : ∀ f ∈ b.fields, f.isRequired → f.name.text ∈ entries.map (·.1)

theorem Supplied.perm {entries entries' : List (String × V)} (hs : b.Supplied entries)
    (hp : entries.Perm entries') : b.Supplied entries' := by
  have hkeys : (entries.map (·.1)).Perm (entries'.map (·.1)) := hp.map _
  exact ⟨hs.distinct, hkeys.nodup_iff.mp hs.once, fun _ hn => hs.known (hkeys.mem_iff.mpr hn),
    fun f hf hreq => hkeys.mem_iff.mp (hs.complete f hf hreq)⟩

/-- Once all fields that need a value are set, in any order, `build` can be called. -/
theorem Supplied.accepts_build {entries : List (String × V)} (hs : b.Supplied entries)
    (ha : Accepted b.fields) (hu : b.Uncaptured) :
    b.Accepts .equal (some b.startArgs) (entries.map (·.1) ++ ["build"]) := by
  let done := (entries.map (·.1)).toFinset ∪ Progress.initial.done
  have hfresh : ∀ name ∈ entries.map (·.1), name ∉ Progress.initial.done :=
    fun name _ => Finset.notMem_empty name
  obtain ⟨hacc, hlast⟩ := setters_accepted .equal ha hs.distinct hu hs.once hs.known hfresh
  have hready : ∀ f ∈ b.fields, f.isRequired → f.name.text ∈ done :=
    fun f hf hreq => Finset.mem_union_left _ (List.mem_toFinset.mpr (hs.complete f hf hreq))
  have hstep := step?_eq .equal ha hs.distinct hu ⟨done, false⟩ "build"
  rw [Progress.step?_build ha, if_pos hready, Option.map_some, Option.map_eq_some_iff] at hstep
  obtain ⟨s, htaken, -⟩ := hstep
  rw [← argsAt_initial]
  refine accepts_append.mpr ⟨hacc, accepts_cons.mpr ⟨s, ?_, accepts_nil⟩⟩
  exact (congrArg (Option.bind · _) hlast).trans htaken

/-! ## Writes through pointers -/

/-- The writes that give these fields these values. -/
def writes (b : Blueprint) (entries : List (String × V)) : List (Touch V) :=
  entries.filterMap fun (name, v) => (b.field? name).map (Touch.write · v)

theorem field?_write (hn : b.setterNames.Nodup) {f : BuilderField} (hf : f ∈ b.fields) (v : V) :
    (b.field? f.name.text).map (Touch.write · v) = some (.write f v) := by
  rw [field?_eq hn hf, Option.map_some]

theorem writes_cons (hn : b.setterNames.Nodup) {f : BuilderField} (hf : f ∈ b.fields) (v : V)
    (entries : List (String × V)) :
    b.writes ((f.name.text, v) :: entries) = .write f v :: b.writes entries :=
  List.filterMap_cons_some (field?_write hn hf v)

theorem writes_isWrite {entries : List (String × V)} :
    ∀ t ∈ b.writes entries, t.field ∈ b.fields ∧ t.isWrite := by
  intro t ht
  obtain ⟨⟨name, v⟩, -, he⟩ := List.mem_filterMap.mp ht
  obtain ⟨f, hf, rfl⟩ := Option.map_eq_some_iff.mp he
  exact ⟨List.mem_of_find?_eq_some hf, rfl⟩

theorem mem_writes (hn : b.setterNames.Nodup) {f : BuilderField} (hf : f ∈ b.fields) {v : V}
    {entries : List (String × V)} (h : (f.name.text, v) ∈ entries) :
    .write f v ∈ b.writes entries :=
  List.mem_filterMap.mpr ⟨_, h, field?_write hn hf v⟩

theorem writes_names (hn : b.setterNames.Nodup) {entries : List (String × V)}
    (hnames : entries.map (·.1) ⊆ b.setterNames) :
    (b.writes entries).map (·.field.name.text) = entries.map (·.1) := by
  induction entries with
  | nil => rfl
  | cons entry entries ih =>
      obtain ⟨name, v⟩ := entry
      obtain ⟨f, hf, rfl⟩ := List.mem_map.mp (hnames List.mem_cons_self)
      rw [writes_cons hn hf, List.map_cons, ih (List.subset_of_cons_subset hnames)]
      rfl

/-- What a field is given by a write is what it holds. -/
theorem Supplied.lastStored {entries : List (String × V)} (hs : b.Supplied entries)
    {f : BuilderField} (hf : f ∈ b.fields) {v : V} (h : (f.name.text, v) ∈ entries) :
    lastStored m (b.writes entries) f = some v := by
  have htouched : ((b.writes entries).map (·.field.name)).Nodup := by
    refine List.Nodup.of_map Ident.text ?_
    rw [List.map_map]
    exact (writes_names hs.distinct hs.known).symm ▸ hs.once
  exact lastStored_of_once htouched (mem_writes hs.distinct hf h)

theorem Supplied.lastStored_isSome {entries : List (String × V)} (hs : b.Supplied entries)
    (hm : b.GivesValues m) {f : BuilderField} (hf : f ∈ b.fields) :
    (Blueprint.lastStored m (b.writes entries) f).isSome := by
  by_cases hreq : f.isRequired
  · obtain ⟨⟨name, v⟩, hmem, rfl⟩ := List.mem_map.mp (hs.complete f hf hreq)
    rw [hs.lastStored hf hmem]
    rfl
  · rw [FieldSpec.isRequired_iff, not_not] at hreq
    exact Blueprint.lastStored_isSome (hm f hf) hreq _

end Blueprint

namespace Template

variable {t : Template} {b : Blueprint}

theorem start_eq (route : Route) : t.start b route = b.startBy t.meaning route := by
  cases route <;> rfl

/-- A setter that wraps nothing stores what it is called with, as texts convert into
themselves. -/
theorem given_eq (t : Template) {f : FieldSpec} (h : ¬ f.kind.wraps) (v : Value) :
    f.given t.meaning v = v := by
  rw [FieldSpec.given]
  cases hk : f.kind with
  | required => exact ite_self v
  | notNull inner => exact absurd (hk ▸ rfl) h
  | nullable inner => exact absurd (hk ▸ rfl) h
  | defaulted value => exact ite_self v

/-- The builder's pointers are asked for by the names of the fields, as the touches do. -/
theorem foldlM_writeThrough (hn : b.setterNames.Nodup)
    (hplain : ∀ f ∈ b.fields, f.name.text = f.name.name) {all entries : List (String × Value)}
    (hnames : entries.map (·.1) ⊆ b.setterNames)
    (hvalues : ∀ p ∈ entries, all.lookup p.1 = some p.2) (s : Session Value) :
    entries.foldlM (fun s (field, v) =>
        b.writeThrough t.meaning s field ((all.lookup field).getD v)) s =
      b.touchAll t.meaning s (b.writes entries) := by
  induction entries generalizing s with
  | nil => rfl
  | cons entry entries ih =>
      obtain ⟨name, v⟩ := entry
      obtain ⟨f, hf, rfl⟩ := List.mem_map.mp (hnames List.mem_cons_self)
      obtain ⟨hv, hvalues⟩ := List.forall_mem_cons.mp hvalues
      have htouch : b.writeThrough t.meaning s f.name.text ((all.lookup f.name.text).getD v) =
          b.touch t.meaning s (.write f v) := by
        rw [hv, Option.getD_some, hplain f hf]
        rfl
      rw [Blueprint.writes_cons hn hf]
      show (b.writeThrough t.meaning s f.name.text _).bind _ = (b.touch t.meaning s _).bind _
      rw [htouch]
      exact congrArg _ (funext (ih (List.subset_of_cons_subset hnames) hvalues))

section Making

variable (h : t.item.blueprint = .ok b) {entries : List (String × Value)} (hs : b.Supplied entries)

include h hs

/-- Setters that are called once each make a record, from either side and in any order. -/
theorem build?_eq (hu : b.Uncaptured) (route : Route) :
    t.build? route entries = some (b.builtFields t.meaning entries) := by
  have ha := Item.blueprint_accepted h
  have hsetters : ∀ c ∈ entries, c.1 ∈ b.setterNames :=
    fun c hc => hs.known (List.mem_map_of_mem hc)
  have hbuilt : b.built? t.meaning route entries = .ok (some (b.builtFields t.meaning entries)) :=
    (Blueprint.built?_eq ha hs.distinct (t.givesValues b) hsetters (hs.accepts_build ha hu)).1
  obtain ⟨new, hnew, hbuilt⟩ := except_bind_eq_ok hbuilt
  obtain ⟨ready, hready, hbuilt⟩ := except_bind_eq_ok hbuilt
  obtain ⟨last, hlast, hstruct⟩ := except_bind_eq_ok hbuilt
  rw [build?, h]
  show Option.bind (Except.toOption (Except.bind (t.start b route) _)) Session.struct? = _
  rw [start_eq, hnew]
  show Option.bind (Except.toOption (Except.bind (b.callAll t.meaning new entries) _)) _ = _
  rw [hready]
  show Option.bind (b.call t.meaning ready "build" none).toOption Session.struct? = _
  rw [hlast]
  exact Except.ok.inj hstruct

/-- Writes through pointers, once for each field, make a record in any order. -/
theorem buildThroughPointers?_eq (hplain : ∀ f ∈ b.fields, f.name.text = f.name.name)
    (hb : b.escapeImpl.head.binds.Nodup) :
    t.buildThroughPointers? entries = some (b.finished t.meaning (b.writes entries)) := by
  have ha := Item.blueprint_accepted h
  have hp : (b.fields.map (·.name.name)).Nodup := by
    rw [← List.map_congr_left hplain]
    exact hs.distinct
  have hvalues : ∀ p ∈ entries, entries.lookup p.1 = some p.2 :=
    fun p hmem => lookup_of_mem hs.once hmem
  have hacc : b.Accepts .equal (some b.startArgs)
      ((b.writes entries).map Touch.method ++ ["unsafe_build"]) := by
    rw [Blueprint.startArgs_eq]
    exact Blueprint.escape_accepts ha hs.distinct hb Blueprint.writes_isWrite (Or.inl rfl)
  have hleft : b.left? t.meaning .inherent (b.writes entries) "unsafe_build" =
      .ok (.struct (b.finished t.meaning (b.writes entries))) :=
    Blueprint.left?_struct ha hs.distinct hp (t.givesValues b) .inherent
      (fun t ht => (Blueprint.writes_isWrite t ht).1)
      (fun f hf => hs.lastStored_isSome (t.givesValues b) hf) (Or.inl rfl) hacc
  obtain ⟨new, hnew, hleft⟩ := except_bind_eq_ok hleft
  obtain ⟨full, hwrites, hleft⟩ := except_bind_eq_ok hleft
  obtain ⟨last, hlast, hholding⟩ := except_bind_eq_ok hleft
  rw [buildThroughPointers?, h]
  show Option.bind (Except.toOption (Except.bind (t.start b .inherent) _)) Session.struct? = _
  rw [start_eq, hnew]
  show Option.bind (Except.toOption (Except.bind (entries.foldlM _ new) _)) _ = _
  rw [foldlM_writeThrough hs.distinct hplain hs.known hvalues, hwrites]
  show Option.bind (b.call t.meaning full "unsafe_build" none).toOption Session.struct? = _
  rw [hlast]
  show last.struct? = _
  rw [Session.struct?, Except.ok.inj hholding]

end Making

end Template

end StagedBuilder
