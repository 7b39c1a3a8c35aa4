import StagedBuilder.Proofs.AcceptedFields
import StagedBuilder.Proofs.Headers

/-!
# What a call can do

A call looks through all `impl`s for a method of its name. `Blueprint.Taken` lists what can
come of that, one case for each kind of method, together with the match that let the call
through. Every call that is let through is in the list (`taken_of_step?`), and where names are
distinct every entry of the list is a call that is let through (`step?_of_taken`): the checks
on field names are just what keeps one `impl` from answering for another.

Runs of calls follow. A call that is refused leaves no trace, so what a run achieves is told by
the list of its accepted calls.
-/

namespace StagedBuilder

theorem pointerName_injective : Function.Injective pointerName :=
  fun _ _ he => (String.append_right_inj "ptr_").mp he

namespace Blueprint

variable {b : Blueprint} {repeats : Repeats} {args : BuilderArgs}

/-- A call of this name that is let through, and what it gives. -/
inductive Taken (b : Blueprint) (repeats : Repeats) (args : BuilderArgs) : String → Step → Prop
  | setter {f : BuilderField} {i : Nat} {bs : Bindings} (hi : b.fields[i]? = some f)
      (hbs : (b.setterImpl i f).bindings? repeats args = some bs) :
      Taken b repeats args f.name.text ⟨b.setter i f, after args bs (b.setter i f).output⟩
  | build {bs : Bindings} (hbs : b.buildImpl.bindings? repeats args = some bs) :
      Taken b repeats args "build" ⟨buildMethod, none⟩
  | pointer {f : BuilderField} {bs : Bindings} (hf : f ∈ b.fields)
      (hbs : b.escapeImpl.bindings? repeats args = some bs) :
      Taken b repeats args (pointerName f.name.name) ⟨pointerMethod f, some args⟩
  | release {bs : Bindings} (hbs : b.escapeImpl.bindings? repeats args = some bs) :
      Taken b repeats args "maybe_uninit" ⟨releaseMethod, none⟩
  | unsafeBuild {bs : Bindings} (hbs : b.escapeImpl.bindings? repeats args = some bs) :
      Taken b repeats args "unsafe_build" ⟨unsafeBuildMethod, none⟩

/-! ## The methods of each `impl` -/

theorem mem_impls {j : BuilderImpl} :
    j ∈ b.impls ↔ j = b.startImpl ∨ (∃ f i, b.fields[i]? = some f ∧ j = b.setterImpl i f) ∨
      j = b.buildImpl ∨ j = b.escapeImpl := by
  have hset : j ∈ b.setterImpls ↔ ∃ f i, b.fields[i]? = some f ∧ j = b.setterImpl i f := by
    rw [setterImpls, List.mem_map]
    constructor
    · rintro ⟨⟨f, i⟩, hmem, rfl⟩
      exact ⟨f, i, List.mk_mem_zipIdx_iff_getElem?.mp hmem, rfl⟩
    · rintro ⟨f, i, hi, rfl⟩
      exact ⟨(f, i), List.mk_mem_zipIdx_iff_getElem?.mpr hi, rfl⟩
  simp only [impls, List.cons_append, List.mem_cons, List.mem_append, hset, List.not_mem_nil,
    or_false]

theorem method?_eq_some {j : BuilderImpl} {name : String} {m : Method}
    (h : j.method? name = some m) : m ∈ j.methods ∧ m.receiver ≠ .nothing ∧ m.name.text = name := by
  have hm := List.find?_some h
  rw [Bool.and_eq_true, bne_iff_ne, beq_iff_eq] at hm
  exact ⟨List.mem_of_find?_eq_some h, hm.1, hm.2⟩

theorem startImpl_method? {name : String} {m : Method} : b.startImpl.method? name ≠ some m := by
  intro h
  obtain ⟨hmem, hrec, -⟩ := method?_eq_some h
  rw [startImpl, List.mem_singleton] at hmem
  exact hrec (hmem ▸ rfl)

theorem setterImpl_method? {f : BuilderField} {i : Nat} {name : String} {m : Method}
    (h : (b.setterImpl i f).method? name = some m) : name = f.name.text ∧ m = b.setter i f := by
  obtain ⟨hmem, -, hname⟩ := method?_eq_some h
  rw [setterImpl, List.mem_singleton] at hmem
  subst hmem
  exact ⟨hname.symm, rfl⟩

theorem buildImpl_method? {name : String} {m : Method}
    (h : b.buildImpl.method? name = some m) : name = "build" ∧ m = buildMethod := by
  obtain ⟨hmem, -, hname⟩ := method?_eq_some h
  rw [buildImpl, List.mem_singleton] at hmem
  subst hmem
  exact ⟨hname.symm, rfl⟩

theorem escapeImpl_method? {name : String} {m : Method}
    (h : b.escapeImpl.method? name = some m) :
    (∃ f ∈ b.fields, name = pointerName f.name.name ∧ m = pointerMethod f) ∨
      (name = "maybe_uninit" ∧ m = releaseMethod) ∨
      (name = "unsafe_build" ∧ m = unsafeBuildMethod) := by
  obtain ⟨hmem, -, hname⟩ := method?_eq_some h
  rw [escapeImpl, List.mem_append, List.mem_map, List.mem_cons, List.mem_singleton] at hmem
  rcases hmem with ⟨f, hf, rfl⟩ | rfl | rfl
  · exact Or.inl ⟨f, hf, hname.symm, rfl⟩
  · exact Or.inr (Or.inl ⟨hname.symm, rfl⟩)
  · exact Or.inr (Or.inr ⟨hname.symm, rfl⟩)

theorem taken_of_step? {name : String} {s : Step} (h : b.step? repeats args name = some s) :
    b.Taken repeats args name s := by
  obtain ⟨j, hj, h⟩ := List.exists_of_findSome?_eq_some h
  split at h
  · next m bs hm hbs =>
      injection h with h
      subst h
      rcases mem_impls.mp hj with rfl | ⟨f, i, hi, rfl⟩ | rfl | rfl
      · exact absurd hm startImpl_method?
      · obtain ⟨rfl, rfl⟩ := setterImpl_method? hm
        exact .setter hi hbs
      · obtain ⟨rfl, rfl⟩ := buildImpl_method? hm
        exact .build hbs
      · rcases escapeImpl_method? hm with ⟨f, hf, rfl, rfl⟩ | ⟨rfl, rfl⟩ | ⟨rfl, rfl⟩
        · exact .pointer hf hbs
        · exact .release hbs
        · exact .unsafeBuild hbs
  · cases h

/-! ## Distinct names

No two `impl`s have a method of one name. Setters are told apart by the names of their fields;
that they are told from all other methods is what the checks on those names are for. -/

theorem text_ne_of_head {n : Ident} {name : String} (hname : name.toList.head? ≠ some 'r')
    (h : n.name ≠ name) : n.text ≠ name := by
  intro he
  rw [Ident.text] at he
  split at he
  · exact hname (by rw [← he]; simp)
  · exact h he

theorem setter_ne_reserved (ha : Accepted b.fields) {f : BuilderField} (hf : f ∈ b.fields)
    {name : String} (hname : name ∈ reservedNames) : f.name.text ≠ name := by
  refine text_ne_of_head ?_ fun he => ha.unreserved f hf (he ▸ hname)
  fin_cases hname <;> decide

theorem setter_ne_pointer (ha : Accepted b.fields) {f g : BuilderField} (hf : f ∈ b.fields)
    (hg : g ∈ b.fields) : f.name.text ≠ pointerName g.name.name := by
  refine text_ne_of_head ?_ (ha.unclashing f hf g hg).symm
  rw [pointerName]
  simp

theorem not_mem_setterNames_of_reserved (ha : Accepted b.fields) {name : String}
    (hname : name ∈ reservedNames) : name ∉ b.setterNames := by
  rw [setterNames, List.mem_map]
  rintro ⟨f, hf, he⟩
  exact setter_ne_reserved ha hf hname he

theorem not_mem_setterNames_of_pointer (ha : Accepted b.fields) {g : BuilderField}
    (hg : g ∈ b.fields) : pointerName g.name.name ∉ b.setterNames := by
  rw [setterNames, List.mem_map]
  rintro ⟨f, hf, he⟩
  exact setter_ne_pointer ha hf hg he

theorem reserved_ne_pointer {name : String} (hname : name ∈ reservedNames) (other : String) :
    name ≠ pointerName other := by
  intro he
  have hl := congrArg (fun s => s.toList.take 4) he
  fin_cases hname <;> simp [pointerName] at hl

theorem escapeImpl_name {name : String} {m : Method} (h : b.escapeImpl.method? name = some m) :
    (∃ f ∈ b.fields, name = pointerName f.name.name) ∨
      name ∈ reservedNames ∧ name ≠ "build" := by
  rcases escapeImpl_method? h with ⟨f, hf, rfl, -⟩ | ⟨rfl, -⟩ | ⟨rfl, -⟩
  · exact Or.inl ⟨f, hf, rfl⟩
  · exact Or.inr (by decide)
  · exact Or.inr (by decide)

theorem setter_ne_escape (ha : Accepted b.fields) {f : BuilderField} (hf : f ∈ b.fields)
    {m : Method} : b.escapeImpl.method? f.name.text ≠ some m := by
  intro h
  rcases escapeImpl_name h with ⟨g, hg, he⟩ | ⟨hres, -⟩
  · exact setter_ne_pointer ha hf hg he
  · exact setter_ne_reserved ha hf hres rfl

theorem build_ne_escape {m : Method} : b.escapeImpl.method? "build" ≠ some m := by
  intro h
  rcases escapeImpl_name h with ⟨g, -, he⟩ | ⟨-, hne⟩
  · exact reserved_ne_pointer (by decide) _ he
  · exact hne rfl

theorem impl_unique (ha : Accepted b.fields) (hn : b.setterNames.Nodup) {j k : BuilderImpl}
    (hj : j ∈ b.impls) (hk : k ∈ b.impls) {name : String} {m m' : Method}
    (hm : j.method? name = some m) (hm' : k.method? name = some m') : j = k := by
  -- Family against family: a setter's name is no other method's, and `build` is not an escape's.
  have hbuild : "build" ∈ reservedNames := by decide
  rcases mem_impls.mp hj with rfl | ⟨f, i, hi, rfl⟩ | rfl | rfl
  · exact absurd hm startImpl_method?
  · have hf := List.mem_of_getElem? hi
    obtain ⟨rfl, -⟩ := setterImpl_method? hm
    rcases mem_impls.mp hk with rfl | ⟨g, i', hi', rfl⟩ | rfl | rfl
    · exact absurd hm' startImpl_method?
    · obtain ⟨hname, -⟩ := setterImpl_method? hm'
      obtain rfl := position_unique hn hi hi' hname
      rw [hi, Option.some.injEq] at hi'
      rw [hi']
    · exact absurd (buildImpl_method? hm').1 (setter_ne_reserved ha hf hbuild)
    · exact absurd hm' (setter_ne_escape ha hf)
  · obtain ⟨rfl, -⟩ := buildImpl_method? hm
    rcases mem_impls.mp hk with rfl | ⟨g, i', hi', rfl⟩ | rfl | rfl
    · exact absurd hm' startImpl_method?
    · have hg := List.mem_of_getElem? hi'
      exact absurd (setterImpl_method? hm').1.symm (setter_ne_reserved ha hg hbuild)
    · rfl
    · exact absurd hm' build_ne_escape
  · rcases mem_impls.mp hk with rfl | ⟨g, i', hi', rfl⟩ | rfl | rfl
    · exact absurd hm' startImpl_method?
    · have hg := List.mem_of_getElem? hi'
      obtain ⟨rfl, -⟩ := setterImpl_method? hm'
      exact absurd hm (setter_ne_escape ha hg)
    · obtain ⟨rfl, -⟩ := buildImpl_method? hm'
      exact absurd hm build_ne_escape
    · rfl

/-- A method in an `impl` that matches can be called by its name, or another of the same `impl`
and the same name is called. -/
theorem step?_of_mem (ha : Accepted b.fields) (hn : b.setterNames.Nodup) {j : BuilderImpl}
    (hj : j ∈ b.impls) {bs : Bindings} (hbs : j.bindings? repeats args = some bs) {m : Method}
    (hm : m ∈ j.methods) (hrec : m.receiver ≠ .nothing) :
    ∃ m', j.method? m.name.text = some m' ∧
      b.step? repeats args m.name.text = some ⟨m', after args bs m'.output⟩ := by
  have hsome : (j.method? m.name.text).isSome := by
    rw [BuilderImpl.method?, List.find?_isSome]
    exact ⟨m, hm, by simpa using hrec⟩
  obtain ⟨m', hm'⟩ := Option.isSome_iff_exists.mp hsome
  refine ⟨m', hm', ?_⟩
  rw [step?, findSome?_eq_of_unique hj, hm', hbs]
  intro k hk hne
  cases hkm : k.method? m.name.text with
  | none => rfl
  | some m'' => exact absurd (impl_unique ha hn hk hj hkm hm') hne

/-- What could be taken is taken. Only pointer methods of one name can stand for each other. -/
theorem step?_of_taken (ha : Accepted b.fields) (hn : b.setterNames.Nodup) {name : String}
    {s : Step} (h : b.Taken repeats args name s) :
    ∃ m, b.step? repeats args name = some ⟨m, s.next⟩ := by
  cases h with
  | @setter f i bs hi hbs =>
      have hj : b.setterImpl i f ∈ b.impls := mem_impls.mpr (Or.inr (Or.inl ⟨f, i, hi, rfl⟩))
      have hm : b.setter i f ∈ (b.setterImpl i f).methods := List.mem_singleton.mpr rfl
      obtain ⟨m, hm, hstep⟩ := step?_of_mem ha hn hj hbs hm (by simp [setter])
      obtain ⟨-, rfl⟩ := setterImpl_method? hm
      exact ⟨_, hstep⟩
  | @build bs hbs =>
      have hj : b.buildImpl ∈ b.impls := mem_impls.mpr (Or.inr (Or.inr (Or.inl rfl)))
      have hm : buildMethod ∈ b.buildImpl.methods := List.mem_singleton.mpr rfl
      obtain ⟨m, hm, hstep⟩ := step?_of_mem ha hn hj hbs hm (by simp [buildMethod])
      obtain ⟨-, rfl⟩ := buildImpl_method? hm
      exact ⟨_, hstep⟩
  | @pointer f bs hf hbs =>
      have hj : b.escapeImpl ∈ b.impls := mem_impls.mpr (Or.inr (Or.inr (Or.inr rfl)))
      have hm : pointerMethod f ∈ b.escapeImpl.methods :=
        List.mem_append_left _ (List.mem_map_of_mem hf)
      obtain ⟨m, hm, hstep⟩ := step?_of_mem ha hn hj hbs hm (by simp [pointerMethod])
      -- The method that is found may be another field's, but only one that gives a pointer.
      rcases escapeImpl_method? hm with ⟨g, -, -, rfl⟩ | ⟨he, -⟩ | ⟨he, -⟩
      · exact ⟨_, hstep⟩
      · exact absurd he.symm (reserved_ne_pointer (by decide) _)
      · exact absurd he.symm (reserved_ne_pointer (by decide) _)
  | @release bs hbs =>
      have hj : b.escapeImpl ∈ b.impls := mem_impls.mpr (Or.inr (Or.inr (Or.inr rfl)))
      have hm : releaseMethod ∈ b.escapeImpl.methods := by simp [escapeImpl]
      obtain ⟨m, hm, hstep⟩ := step?_of_mem ha hn hj hbs hm (by simp [releaseMethod])
      rcases escapeImpl_method? hm with ⟨g, -, he, -⟩ | ⟨-, rfl⟩ | ⟨-, rfl⟩
      · exact absurd he (reserved_ne_pointer (by decide) _)
      · exact ⟨_, hstep⟩
      · exact ⟨_, hstep⟩
  | @unsafeBuild bs hbs =>
      have hj : b.escapeImpl ∈ b.impls := mem_impls.mpr (Or.inr (Or.inr (Or.inr rfl)))
      have hm : unsafeBuildMethod ∈ b.escapeImpl.methods := by simp [escapeImpl]
      obtain ⟨m, hm, hstep⟩ := step?_of_mem ha hn hj hbs hm (by simp [unsafeBuildMethod])
      rcases escapeImpl_method? hm with ⟨g, -, he, -⟩ | ⟨-, rfl⟩ | ⟨-, rfl⟩
      · exact absurd he (reserved_ne_pointer (by decide) _)
      · exact ⟨_, hstep⟩
      · exact ⟨_, hstep⟩

/-- A setter's name calls that setter. -/
theorem setter_of_step? (ha : Accepted b.fields) (hn : b.setterNames.Nodup) {f : BuilderField}
    {i : Nat} (hi : b.fields[i]? = some f) {s : Step}
    (h : b.step? repeats args f.name.text = some s) :
    ∃ bs, (b.setterImpl i f).bindings? repeats args = some bs ∧
      s = ⟨b.setter i f, after args bs (b.setter i f).output⟩ := by
  have hf := List.mem_of_getElem? hi
  have htaken := taken_of_step? h
  generalize hname : f.name.text = name at htaken
  cases htaken with
  | setter hi' hbs =>
      obtain rfl := position_unique hn hi hi' hname
      rw [hi, Option.some.injEq] at hi'
      subst hi'
      exact ⟨_, hbs, rfl⟩
  | build => exact absurd hname (setter_ne_reserved ha hf (by decide))
  | pointer hg => exact absurd hname (setter_ne_pointer ha hf hg)
  | release => exact absurd hname (setter_ne_reserved ha hf (by decide))
  | unsafeBuild => exact absurd hname (setter_ne_reserved ha hf (by decide))

/-- The names of the ways out call those, as no field can take them. All of them take the
builder away. -/
theorem reserved_of_step? (ha : Accepted b.fields) {name : String} (hname : name ∈ reservedNames)
    {s : Step} (h : b.step? repeats args name = some s) :
    (name = "build" ∧ s = ⟨buildMethod, none⟩ ∧
      ∃ bs, b.buildImpl.bindings? repeats args = some bs) ∨
      (name = "maybe_uninit" ∧ s = ⟨releaseMethod, none⟩) ∨
      (name = "unsafe_build" ∧ s = ⟨unsafeBuildMethod, none⟩) := by
  cases taken_of_step? h with
  | setter hi => exact absurd rfl (setter_ne_reserved ha (List.mem_of_getElem? hi) hname)
  | build hbs => exact Or.inl ⟨rfl, rfl, _, hbs⟩
  | pointer => exact absurd rfl (reserved_ne_pointer hname _)
  | release => exact Or.inr (Or.inl ⟨rfl, rfl⟩)
  | unsafeBuild => exact Or.inr (Or.inr ⟨rfl, rfl⟩)

/-- `build` calls `build`. -/
theorem build_of_step? (ha : Accepted b.fields) {s : Step}
    (h : b.step? repeats args "build" = some s) :
    ∃ bs, b.buildImpl.bindings? repeats args = some bs ∧ s = ⟨buildMethod, none⟩ := by
  rcases reserved_of_step? ha (by decide) h with ⟨-, hs, bs, hbs⟩ | ⟨he, -⟩ | ⟨he, -⟩
  · exact ⟨bs, hbs, hs⟩
  · exact absurd he (by decide)
  · exact absurd he (by decide)

/-- The name of a field's pointer method calls that method, where fields differ by more than
`r#`. -/
theorem pointer_of_step? (ha : Accepted b.fields) (hp : (b.fields.map (·.name.name)).Nodup)
    {f : BuilderField} (hf : f ∈ b.fields) {s : Step}
    (h : b.step? repeats args (pointerName f.name.name) = some s) :
    s = ⟨pointerMethod f, some args⟩ := by
  have htaken := taken_of_step? h
  generalize hname : pointerName f.name.name = name at htaken
  cases htaken with
  | setter hi => exact absurd hname.symm (setter_ne_pointer ha (List.mem_of_getElem? hi) hf)
  | build => exact absurd hname.symm (reserved_ne_pointer (by decide) _)
  | pointer hg =>
      have he := pointerName_injective hname
      rw [List.inj_on_of_nodup_map hp hf hg he]
  | release => exact absurd hname.symm (reserved_ne_pointer (by decide) _)
  | unsafeBuild => exact absurd hname.symm (reserved_ne_pointer (by decide) _)

end Blueprint

end StagedBuilder
