import StagedBuilder.Builder.Typestate
import StagedBuilder.Proofs.Keys

/-!
# Matching the arguments of an `impl`

`Bindings.ofArgs` goes through two lists of names place by place. Two lemmas say all that is
needed of it: when it succeeds (`ofArgs_isSome_iff`: every place with a name that is not bound
holds that name), and what it has bound then (`mem_ofArgs`: the places with a name that is
bound, and nothing else). Whether all places of one name agree is a separate question, asked
afterwards.

Everything else is stated with `Bindings.resolve`, as a substitution: what was matched is the
`impl`'s own arguments under it, and whoever knows such a substitution beforehand knows that the
match succeeds and finds it.
-/

namespace StagedBuilder

namespace Bindings

/-- Matching fails only at a name that is not bound, or at the end of the shorter list. -/
theorem ofArgs_isSome_iff {binds : List String} {done : Bindings} {formals actuals : List String} :
    (ofArgs binds done formals actuals).isSome ↔
      formals.length = actuals.length ∧
        ∀ p ∈ formals.zip actuals, p.1 ∉ binds → p.1 = p.2 := by
  fun_induction ofArgs binds done formals actuals with
  | case1 => simp
  | case2 done formal formals actual actuals hb ih =>
      have hmem : formal ∈ binds := List.contains_iff_mem.mp hb
      rw [ih]
      simp [hmem]
  | case3 done formals name actuals hb ih =>
      rw [ih]
      simp
  | case4 done formal formals actual actuals hb hne =>
      have hmem : formal ∉ binds := fun h => hb (List.contains_iff_mem.mpr h)
      simp [hmem, hne]
  | case5 formals done actuals hnil hcons =>
      cases formals with
      | nil =>
          cases actuals with
          | nil => exact absurd rfl (hnil rfl)
          | cons actual actuals => simp
      | cons formal formals =>
          cases actuals with
          | nil => simp
          | cons actual actuals => exact (hcons _ _ _ _ rfl rfl).elim

theorem mem_ofArgs {binds : List String} {done bs : Bindings} {formals actuals : List String}
    (h : ofArgs binds done formals actuals = some bs) {p : String × String} :
    p ∈ bs ↔ p ∈ done ∨ (p ∈ formals.zip actuals ∧ p.1 ∈ binds) := by
  fun_induction ofArgs binds done formals actuals with
  | case1 done =>
      injection h with h
      simp [h]
  | case2 done formal formals actual actuals hb ih =>
      have hmem : formal ∈ binds := List.contains_iff_mem.mp hb
      rw [ih h, List.zip_cons_cons, List.mem_cons, List.mem_cons]
      constructor
      · rintro ((rfl | hd) | ⟨hz, hp⟩)
        · exact Or.inr ⟨Or.inl rfl, hmem⟩
        · exact Or.inl hd
        · exact Or.inr ⟨Or.inr hz, hp⟩
      · rintro (hd | ⟨rfl | hz, hp⟩)
        · exact Or.inl (Or.inr hd)
        · exact Or.inl (Or.inl rfl)
        · exact Or.inr ⟨hz, hp⟩
  | case3 done formals name actuals hb ih =>
      have hmem : name ∉ binds := fun hm => hb (List.contains_iff_mem.mpr hm)
      rw [ih h, List.zip_cons_cons, List.mem_cons]
      constructor
      · rintro (hd | ⟨hz, hp⟩)
        · exact Or.inl hd
        · exact Or.inr ⟨Or.inr hz, hp⟩
      · rintro (hd | ⟨rfl | hz, hp⟩)
        · exact Or.inl hd
        · exact absurd hp hmem
        · exact Or.inr ⟨hz, hp⟩
  | case4 => cases h
  | case5 => cases h

theorem resolve_of_not_mem {bs : Bindings} {name : String} (h : ∀ p ∈ bs, p.1 ≠ name) :
    bs.resolve name = name := by
  have hnone : bs.lookup name = none := by
    rw [List.lookup_eq_none_iff]
    intro p hp
    simpa using (h p hp).symm
  rw [resolve, hnone, Option.getD_none]

theorem lookup_of_agree {bs : Bindings} {σ : String → String} (hσ : ∀ p ∈ bs, p.2 = σ p.1)
    {p : String × String} (h : p ∈ bs) : bs.lookup p.1 = some p.2 := by
  have hsome : (bs.lookup p.1).isSome := by
    rw [List.lookup_isSome_iff]
    exact ⟨p, h, by simp⟩
  obtain ⟨value, hv⟩ := Option.isSome_iff_exists.mp hsome
  have hvalue : value = σ p.1 := hσ _ (mem_of_lookup_eq_some hv)
  rw [hv, hvalue, hσ p h]

end Bindings

namespace BuilderImpl

variable {i : BuilderImpl} {repeats : Repeats} {args : BuilderArgs} {bs : Bindings}

theorem bindings?_eq_some (h : i.bindings? repeats args = some bs) :
    Bindings.ofArgs i.head.binds [] i.args.toList args.toList = some bs ∧
      (repeats = .equal → bs.areEqual) := by
  obtain ⟨hof, heq⟩ := Option.filter_eq_some_iff.mp h
  refine ⟨hof, ?_⟩
  rintro rfl
  simpa using heq

/-- A name that the `impl` does not bind stands for itself in every match. -/
theorem resolve_free (h : i.bindings? repeats args = some bs) {name : String}
    (hn : name ∉ i.head.binds) : bs.resolve name = name := by
  refine Bindings.resolve_of_not_mem fun p hp he => ?_
  rcases (Bindings.mem_ofArgs (bindings?_eq_some h).1).mp hp with hnil | ⟨-, hb⟩
  · cases hnil
  · exact hn (he ▸ hb)

/-- A place whose name is not bound holds that name. -/
theorem place_free (h : i.bindings? repeats args = some bs) {p : String × String}
    (hp : p ∈ i.args.toList.zip args.toList) (hn : p.1 ∉ i.head.binds) : p.1 = p.2 := by
  have hsome := Option.isSome_of_eq_some (bindings?_eq_some h).1
  exact (Bindings.ofArgs_isSome_iff.mp hsome).2 p hp hn

/-- Where all places of a name must agree, a match is a substitution: every place holds what the
`impl`'s own argument there stands for. -/
theorem resolve_place (h : i.bindings? .equal args = some bs) {p : String × String}
    (hp : p ∈ i.args.toList.zip args.toList) : bs.resolve p.1 = p.2 := by
  by_cases hb : p.1 ∈ i.head.binds
  · obtain ⟨hof, heq⟩ := bindings?_eq_some h
    have hmem : p ∈ bs := (Bindings.mem_ofArgs hof).mpr (Or.inr ⟨hp, hb⟩)
    have hlook : bs.lookup p.1 == some p.2 := List.all_eq_true.mp (heq rfl) p hmem
    rw [Bindings.resolve, eq_of_beq hlook, Option.getD_some]
  · rw [resolve_free h hb]
    exact place_free h hp hb

/-- Whoever knows what the names of an `impl` should stand for knows that it matches, in either
sense, and that every place then holds what its name stands for. -/
theorem bindings?_of_subst {σ : String → String} (hlen : i.args.toList.length = args.toList.length)
    (hplace : ∀ p ∈ i.args.toList.zip args.toList, σ p.1 = p.2)
    (hfree : ∀ name ∉ i.head.binds, σ name = name) :
    ∃ bs, i.bindings? repeats args = some bs ∧
      ∀ p ∈ i.args.toList.zip args.toList, bs.resolve p.1 = p.2 := by
  have hsome : (Bindings.ofArgs i.head.binds [] i.args.toList args.toList).isSome := by
    refine Bindings.ofArgs_isSome_iff.mpr ⟨hlen, fun p hp hb => ?_⟩
    rw [← hplace p hp, hfree p.1 hb]
  obtain ⟨bs, hof⟩ := Option.isSome_iff_exists.mp hsome
  have hagree : ∀ p ∈ bs, p.2 = σ p.1 := by
    intro p hp
    rcases (Bindings.mem_ofArgs hof).mp hp with hnil | ⟨hz, -⟩
    · cases hnil
    · exact (hplace p hz).symm
  -- All bindings come from one substitution, so a name that is bound twice is bound to the same.
  have hequal : bs.areEqual := by
    refine List.all_eq_true.mpr fun p hp => ?_
    show (bs.lookup p.1 == some p.2) = true
    rw [Bindings.lookup_of_agree hagree hp]
    exact beq_self_eq_true _
  have hbs : i.bindings? repeats args = some bs :=
    Option.filter_eq_some_iff.mpr ⟨hof, by simp [hequal]⟩
  refine ⟨bs, hbs, fun p hp => ?_⟩
  by_cases hb : p.1 ∈ i.head.binds
  · have hmem : p ∈ bs := (Bindings.mem_ofArgs hof).mpr (Or.inr ⟨hp, hb⟩)
    rw [Bindings.resolve, Bindings.lookup_of_agree hagree hmem, Option.getD_some]
  · rw [resolve_free hbs hb]
    exact place_free hbs hp hb

end BuilderImpl

end StagedBuilder
