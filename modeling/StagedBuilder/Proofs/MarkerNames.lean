import Mathlib
import StagedBuilder.Field.Marker
import StagedBuilder.Proofs.Keys

/-!
# Markers of different fields have different names

A marker's base is a camel case name, or a camel case name with an underscore and a position
behind it. Camel case never leaves an underscore, whatever the alphabet: the upper case of a
character holds one only if the character is one. So the underscore tells the two forms apart,
and behind it the position can be read back. That is the whole argument for
`markerBases_nodup`; the rest of the file turns it into facts about the three names that are
made from a base.

The second half compares names of different kinds. A state can have the name of a marker, as
the fields `field_x` and `x_set` show. What such a coincidence cannot change is the length of
the bases: they pin down which of the two fields has the shorter one, and that is what keeps a
captured marker harmless later on.
-/

namespace StagedBuilder

/-! ## Camel case has no underscores

The tables of upper case are looked through once, entry by entry; the lemmas above the tables
only say that a code point other than the underscore's is never read as one. -/

theorem ofNat_ne_underscore {n : Nat} (h : n ≠ 95) : Char.ofNat n ≠ '_' := by
  intro he
  by_cases hv : n.isValidChar
  · have hn : (Char.ofNat n).toNat = n := by
      rw [Char.ofNat, dif_pos hv]
      simp [Char.ofNatAux, Char.toNat]
    rw [he] at hn
    exact h hn.symm
  · rw [Char.ofNat, dif_neg hv] at he
    exact absurd he (by decide)

theorem toUpper_ne_underscore {c : Char} (hc : c.toNat < 128) (h : c ≠ '_') :
    c.toUpper ≠ '_' := by
  have hall : ∀ n < 128, n ≠ 95 → (Char.ofNat n).toUpper ≠ '_' := by decide
  have hn : c.toNat ≠ 95 := by
    intro he
    exact h (by rw [← Char.ofNat_toNat c, he])
  have := hall c.toNat hc hn
  rwa [Char.ofNat_toNat] at this

theorem upperExpansions_ne_underscore :
    ∀ e ∈ Character.upperExpansions, ∀ n ∈ e.2, n ≠ 95 := by decide +kernel

/-- A run never reaches the underscore: it lies above it, or ends below. -/
theorem upperRuns_avoid_underscore : ∀ run ∈ Character.upperRuns,
    95 < run.target ∨ run.target + (run.last - run.first) < 95 := by decide +kernel

theorem upperRuns_ne_underscore {run : Character.CaseRun} (h : run ∈ Character.upperRuns)
    {n image : Nat} (hi : run.image? n = some image) : image ≠ 95 := by
  have ha := upperRuns_avoid_underscore run h
  simp only [Character.CaseRun.image?] at hi
  split at hi
  · next hin =>
      simp only [Bool.and_eq_true, decide_eq_true_eq] at hin
      injection hi with hi
      omega
  · cases hi

theorem upper_ne_underscore {c d : Char} (hc : c ≠ '_') (hd : d ∈ Character.upper c) :
    d ≠ '_' := by
  rw [Character.upper] at hd
  split at hd
  · next hascii =>
      rw [List.mem_singleton.mp hd]
      exact toUpper_ne_underscore hascii hc
  · split at hd
    · next ns hl =>
        obtain ⟨n, hn, rfl⟩ := List.mem_map.mp hd
        have hmem := mem_of_lookup_eq_some hl
        exact ofNat_ne_underscore (upperExpansions_ne_underscore _ hmem n hn)
    · split at hd
      · next n hf =>
          obtain ⟨run, hrun, hi⟩ := List.exists_of_findSome?_eq_some hf
          rw [List.mem_singleton.mp hd]
          exact ofNat_ne_underscore (upperRuns_ne_underscore hrun hi)
      · rw [List.mem_singleton.mp hd]
        exact hc

theorem underscore_not_mem_camel (atStart : Bool) (cs : List Char) :
    '_' ∉ camel atStart cs := by
  induction cs generalizing atStart with
  | nil => simp [camel]
  | cons c cs ih =>
      rw [camel]
      split
      · exact ih true
      · next hc =>
          rw [List.mem_append, not_or]
          refine ⟨fun hm => ?_, ih false⟩
          split at hm
          · exact upper_ne_underscore hc hm rfl
          · exact hc (List.mem_singleton.mp hm).symm

theorem underscore_not_mem_upperCamel (name : String) : '_' ∉ (upperCamel name).toList := by
  rw [upperCamel, String.toList_ofList]
  exact underscore_not_mem_camel true name.toList

/-! ## Bases

Two bases agree only if they are made from the same position or are the same camel case name,
and of one camel case name only the first field has it plain. -/

theorem underscore_not_mem_toString (n : Nat) : '_' ∉ (toString n).toList := by
  rw [Nat.toString_eq_repr, Nat.toList_repr]
  exact Nat.underscore_not_in_toDigits

theorem underscore_mem_positioned (base : String) (n : Nat) :
    '_' ∈ (base ++ "_" ++ toString n).toList := by
  simp

/-- The position is read back from behind the underscore. -/
theorem positioned_inj {base base' : String} {n n' : Nat} (hb : '_' ∉ base.toList)
    (h : base ++ "_" ++ toString n = base' ++ "_" ++ toString n') :
    base = base' ∧ n = n' := by
  have hl := congrArg String.toList h
  have hu : "_".toList = ['_'] := by decide
  simp only [String.toList_append, List.append_assoc, hu, List.singleton_append] at hl
  obtain ⟨hbase, -, hn⟩ :=
    (List.append_cons_inj_of_notMem hb (underscore_not_mem_toString n)).mp hl
  have hrepr := String.toList_inj.mp hn
  rw [Nat.toString_eq_repr, Nat.toString_eq_repr] at hrepr
  exact ⟨String.toList_inj.mp hbase, Nat.repr_injective hrepr⟩

/-- What a base that stands from a position on can be: a camel case name that no field before
has, or one with that position or a later one behind it. -/
theorem mem_markerBases {index : Nat} {seen names : List String} {x : String}
    (h : x ∈ markerBases index seen names) :
    ('_' ∉ x.toList ∧ x ∉ seen) ∨
      ∃ base n, index ≤ n ∧ '_' ∉ base.toList ∧ x = base ++ "_" ++ toString n := by
  induction names generalizing index seen with
  | nil => cases h
  | cons name names ih =>
      rw [markerBases] at h
      rcases List.mem_cons.mp h with rfl | hmem
      · split
        · exact Or.inr ⟨_, index, Nat.le_refl _, underscore_not_mem_upperCamel name, rfl⟩
        · next hs =>
            rw [Bool.or_eq_true, not_or, List.contains_iff_mem] at hs
            exact Or.inl ⟨underscore_not_mem_upperCamel name, hs.2⟩
      · rcases ih hmem with ⟨hu, hs⟩ | ⟨base, n, hn, hb, hx⟩
        · exact Or.inl ⟨hu, fun hm => hs (List.mem_cons_of_mem _ hm)⟩
        · exact Or.inr ⟨base, n, by omega, hb, hx⟩

theorem markerBases_nodup (index : Nat) (seen names : List String) :
    (markerBases index seen names).Nodup := by
  induction names generalizing index seen with
  | nil => exact List.nodup_nil
  | cons name names ih =>
      have hcamel := underscore_not_mem_upperCamel name
      rw [markerBases, List.nodup_cons]
      refine ⟨?_, ih _ _⟩
      split
      · -- This base carries its position; all later positions are greater.
        intro hm
        rcases mem_markerBases hm with ⟨hu, -⟩ | ⟨base, n, hn, -, hx⟩
        · exact hu (underscore_mem_positioned _ _)
        · have := (positioned_inj hcamel hx).2
          omega
      · -- This base is plain; it is among the names seen from here on.
        intro hm
        rcases mem_markerBases hm with ⟨-, hs⟩ | ⟨base, n, -, -, hx⟩
        · exact hs List.mem_cons_self
        · exact hcamel (hx ▸ underscore_mem_positioned base n)

/-! ## The three names of a field -/

namespace Markers

theorem ofBase_set_length (base : String) : (ofBase base).set.length = base.length + 3 := by
  rw [ofBase, String.length_append]
  rfl

theorem ofBase_unset_length (base : String) : (ofBase base).unset.length = base.length + 5 := by
  rw [ofBase, String.length_append]
  rfl

theorem ofBase_state_length (base : String) : (ofBase base).state.length = base.length + 5 := by
  rw [ofBase, String.length_append, Nat.add_comm]
  rfl

/-- The two endings differ in their third character from the end. -/
theorem ofBase_set_ne_unset (base base' : String) : (ofBase base).set ≠ (ofBase base').unset := by
  intro h
  have hl := congrArg (fun s => (String.toList s).reverse) h
  simp [ofBase] at hl

/-- What is known of the markers of a struct's fields. Names of one kind belong to one field,
and no field's `Set` is another's `Unset`. Where a marker has the name of a state, that state's
field has the shorter base if the marker is a `Set`, and one of the same length if it is an
`Unset`. -/
structure Apart (ms : List Markers) : Prop where
  states : (ms.map (·.state)).Nodup
  sets : (ms.map (·.set)).Nodup
  unsets : (ms.map (·.unset)).Nodup
  set_ne_unset : ∀ m ∈ ms, ∀ m' ∈ ms, m.set ≠ m'.unset
  set_eq_state : ∀ m ∈ ms, ∀ m' ∈ ms, m.set = m'.state → m'.set.length < m.set.length
  unset_eq_state : ∀ m ∈ ms, ∀ m' ∈ ms, m.unset = m'.state → m'.set.length = m.set.length

theorem apart_ofBase {bases : List String} (h : bases.Nodup) : Apart (bases.map ofBase) := by
  refine ⟨?_, ?_, ?_, ?_, ?_, ?_⟩
  · rw [List.map_map]
    exact h.map fun _ _ he => (String.append_right_inj "Field").mp he
  · rw [List.map_map]
    exact h.map fun _ _ he => (String.append_left_inj "Set").mp he
  · rw [List.map_map]
    exact h.map fun _ _ he => (String.append_left_inj "Unset").mp he
  all_goals
    intro m hm m' hm'
    obtain ⟨base, -, rfl⟩ := List.mem_map.mp hm
    obtain ⟨base', -, rfl⟩ := List.mem_map.mp hm'
  · exact ofBase_set_ne_unset base base'
  · intro he
    have hlen := congrArg String.length he
    rw [ofBase_set_length, ofBase_state_length] at hlen
    rw [ofBase_set_length, ofBase_set_length]
    omega
  · intro he
    have hlen := congrArg String.length he
    rw [ofBase_unset_length, ofBase_state_length] at hlen
    rw [ofBase_set_length, ofBase_set_length]
    omega

end Markers

/-- The markers of any fields are apart, whatever the fields are called. -/
theorem assignMarkers_apart (names : List String) : Markers.Apart (assignMarkers names) :=
  Markers.apart_ofBase (markerBases_nodup 0 [] names)

end StagedBuilder
