import Mathlib
import StagedBuilder.Field.Marker
import StagedBuilder.Proofs.Keys

/-!
# Markers that can be written

The markers of a field are identifiers unless its base begins with something that no identifier
begins with, as the base `1` of a field `_1` does. Nothing else can be wrong with them: upper
case keeps a character of identifiers among the characters of identifiers, so a base made from
an identifier holds no other, and `Field` in front of it, or `Set` behind it, is then harmless.

Adding a position never hurts either. A base that has an underscore and a position behind it
begins as the plain one does, or with the underscore if there is no plain one. So markers that
could be written when their field was read can be written when they are given out
(`assignMarkers_writable`).
-/

namespace StagedBuilder

/-! ## Upper case keeps characters of identifiers

As before the tables are looked through once, and the lemmas above them lead every character to
its entry. -/

namespace Character

theorem toUpper_continues : ∀ n < 128, isIdentContinue (Char.ofNat n) →
    isIdentContinue (Char.ofNat n).toUpper := by decide +kernel

theorem upperExpansions_continue :
    ∀ e ∈ upperExpansions, ∀ n ∈ e.2, isIdentContinue (Char.ofNat n) := by decide +kernel

/-- Some runs hold no characters of identifiers at all, such as that of the letters in
circles. -/
theorem upperRuns_continue : ∀ run ∈ upperRuns, ∀ k ∈ List.range (run.last - run.first + 1),
    k % run.step = 0 → isIdentContinue (Char.ofNat (run.target + k)) ∨
      ¬ isIdentContinue (Char.ofNat (run.first + k)) := by decide +kernel

theorem image?_continues {run : CaseRun} (h : run ∈ upperRuns) {n image : Nat}
    (hn : isIdentContinue (Char.ofNat n)) (hi : run.image? n = some image) :
    isIdentContinue (Char.ofNat image) := by
  simp only [CaseRun.image?] at hi
  split at hi
  · next hin =>
      simp only [Bool.and_eq_true, decide_eq_true_eq, beq_iff_eq] at hin
      obtain ⟨⟨hfirst, hlast⟩, hstep⟩ := hin
      injection hi with hi
      have hk : n - run.first ∈ List.range (run.last - run.first + 1) := by
        rw [List.mem_range]
        omega
      rcases upperRuns_continue run h _ hk hstep with himage | hnot
      · rwa [← hi]
      · rw [Nat.add_sub_cancel' hfirst] at hnot
        exact absurd hn hnot
  · cases hi

theorem upper_continues {c d : Char} (hc : isIdentContinue c) (hd : d ∈ upper c) :
    isIdentContinue d := by
  rw [upper] at hd
  -- `upper` asks three tables: ASCII, the expansions, the runs. Else the character stays.
  split at hd
  · next hascii =>
      rw [List.mem_singleton.mp hd]
      have := toUpper_continues c.toNat hascii
      rw [Char.ofNat_toNat] at this
      exact this hc
  · split at hd
    · next ns hl =>
        obtain ⟨n, hn, rfl⟩ := List.mem_map.mp hd
        exact upperExpansions_continue _ (mem_of_lookup_eq_some hl) n hn
    · split at hd
      · next n hf =>
          obtain ⟨run, hrun, hi⟩ := List.exists_of_findSome?_eq_some hf
          rw [List.mem_singleton.mp hd]
          refine image?_continues hrun ?_ hi
          rwa [Char.ofNat_toNat]
      · rw [List.mem_singleton.mp hd]
        exact hc

/-! ## Identifiers -/

theorem isIdentifier_iff {text : String} :
    isIdentifier text ↔
      (∃ c ∈ text.toList.head?, isIdentStart c) ∧ ∀ c ∈ text.toList, isIdentContinue c := by
  rw [isIdentifier]
  cases text.toList with
  | nil => simp
  | cons c cs =>
      have hstart := @isIdentContinue_of_isIdentStart c
      simp only [Bool.and_eq_true, List.all_eq_true, List.head?_cons, Option.mem_some_iff,
        exists_eq_left', List.mem_cons, forall_eq_or_imp]
      exact ⟨fun h => ⟨h.1, hstart h.1, h.2⟩, fun h => ⟨h.1, h.2.2⟩⟩

theorem digit_continues {n : Nat} {c : Char} (h : c ∈ (toString n).toList) :
    isIdentContinue c := by
  rw [Nat.toString_eq_repr, Nat.toList_repr] at h
  have hdigit := Nat.isDigit_of_mem_toDigits (by decide) (by decide) h
  have hascii : c.toNat < 128 := by
    simp only [Char.isDigit, ge_iff_le, Bool.and_eq_true, decide_eq_true_eq] at hdigit
    have hnine : c.toNat ≤ '9'.toNat := UInt32.le_iff_toNat_le.mp hdigit.2
    exact Nat.lt_of_le_of_lt hnine (by decide)
  simp [isIdentContinue, hascii, hdigit]

end Character

open Character

theorem camel_continues {cs : List Char} (h : ∀ c ∈ cs, isIdentContinue c) {atStart : Bool}
    {d : Char} (hd : d ∈ camel atStart cs) : isIdentContinue d := by
  induction cs generalizing atStart with
  | nil => cases hd
  | cons c cs ih =>
      have hcs := fun a ha => h a (List.mem_cons_of_mem _ ha)
      rw [camel] at hd
      split at hd
      · exact ih hcs hd
      · rcases List.mem_append.mp hd with hd | hd
        · split at hd
          · exact upper_continues (h c List.mem_cons_self) hd
          · rw [List.mem_singleton.mp hd]
            exact h c List.mem_cons_self
        · exact ih hcs hd

theorem upperCamel_continues {name : String} (h : isIdentifier name) {c : Char}
    (hc : c ∈ (upperCamel name).toList) : isIdentContinue c := by
  rw [upperCamel, String.toList_ofList] at hc
  exact camel_continues (isIdentifier_iff.mp h).2 hc

/-! ## Markers of a base -/

/-- Whether no identifier begins as the text does. An empty text leaves it to what follows. -/
def BeginsBadly (text : String) : Prop := ∃ c ∈ text.toList.head?, ¬ isIdentStart c

theorem isIdentifier_state {base : String} (h : ∀ c ∈ base.toList, isIdentContinue c) :
    isIdentifier (Markers.ofBase base).state := by
  have hfield : isIdentifier "Field" := by decide
  rw [isIdentifier_iff, Markers.ofBase, String.toList_append]
  refine ⟨⟨'F', by simp, by decide⟩, fun c hc => ?_⟩
  exact (List.mem_append.mp hc).elim ((isIdentifier_iff.mp hfield).2 c) (h c)

/-- With an ending that is an identifier, a base is one unless it begins badly. -/
theorem isIdentifier_append {base ending : String} (h : ∀ c ∈ base.toList, isIdentContinue c)
    (he : isIdentifier ending) : isIdentifier (base ++ ending) ↔ ¬ BeginsBadly base := by
  obtain ⟨⟨e, hhead, hstart⟩, hcont⟩ := isIdentifier_iff.mp he
  have hall : ∀ c ∈ (base ++ ending).toList, isIdentContinue c := by
    rw [String.toList_append]
    exact fun c hc => (List.mem_append.mp hc).elim (h c) (hcont c)
  rw [isIdentifier_iff, and_iff_left hall, String.toList_append, BeginsBadly]
  cases base.toList with
  | nil => simpa using ⟨e, hhead, hstart⟩
  | cons c cs => simp

theorem unwritable?_ofBase {base : String} (h : ∀ c ∈ base.toList, isIdentContinue c) :
    (Markers.ofBase base).unwritable? = none ↔ ¬ BeginsBadly base := by
  have hset : isIdentifier (base ++ "Set") ↔ ¬ BeginsBadly base :=
    isIdentifier_append h (by decide)
  have hunset : isIdentifier (base ++ "Unset") ↔ ¬ BeginsBadly base :=
    isIdentifier_append h (by decide)
  have hstate := isIdentifier_state h
  rw [Markers.unwritable?, List.find?_eq_none, Markers.names]
  simp only [Markers.ofBase] at hstate ⊢
  simp [hstate, hset, hunset]

/-- It is the `Set` that is told of a base that begins badly. -/
theorem unwritable?_of_beginsBadly {base : String} (h : ∀ c ∈ base.toList, isIdentContinue c)
    (hbad : BeginsBadly base) : (Markers.ofBase base).unwritable? = some (base ++ "Set") := by
  have hset : ¬ isIdentifier (base ++ "Set") :=
    fun hid => (isIdentifier_append h (by decide)).mp hid hbad
  have hstate := isIdentifier_state h
  rw [Markers.unwritable?, Markers.names]
  simp only [Markers.ofBase] at hstate ⊢
  simp [hstate, hset]

/-! ## Markers of all fields -/

theorem mem_markerBases_upperCamel {index : Nat} {seen names : List String} {x : String}
    (h : x ∈ markerBases index seen names) :
    ∃ name ∈ names, x = upperCamel name ∨ ∃ n : Nat, x = upperCamel name ++ "_" ++ toString n := by
  induction names generalizing index seen with
  | nil => cases h
  | cons name names ih =>
      rw [markerBases] at h
      rcases List.mem_cons.mp h with rfl | hmem
      · refine ⟨name, List.mem_cons_self, ?_⟩
        split
        · exact Or.inr ⟨index, rfl⟩
        · exact Or.inl rfl
      · obtain ⟨other, hother, hx⟩ := ih hmem
        exact ⟨other, List.mem_cons_of_mem _ hother, hx⟩

theorem positioned_beginsBadly {base : String} {n : Nat} (h : ¬ BeginsBadly base) :
    ¬ BeginsBadly (base ++ "_" ++ toString n) := by
  rw [BeginsBadly, String.toList_append, String.toList_append]
  rw [BeginsBadly] at h
  cases hb : base.toList with
  | nil =>
      have hu : "_".toList = ['_'] := by decide
      have hstart : isIdentStart '_' := by decide
      simp [hu, hstart]
  | cons c cs =>
      rw [hb] at h
      simpa using h

/-- A base whose state can be written holds only characters of identifiers. -/
theorem continues_of_writable {base : String} (h : (Markers.ofBase base).unwritable? = none)
    {c : Char} (hc : c ∈ base.toList) : isIdentContinue c := by
  rw [Markers.unwritable?, List.find?_eq_none] at h
  have hstate := h (Markers.ofBase base).state List.mem_cons_self
  rw [Bool.not_eq_true, Bool.not_eq_false'] at hstate
  have hall := (isIdentifier_iff.mp hstate).2
  rw [Markers.ofBase, String.toList_append] at hall
  exact hall c (List.mem_append_right _ hc)

/-- If the markers of each field can be written by themselves, so can those that are given
out. -/
theorem assignMarkers_writable_of_plain {names : List String}
    (h : ∀ name ∈ names, (Markers.ofBase (upperCamel name)).unwritable? = none) {m : Markers}
    (hm : m ∈ assignMarkers names) : m.unwritable? = none := by
  obtain ⟨base, hbase, rfl⟩ := List.mem_map.mp hm
  obtain ⟨name, hname, hx⟩ := mem_markerBases_upperCamel hbase
  have hplain := h name hname
  have hcont : ∀ c ∈ (upperCamel name).toList, isIdentContinue c :=
    fun c hc => continues_of_writable hplain hc
  rcases hx with rfl | ⟨n, rfl⟩
  · exact hplain
  · have hunderscore : isIdentifier "_" := by decide
    have hgood : ¬ BeginsBadly (upperCamel name) := (unwritable?_ofBase hcont).mp hplain
    refine (unwritable?_ofBase fun c hc => ?_).mpr (positioned_beginsBadly hgood)
    rw [String.toList_append, String.toList_append, List.mem_append, List.mem_append] at hc
    rcases hc with (hc | hc) | hc
    · exact hcont c hc
    · exact (isIdentifier_iff.mp hunderscore).2 c hc
    · exact digit_continues hc

theorem assignMarkers_writable {names : List String} (hid : ∀ name ∈ names, isIdentifier name)
    (h : ∀ name ∈ names, ¬ BeginsBadly (upperCamel name)) {m : Markers}
    (hm : m ∈ assignMarkers names) : m.unwritable? = none := by
  refine assignMarkers_writable_of_plain (fun name hname => ?_) hm
  have hcont : ∀ c ∈ (upperCamel name).toList, isIdentContinue c :=
    fun c hc => upperCamel_continues (hid name hname) hc
  exact (unwritable?_ofBase hcont).mpr (h name hname)

end StagedBuilder
