import Mathlib
import StagedBuilder.Field.Basic

/-!
# Reading fields one by one

`readFields` goes through the fields of a struct with two lists in hand, the fields that are
sound so far and the faults found so far, and each field adds to one of them or ends the
reading. What comes of it can be told without the lists: if some field's markers cannot be
written, the first such field decides; otherwise every fault is told, in the order of the
fields; otherwise every field is sound.

The markers are checked once more when they are given out. That check changes nothing in a
field that passes it.
-/

namespace StagedBuilder

theorem except_bind_eq_ok {ε α β : Type} {x : Except ε α} {f : α → Except ε β} {y : β}
    (h : x >>= f = .ok y) : ∃ a, x = .ok a ∧ f a = .ok y := by
  cases x with
  | error e => cases h
  | ok a => exact ⟨a, rfl, h⟩

theorem except_bind_eq_error {ε α β : Type} {x : Except ε α} {f : α → Except ε β} {e : ε}
    (h : x >>= f = .error e) : x = .error e ∨ ∃ a, x = .ok a ∧ f a = .error e := by
  cases x with
  | error e' =>
      cases h
      exact Or.inl rfl
  | ok a => exact Or.inr ⟨a, rfl, h⟩

theorem except_eq_ok_of_toOption {ε α : Type} {x : Except ε α} {a : α} (h : x.toOption = some a) :
    x = .ok a := by
  cases x with
  | error e => cases h
  | ok a' => exact congrArg Except.ok (Option.some.inj h)

section Reading

variable {self : Ty} {sound : List FieldSpec} {faults : List Diagnostic} {f : Field}
  {fields : List Field}

/-- The fields that are sound by themselves. -/
def soundFields (self : Ty) (fields : List Field) : List FieldSpec :=
  fields.filterMap fun f => (f.verdict self).sound?

/-- What is wrong with fields by themselves. -/
def fieldFaults (self : Ty) (fields : List Field) : List Diagnostic :=
  fields.filterMap fun f => (f.verdict self).diagnostic?

/-- The first marker that cannot be written. -/
def firstUnwritable? (self : Ty) (fields : List Field) : Option String :=
  fields.findSome? fun f => (f.verdict self).unwritable?

/-- A marker that cannot be written ends the reading, whatever was found before. -/
theorem readFields_unwritable {marker : String}
    (h : firstUnwritable? self fields = some marker) :
    readFields self sound faults fields = .error (.unwritable marker) := by
  induction fields generalizing sound faults with
  | nil => cases h
  | cons f fields ih =>
      rw [firstUnwritable?, List.findSome?_cons] at h
      rw [readFields]
      cases hv : f.verdict self with
      | unwritable m =>
          rw [hv] at h
          rw [Option.some.inj h]
      | faulty d =>
          rw [hv] at h
          exact ih h
      | sound spec =>
          rw [hv] at h
          exact ih h

/-- Where all markers can be written every field is read, and each adds its own part. -/
theorem readFields_writable (h : firstUnwritable? self fields = none) :
    readFields self sound faults fields =
      if (faults ++ fieldFaults self fields).isEmpty then .ok (sound ++ soundFields self fields)
      else .error (.faults (faults ++ fieldFaults self fields)) := by
  -- By induction on the fields, for all that may have been found before them.
  induction fields generalizing sound faults with
  | nil => simp [readFields, soundFields, fieldFaults]
  | cons f fields ih =>
      rw [firstUnwritable?, List.findSome?_cons] at h
      rw [readFields, fieldFaults, soundFields, List.filterMap_cons, List.filterMap_cons]
      cases hv : f.verdict self with
      | unwritable m =>
          rw [hv] at h
          cases h
      | faulty d =>
          rw [hv] at h
          show readFields self sound (faults ++ [d]) fields = _
          rw [ih h, List.append_assoc]
          rfl
      | sound spec =>
          rw [hv] at h
          show readFields self (sound ++ [spec]) faults fields = _
          rw [ih h, List.append_assoc]
          rfl

theorem readFields_ok {specs : List FieldSpec} (h : readFields self [] [] fields = .ok specs) :
    specs = soundFields self fields := by
  cases hm : firstUnwritable? self fields with
  | some marker =>
      rw [readFields_unwritable hm] at h
      cases h
  | none =>
      rw [readFields_writable hm] at h
      split at h
      · exact (Except.ok.inj h).symm
      · cases h

theorem readFields_all_sound {specs : List FieldSpec}
    (h : readFields self [] [] fields = .ok specs) :
    ∀ f ∈ fields, (f.verdict self).sound?.isSome := by
  have hwritable : firstUnwritable? self fields = none := by
    by_contra hne
    obtain ⟨marker, hm⟩ := Option.ne_none_iff_exists'.mp hne
    rw [readFields_unwritable hm] at h
    cases h
  have hfaults : fieldFaults self fields = [] := by
    rw [readFields_writable hwritable] at h
    split at h
    · next hnil => exact List.isEmpty_iff.mp hnil
    · cases h
  intro f hf
  have hmarker := List.findSome?_eq_none_iff.mp hwritable f hf
  have hfault := List.filterMap_eq_nil_iff.mp hfaults f hf
  cases hv : f.verdict self with
  | sound spec => rfl
  | faulty d => rw [hv] at hfault; cases hfault
  | unwritable m => rw [hv] at hmarker; cases hmarker

end Reading

/-! ## Giving out markers -/

theorem checkPointers_ok {specs : List FieldSpec} {u : Unit} (h : checkPointers specs = .ok u) :
    pointerClashes specs = [] := by
  rw [checkPointers] at h
  split at h
  · next hnil => exact hnil
  · cases h

theorem BuilderField.written_ok {f g : BuilderField} (h : f.written = .ok g) : g = f := by
  rw [BuilderField.written] at h
  split at h
  · cases h
  · exact (Except.ok.inj h).symm

theorem mapM_written_ok {fs gs : List BuilderField} (h : fs.mapM BuilderField.written = .ok gs) :
    gs = fs := by
  induction fs generalizing gs with
  | nil => exact (Except.ok.inj h).symm
  | cons f fs ih =>
      rw [List.mapM_cons] at h
      obtain ⟨g, hg, h⟩ := except_bind_eq_ok h
      obtain ⟨rest, hrest, h⟩ := except_bind_eq_ok h
      rw [← Except.ok.inj h, BuilderField.written_ok hg, ih hrest]

theorem mapM_written {fs : List BuilderField}
    (h : ∀ f ∈ fs, f.markers.unwritable? = none) : fs.mapM BuilderField.written = .ok fs := by
  induction fs with
  | nil => rfl
  | cons f fs ih =>
      have hf : f.written = .ok f := by
        rw [BuilderField.written, h f List.mem_cons_self]
      rw [List.mapM_cons, hf, ih fun g hg => h g (List.mem_cons_of_mem _ hg)]
      rfl

end StagedBuilder
