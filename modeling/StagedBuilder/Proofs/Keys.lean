import Mathlib

/-!
# Lists whose elements are told apart by a key

The fields of a struct are told apart by their names, and much of what is said of them is kept
in lists that run beside the list of fields: the markers, the states, the slots. These are the
general facts that let such lists be read field by field: looking up, changing or leaving out
the place of one element is the same as asking each element whether it has that one's key.
-/

namespace StagedBuilder

variable {α β κ : Type}

theorem mem_of_lookup_eq_some [BEq κ] [LawfulBEq κ] {l : List (κ × β)} {k : κ} {v : β}
    (h : l.lookup k = some v) : (k, v) ∈ l := by
  obtain ⟨l₁, l₂, rfl, -⟩ := List.lookup_eq_some_iff.mp h
  simp

theorem key_ne_of_not_mem {key : α → κ} {x a : α} {l : List α} (h : key x ∉ l.map key)
    (ha : a ∈ l) : key a ≠ key x := by
  intro he
  exact h (he ▸ List.mem_map_of_mem ha)

theorem lookup_map_key [BEq κ] [LawfulBEq κ] {key : α → κ} (val : α → β) {l : List α}
    (hl : (l.map key).Nodup) {a : α} (ha : a ∈ l) :
    (l.map fun x => (key x, val x)).lookup (key a) = some (val a) := by
  induction l with
  | nil => cases ha
  | cons x xs ih =>
      rw [List.map_cons, List.nodup_cons] at hl
      rw [List.map_cons, List.lookup_cons]
      rcases List.mem_cons.mp ha with rfl | hmem
      · simp
      · rw [beq_false_of_ne (key_ne_of_not_mem hl.1 hmem)]
        exact ih hl.2 hmem

theorem lookup_of_mem [BEq κ] [LawfulBEq κ] {l : List (κ × β)} (hl : (l.map (·.1)).Nodup)
    {k : κ} {v : β} (h : (k, v) ∈ l) : l.lookup k = some v := by
  have hlook := lookup_map_key (·.2) hl h
  rwa [List.map_id'' fun _ => rfl] at hlook

theorem lookup_eq_none_of_key [BEq κ] [LawfulBEq κ] {l : List (κ × β)} {k : κ}
    (h : k ∉ l.map (·.1)) : l.lookup k = none := by
  rw [List.lookup_eq_none_iff]
  intro p hp
  rw [bne_iff_ne]
  exact fun he => h (he ▸ List.mem_map_of_mem hp)

theorem lookup_perm [BEq κ] [LawfulBEq κ] {l l' : List (κ × β)} (hl : (l.map (·.1)).Nodup)
    (hp : l.Perm l') (k : κ) : l'.lookup k = l.lookup k := by
  cases hk : l.lookup k with
  | some v =>
      have hl' : (l'.map (·.1)).Nodup := (hp.map _).nodup_iff.mp hl
      exact lookup_of_mem hl' (hp.mem_iff.mp (mem_of_lookup_eq_some hk))
  | none =>
      rw [List.lookup_eq_none_iff] at hk ⊢
      exact fun p hmem => hk p (hp.mem_iff.mpr hmem)

theorem findSome?_eq_of_unique {f : α → Option β} {l : List α} {a : α} (ha : a ∈ l)
    (h : ∀ x ∈ l, x ≠ a → f x = none) : l.findSome? f = f a := by
  induction l with
  | nil => cases ha
  | cons x xs ih =>
      rw [List.findSome?_cons]
      by_cases hx : x = a
      · subst hx
        cases hf : f x with
        | some v => rfl
        | none =>
            have hxs : ∀ y ∈ xs, f y = none := by
              intro y hy
              by_cases he : y = x
              · rw [he]; exact hf
              · exact h y (List.mem_cons_of_mem _ hy) he
            exact List.findSome?_eq_none_iff.mpr hxs
      · rw [h x List.mem_cons_self hx]
        refine ih ?_ fun y hy => h y (List.mem_cons_of_mem _ hy)
        exact (List.mem_cons.mp ha).resolve_left (Ne.symm hx)

section Position

variable [DecidableEq κ] {key : α → κ} {l : List α} {a : α} {i : Nat}

theorem set_map_key (φ : α → β) (x : β) (hl : (l.map key).Nodup) (hi : l[i]? = some a) :
    (l.map φ).set i x = l.map fun y => if key y = key a then x else φ y := by
  induction l generalizing i with
  | nil => cases hi
  | cons y ys ih =>
      rw [List.map_cons, List.nodup_cons] at hl
      cases i with
      | zero =>
          rw [List.getElem?_cons_zero, Option.some.injEq] at hi
          subst hi
          rw [List.map_cons, List.set_cons_zero, List.map_cons, if_pos rfl]
          congr 1
          refine List.map_congr_left fun z hz => ?_
          rw [if_neg (key_ne_of_not_mem hl.1 hz)]
      | succ j =>
          rw [List.getElem?_cons_succ] at hi
          have hne : key y ≠ key a :=
            (key_ne_of_not_mem hl.1 (List.mem_of_getElem? hi)).symm
          rw [List.map_cons, List.set_cons_succ, List.map_cons, if_neg hne, ih hl.2 hi]

theorem eraseIdx_map_key (φ : α → β) (hl : (l.map key).Nodup) (hi : l[i]? = some a) :
    (l.map φ).eraseIdx i = (l.filter fun y => key y ≠ key a).map φ := by
  induction l generalizing i with
  | nil => cases hi
  | cons y ys ih =>
      rw [List.map_cons, List.nodup_cons] at hl
      cases i with
      | zero =>
          rw [List.getElem?_cons_zero, Option.some.injEq] at hi
          subst hi
          have hne : ∀ z ∈ ys, key z ≠ key y := fun z hz => key_ne_of_not_mem hl.1 hz
          rw [List.map_cons, List.eraseIdx_cons_zero, List.filter_cons_of_neg (by simp)]
          rw [List.filter_eq_self.mpr (by simpa using hne)]
      | succ j =>
          rw [List.getElem?_cons_succ] at hi
          have hne : key y ≠ key a :=
            (key_ne_of_not_mem hl.1 (List.mem_of_getElem? hi)).symm
          rw [List.map_cons, List.eraseIdx_cons_succ, List.filter_cons_of_pos (by simpa using hne),
            List.map_cons, ih hl.2 hi]

end Position

end StagedBuilder
