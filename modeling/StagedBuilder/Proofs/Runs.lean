import StagedBuilder.Proofs.Calls

/-!
# Runs of calls

A run makes any calls in any order. `Blueprint.followAs` answers each of them; a call that is
refused leaves the builder as it was, so a run is known by its accepted calls, and by the
builder that it ends with.
-/

namespace StagedBuilder

namespace Blueprint

variable {b : Blueprint} {repeats : Repeats} {state : Option BuilderArgs}

/-- The calls of a run that are accepted, in their order. -/
def acceptedCalls (b : Blueprint) (repeats : Repeats) (state : Option BuilderArgs)
    (calls : List String) : List String :=
  ((calls.zip (b.followAs repeats state calls)).filter fun p => p.2.isSome).map (·.1)

/-- Whether every call of a run is accepted. -/
def Accepts (b : Blueprint) (repeats : Repeats) (state : Option BuilderArgs)
    (calls : List String) : Prop :=
  ∀ answer ∈ b.followAs repeats state calls, answer.isSome

instance {calls : List String} : Decidable (b.Accepts repeats state calls) :=
  inferInstanceAs (Decidable (∀ answer ∈ b.followAs repeats state calls, answer.isSome))

/-- What is left of a builder after these answers. -/
def stateAfter (state : Option BuilderArgs) (answers : List (Option Step)) :
    Option BuilderArgs :=
  answers.foldl (fun before answer => (answer.map Step.next).getD before) state

theorem followAs_taken {name : String} {names : List String} {s : Step}
    (h : (state.bind fun args => b.step? repeats args name) = some s) :
    b.followAs repeats state (name :: names) = some s :: b.followAs repeats s.next names := by
  rw [followAs, h]

theorem followAs_refused {name : String} {names : List String}
    (h : (state.bind fun args => b.step? repeats args name) = none) :
    b.followAs repeats state (name :: names) = none :: b.followAs repeats state names := by
  rw [followAs, h]

theorem acceptedCalls_taken {name : String} {names : List String} {s : Step}
    (h : (state.bind fun args => b.step? repeats args name) = some s) :
    b.acceptedCalls repeats state (name :: names) =
      name :: b.acceptedCalls repeats s.next names := by
  rw [acceptedCalls, followAs_taken h, List.zip_cons_cons, List.filter_cons_of_pos rfl,
    List.map_cons, acceptedCalls]

theorem acceptedCalls_refused {name : String} {names : List String}
    (h : (state.bind fun args => b.step? repeats args name) = none) :
    b.acceptedCalls repeats state (name :: names) = b.acceptedCalls repeats state names := by
  rw [acceptedCalls, followAs_refused h, List.zip_cons_cons, List.filter_cons_of_neg (by simp),
    acceptedCalls]

/-- Once the builder is gone nothing is accepted any more. -/
theorem acceptedCalls_none (calls : List String) : b.acceptedCalls repeats none calls = [] := by
  induction calls with
  | nil => rfl
  | cons name names ih => rw [acceptedCalls_refused rfl, ih]

theorem accepts_nil : b.Accepts repeats state [] := by
  intro answer h
  cases h

theorem accepts_cons {name : String} {names : List String} :
    b.Accepts repeats state (name :: names) ↔
      ∃ s, (state.bind fun args => b.step? repeats args name) = some s ∧
        b.Accepts repeats s.next names := by
  cases h : state.bind fun args => b.step? repeats args name with
  | none =>
      rw [Accepts, followAs_refused h]
      simp
  | some s =>
      rw [Accepts, followAs_taken h]
      simp [Accepts]

theorem accepts_cons_of_step? {name : String} {names : List String} {s : Step}
    (h : (state.bind fun args => b.step? repeats args name) = some s) :
    b.Accepts repeats state (name :: names) ↔ b.Accepts repeats s.next names := by
  rw [accepts_cons, h]
  simp

theorem stateAfter_taken {name : String} {names : List String} {s : Step}
    (h : (state.bind fun args => b.step? repeats args name) = some s) :
    stateAfter state (b.followAs repeats state (name :: names)) =
      stateAfter s.next (b.followAs repeats s.next names) := by
  rw [followAs_taken h, stateAfter, List.foldl_cons, Option.map_some, Option.getD_some, stateAfter]

/-- What comes after some calls is accepted by the builder that they leave. -/
theorem accepts_append {calls rest : List String} :
    b.Accepts repeats state (calls ++ rest) ↔ b.Accepts repeats state calls ∧
      b.Accepts repeats (stateAfter state (b.followAs repeats state calls)) rest := by
  induction calls generalizing state with
  | nil => exact (and_iff_right accepts_nil).symm
  | cons name names ih =>
      rw [List.cons_append, accepts_cons, accepts_cons]
      constructor
      · rintro ⟨s, hs, h⟩
        obtain ⟨hnames, hrest⟩ := ih.mp h
        exact ⟨⟨s, hs, hnames⟩, stateAfter_taken hs ▸ hrest⟩
      · rintro ⟨⟨s, hs, hnames⟩, hrest⟩
        exact ⟨s, hs, ih.mpr ⟨hnames, stateAfter_taken hs ▸ hrest⟩⟩

theorem accepts_of_append {calls rest : List String}
    (h : b.Accepts repeats state (calls ++ rest)) : b.Accepts repeats state calls :=
  (accepts_append.mp h).1

/-- A compiler stops at the first call that is refused. -/
theorem firstMissing?_eq (position : Nat) (calls : List String) :
    b.firstMissing? state position calls =
      ((b.followAs .equal state calls).findIdx? (·.isNone)).map (· + position) := by
  induction calls generalizing state position with
  | nil => rfl
  | cons name names ih =>
      cases h : state.bind fun args => b.step? .equal args name with
      | none =>
          rw [followAs_refused h, firstMissing?, h, List.findIdx?_cons]
          simp
      | some s =>
          rw [followAs_taken h, firstMissing?, h, List.findIdx?_cons]
          simp only [ih, Option.isNone_some, Bool.false_eq_true, if_false, Option.map_map]
          congr 1
          funext k
          simp only [Function.comp_apply]
          omega

theorem firstMissing?_eq_none_iff {position : Nat} {calls : List String} :
    b.firstMissing? state position calls = none ↔ b.Accepts .equal state calls := by
  rw [firstMissing?_eq, Option.map_eq_none_iff, List.findIdx?_eq_none_iff, Accepts]
  simp

end Blueprint

end StagedBuilder
