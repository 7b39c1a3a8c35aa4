import StagedBuilder.Parser

/-!
# What a parser reads

A parser leaves a suffix of its input, so there is a stretch of the input that it read.
`Reads p Q` says that whatever `p` gives is related by `Q` to the stretch that it read. For a
parser that is put together from others the stretch is put together from theirs, so there is
one rule for each combinator. In a sequence the later parsers are asked with all that was read
before them in front, which keeps the stretches of a long reader in one list and in their
order.
-/

namespace StagedBuilder

namespace Parser

variable {τ α β : Type} {p : Parser τ α} {Q : List τ → α → Prop} {S : List τ → β → Prop}

/-- Whether what the parser gives on this input is related to the elements that it reads. -/
def ReadsAt (p : Parser τ α) (input : List τ) (Q : List τ → α → Prop) : Prop :=
  ∀ a rest, p input = some (a, rest) → ∀ used, used ++ rest.val = input → Q used a

/-- Whether what the parser gives is related to the elements that it reads, whatever the
input. -/
def Reads (p : Parser τ α) (Q : List τ → α → Prop) : Prop := ∀ input, p.ReadsAt input Q

abbrev Productive (p : Parser τ α) : Prop := Reads p fun used _ => used ≠ []

inductive Chained (Q : List τ → α → Prop) : List τ → List α → Prop
  | nil : Chained Q [] []
  | cons {used rest : List τ} {a : α} {as : List α} (h : Q used a) (hrest : Chained Q rest as) :
      Chained Q (used ++ rest) (a :: as)

/-- Items that were read with a separator between them, and perhaps one after the last. -/
inductive Listed (Q : List τ → α → Prop) (S : List τ → Prop) : List τ → List α → Prop
  | nil : Listed Q S [] []
  | last {used : List τ} {a : α} (h : Q used a) : Listed Q S used [a]
  | cons {used separator rest : List τ} {a : α} {as : List α} (h : Q used a) (hs : S separator)
      (hrest : Listed Q S rest as) : Listed Q S (used ++ separator ++ rest) (a :: as)

theorem Chained.exists_infix {used : List τ} {as : List α} {a : α} (h : Chained Q used as)
    (ha : a ∈ as) : ∃ part, part <:+: used ∧ Q part a := by
  induction h with
  | nil => cases ha
  | @cons used rest a' as hq _ ih =>
      rcases List.mem_cons.mp ha with rfl | ha
      · exact ⟨used, (List.prefix_append used rest).isInfix, hq⟩
      · obtain ⟨part, hinfix, hq⟩ := ih ha
        exact ⟨part, hinfix.trans (List.suffix_append used rest).isInfix, hq⟩

theorem Listed.ne_nil {T : List τ → Prop} {used : List τ} {items : List α}
    (h : Listed Q T used items) (hQ : ∀ used a, Q used a → used ≠ []) (hne : items ≠ []) :
    used ≠ [] := by
  cases h with
  | nil => exact absurd rfl hne
  | last h => exact hQ _ _ h
  | cons h _ _ =>
      rw [List.append_assoc]
      exact List.append_ne_nil_of_left_ne_nil (hQ _ _ h) _

/-- Two stretches, one read behind the other, are the stretch that is read by both. -/
theorem stretches_join {used first second middle rest input : List τ}
    (hfirst : first ++ middle = input) (hsecond : second ++ rest = middle)
    (hused : used ++ rest = input) : used = first ++ second := by
  subst hfirst hsecond
  rw [← List.append_assoc] at hused
  exact List.append_cancel_right hused

theorem stretch_eq_take {used rest input : List τ} (hused : used ++ rest = input) :
    input.take (input.length - rest.length) = used := by
  subst hused
  simp

theorem ReadsAt.bind {input : List τ} {f : α → Parser τ β} (hp : p.ReadsAt input Q)
    (hf : ∀ a used rest, used ++ rest = input → Q used a →
      (f a).ReadsAt rest fun more b => S (used ++ more) b) : (p >>= f).ReadsAt input S := by
  intro b rest he used hused
  replace he : Parser.bind p f input = some (b, rest) := he
  rw [Parser.bind] at he
  split at he
  · cases he
  · next a middle ha =>
      split at he
      · cases he
      · next b' rest' hb =>
          cases he
          obtain ⟨first, hfirst⟩ := middle.property
          obtain ⟨second, hsecond⟩ := rest'.property
          rw [stretches_join hfirst hsecond hused]
          exact hf a first middle.val hfirst (hp a middle ha first hfirst) _ _ hb second hsecond

theorem ReadsAt.ahead {input : List τ} {f : List τ → α} :
    (Parser.ahead f).ReadsAt input fun used a => used = [] ∧ a = f input := by
  intro a rest he used hused
  cases he
  exact ⟨List.append_left_eq_self.mp hused, rfl⟩

theorem ReadsAt.take {input : List τ} {n : Nat} :
    (Parser.take n).ReadsAt input fun used _ => used = input.take n := by
  intro as rest he used hused
  cases he
  exact List.append_cancel_right (hused.trans (List.take_append_drop n input).symm)

namespace Reads

theorem trivial : Reads p fun _ _ => True := fun _ _ _ _ _ _ => True.intro

theorem mono {Q' : List τ → α → Prop} (hp : Reads p Q) (h : ∀ used a, Q used a → Q' used a) :
    Reads p Q' := fun input a rest he used hused => h used a (hp input a rest he used hused)

theorem pure {a : α} (h : Q [] a) : Reads (Pure.pure a) Q := by
  intro input b rest he used hused
  cases he
  rwa [List.append_left_eq_self.mp hused]

theorem failure : Reads (Parser.failure : Parser τ α) Q := by
  intro input b rest he
  cases he

theorem bind {f : α → Parser τ β} (hp : Reads p Q)
    (hf : ∀ a used, Q used a → Reads (f a) fun more b => S (used ++ more) b) :
    Reads (p >>= f) S := fun input =>
  (hp input).bind fun a used rest _ hq => hf a used hq rest

/-- What the first parser gives and reads may be of no interest. -/
theorem after {f : α → Parser τ β}
    (hf : ∀ a used, Reads (f a) fun more b => S (used ++ more) b) : Reads (p >>= f) S :=
  bind trivial fun a used _ => hf a used

theorem map {f : α → β} (hp : Reads p Q) (h : ∀ used a, Q used a → S used (f a)) :
    Reads (p >>= fun a => Pure.pure (f a)) S :=
  bind hp fun a used ha => pure (by simpa using h used a ha)

theorem orElse {q : Parser τ α} (hp : Reads p Q) (hq : Reads q Q) : Reads (p <|> q) Q := by
  intro input a rest he
  replace he : Parser.orElse p (fun _ => q) input = some (a, rest) := he
  rw [Parser.orElse] at he
  split at he
  · next r hr =>
      cases he
      exact hp input _ _ hr
  · exact hq input a rest he

theorem ite {c : Prop} [Decidable c] {q : Parser τ α} (hp : c → Reads p Q)
    (hq : ¬ c → Reads q Q) : Reads (if c then p else q) Q := by
  split
  · next h => exact hp h
  · next h => exact hq h

theorem one {f : τ → Option α} (h : ∀ t a, f t = some a → Q [t] a) : Reads (Parser.one f) Q := by
  intro input a rest he used hused
  cases input with
  | nil => cases he
  | cons t input =>
      replace he : (f t).map _ = some (a, rest) := he
      obtain ⟨a', ha', he⟩ := Option.map_eq_some_iff.mp he
      cases he
      rw [List.append_cancel_right (show used ++ input = [t] ++ input from hused)]
      exact h t _ ha'

/-- What lies ahead is only looked at. -/
theorem lookahead : Reads (Parser.lookahead p) fun used _ => used = [] := by
  intro input a rest he used hused
  cases he
  exact List.append_left_eq_self.mp hused

theorem withInput (hp : Reads p Q) :
    Reads (Parser.withInput p) fun used r => Q used r.1 ∧ r.2 = used := by
  intro input r rest he used hused
  rw [Parser.withInput] at he
  split at he
  · cases he
  · next a rest' ha =>
      cases he
      exact ⟨hp input _ _ ha used hused, stretch_eq_take hused⟩

/-! ## Loops -/

theorem repeated (hp : Reads p Q) (rounds : Nat) {input used : List τ}
    (hused : used ++ (Parser.repeated p rounds input).2.val = input) :
    Chained Q used (Parser.repeated p rounds input).1 := by
  induction rounds generalizing input used with
  | zero =>
      rw [List.append_left_eq_self.mp hused]
      exact .nil
  | succ rounds ih =>
      cases h : p input with
      | none =>
          simp only [Parser.repeated, h] at hused ⊢
          rw [List.append_left_eq_self.mp hused]
          exact .nil
      | some r =>
          obtain ⟨a, rest⟩ := r
          simp only [Parser.repeated, h] at hused ⊢
          obtain ⟨first, hfirst⟩ := rest.property
          obtain ⟨more, hmore⟩ := (Parser.repeated p rounds rest.val).2.property
          rw [stretches_join hfirst hmore hused]
          exact .cons (hp input a rest h first hfirst) (ih hmore)

theorem many (hp : Reads p Q) : Reads (Parser.many p) (Chained Q) := by
  intro input as rest he used hused
  have hresult : Parser.repeated p input.length input = (as, rest) := Option.some.inj he
  have hrest : used ++ (Parser.repeated p input.length input).2.val = input := by
    rw [hresult]
    exact hused
  have hchained := hp.repeated input.length hrest
  rwa [hresult] at hchained

theorem repeatedWhile {condition : Parser τ Bool} (hc : Reads condition fun used _ => used = [])
    (hp : Reads p Q) (rounds : Nat) :
    Reads (Parser.repeatedWhile condition p rounds) (Chained Q) := by
  induction rounds with
  | zero => exact pure .nil
  | succ rounds ih =>
      refine bind hc fun c used hused => ite (fun _ => ?_) fun _ => pure ?_
      · refine bind hp fun a first ha => bind ih fun as more hmore => pure ?_
        simpa [hused] using Chained.cons ha hmore
      · simpa [hused] using Chained.nil

theorem manyWhile {condition : Parser τ Bool} (hc : Reads condition fun used _ => used = [])
    (hp : Reads p Q) : Reads (Parser.manyWhile condition p) (Chained Q) := by
  refine bind hc fun c used hused => ite (fun _ => ?_) fun _ => pure ?_
  · intro input as rest he
    rw [hused]
    exact hc.repeatedWhile hp input.length input as rest he
  · simpa [hused] using Chained.nil

theorem separated {separator : Parser τ β} {T : List τ → Prop} (hp : Reads p Q)
    (hs : Reads separator fun used _ => T used) (rounds : Nat) {input used : List τ}
    (hused : used ++ (Parser.separated p separator rounds input).2.val = input) :
    Listed Q T used (Parser.separated p separator rounds input).1.items := by
  induction rounds generalizing input used with
  | zero =>
      rw [List.append_left_eq_self.mp hused]
      exact .nil
  | succ rounds ih =>
      cases h : p input with
      | none =>
          simp only [Parser.separated, h] at hused ⊢
          rw [List.append_left_eq_self.mp hused]
          exact .nil
      | some r =>
          obtain ⟨a, rest⟩ := r
          cases hsep : separator rest.val with
          | none =>
              simp only [Parser.separated, h, hsep] at hused ⊢
              exact .last (hp input a rest h used hused)
          | some r =>
              obtain ⟨b, next⟩ := r
              simp only [Parser.separated, h, hsep] at hused ⊢
              obtain ⟨first, hfirst⟩ := rest.property
              obtain ⟨second, hsecond⟩ := next.property
              obtain ⟨third, hthird⟩ := (Parser.separated p separator rounds next.val).2.property
              have hfront : first ++ second ++ next.val = input := by
                rw [List.append_assoc, hsecond, hfirst]
              rw [stretches_join hfront hthird hused]
              exact .cons (hp input a rest h first hfirst) (hs rest.val b next hsep second hsecond)
                (ih hthird)

theorem sepEnd {separator : Parser τ β} {T : List τ → Prop} (hp : Reads p Q)
    (hs : Reads separator fun used _ => T used) :
    Reads (Parser.sepEnd p separator) fun used s => Listed Q T used s.items := by
  intro input s rest he used hused
  have hresult : Parser.separated p separator input.length input = (s, rest) := Option.some.inj he
  have hrest : used ++ (Parser.separated p separator input.length input).2.val = input := by
    rw [hresult]
    exact hused
  have hlisted := hp.separated hs input.length hrest
  rwa [hresult] at hlisted

theorem all? {input : List τ} {a : α} (hp : Reads p Q) (h : Parser.all? p input = some a) :
    Q input a := by
  rw [Parser.all?] at h
  split at h
  · next a' _ ha =>
      cases h
      exact hp input _ _ ha input (List.append_nil input)
  · cases h

/-! ## Parsers that read something -/

theorem productive_bind {f : α → Parser τ β} (hp : Productive p) : Productive (p >>= f) :=
  bind hp fun _ _ hne => trivial.mono fun _ _ _ => List.append_ne_nil_of_left_ne_nil hne _

theorem productive_after {f : α → Parser τ β} (hf : ∀ a, Productive (f a)) :
    Productive (p >>= f) :=
  after fun a _ => (hf a).mono fun _ _ hne => List.append_ne_nil_of_right_ne_nil _ hne

theorem productive_one {f : τ → Option α} : Productive (Parser.one f) :=
  one fun _ _ _ => List.cons_ne_nil _ _

end Reads

end Parser

end StagedBuilder
