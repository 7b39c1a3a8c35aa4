import StagedBuilder.Grammar.Items
import StagedBuilder.Proofs.AcceptedFields
import StagedBuilder.Proofs.WritableMarkers

/-!
# Names that are read are identifiers

A field that was read from a text has an identifier as its name. Identifiers come into being in
one place, where a word is read character by character; from there on tokens are only moved
around, and a parser leaves nothing but a suffix of what it was given. So the argument is a
postcondition that is carried through parsers: `Yields P p Q` says that `p` gives only what
satisfies `Q`, as long as all that lies ahead of it satisfies `P`.
-/

namespace StagedBuilder

open Character

/-! ## Postconditions of parsers -/

namespace Parser

variable {τ α β : Type} {P : τ → Prop} {p : Parser τ α} {Q : α → Prop} {R : β → Prop}

/-- Whether all that the parser gives satisfies `Q`, if all that lies ahead of it satisfies
`P`. -/
def Yields (P : τ → Prop) (p : Parser τ α) (Q : α → Prop) : Prop :=
  ∀ input, (∀ t ∈ input, P t) → ∀ a rest, p input = some (a, rest) → Q a

namespace Yields

theorem pure {a : α} (h : Q a) : Yields P (Pure.pure a) Q := by
  intro input _ b rest he
  cases he
  exact h

theorem bind {f : α → Parser τ β} (hp : Yields P p Q) (hf : ∀ a, Q a → Yields P (f a) R) :
    Yields P (p >>= f) R := by
  intro input hinput b rest he
  replace he : Parser.bind p f input = some (b, rest) := he
  rw [Parser.bind] at he
  split at he
  · cases he
  · next a rest' ha =>
      split at he
      · cases he
      · next b' rest'' hb =>
          cases he
          have hrest : ∀ t ∈ rest'.val, P t := fun t ht => hinput t (rest'.property.subset ht)
          exact hf a (hp input hinput a rest' ha) rest'.val hrest _ _ hb

/-- What the first parser gives may be of no interest. -/
theorem after {f : α → Parser τ β} (hf : ∀ a, Yields P (f a) R) : Yields P (p >>= f) R :=
  bind (Q := fun _ => True) (fun _ _ _ _ _ => trivial) fun a _ => hf a

theorem orElse {q : Parser τ α} (hp : Yields P p Q) (hq : Yields P q Q) :
    Yields P (p <|> q) Q := by
  intro input hinput a rest he
  replace he : Parser.orElse p (fun _ => q) input = some (a, rest) := he
  rw [Parser.orElse] at he
  split at he
  · next r hr =>
      cases he
      exact hp input hinput _ _ hr
  · exact hq input hinput a rest he

theorem ite {c : Prop} [Decidable c] {q : Parser τ α} (hp : c → Yields P p Q)
    (hq : ¬ c → Yields P q Q) : Yields P (if c then p else q) Q := by
  split
  · next h => exact hp h
  · next h => exact hq h

theorem one {f : τ → Option α} (h : ∀ t a, P t → f t = some a → Q a) :
    Yields P (Parser.one f) Q := by
  intro input hinput a rest he
  cases input with
  | nil => cases he
  | cons t input =>
      replace he : (f t).map _ = some (a, rest) := he
      obtain ⟨a', ha', he⟩ := Option.map_eq_some_iff.mp he
      cases he
      exact h t _ (hinput t List.mem_cons_self) ha'

theorem withInput (hp : Yields P p Q) : Yields P (Parser.withInput p) fun r => Q r.1 := by
  intro input hinput a rest he
  rw [Parser.withInput] at he
  split at he
  · cases he
  · next a' rest' ha =>
      cases he
      exact hp input hinput _ _ ha

theorem repeated (hp : Yields P p Q) (rounds : Nat) (input : List τ) (hinput : ∀ t ∈ input, P t) :
    ∀ a ∈ (Parser.repeated p rounds input).1, Q a := by
  induction rounds generalizing input with
  | zero => simp [Parser.repeated]
  | succ rounds ih =>
      rw [Parser.repeated]
      split
      · simp
      · next a rest ha =>
          have hrest : ∀ t ∈ rest.val, P t := fun t ht => hinput t (rest.property.subset ht)
          exact List.forall_mem_cons.mpr ⟨hp input hinput _ _ ha, ih rest.val hrest⟩

theorem many (hp : Yields P p Q) : Yields P (Parser.many p) fun as => ∀ a ∈ as, Q a := by
  intro input hinput as rest he
  have has : (Parser.repeated p input.length input).1 = as :=
    congrArg Prod.fst (Option.some.inj he)
  exact has ▸ repeated hp input.length input hinput

theorem separated {separator : Parser τ β} (hp : Yields P p Q) (rounds : Nat) (input : List τ)
    (hinput : ∀ t ∈ input, P t) :
    ∀ a ∈ (Parser.separated p separator rounds input).1.items, Q a := by
  induction rounds generalizing input with
  | zero => simp [Parser.separated]
  | succ rounds ih =>
      rw [Parser.separated]
      split
      · simp
      · next a rest ha =>
          have hrest : ∀ t ∈ rest.val, P t := fun t ht => hinput t (rest.property.subset ht)
          split
          · simpa using hp input hinput _ _ ha
          · next s next hs =>
              have hnext : ∀ t ∈ next.val, P t := fun t ht => hrest t (next.property.subset ht)
              exact List.forall_mem_cons.mpr ⟨hp input hinput _ _ ha, ih next.val hnext⟩

theorem sepEnd {separator : Parser τ β} (hp : Yields P p Q) :
    Yields P (Parser.sepEnd p separator) fun s => ∀ a ∈ s.items, Q a := by
  intro input hinput s rest he
  have hs : (Parser.separated p separator input.length input).1 = s :=
    congrArg Prod.fst (Option.some.inj he)
  exact hs ▸ separated hp input.length input hinput

theorem all? {input : List τ} {a : α} (hp : Yields P p Q) (hinput : ∀ t ∈ input, P t)
    (h : Parser.all? p input = some a) : Q a := by
  rw [Parser.all?] at h
  split at h
  · next a' _ ha =>
      cases h
      exact hp input hinput _ _ ha
  · cases h

end Yields

end Parser

/-! ## Tokens -/

mutual

/-- Whether the identifiers in a token are identifiers, inside groups as well. -/
def TokenTree.Written : TokenTree → Prop
  | .ident i _ => isIdentifier i.name
  | .group _ inner _ => TokenTree.AllWritten inner
  | .lifetime _ _ => True
  | .literal _ _ _ => True
  | .punct _ _ _ => True

def TokenTree.AllWritten : List TokenTree → Prop
  | [] => True
  | t :: ts => t.Written ∧ TokenTree.AllWritten ts

end

theorem TokenTree.allWritten_iff {ts : List TokenTree} :
    TokenTree.AllWritten ts ↔ ∀ t ∈ ts, t.Written := by
  induction ts with
  | nil => simp [TokenTree.AllWritten]
  | cons t ts ih => rw [TokenTree.AllWritten, ih, List.forall_mem_cons]

namespace Scanner

open StagedBuilder.Parser StagedBuilder.Parser.Yields

/-- Scanners are asked for what they give, whatever the text. -/
abbrev Gives {α : Type} (p : Scanner α) (Q : α → Prop) : Prop := Yields (fun _ => True) p Q

theorem charIf_gives (test : Char → Bool) : Gives (charIf test) fun c => test c := by
  refine one fun g c _ h => ?_
  split at h
  · next ht => exact Option.some.inj h ▸ ht
  · cases h

theorem word_gives : Gives word fun w => isIdentifier w := by
  refine bind (charIf_gives isIdentStart) fun c hc => ?_
  refine bind (many (charIf_gives isIdentContinue)) fun cs hcs => pure ?_
  rw [isIdentifier_iff, String.toList_ofList]
  refine ⟨⟨c, rfl, hc⟩, List.forall_mem_cons.mpr ⟨isIdentContinue_of_isIdentStart hc, hcs⟩⟩

theorem identifier_gives : Gives identifier fun i => isIdentifier i.name := by
  refine after fun raw => ite (fun _ => ?_) fun _ => ?_
  · refine after fun _ => bind word_gives fun name hname => after fun _ => pure hname
  · exact bind word_gives fun name hname => pure hname

theorem bareLeaf_gives : Gives bareLeaf fun leaf => ∀ span, (leaf span).Written := by
  refine after fun c => ite (fun _ => ?_) fun _ => orElse ?_ (orElse ?_ ?_)
  · exact after fun _ => after fun _ => pure fun _ => trivial
  · exact after fun _ => pure fun _ => trivial
  · exact after fun _ => pure fun _ => trivial
  · exact after fun _ => after fun _ => bind identifier_gives fun name hname => pure fun _ => hname

/-- Whether the tokens of a lexeme are written in this sense. -/
def Lexeme.Written : Lexeme → Prop
  | .opening _ _ | .closing _ _ => True
  | .leaves ts => ∀ t ∈ ts, t.Written

theorem docAttribute_written (inner : Bool) (text : String) (span : Span) :
    ∀ t ∈ docAttribute inner text span, t.Written := by
  have hdoc : isIdentifier "doc" := by decide
  cases inner <;>
    simp [docAttribute, TokenTree.Written, TokenTree.AllWritten, Ident.plain, hdoc]

theorem lexeme_gives : Gives lexeme Lexeme.Written := by
  refine bind (withInput (Q := fun make : Span → Lexeme => ∀ span, (make span).Written) ?_)
    fun r hr => pure (hr _)
  refine orElse ?_ (orElse ?_ (orElse ?_ ?_))
  · exact after fun _ => pure fun _ => trivial
  · exact after fun _ => pure fun _ => trivial
  · exact after fun _ => pure fun span => docAttribute_written _ _ span
  · exact bind bareLeaf_gives fun leaf hleaf =>
      pure fun span => List.forall_mem_singleton.mpr (hleaf span)

theorem lexemes_gives : Gives lexemes fun ls => ∀ l ∈ ls, l.Written := by
  refine after fun _ => bind (many ?_) fun ls hls => after fun _ => pure hls
  exact after fun _ => lexeme_gives

end Scanner

namespace TokenTree

open Scanner

/-- Nesting moves tokens into groups, and all that is kept for later is written. -/
theorem nest_written {lexemes : List Lexeme} {outer : List OpenGroup} {done ts : List TokenTree}
    (hl : ∀ l ∈ lexemes, l.Written) (ho : ∀ g ∈ outer, ∀ t ∈ g.before, t.Written)
    (hd : ∀ t ∈ done, t.Written) (h : nest outer done lexemes = some ts) :
    ∀ t ∈ ts, t.Written := by
  -- A delimiter moves tokens between `done` and the open groups, so both are part of the claim.
  induction lexemes generalizing outer done with
  | nil =>
      rw [nest] at h
      split at h
      · cases h
        exact fun t ht => hd t (List.mem_reverse.mp ht)
      · cases h
  | cons l lexemes ih =>
      obtain ⟨hl, hrest⟩ := List.forall_mem_cons.mp hl
      cases l with
      | leaves trees =>
          refine ih hrest ho ?_ h
          intro t ht
          rcases List.mem_append.mp ht with ht | ht
          · exact hl t (List.mem_reverse.mp ht)
          · exact hd t ht
      | opening d s =>
          exact ih hrest (List.forall_mem_cons.mpr ⟨hd, ho⟩) (by simp) h
      | closing d s =>
          cases outer with
          | nil => cases h
          | cons g outer =>
              obtain ⟨hg, ho⟩ := List.forall_mem_cons.mp ho
              rw [nest] at h
              split at h
              · refine ih hrest ho (List.forall_mem_cons.mpr ⟨?_, hg⟩) h
                exact allWritten_iff.mpr fun t ht => hd t (List.mem_reverse.mp ht)
              · cases h

theorem ofText?_written {text : String} {ts : List TokenTree} (h : ofText? text = some ts) :
    ∀ t ∈ ts, t.Written := by
  obtain ⟨lexemes, hlexemes, hnest⟩ := Option.bind_eq_some_iff.mp h
  have hl := lexemes_gives.all? (fun _ _ => trivial) hlexemes
  exact nest_written hl (by simp) (by simp) hnest

end TokenTree

/-! ## Fields -/

/-- Whether the field's name, if it has one, is an identifier. Every field that was read from a
text has such a name. -/
def Field.NameWritten (f : Field) : Prop := ∀ n ∈ f.name, isIdentifier n.1.name

/-- Whether the names of all fields are written. -/
def Fields.NamesWritten (fs : Fields) : Prop := ∀ f ∈ fs.toList, f.NameWritten

/-- Whether the names of the item's fields are written, if it is a struct. -/
def Item.NamesWritten (i : Item) : Prop := ∀ fs, i.body = .ofStruct fs → fs.NamesWritten

namespace Grammar

open StagedBuilder.Parser StagedBuilder.Parser.Yields Reader

/-- Readers are asked for what they give where tokens are written. -/
abbrev Gives {α : Type} (p : Reader α) (Q : α → Prop) : Prop := Yields TokenTree.Written p Q

theorem identIf_gives (test : Ident → Bool) :
    Gives (identIf test) fun r => isIdentifier r.1.name := by
  refine one fun t r ht h => ?_
  split at h
  · split at h
    · cases h
      exact ht
    · cases h
  · cases h

theorem inGroup_gives {α : Type} {delim : Delim} {inside : Reader α} {Q : α → Prop}
    (h : Gives inside Q) : Gives (inGroup delim inside) Q := by
  refine one fun t a ht ha => ?_
  split at ha
  · split at ha
    · exact h.all? (TokenTree.allWritten_iff.mp ht) ha
    · cases ha
  · cases ha

theorem placed_gives {field : Reader Field} (h : Gives field Field.NameWritten) :
    Gives (placed field) Field.NameWritten :=
  bind (withInput h) fun _ hr => pure hr

variable (g : Grammar)

theorem namedField_gives : Gives g.namedField Field.NameWritten := by
  refine placed_gives (after fun _ => after fun _ => bind (identIf_gives _) fun r hr =>
    after fun _ => after fun _ => pure ?_)
  rintro n hn
  cases hn
  exact hr

theorem unnamedField_gives : Gives g.unnamedField Field.NameWritten := by
  refine placed_gives (after fun _ => after fun _ => after fun _ => pure ?_)
  rintro n hn
  cases hn

theorem structBody_gives : Gives g.structBody fun r => r.2.NamesWritten := by
  refine after fun isTuple => ite (fun _ => ?_) fun _ => after fun _ => after fun isBraced =>
    ite (fun _ => ?_) fun _ => ?_
  · exact bind (inGroup_gives (sepEnd g.unnamedField_gives)) fun fs hfs =>
      after fun _ => after fun _ => pure hfs
  · exact bind (inGroup_gives (sepEnd g.namedField_gives)) fun fs hfs => pure hfs
  · exact after fun _ => pure (by simp [Fields.NamesWritten, Fields.toList])

theorem structItem_gives (v : Visibility) : Gives (g.structItem v) Item.NamesWritten := by
  refine after fun _ => after fun _ => after fun _ => bind g.structBody_gives fun r hr => pure ?_
  rintro fs hfs
  cases hfs
  exact hr

theorem enumItem_gives (v : Visibility) : Gives (g.enumItem v) Item.NamesWritten := by
  refine after fun _ => after fun _ => after fun _ => after fun _ => after fun _ => pure ?_
  rintro fs hfs
  cases hfs

theorem unionItem_gives (v : Visibility) : Gives (g.unionItem v) Item.NamesWritten := by
  refine after fun _ => after fun _ => after fun _ => after fun _ => after fun _ => pure ?_
  rintro fs hfs
  cases hfs

theorem anyDefinition_gives : Gives g.anyDefinition Item.NamesWritten := by
  refine after fun _ => after fun v => after fun _ => ite (fun _ => g.structItem_gives v) fun _ =>
    after fun _ => ite (fun _ => g.enumItem_gives v) fun _ => g.unionItem_gives v

theorem onlyStruct_gives : Gives g.onlyStruct Item.NamesWritten :=
  after fun _ => after fun v => g.structItem_gives v

end Grammar

theorem readText_gives {α : Type} {reader : Grammar → Reader α} {Q : α → Prop}
    (hr : ∀ g, Grammar.Gives (reader g) Q) {text : String} {a : α}
    (h : readText reader text = .ok a) : Q a := by
  rw [readText] at h
  split at h
  · cases h
  · next tokens htokens =>
      split at h
      · cases h
      · next a' ha =>
          cases h
          exact (hr _).all? (TokenTree.ofText?_written htokens) ha

/-- The names of a struct's fields are identifiers, whatever text it was read from. -/
theorem Item.names_written {text : String} {i : Item}
    (h : Item.ofText text = .ok i ∨ Item.structOfText text = .ok i) : i.NamesWritten := by
  rcases h with h | h
  · exact readText_gives Grammar.anyDefinition_gives h
  · exact readText_gives Grammar.onlyStruct_gives h

/-! ## Computing with what is read -/

/-- What is computed of a text and of its blueprint is true of what is read. -/
theorem Item.exists_read {α : Type} {text : String} {view : Item → Blueprint → α} {a : α}
    (h : ((Item.ofText text).toOption.bind fun i => i.blueprint.toOption.map (view i)) = some a) :
    ∃ i b, Item.ofText text = .ok i ∧ i.blueprint = .ok b ∧ view i b = a := by
  obtain ⟨i, hi, h⟩ := Option.bind_eq_some_iff.mp h
  obtain ⟨b, hb, hview⟩ := Item.exists_blueprint h
  exact ⟨i, b, except_eq_ok_of_toOption hi, hb, hview⟩

end StagedBuilder
