import StagedBuilder.Proofs.SelfReplacement
import StagedBuilder.Proofs.WrittenNames

/-!
# `Self` in what is copied

The types of fields are copied into the builder's `impl`s, where `Self` would be the builder.
Neither a struct nor its parameters can be named `Self`, which is no name
(`Item.ofText_saysNoSelf`), so the type that takes the place of `Self` says it nowhere. What is
copied then says `Self` exactly where the declared type does without it being a whole type
(`Blueprint.copied_selfUses`): `Box<Self>` is spelled out, `[u8; Self::N]` is not, and neither
is anything in tokens that are kept as they are.
-/

namespace StagedBuilder

/-! ## What spells out `Self` -/

theorem Path.begun?_eq_none {absolute : Bool} {s : Segment} {ss : List Segment}
    (h : s.name ≠ .self) : (Path.mk absolute (s :: ss)).begun? = none := if_neg h

theorem Ty.selfUses_ofIdent {name : Ident} (h : name ≠ .self) :
    (Ty.ofIdent name).selfUses = [] := by
  have hself : ¬ (Ty.ofIdent name).isSelf := by
    simpa [Ty.isSelf, Ty.ofIdent, Path.ofIdent, Ty.ident?, Ty.path?, Path.ident?] using h
  have hbegun : (Path.ofIdent name).begun? = none := Path.begun?_eq_none h
  show (if (Ty.ofIdent name).isSelf then [SelfUse.whole] else (Path.ofIdent name).selfUses) = []
  rw [if_neg hself, Path.ofIdent, Path.selfUses, ← Path.ofIdent, hbegun]
  rfl

theorem Arg.selfUsesAll_eq_nil {as : List Arg} (h : ∀ a ∈ as, a.selfUses = []) :
    Arg.selfUsesAll as = [] := by
  induction as with
  | nil => rfl
  | cons a as ih =>
      obtain ⟨ha, has⟩ := List.forall_mem_cons.mp h
      rw [Arg.selfUsesAll, ha, ih has, List.append_nil]

/-- Whether neither the item nor one of its parameters is named `Self`. -/
structure Item.SaysNoSelf (i : Item) : Prop where
  name : i.name ≠ .self
  params : ∀ p ∈ i.generics.params, p.arg.selfUses = []

theorem Item.selfTy_selfUses {i : Item} (h : i.SaysNoSelf) : i.selfTy.selfUses = [] := by
  rw [Item.selfTy]
  split
  · exact Ty.selfUses_ofIdent h.name
  · have hargs : Arg.selfUsesAll (i.generics.params.map GenericParam.arg) = [] :=
      Arg.selfUsesAll_eq_nil (List.forall_mem_map.mpr h.params)
    show Path.selfUses _ = []
    rw [Path.selfUses, Segment.selfUsesAll, Segment.selfUsesAll, Segment.selfUses, Args.selfUses,
      hargs, Path.begun?_eq_none (s := .mk i.name _) h.name]
    rfl

namespace Grammar

open StagedBuilder.Parser StagedBuilder.Parser.Yields Reader

theorem isName_ne_self {i : Ident} (h : isName i) : i ≠ .self := by
  rintro rfl
  revert h
  decide

theorem identIf_passes (test : Ident → Bool) : Gives (identIf test) fun r => test r.1 := by
  refine one fun t r ht h => ?_
  split at h
  · split at h
    · next hi =>
        cases h
        exact hi
    · cases h
  · cases h

theorem name_gives : Gives name (· ≠ .self) :=
  bind (identIf_passes isName) fun _ hr => pure (isName_ne_self hr)

variable (g : Grammar)

theorem typeParam_gives (attrs : List Attribute) :
    Gives (g.typeParam attrs) fun p => p.arg.selfUses = [] := by
  refine bind name_gives fun n hn => after fun hasColon => after fun start => ?_
  have hmarked (bounds : Separated (Bool × Bound)) (value : Option Ty) :
      Gives (if bounds.items.any Prod.fst then do
          return GenericParam.unread attrs n (← since start)
        else return GenericParam.type attrs n (bounds.items.map Prod.snd) bounds.trailing value)
        (fun p => p.arg.selfUses = []) :=
    ite (fun _ => after fun _ => pure (Ty.selfUses_ofIdent hn)) fun _ =>
      pure (Ty.selfUses_ofIdent hn)
  exact ite (fun _ => after fun bounds => after (hmarked bounds)) fun _ =>
    after fun bounds => after (hmarked bounds)

theorem constParam_gives (attrs : List Attribute) :
    Gives (g.constParam attrs) fun p => p.arg.selfUses = [] :=
  after fun _ => bind name_gives fun _ hn => after fun _ => after fun _ => after fun _ =>
    pure (Ty.selfUses_ofIdent hn)

theorem lookahead_bind {α β : Type} (p : Reader α) (f : Bool → Reader β) (input : List TokenTree) :
    (lookahead p >>= f) input = f (p input).isSome input := by
  show Parser.bind (lookahead p) f input = _
  rw [Parser.bind, lookahead]
  dsimp only
  split
  · next hnone => exact hnone.symm
  · next hsome => exact hsome.symm

theorem keyword_seen {word : String} {input : List TokenTree}
    (h : (keyword word input).isSome) : ∃ span rest, input = .ident (.plain word) span :: rest := by
  have hread : (identIf (fun i => !i.raw && i.name == word) input).isSome := by
    replace h : (Parser.bind (identIf fun i => !i.raw && i.name == word) (fun r => Pure.pure r.2)
      input).isSome := h
    rw [Parser.bind] at h
    split at h
    · cases h
    · next heq => rw [heq]; rfl
  cases input with
  | nil => cases hread
  | cons t rest =>
      cases t with
      | ident i span =>
          obtain ⟨name, raw⟩ := i
          have hi : raw = false ∧ name = word := by
            simpa [identIf, Parser.one, Option.isSome_map] using hread
          obtain ⟨rfl, rfl⟩ := hi
          exact ⟨span, rest, rfl⟩
      | lifetime _ _ => cases hread
      | literal _ _ _ => cases hread
      | punct _ _ _ => cases hread
      | group _ _ _ => cases hread

/-- What is read where a keyword is seen begins with that keyword. -/
theorem seesWord_then {α : Type} {p q : Reader α} {Q : α → Prop} (word : String)
    (hp : ∀ span rest, ∀ a rest', p (.ident (.plain word) span :: rest) = some (a, rest') → Q a)
    (hq : Gives q Q) : Gives (do if ← seesWord word then p else q) Q := by
  intro input hinput a rest he
  replace he :
      (lookahead (keyword word) >>= fun c => if c then p else q) input = some (a, rest) := he
  rw [lookahead_bind] at he
  cases hk : (keyword word input).isSome with
  | true =>
      obtain ⟨span, rest', rfl⟩ := keyword_seen hk
      rw [hk] at he
      exact hp span rest' a rest he
  | false =>
      rw [hk] at he
      exact hq input hinput a rest he

theorem param_gives : Gives g.param fun p => p.arg.selfUses = [] := by
  refine after fun attrs => after fun _ => ite (fun _ => ?_) fun _ => after fun _ =>
    ite (fun _ => g.constParam_gives attrs) fun _ => seesWord_then "_" ?_ (g.typeParam_gives attrs)
  · exact after fun _ => pure rfl
  · intro span rest p rest' he
    cases he
    exact Ty.selfUses_ofIdent (by decide)

theorem params_gives : Gives g.params fun ps => ∀ p ∈ ps.items, p.arg.selfUses = [] := by
  refine after fun _ => ite (fun _ => ?_) fun _ => pure (by simp)
  exact bind (sepEnd g.param_gives) fun ps hps => after fun _ => pure hps

theorem structItem_saysNoSelf (v : Visibility) : Gives (g.structItem v) Item.SaysNoSelf :=
  after fun _ => bind (identIf_passes isName) fun _ hr => bind g.params_gives fun _ hps =>
    after fun _ => pure ⟨isName_ne_self hr, hps⟩

theorem enumItem_saysNoSelf (v : Visibility) : Gives (g.enumItem v) Item.SaysNoSelf :=
  after fun _ => bind (identIf_passes isName) fun _ hr => bind g.params_gives fun _ hps =>
    after fun _ => after fun _ => pure ⟨isName_ne_self hr, hps⟩

theorem unionItem_saysNoSelf (v : Visibility) : Gives (g.unionItem v) Item.SaysNoSelf :=
  after fun _ => bind (identIf_passes isName) fun _ hr => bind g.params_gives fun _ hps =>
    after fun _ => after fun _ => pure ⟨isName_ne_self hr, hps⟩

theorem anyDefinition_saysNoSelf : Gives g.anyDefinition Item.SaysNoSelf :=
  after fun _ => after fun v => after fun _ => ite (fun _ => g.structItem_saysNoSelf v) fun _ =>
    after fun _ => ite (fun _ => g.enumItem_saysNoSelf v) fun _ => g.unionItem_saysNoSelf v

end Grammar

theorem Item.ofText_saysNoSelf {text : String} {i : Item} (h : Item.ofText text = .ok i) :
    i.SaysNoSelf :=
  readText_gives Grammar.anyDefinition_saysNoSelf h

/-! ## What setters take -/

theorem Path.ident?_eq_some {p : Path} {name : Ident} (h : p.ident? = some name) :
    p = .ofIdent name := by
  rw [Path.ident?.eq_def] at h
  split at h
  · rw [Option.some.inj h, Path.ofIdent]
  · cases h

theorem Segment.selfUses_sublist {s : Segment} {ss : List Segment} (h : s ∈ ss) :
    s.selfUses.Sublist (Segment.selfUsesAll ss) := by
  induction ss with
  | nil => cases h
  | cons s' ss ih =>
      rw [Segment.selfUsesAll]
      rcases List.mem_cons.mp h with rfl | h
      · exact List.sublist_append_left _ _
      · exact (ih h).trans (List.sublist_append_right _ _)

/-- What an `Option` holds says `Self` only where the type does. -/
theorem Ty.optionInner?_selfUses {t inner : Ty} (h : t.optionInner? = some inner) :
    inner.selfUses.Sublist t.selfUses := by
  obtain ⟨absolute, segments, name, colons, trailing, rfl, hlast⟩ := Ty.optionInner?_eq_some h
  have hself : ¬ (Ty.path (.plain (.mk absolute segments))).isSelf := by
    intro hself
    have hp : Path.mk absolute segments = .ofIdent .self :=
      Path.ident?_eq_some (beq_iff_eq.mp hself)
    rw [Path.ofIdent, Path.mk.injEq] at hp
    rw [hp.2] at hlast
    cases hlast
  have hinner : inner.selfUses =
      (Segment.mk name (.angle colons [.type inner] trailing)).selfUses := by
    rw [Segment.selfUses, Args.selfUses, Arg.selfUsesAll, Arg.selfUsesAll, Arg.selfUses,
      List.append_nil]
  rw [Ty.selfUses, if_neg hself, QPath.selfUses, Path.selfUses, hinner]
  exact (Segment.selfUses_sublist (List.mem_of_getLast? hlast)).trans
    (List.sublist_append_right _ _)

namespace Blueprint

/-- In the types that are copied `Self` is spelled out as the struct where it is a whole type,
and only there: the paths that merely begin with it are those of the declared types, the word
stays in tokens that are kept unread, and setters take nothing that says `Self` elsewhere. So
nothing is left of it in a field just if the declared type says it as a whole type only. -/
theorem copied_selfUses {text : String} {item : Item} {b : Blueprint}
    (ht : Item.ofText text = .ok item) (h : item.blueprint = .ok b) :
    ∃ fields, item.body = .ofStruct (.named fields) ∧
      List.Forall₂ (fun (declared : Field) (f : BuilderField) =>
        f.ty = Ty.replaceSelf item.selfTy declared.ty ∧
          f.ty.selfUses = declared.ty.selfUses.filter (· ≠ .whole) ∧
          f.setterTy.selfUses.Sublist f.ty.selfUses ∧
          (f.ty.selfUses = [] ↔ ∀ u ∈ declared.ty.selfUses, u = .whole)) fields b.fields := by
  obtain ⟨fields, hbody, hfields⟩ := Item.blueprint_fields h
  have hself : item.selfTy.selfUses = [] := Item.selfTy_selfUses (Item.ofText_saysNoSelf ht)
  refine ⟨fields, hbody, (builderFields_classified hfields).imp fun declared f hc => ?_⟩
  have hty : f.ty = Ty.replaceSelf item.selfTy declared.ty := (Field.classify_ok hc).2.2.1
  have huses : f.ty.selfUses = declared.ty.selfUses.filter (· ≠ .whole) := by
    rw [hty]
    exact Ty.selfUses_replaceSelf_of_nil hself declared.ty
  refine ⟨hty, huses, ?_, ?_⟩
  · rcases Field.setterTy_cases hc with hsetter | hinner
    · rw [hsetter]
    · exact Ty.optionInner?_selfUses hinner
  · rw [huses]
    simp [List.filter_eq_nil_iff]

/-- A struct that says `Self` as a whole type and otherwise. -/
def nodeText : String :=
  "struct Node \x7b next: Option<Box<Self>>, bytes: [u8; Self::N], item: <Self as Has>::Item, " ++
    "unread: [u8; const \x7b Self::N \x7d] \x7d"

theorem copied_selfUses_node :
    ∃ item b fields, Item.ofText nodeText = .ok item ∧ item.blueprint = .ok b ∧
      item.body = .ofStruct (.named fields) ∧
      fields.map (·.ty.selfUses) = [[.whole], [.begun [.plain "N"]], [.whole], [.kept]] ∧
      b.fields.map (·.ty.selfUses) = [[], [.begun [.plain "N"]], [], [.kept]] := by
  have hview : ((Item.ofText nodeText).toOption.bind fun i => i.blueprint.toOption.map fun _ =>
      match i.body with
      | .ofStruct fs => fs.toList.map (·.ty.selfUses)
      | _ => []) = some [[.whole], [.begun [.plain "N"]], [.whole], [.kept]] := by decide +kernel
  obtain ⟨item, b, ht, h, hview⟩ := Item.exists_read hview
  obtain ⟨fields, hbody, hcopied⟩ := copied_selfUses ht h
  rw [hbody] at hview
  replace hview : fields.map (·.ty.selfUses) =
      [[.whole], [.begun [.plain "N"]], [.whole], [.kept]] := hview
  have huses : b.fields.map (·.ty.selfUses) =
      (fields.map (·.ty.selfUses)).map (List.filter (· ≠ .whole)) := by
    rw [List.map_map, ← List.forall₂_eq_eq_eq, List.forall₂_map_left_iff,
      List.forall₂_map_right_iff]
    exact hcopied.flip.imp fun _ _ hf => hf.2.1
  refine ⟨item, b, fields, ht, h, hbody, hview, ?_⟩
  rw [huses, hview]
  decide

/-- A struct with an array whose length is a constant of the struct. -/
def bytesText : String := "struct S \x7b a: [u8; Self::N] \x7d"

/-- The length of an array is copied as it is. In the builder's `impl`s it asks for a constant
of the builder. -/
theorem self_kept_in_length :
    ∃ item b, Item.ofText bytesText = .ok item ∧ item.blueprint = .ok b ∧
      b.fields.map (fun f => (f.name.name, f.ty.selfUses)) = [("a", [.begun [.plain "N"]])] ∧
      ¬ ∀ f ∈ b.fields, f.ty.selfUses = [] := by
  have hview : ((Item.ofText bytesText).toOption.bind fun i =>
      i.blueprint.toOption.map fun b => (b.fields.map fun f => (f.name.name, f.ty.selfUses),
        decide (∀ f ∈ b.fields, f.ty.selfUses = []))) =
      some ([("a", [.begun [.plain "N"]])], false) := by decide +kernel
  obtain ⟨item, b, ht, h, hview⟩ := Item.exists_read hview
  rw [Prod.mk.injEq, decide_eq_false_iff_not] at hview
  exact ⟨item, b, ht, h, hview⟩

end Blueprint

end StagedBuilder
