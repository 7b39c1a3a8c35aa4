import StagedBuilder.Proofs.RecordMaking
import StagedBuilder.Record.Basic

/-!
# Orcs are known by their rendering

The name of an orc is shown as it is, so it may look like the rest of a rendering itself. Such
a name misleads nobody who reads from the end: a decimal number holds no equals sign, so the
last one of a rendering is the one in front of the age. It tells where the name ends, and both
parts can be read back (`Orc.display_inj`).

An orc can be made by its constructor, by its builder from either side, as a copy, and by
writes through the builder's pointers. It is the same orc each time, whatever comes first, its
name or its age (`Record.make?_orc`).
-/

namespace StagedBuilder

/-! ## Decimal numbers -/

theorem decimal_eq_repr (n : Int) : decimal n = n.repr := by
  cases n with
  | ofNat k => rfl
  | negSucc k =>
      rw [decimal, if_pos (Int.negSucc_lt_zero k)]
      rfl

theorem not_mem_decimal {c : Char} (hdigit : ¬ c.isDigit) (hminus : c ≠ '-') (n : Int) :
    c ∉ (decimal n).toList := by
  have hrepr : ∀ k : Nat, c ∉ (Nat.repr k).toList := by
    intro k hc
    rw [Nat.toList_repr] at hc
    exact hdigit (Nat.isDigit_of_mem_toDigits (by decide) (by decide) hc)
  rw [decimal]
  split
  · have hsign : "-".toList = ['-'] := by decide
    rw [String.toList_append, hsign, List.singleton_append, List.mem_cons, not_or]
    exact ⟨hminus, hrepr _⟩
  · exact hrepr _

/-- A separator that does not occur behind it tells what stands on its two sides. -/
theorem last_separator_inj {α : Type} {c : α} {before before' after after' : List α}
    (h : c ∉ after) (h' : c ∉ after') (he : before ++ c :: after = before' ++ c :: after') :
    before = before' ∧ after = after' := by
  -- If one side in front were longer, it would end in a separator behind that of the other.
  rcases List.append_eq_append_iff.mp he with ⟨rest, hbefore, hafter⟩ | ⟨rest, hbefore, hafter⟩
  · cases rest with
    | nil =>
        rw [List.append_nil] at hbefore
        exact ⟨hbefore.symm, (List.cons.inj hafter).2⟩
    | cons d rest =>
        refine absurd ?_ h
        rw [(List.cons.inj hafter).2]
        exact List.mem_append_right _ List.mem_cons_self
  · cases rest with
    | nil =>
        rw [List.append_nil] at hbefore
        exact ⟨hbefore, (List.cons.inj hafter).2.symm⟩
    | cons d rest =>
        refine absurd ?_ h'
        rw [(List.cons.inj hafter).2]
        exact List.mem_append_right _ List.mem_cons_self

namespace Orc

/-! ## Renderings -/

/-- A rendering, cut at its last equals sign. -/
theorem display_toList (o : Orc) :
    o.display.toList = ("Orc(name=".toList ++ o.name.toList ++ ", age".toList) ++
      '=' :: ((decimal o.age.toInt).toList ++ [')']) := by
  have hage : ", age=".toList = ", age".toList ++ ['='] := by decide
  have hend : ")".toList = [')'] := by decide
  simp only [display, String.toList_append, hage, hend, List.append_assoc, List.cons_append,
    List.nil_append]

theorem display_inj {o o' : Orc} : o.display = o'.display ↔ o = o' := by
  refine ⟨fun h => ?_, congrArg display⟩
  have hbehind : ∀ n : Int, '=' ∉ (decimal n).toList ++ [')'] := by
    intro n
    rw [List.mem_append, not_or]
    exact ⟨not_mem_decimal (by decide) (by decide) n, by decide⟩
  have hl := congrArg String.toList h
  rw [display_toList, display_toList] at hl
  obtain ⟨hname, hage⟩ := last_separator_inj (hbehind _) (hbehind _) hl
  have hname := String.toList_inj.mp (List.append_cancel_left (List.append_cancel_right hname))
  have hage := String.toList_inj.mp (List.append_cancel_right hage)
  rw [decimal_eq_repr, decimal_eq_repr] at hage
  have hage := Int32.toInt_inj.mp (Int.repr_injective hage)
  cases o
  cases o'
  exact congrArg₂ Orc.mk hname hage

/-! ## Ways to make an orc -/

/-- Both fields of an orc need a value, and keep it as it is. None of the names that are made
up for them is taken. -/
theorem exists_blueprint : ∃ b, template.item.blueprint = .ok b ∧
    b.fields.map (·.name) = [.plain "name", .plain "age"] ∧
    (∀ f ∈ b.fields, ¬ f.kind.wraps) ∧ b.Uncaptured ∧ b.escapeImpl.head.binds.Nodup := by
  have hview : template.item.blueprint.toOption.map (fun b =>
      (b.fields.map (·.name), b.fields.all fun f => !f.kind.wraps,
        decide (b.states ++ b.sets ++ b.unsets).Nodup, b.paramNames,
        decide b.escapeImpl.head.binds.Nodup)) =
      some ([.plain "name", .plain "age"], true, true, [], true) := by decide +kernel
  obtain ⟨b, h, hview⟩ := Item.exists_blueprint hview
  simp only [Prod.mk.injEq, List.all_eq_true, Bool.not_eq_true', ← Bool.not_eq_true,
    decide_eq_true_eq] at hview
  obtain ⟨hnames, hwraps, hdistinct, hparams, hbinds⟩ := hview
  exact ⟨b, h, hnames, hwraps, ⟨hdistinct, by simp [hparams]⟩, hbinds⟩

section Making

variable {o : Orc} {b : Blueprint} (hnames : b.fields.map (·.name) = [.plain "name", .plain "age"])

theorem fields_keys (o : Orc) : o.fields.map (·.1) = ["name", "age"] := rfl

include hnames

/-- The fields of an orc are all that its builder needs. -/
theorem supplied : b.Supplied o.fields := by
  have hsetters : b.setterNames = ["name", "age"] := by
    rw [Blueprint.setterNames, ← Function.comp_def Ident.text, ← List.map_map, hnames]
    rfl
  refine ⟨?_, ?_, ?_, fun f hf _ => ?_⟩
  · rw [hsetters]
    decide
  · rw [fields_keys]
    decide
  · rw [fields_keys, hsetters]
    exact List.Subset.refl _
  · rw [fields_keys, ← hsetters]
    exact List.mem_map_of_mem hf

/-- An orc is read off the values of its fields, in the order in which the struct declares
them. -/
theorem ofValues?_eq {value : BuilderField → Value}
    (hvalue : ∀ f ∈ b.fields, ∀ v, (f.name.text, v) ∈ o.fields → value f = v) :
    ofValues? (b.fields.map fun f => (f.name, value f)) = some o := by
  obtain ⟨f, rest, hfields, hf, hrest⟩ := List.map_eq_cons_iff.mp hnames
  obtain ⟨g, rest, rfl, hg, hrest⟩ := List.map_eq_cons_iff.mp hrest
  obtain rfl := List.map_eq_nil_iff.mp hrest
  rw [hfields] at hvalue ⊢
  have hname : value f = .text o.name := by
    refine hvalue f List.mem_cons_self _ ?_
    rw [hf]
    exact List.mem_cons_self
  have hage : value g = .number o.age.toInt := by
    refine hvalue g (List.mem_cons_of_mem _ List.mem_cons_self) _ ?_
    rw [hg]
    exact List.mem_cons_of_mem _ List.mem_cons_self
  rw [List.map_cons, List.map_cons, List.map_nil, hname, hage, ofValues?, Int32.ofInt_toInt]

end Making

section Entries

variable {o : Orc} {entries : List (String × Value)} (h : entries.Perm o.fields)

include h

/-- Setters make an orc, and so do writes through pointers. -/
theorem build?_eq (route : Route) :
    build? route entries = some o ∧ buildThroughPointers? entries = some o := by
  obtain ⟨b, hb, hnames, hwraps, hu, hbinds⟩ := exists_blueprint
  have hs : b.Supplied entries := (supplied hnames).perm h.symm
  have hplain : ∀ f ∈ b.fields, f.name.text = f.name.name := by
    have hall : ∀ i ∈ b.fields.map (·.name), i.text = i.name := by
      rw [hnames]
      decide
    exact List.forall_mem_map.mp hall
  refine ⟨?_, ?_⟩
  · rw [build?, Template.build?_eq hb hs hu route]
    refine ofValues?_eq hnames fun f hf v hv => ?_
    rw [Blueprint.held, lookup_of_mem hs.once (h.mem_iff.mpr hv), Option.getD_some,
      Template.given_eq _ (hwraps f hf)]
  · rw [buildThroughPointers?, Template.buildThroughPointers?_eq hb hs hplain hbinds]
    refine ofValues?_eq hnames fun f hf v hv => ?_
    rw [hs.lastStored hf (h.mem_iff.mpr hv), Option.getD_some]

theorem new?_eq : new? entries = some o := by
  have hkeys : (o.fields.map (·.1)).Nodup := by
    rw [fields_keys]
    decide
  have hname : entries.lookup "name" = some (.text o.name) :=
    (lookup_perm hkeys h.symm "name").trans rfl
  have hage : entries.lookup "age" = some (.number o.age.toInt) :=
    (lookup_perm hkeys h.symm "age").trans rfl
  rw [new?, hname, hage]
  show some (Orc.mk o.name (.ofInt o.age.toInt)) = some o
  rw [Int32.ofInt_toInt]

end Entries

end Orc

/-- However an orc is made of the values of its fields, it is that orc. -/
theorem Record.make?_orc {o : Orc} {entries : List (String × Value)} (h : entries.Perm o.fields)
    (how : Making) : make? .orc how entries = some (orc o) := by
  cases how with
  | builder route => rw [make?, (Orc.build?_eq h route).1, Option.map_some]
  | constructor => rw [make?, Orc.new?_eq h, Option.map_some]
  | copy => rw [make?, (Orc.build?_eq h .inherent).1, Option.map_some]
  | pointers => rw [make?, (Orc.build?_eq h .inherent).2, Option.map_some]

/-- Orcs of any names and ages can be made in any way, from entries in either order. Their
renderings are the same just if they are the same orc, which is the case just if their names
and ages are the same. -/
theorem Orc.display_identifies (how how' : Making) {name name' : String} {age age' : Int32}
    {entries entries' : List (String × Value)}
    (h : entries.Perm [("name", .text name), ("age", .number age.toInt)])
    (h' : entries'.Perm [("name", .text name'), ("age", .number age'.toInt)]) :
    ∃ o o', Record.make? .orc how entries = some (.orc o) ∧
      Record.make? .orc how' entries' = some (.orc o') ∧
      (o.display = o'.display ↔ o = o') ∧ (o = o' ↔ name = name' ∧ age = age') := by
  refine ⟨⟨name, age⟩, ⟨name', age'⟩, Record.make?_orc h how, Record.make?_orc h' how', display_inj,
    ?_⟩
  rw [Orc.mk.injEq]

/-- A name that imitates the rest of a rendering does not make an orc look like another one,
while an orc that is made in two ways always looks the same. -/
theorem Orc.display_identifies_imitation :
    let uruk := [("name", Value.text "Uruk"), ("age", .number 3)]
    let imitation := [("age", .number (-2147483648)), ("name", Value.text "Uruk, age=3)")]
    ∃ o o' : Orc, Record.make? .orc (.builder .trait) uruk = some (.orc o) ∧
      Record.make? .orc .constructor imitation = some (.orc o') ∧
      o.display = "Orc(name=Uruk, age=3)" ∧ o'.display = "Orc(name=Uruk, age=3), age=-2147483648)" ∧
      o.display ≠ o'.display ∧
      ∃ o'', Record.make? .orc .pointers uruk.reverse = some (.orc o'') ∧
        o''.display = o.display := by
  intro uruk imitation
  have huruk : uruk.Perm [("name", .text "Uruk"), ("age", .number (3 : Int32).toInt)] := .refl uruk
  have himitation : imitation.Perm
      [("name", .text "Uruk, age=3)"), ("age", .number Int32.minValue.toInt)] := .swap _ _ []
  obtain ⟨o, o', ho, ho', hshown, hsame⟩ :=
    display_identifies (.builder .trait) .constructor huruk himitation
  obtain ⟨o'', p, ho'', hp, hshown', hsame'⟩ :=
    display_identifies .pointers (.builder .trait) ((List.reverse_perm uruk).trans huruk) huruk
  obtain rfl : o = p := Record.orc.inj (Option.some.inj (ho.symm.trans hp))
  have hmade : Record.make? .orc (.builder .trait) uruk = some (.orc ⟨"Uruk", 3⟩) :=
    Record.make?_orc huruk _
  have hmade' : Record.make? .orc .constructor imitation =
      some (.orc ⟨"Uruk, age=3)", Int32.minValue⟩) := Record.make?_orc himitation _
  refine ⟨o, o', ho, ho', ?_, ?_, ?_, o'', ho'', hshown'.mpr (hsame'.mpr ⟨rfl, rfl⟩)⟩
  · rw [Record.orc.inj (Option.some.inj (ho.symm.trans hmade))]
    decide
  · rw [Record.orc.inj (Option.some.inj (ho'.symm.trans hmade'))]
    decide
  · rw [ne_eq, hshown, hsame]
    decide

end StagedBuilder
