import StagedBuilder.Proofs.CopiedTypes
import StagedBuilder.Proofs.FieldClassification
import StagedBuilder.Builder.Code

/-!
# What the headers of a builder bind and say

Every `impl` of the module says of each field either nothing, and then it binds the field's
state, or which of the field's two markers its state is. What is said of all fields decides all
that the header has of them: the states that it binds and the arguments of the builder type. So
each `impl` is told by one function of the fields and their positions, and a setter by two, one
for the builder it takes and one for the builder it gives.

Fields are told apart by their positions here, and nothing has to be known of their names.
-/

namespace StagedBuilder

/-! ## Lists by positions -/

section Positions

variable {α β : Type} (φ : α → β) (l : List α) (i : Nat)

theorem map_fst_zipIdx (first : Nat) : (l.zipIdx first).map (fun p => φ p.1) = l.map φ := by
  rw [show (fun p : α × Nat => φ p.1) = φ ∘ Prod.fst from rfl, ← List.map_map, List.zipIdx_map_fst]

theorem map_snd_zipIdx (ψ : Nat → β) :
    l.zipIdx.map (fun p => ψ p.2) = (List.range l.length).map ψ := by
  rw [show (fun p : α × Nat => ψ p.2) = ψ ∘ Prod.snd from rfl, ← List.map_map, List.zipIdx_map_snd,
    List.range_eq_range']

theorem eraseIdx_map_zipIdx (first : Nat) : (l.map φ).eraseIdx i =
    ((l.zipIdx first).filter fun p => p.2 ≠ first + i).map fun p => φ p.1 := by
  induction l generalizing i first with
  | nil => simp
  | cons a l ih =>
      cases i with
      | zero =>
          have hlater : ∀ p ∈ l.zipIdx (first + 1), p.2 ≠ first := fun p hp => by
            have := List.le_snd_of_mem_zipIdx hp
            omega
          rw [List.map_cons, List.eraseIdx_cons_zero, List.zipIdx_cons,
            List.filter_cons_of_neg (by simp), List.filter_eq_self.mpr (by simpa using hlater),
            map_fst_zipIdx]
      | succ i =>
          rw [List.map_cons, List.eraseIdx_cons_succ, List.zipIdx_cons,
            List.filter_cons_of_pos (by simp), List.map_cons, ih i (first + 1)]
          simp only [Nat.add_right_comm, Nat.add_assoc]

theorem set_map_zipIdx {l : List α} {i : Nat} {a : α} (ψ : α → β) (h : l[i]? = some a) :
    (l.map φ).set i (ψ a) = l.zipIdx.map fun p => if p.2 = i then ψ p.1 else φ p.1 := by
  refine List.ext_getElem? fun k => ?_
  rw [List.getElem?_set, List.getElem?_map, List.getElem?_map, List.getElem?_zipIdx]
  by_cases hk : i = k
  · subst hk
    have hlt : i < l.length := (List.getElem?_eq_some_iff.mp h).1
    simp [hlt, (List.getElem?_eq_some_iff.mp h).2]
  · cases hl : l[k]? <;> simp [hk, Ne.symm hk]

end Positions

/-! ## Parameters -/

/-- What a header leaves out of a parameter: its default, and all that follows the colon of a
parameter with a marked bound. -/
def GenericParam.dropped : GenericParam → List Piece
  | lifetime _ => []
  | type _ _ _ _ default => Piece.equals default
  | const _ _ _ none => []
  | const _ _ _ (some value) => .word "=" :: value
  | unread _ _ bounds => [.word ":", .verbatim bounds]

/-- Whether a header binds a declared parameter: under its name, and written as it was
declared, up to what is dropped. -/
structure GenericParam.KeptAs (declared bound : GenericParam) : Prop where
  name : bound.argument = declared.argument
  text : declared.pieces = bound.pieces ++ declared.dropped
  bare : bound.dropped = []

theorem GenericParam.keptAs_withoutDefault (p : GenericParam) : p.KeptAs p.withoutDefault := by
  cases p with
  | lifetime p => exact ⟨rfl, (List.append_nil _).symm, rfl⟩
  | type attrs name bounds trailing default =>
      refine ⟨rfl, ?_, rfl⟩
      simp [pieces, withoutDefault, dropped, Piece.equals]
  | const attrs name ty default =>
      refine ⟨rfl, ?_, rfl⟩
      cases default <;> simp [pieces, withoutDefault, dropped]
  | unread attrs name bounds =>
      refine ⟨rfl, ?_, rfl⟩
      simp [pieces, withoutDefault, dropped, Piece.equals, Piece.bounds]

/-! ## What is said of fields -/

/-- What is said of a field's state: nothing, or which of the markers it is. -/
inductive Standing where
  | left
  | set
  | unset
deriving DecidableEq

def Markers.argument (m : Markers) : Standing → String
  | .left => m.state
  | .set => m.set
  | .unset => m.unset

/-- What is said of the fields, each with its position. -/
abbrev Standings := Nat → BuilderField → Standing

namespace Standings

def fresh : Standings := fun _ _ => .unset

/-- What a setter takes and gives: the field at its position is unset and then set, and nothing
is said of the others. -/
def before (i : Nat) : Standings := fun j _ => if j = i then .unset else .left

def after (i : Nat) : Standings := fun j _ => if j = i then .set else .left

/-- Whatever is required is set, and nothing is said of the rest. -/
def ready : Standings := fun _ f => if f.isOptional then .left else .set

def any : Standings := fun _ _ => .left

end Standings

/-- What an `impl` has of the builder: its header, the builder it is for or that it names, and
the builders that its methods give. -/
structure ImplScope where
  head : ImplHead
  args : BuilderArgs
  results : List BuilderArgs

def Output.builder? : Output → Option BuilderArgs
  | .builder args => some args
  | _ => none

def BuilderImpl.scope (i : BuilderImpl) : ImplScope :=
  ⟨i.head, i.args, i.methods.filterMap fun m => m.output.builder?⟩

def BuildableImpl.scope (i : BuildableImpl) : ImplScope := ⟨i.head, i.builder, []⟩

def ModuleItem.scope? : ModuleItem → Option ImplScope
  | .ofBuilder i => some i.scope
  | .ofStruct i => some i.scope
  | _ => none

namespace Blueprint

variable (b : Blueprint)

def fieldArguments (s : Standings) : List String :=
  b.fields.zipIdx.map fun (f, j) => f.markers.argument (s j f)

/-- The states of the fields of which nothing is said. -/
def statesLeft (s : Standings) : List String :=
  (b.fields.zipIdx.filter fun (f, j) => s j f = .left).map fun (f, _) => f.markers.state

/-- Whether an `impl` has just what is said of the fields before it runs, and of those of the
builders it gives. -/
structure Scoped (declared : List GenericParam) (scope : ImplScope)
    (said : Standings × List Standings) : Prop where
  params : List.Forall₂ GenericParam.KeptAs declared scope.head.params
  states : scope.head.states = b.statesLeft said.1
  args : scope.args.toList = declared.map GenericParam.argument ++ b.fieldArguments said.1
  results : scope.results.map BuilderArgs.toList =
    said.2.map fun s => declared.map GenericParam.argument ++ b.fieldArguments s
  lengths : ∀ args ∈ scope.args :: scope.results,
    args.toList.length = declared.length + b.fields.length

/-- What the `impl`s of the module say of `n` fields: the two that start a builder, the
setters, the one that builds, and the one that is there always. -/
def saidInModule (n : Nat) : List (Standings × List Standings) :=
  [(.fresh, []), (.fresh, [])] ++ (List.range n).map (fun i => (.before i, [.after i])) ++
    [(.ready, []), (.any, [])]

variable {b}

theorem length_moduleItems : b.moduleItems.length = 6 + 3 * b.fields.length := by
  simp [moduleItems, sets, unsets, setterImpls]
  omega

theorem scopes_eq : b.moduleItems.filterMap ModuleItem.scope? =
    [b.startImpl.scope, b.buildableImpl.scope] ++ b.setterImpls.map BuilderImpl.scope ++
      [b.buildImpl.scope, b.escapeImpl.scope] := by
  have hmarkers : ∀ names : List String,
      (names.map ModuleItem.marker).filterMap ModuleItem.scope? = [] := by
    simp [ModuleItem.scope?]
  have hsetters : (b.setterImpls.map ModuleItem.ofBuilder).filterMap ModuleItem.scope? =
      b.setterImpls.map BuilderImpl.scope := by
    rw [List.filterMap_map]
    exact congrFun List.filterMap_eq_map _
  simp only [moduleItems, List.filterMap_append, hmarkers, hsetters]
  rfl

theorem escape_results : b.escapeImpl.scope.results = [] := by
  simp [BuilderImpl.scope, escapeImpl, pointerMethod, releaseMethod, unsafeBuildMethod,
    Output.builder?]

theorem fieldArguments_eq (s : BuilderField → Standing) :
    b.fieldArguments (fun _ f => s f) = b.fields.map fun f => f.markers.argument (s f) :=
  map_fst_zipIdx (fun f : BuilderField => f.markers.argument (s f)) b.fields 0

theorem statesLeft_eq (s : BuilderField → Standing) : b.statesLeft (fun _ f => s f) =
    (b.fields.filter fun f => s f = .left).map (·.markers.state) := by
  have hfst := congrArg (List.filter fun f => decide (s f = .left)) (List.zipIdx_map_fst 0 b.fields)
  rw [List.filter_map] at hfst
  rw [← hfst, List.map_map]
  rfl

theorem length_fieldArguments (s : Standings) : (b.fieldArguments s).length = b.fields.length := by
  simp [fieldArguments]

theorem length_argsWith (s : Standings) : (b.argsWith (b.fieldArguments s)).toList.length =
    b.generics.params.length + b.fields.length := by
  simp [argsWith, BuilderArgs.toList, paramNames, length_fieldArguments]

variable {head : ImplHead} {states : List String} {results : List BuilderArgs}
  {said : Standings} {saidAfter : List Standings}

/-- The struct's parameters are the same in every header and in front of all arguments. -/
theorem scoped_of (hparams : head.params = b.params) (hleft : head.states = b.statesLeft said)
    (hstates : states = b.fieldArguments said)
    (hresults : results = saidAfter.map fun s => b.argsWith (b.fieldArguments s)) :
    b.Scoped b.generics.params ⟨head, b.argsWith states, results⟩ (said, saidAfter) where
  params := by
    rw [hparams, params, List.forall₂_map_right_iff]
    exact List.forall₂_same.mpr fun p _ => p.keptAs_withoutDefault
  states := hleft
  args := by
    rw [hstates]
    rfl
  results := by
    rw [hresults, List.map_map]
    rfl
  lengths args hargs := by
    rw [hstates, hresults] at hargs
    rcases List.mem_cons.mp hargs with rfl | hargs
    · exact length_argsWith said
    · obtain ⟨s, -, rfl⟩ := List.mem_map.mp hargs
      exact length_argsWith s

theorem scoped_start : b.Scoped b.generics.params b.startImpl.scope (.fresh, []) := by
  refine scoped_of rfl ?_ (fieldArguments_eq fun _ => .unset).symm rfl
  have hleft : b.statesLeft .fresh = [] := (statesLeft_eq fun _ => .unset).trans (by simp)
  exact hleft.symm

theorem scoped_setter {f : BuilderField} {i : Nat} (hi : b.fields[i]? = some f) :
    b.Scoped b.generics.params (b.setterImpl i f).scope (.before i, [.after i]) := by
  -- The three lists of a setter ask each field whether it stands at the setter's position.
  have hplaces (marked : Standing) : (b.fields.zipIdx.map fun p => if p.2 = i then
        p.1.markers.argument marked else p.1.markers.state) =
      b.fieldArguments fun j _ => if j = i then marked else .left := by
    refine List.map_congr_left fun p _ => ?_
    dsimp only
    split <;> rfl
  refine scoped_of rfl ?_ ?_ ?_
  · show b.states.eraseIdx i = b.statesLeft (.before i)
    rw [states, eraseIdx_map_zipIdx _ _ _ 0, statesLeft]
    simp only [Nat.zero_add, Standings.before]
    refine congrArg (List.map _) (List.filter_congr fun p _ => ?_)
    by_cases h : p.2 = i <;> simp [h]
  · rw [states, set_map_zipIdx _ (·.markers.unset) hi]
    exact hplaces .unset
  · show [b.argsWith (b.states.set i f.markers.set)] = _
    rw [states, set_map_zipIdx _ (·.markers.set) hi]
    exact congrArg (fun states => [b.argsWith states]) (hplaces .set)

theorem scoped_build : b.Scoped b.generics.params b.buildImpl.scope (.ready, []) := by
  refine scoped_of rfl ?_ ?_ rfl
  · refine Eq.trans ?_ (statesLeft_eq fun f => if f.isOptional then .left else .set).symm
    refine congrArg (List.map _) (List.filter_congr fun f _ => ?_)
    cases f.isOptional <;> rfl
  · refine Eq.trans ?_ (fieldArguments_eq fun f => if f.isOptional then .left else .set).symm
    refine List.map_congr_left fun f _ => ?_
    split <;> rfl

theorem scoped_escape : b.Scoped b.generics.params b.escapeImpl.scope (.any, []) := by
  refine scoped_of rfl ?_ (fieldArguments_eq fun _ => .left).symm escape_results
  have hleft : b.statesLeft .any = b.states :=
    (statesLeft_eq fun _ => .left).trans (by simp [states])
  exact hleft.symm

theorem scopes_said : List.Forall₂ (b.Scoped b.generics.params)
    (b.moduleItems.filterMap ModuleItem.scope?) (saidInModule b.fields.length) := by
  rw [scopes_eq, saidInModule, ← map_snd_zipIdx]
  refine List.rel_append (List.rel_append (.cons scoped_start (.cons scoped_start .nil)) ?_)
    (.cons scoped_build (.cons scoped_escape .nil))
  rw [setterImpls, List.map_map, List.forall₂_map_left_iff, List.forall₂_map_right_iff]
  refine List.forall₂_same.mpr fun p hp => ?_
  exact scoped_setter (List.mem_zipIdx_iff_getElem?.mp hp)

theorem generics_eq {item : Item} (h : item.blueprint = .ok b) : b.generics = item.generics := by
  rw [Item.blueprint] at h
  split at h
  · cases h
  · cases h
  · cases h
  · cases h
  · obtain ⟨fs, -, rfl⟩ := Directives.map_eq_ok_iff.mp h
    rfl

/-- The module of a struct with `n` fields has `6 + 3 * n` items. Each of its `impl`s binds the
struct's parameters and the states of the fields of which it says nothing, and it names the
builder with all parameters and one argument for each field: its state, or the marker that it
is said to have. -/
theorem headers_scoped {item : Item} {b : Blueprint} (h : item.blueprint = .ok b) :
    ∃ fields, item.body = .ofStruct (.named fields) ∧
      List.Forall₂ (fun (declared : Field) (f : BuilderField) =>
        declared.name = some (f.name, f.nameSpan)) fields b.fields ∧
      b.moduleItems.length = 6 + 3 * fields.length ∧
      List.Forall₂ (b.Scoped item.generics.params) (b.moduleItems.filterMap ModuleItem.scope?)
        (saidInModule fields.length) := by
  obtain ⟨fields, hbody, hfields⟩ := Item.blueprint_fields h
  have hnames := (builderFields_classified hfields).imp fun _ _ hc => (Field.classify_ok hc).1
  refine ⟨fields, hbody, hnames, ?_, ?_⟩
  · rw [length_moduleItems, hnames.length_eq]
  · rw [hnames.length_eq, ← generics_eq h]
    exact scopes_said

def mixedText : String :=
  "struct S<'a, T: Clone = u8, const N: usize = 3> \x7b a: &'a [T; N], b: Option<u8> \x7d"

theorem headers_scoped_mixed :
    ∃ item b, Item.ofText mixedText = .ok item ∧ item.blueprint = .ok b ∧
      b.moduleItems.length = 12 ∧
      List.Forall₂ (b.Scoped item.generics.params) (b.moduleItems.filterMap ModuleItem.scope?)
        (saidInModule 2) ∧
      (b.moduleItems.filterMap ModuleItem.scope?).map (fun s => (s.head.states, s.args.toList)) =
        [([], ["'a", "T", "N", "AUnset", "BUnset"]), ([], ["'a", "T", "N", "AUnset", "BUnset"]),
         (["FieldB"], ["'a", "T", "N", "AUnset", "FieldB"]),
         (["FieldA"], ["'a", "T", "N", "FieldA", "BUnset"]),
         (["FieldB"], ["'a", "T", "N", "ASet", "FieldB"]),
         (["FieldA", "FieldB"], ["'a", "T", "N", "FieldA", "FieldB"])] ∧
      (b.moduleItems.filterMap ModuleItem.scope?).map (fun s => s.head.params.map (·.code.text)) =
        List.replicate 6 ["'a", "T : Clone", "const N : usize"] := by
  have hview : ((Item.ofText mixedText).toOption.bind fun i => i.blueprint.toOption.map fun b =>
      (b.fields.length,
        (b.moduleItems.filterMap ModuleItem.scope?).map (fun s => (s.head.states, s.args.toList)),
        (b.moduleItems.filterMap ModuleItem.scope?).map fun s => s.head.params.map (·.code.text))) =
      some (2, [([], ["'a", "T", "N", "AUnset", "BUnset"]),
         ([], ["'a", "T", "N", "AUnset", "BUnset"]),
         (["FieldB"], ["'a", "T", "N", "AUnset", "FieldB"]),
         (["FieldA"], ["'a", "T", "N", "FieldA", "BUnset"]),
         (["FieldB"], ["'a", "T", "N", "ASet", "FieldB"]),
         (["FieldA", "FieldB"], ["'a", "T", "N", "FieldA", "FieldB"])],
        List.replicate 6 ["'a", "T : Clone", "const N : usize"]) := by decide +kernel
  obtain ⟨item, b, ht, h, hview⟩ := Item.exists_read hview
  rw [Prod.mk.injEq, Prod.mk.injEq] at hview
  obtain ⟨hn, hargs, hparams⟩ := hview
  obtain ⟨fields, -, hnames, hlength, hscoped⟩ := headers_scoped h
  rw [hnames.length_eq, hn] at hlength hscoped
  exact ⟨item, b, ht, h, hlength, hscoped, hargs, hparams⟩

def markedText : String := "struct G<T: Copy + ~const Clone> \x7b a: T \x7d"

/-- No header keeps anything of the bounds, though the parameter has no default. -/
theorem marked_bounds_dropped :
    ∃ item b, Item.ofText markedText = .ok item ∧ item.blueprint = .ok b ∧
      item.generics.params.map (·.code.text) = ["T : Copy + ~ const Clone"] ∧
      (b.moduleItems.filterMap ModuleItem.scope?).map (fun s => s.head.params.map (·.code.text)) =
        List.replicate 5 ["T"] ∧
      ¬ ∀ s ∈ b.moduleItems.filterMap ModuleItem.scope?,
        s.head.params.map (·.code.text) = item.generics.params.map (·.code.text) := by
  have hview : ((Item.ofText markedText).toOption.bind fun i => i.blueprint.toOption.map fun b =>
      (i.generics.params.map (·.code.text), (b.moduleItems.filterMap ModuleItem.scope?).map fun s =>
        s.head.params.map (·.code.text))) =
      some (["T : Copy + ~ const Clone"], List.replicate 5 ["T"]) := by decide +kernel
  obtain ⟨item, b, ht, h, hview⟩ := Item.exists_read hview
  rw [Prod.mk.injEq] at hview
  obtain ⟨hdeclared, hbound⟩ := hview
  refine ⟨item, b, ht, h, hdeclared, hbound, fun hkept => ?_⟩
  have hall := List.map_congr_left hkept
  rw [hbound, hdeclared, List.map_const'] at hall
  exact absurd ((List.replicate_inj.mp hall).2.resolve_left (by decide)) (by decide)

end Blueprint

end StagedBuilder
