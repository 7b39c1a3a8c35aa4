import StagedBuilder.Builder.Expansion

/-!
# Which methods exist

A builder's type says which fields are set, and a method exists for it if the method's `impl`
is for a type that this one matches. A name that the `impl` binds matches whatever is in its
place, even if something else has that name too; every other name matches itself.

A name may be bound in several places. Following signatures name by name, the last place
counts; a compiler insists that all places hold the same.
-/

namespace StagedBuilder

/-- What becomes of a name that is bound in several places. -/
inductive Repeats where
  /-- The last place counts. -/
  | free
  /-- All places must hold the same. -/
  | equal
deriving DecidableEq, Repr

/-- What the names of an `impl` stand for, the latest first. -/
abbrev Bindings := List (String × String)

namespace Bindings

/-- What a name stands for; one that is not bound stands for itself. -/
def resolve (bs : Bindings) (name : String) : String := (bs.lookup name).getD name

/-- Whether each name is bound to one thing only. -/
def areEqual (bs : Bindings) : Bool := bs.all fun (name, value) => bs.lookup name == some value

/-- Matches the arguments that an `impl` is for with those of a builder, place by place.
`binds` are the names that the `impl` binds, and `done` what they stand for so far. -/
def ofArgs (binds : List String) (done : Bindings) : List String → List String → Option Bindings
  | [], [] => some done
  | formal :: formals, actual :: actuals =>
    if binds.contains formal then ofArgs binds ((formal, actual) :: done) formals actuals
    else if formal = actual then ofArgs binds done formals actuals
    else none
  | _, _ => none

end Bindings

namespace BuilderArgs

/-- The arguments with every bound name replaced by what it stands for. -/
def resolve (bs : Bindings) (a : BuilderArgs) : BuilderArgs :=
  ⟨a.params.map bs.resolve, a.states.map bs.resolve⟩

end BuilderArgs

namespace BuilderImpl

/-- What the names of the `impl` stand for if it is for a builder with these arguments. -/
def bindings? (i : BuilderImpl) (repeats : Repeats) (args : BuilderArgs) : Option Bindings :=
  (Bindings.ofArgs i.head.binds [] i.args.toList args.toList).filter fun bs =>
    repeats == .free || bs.areEqual

/-- The method of that name, written as it is in the `impl`, that is called on a builder. -/
def method? (i : BuilderImpl) (name : String) : Option Method :=
  i.methods.find? fun m => m.receiver != .nothing && m.name.text == name

end BuilderImpl

/-- A method that exists, and the builder's arguments after it, unless it takes the builder
away. -/
structure Step where
  method : Method
  next : Option BuilderArgs

namespace Blueprint

/-- The builder's arguments after a method, unless it takes the builder away. -/
def after (args : BuilderArgs) (bs : Bindings) : Output → Option BuilderArgs
  | .builder result => some (result.resolve bs)
  | .self | .pointer _ => some args
  | .struct | .storage => none

/-- The call of a method on a builder with these arguments, if the method exists for it. -/
def step? (b : Blueprint) (repeats : Repeats) (args : BuilderArgs) (name : String) : Option Step :=
  b.impls.findSome? fun i =>
    match i.method? name, i.bindings? repeats args with
    | some m, some bs => some ⟨m, after args bs m.output⟩
    | _, _ => none

def startArgs (b : Blueprint) : BuilderArgs := b.startImpl.args

/-- Makes calls one after the other. A call of a method that does not exist changes nothing,
and no method exists once the builder is gone. -/
def followAs (b : Blueprint) (repeats : Repeats) (state : Option BuilderArgs) :
    List String → List (Option Step)
  | [] => []
  | name :: names =>
    match state.bind fun args => b.step? repeats args name with
    | some s => some s :: b.followAs repeats s.next names
    | none => none :: b.followAs repeats state names

/-- Makes calls one after the other, following signatures name by name. -/
def follow (b : Blueprint) (state : Option BuilderArgs) (names : List String) :
    List (Option Step) :=
  b.followAs .free state names

/-- The position of the first call, among those given, that a compiler finds no method for. -/
def firstMissing? (b : Blueprint) (state : Option BuilderArgs) (position : Nat) :
    List String → Option Nat
  | [] => none
  | name :: names =>
    match state.bind fun args => b.step? .equal args name with
    | some s => b.firstMissing? s.next (position + 1) names
    | none => some position

/-! ## Types in signatures -/

def structTy (b : Blueprint) : Ty :=
  .path (.plain (.mk false
    [.mk b.name
      (.angle false (b.generics.params.map GenericParam.arg) !b.generics.params.isEmpty)]))

/-- The path of plain names, from the root, the last of them with one argument. -/
def rootPath (names : List String) (last : String) (arg : Ty) : Path :=
  .mk true (names.map (fun n => .mk (.plain n) .none) ++
    [.mk (.plain last) (.angle false [.type arg] false)])

/-- The type that a method gives, unless that is the builder. -/
def outputTy (b : Blueprint) : Output → Option Ty
  | .self | .builder _ => none
  | .struct => some b.structTy
  | .storage => some (.path (.plain (rootPath ["core", "mem"] "MaybeUninit" b.structTy)))
  | .pointer ty => some (.pointer true ty)

end Blueprint

def Parameter.argTy (p : Parameter) : Ty :=
  if p.into then
    .existential
      [.trait false false false none (Blueprint.rootPath ["core", "convert"] "Into" p.ty)] false
  else p.ty

end StagedBuilder
