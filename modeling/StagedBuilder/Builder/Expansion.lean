import StagedBuilder.Builder.Blueprint

/-!
# The expansion of a blueprint

The module that a struct's builder lives in, item by item. The builder type has the struct's
own parameters and one more for the state of each field. Its methods are spread over several
`impl`s, and which states an `impl` names decides when its methods exist:

* `builder` starts with every field unset;
* the setter of a field exists while that field is unset, whatever the others are;
* `build` exists when every required field is set;
* the pointer methods and the two ways out that check nothing exist always.

A method's body is kept as what it does to the storage of the value being built.
-/

namespace StagedBuilder

/-- The arguments of the builder type: the struct's own parameters, then one state for each
field. -/
structure BuilderArgs where
  params : List String
  states : List String
deriving DecidableEq, Repr, Inhabited

namespace BuilderArgs

def toList (a : BuilderArgs) : List String := a.params ++ a.states

end BuilderArgs

/-! ## Values -/

/-- The value that a field has from the start. -/
inductive InitialValue where
  /-- The value `None`. -/
  | absent
  /-- What the field's type has as its default. -/
  | ofType
  /-- What an expression gives. -/
  | expression (tokens : List TokenTree)
deriving Inhabited

/-- The value that the field has from the start, if it has one. -/
def FieldSpec.initial? (f : FieldSpec) : Option InitialValue :=
  match f.kind with
  | .nullable _ => some .absent
  | .defaulted none => some .ofType
  | .defaulted (some tokens) => some (.expression tokens)
  | .required | .notNull _ => none

/-- Writes a field's first value. -/
structure Initializer where
  field : Ident
  ty : Ty
  value : InitialValue
deriving Inhabited

/-! ## Methods -/

/-- What a method does with the storage of the value being built. -/
inductive Body where
  /-- Begins with an empty storage and writes what fields have from the start. -/
  | start (initializers : List Initializer)
  /-- Converts the argument if `into` says so, wraps it into `Some` if `wrap` does, and stores
  it in the field, dropping the field's old value if `dropOld` says that there is one. -/
  | store (field : Ident) (into : Bool) (wrap : Bool) (dropOld : Bool)
  /-- Gives a pointer to the field. -/
  | pointer (field : Ident)
  /-- Gives the storage itself away. -/
  | release
  /-- Takes the storage for a finished value. -/
  | assumeInit
  /-- Leaves it to the method that takes the storage for a finished value. -/
  | finish
deriving Inhabited

/-- How a method takes the builder. -/
inductive Receiver where
  | nothing
  | owned
  | ownedMut
  | borrowedMut
deriving DecidableEq, Repr, Inhabited

/-- The value a method takes. With `into` it may be anything that converts into the type. -/
structure Parameter where
  ty : Ty
  into : Bool
deriving Inhabited

/-- What a method gives. -/
inductive Output where
  /-- The builder in the state that the `impl` is for. -/
  | self
  /-- The builder in these states. -/
  | builder (args : BuilderArgs)
  /-- The struct. -/
  | struct
  /-- The storage of the struct. -/
  | storage
  /-- A pointer to a value of the type. -/
  | pointer (ty : Ty)
deriving Inhabited

/-- A documentation line, as it is written or as it is computed. -/
inductive Doc where
  | line (text : String)
  | computed (text : String)
deriving Inhabited

structure Method where
  docs : List Doc
  isUnsafe : Bool
  name : Ident
  receiver : Receiver
  parameter : Option Parameter
  output : Output
  body : Body
deriving Inhabited

/-! ## Items -/

/-- What an `impl` binds and what it asks of that. -/
structure ImplHead where
  params : List GenericParam
  states : List String
  predicates : List WherePredicate
  /-- Types that must have a default value. -/
  defaults : List Ty
deriving Inhabited

namespace ImplHead

/-- The names that the `impl` binds. Each stands for whatever is in its place. -/
def binds (h : ImplHead) : List String := h.params.map GenericParam.argument ++ h.states

end ImplHead

/-- An `impl` of the builder's own methods, for the builder in the given states. -/
structure BuilderImpl where
  head : ImplHead
  args : BuilderArgs
  methods : List Method
deriving Inhabited

/-- The `impl` that lets the struct name its builder: which one that is, and where it starts. -/
structure BuildableImpl where
  head : ImplHead
  builder : BuilderArgs
deriving Inhabited

inductive ModuleItem where
  | imports
  | builderStruct (head : ImplHead)
  | marker (name : String)
  | ofBuilder (i : BuilderImpl)
  | ofStruct (i : BuildableImpl)
deriving Inhabited

namespace Blueprint

variable (b : Blueprint)

def argsWith (states : List String) : BuilderArgs := ⟨b.paramNames, states⟩

/-- Binds the struct's parameters and these states. -/
def headWith (states : List String) : ImplHead := ⟨b.params, states, b.generics.predicates, []⟩

/-- The types of the fields that start with their type's default. -/
def defaultedTypes : List Ty :=
  b.fields.filterMap fun f =>
    match f.kind with
    | .defaulted none => some f.ty
    | _ => none

/-- Binds the struct's parameters alone and asks for the defaults that the first values need. -/
def startHead : ImplHead := { b.headWith [] with defaults := b.defaultedTypes }

/-- What is written when a builder starts. -/
def initializers : List Initializer :=
  b.fields.filterMap fun f => f.initial?.map fun value => ⟨f.name, f.ty, value⟩

/-- Starts the builder, with no field set. -/
def startMethod : Method :=
  ⟨[.line " Starts building with no required field set."], false, .plain "builder", .nothing,
    none, .self, .start b.initializers⟩

def startImpl : BuilderImpl := ⟨b.startHead, b.argsWith b.unsets, [b.startMethod]⟩

/-- Starts the builder from the struct's side. -/
def buildableImpl : BuildableImpl := ⟨b.startHead, b.argsWith b.unsets⟩

def setter (i : Nat) (f : BuilderField) : Method :=
  ⟨[.computed s!"Sets `{f.name.name}`."], false, f.name, .ownedMut, some ⟨f.setterTy, f.into⟩,
    .builder (b.argsWith (b.states.set i f.markers.set)),
    .store f.name f.into f.kind.wraps f.isOptional⟩

/-- The setter of the field at a position, for the builder in which that field is unset. -/
def setterImpl (i : Nat) (f : BuilderField) : BuilderImpl :=
  ⟨b.headWith (b.states.eraseIdx i), b.argsWith (b.states.set i f.markers.unset), [b.setter i f]⟩

def buildMethod : Method :=
  ⟨[.line " Finalize the builder."], false, .plain "build", .owned, none, .struct, .finish⟩

/-- Gives the finished struct, for the builder in which every required field is set. -/
def buildImpl : BuilderImpl :=
  ⟨b.headWith ((b.fields.filter (·.isOptional)).map (·.markers.state)),
    -- An optional field may be in any state, so its place is a parameter.
    b.argsWith (b.fields.map fun f => if f.isOptional then f.markers.state else f.markers.set),
    [buildMethod]⟩

def pointerMethod (f : BuilderField) : Method :=
  ⟨[.line " Returns a mutable pointer to this field of the value being built, for",
    .line " initialization that the setters can't express. Call `.unsafe_build()` once",
    .line " every field has been written.", .line "", .line " # Safety", .line "",
    .line " The pointee may be uninitialized."],
    true, .plain (pointerName f.name.name), .borrowedMut, none, .pointer f.ty, .pointer f.name⟩

/-- Gives the storage away. -/
def releaseMethod : Method :=
  ⟨[.line " Gives up the type-level tracking and returns the raw storage.", .line "",
    .line " # Safety", .line "", .line " Fields not set yet are uninitialized."],
    true, .plain "maybe_uninit", .owned, none, .storage, .release⟩

/-- Takes the storage for a finished struct. -/
def unsafeBuildMethod : Method :=
  ⟨[.line " Only call if every field without a setter call has been written through its",
    .line " `ptr_*` method.", .line "", .line " # Safety", .line "",
    .line " All fields must be initialized."],
    true, .plain "unsafe_build", .owned, none, .struct, .assumeInit⟩

/-- What exists in every state. -/
def escapeImpl : BuilderImpl :=
  ⟨b.headWith b.states, b.argsWith b.states,
    b.fields.map pointerMethod ++ [releaseMethod, unsafeBuildMethod]⟩

/-- The setters' `impl`s, field by field. -/
def setterImpls : List BuilderImpl := b.fields.zipIdx.map fun (f, i) => b.setterImpl i f

def impls : List BuilderImpl := b.startImpl :: b.setterImpls ++ [b.buildImpl, b.escapeImpl]

def moduleItems : List ModuleItem :=
  [.imports, .builderStruct (b.headWith b.states)] ++
  b.sets.map .marker ++ b.unsets.map .marker ++
  [.ofBuilder b.startImpl, .ofStruct b.buildableImpl] ++
  b.setterImpls.map .ofBuilder ++
  [.ofBuilder b.buildImpl, .ofBuilder b.escapeImpl]

end Blueprint

end StagedBuilder
