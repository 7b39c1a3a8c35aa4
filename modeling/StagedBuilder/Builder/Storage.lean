import StagedBuilder.Builder.Expansion

/-!
# The storage of a value being built

A builder holds the struct in the making: for each field a slot that is empty or holds a value.
The methods of a builder do a few things with it, and none of them is checked when it happens:
a value stored in a slot without dropping the old one is forgotten, and dropping or taking what
an empty slot holds has no meaning at all. So a run answers with what it did, and it is refused
where it would have no meaning.
-/

namespace StagedBuilder

/-- A slot for each field, in the order of the fields. -/
abbrev Storage (V : Type) := List (Ident × Option V)

namespace Storage

variable {V : Type}

def empty (fields : List Ident) : Storage V := fields.map fun f => (f, none)

/-- What the field's slot holds. -/
def get? (s : Storage V) (field : Ident) : Option V := (s.lookup field).join

/-- The storage with a value in the field's slot, whatever was there. -/
def put (s : Storage V) (field : Ident) (v : V) : Storage V :=
  s.map fun (f, old) => if f = field then (f, some v) else (f, old)

/-- The values of all fields, if no slot is empty. -/
def values? (s : Storage V) : Option (List (Ident × V)) :=
  s.mapM fun (f, slot) => slot.map fun v => (f, v)

end Storage

/-! ## How values are made -/

/-- How the tokens of a default end that do more than give a value. The method that starts a
builder has them among its own statements, unread, so they may do all that these may. -/
inductive Detour (V : Type) where
  /-- With a value to write, when they have left the storage like this. -/
  | value (v : V) (storage : Storage V)
  /-- With a value that is written to another builder, which took over the name for the write.
  The storage of the builder itself is left like this. -/
  | elsewhere (storage : Storage V)
  /-- With the method, which returns a builder that has this storage. -/
  | returned (storage : Storage V)
  /-- Not at all: the method never returns. -/
  | never

/-- What the tokens of a default come to. -/
inductive Evaluation (V : Type) where
  /-- They give a value, and do nothing else. -/
  | value (v : V)
  /-- They do what depends on the storage in which they are to write. -/
  | detour (run : Storage V → Detour V)

namespace Evaluation

variable {V : Type}

/-- The value, if there is one and nothing else. -/
def value? : Evaluation V → Option V
  | value v => some v
  | detour _ => none

/-- How the tokens end if this is the storage of the builder. -/
def run (s : Storage V) : Evaluation V → Detour V
  | value v => .value v s
  | detour run => run s

end Evaluation

/-- How values are made. -/
structure Meaning (V : Type) where
  /-- The value `None`. -/
  absent : V
  /-- The value `Some`, with what it holds. -/
  present : V → V
  /-- The value, converted into the type. -/
  convert : Ty → V → V
  /-- The default value of a type. -/
  ofType : Ty → V
  /-- What tokens come to in the place of an expression of the type. -/
  eval : Ty → List TokenTree → Evaluation V

/-- What happens to values during a run. -/
inductive Event (V : Type) where
  /-- A field's first value was made. -/
  | initialized (v : V)
  /-- An argument became this value. -/
  | converted (v : V)
  | dropped (v : V)
deriving DecidableEq, Repr

/-- Why a run leaves nothing. -/
inductive Misuse where
  /-- A method that takes a value was called without one. -/
  | noArgument
  /-- The slot of the field was empty where its value was needed. -/
  | emptySlot (field : Ident)
  /-- Some slot was empty where the whole value was needed. -/
  | unfinished
  /-- The method never returned. -/
  | neverReturned
deriving DecidableEq, Repr

/-- What a method leaves. -/
inductive Outcome (V : Type) where
  /-- The builder goes on. -/
  | builder (storage : Storage V)
  /-- The builder gave its storage away. -/
  | storage (storage : Storage V)
  /-- The struct, field by field. -/
  | struct (values : List (Ident × V))
deriving DecidableEq, Repr

variable {V : Type}

def InitialValue.evaluation (m : Meaning V) (ty : Ty) : InitialValue → Evaluation V
  | absent => .value m.absent
  | ofType => .value (m.ofType ty)
  | expression tokens => m.eval ty tokens

/-- Writes what fields have from the start, one after the other. A builder that is returned
before the end has not been given all of it, and there is none at all if the method never
returns. -/
def Initializer.runAll (m : Meaning V) (s : Storage V) :
    List Initializer → Option (Storage V × List (Event V))
  | [] => some (s, [])
  | i :: is =>
    match (i.value.evaluation m i.ty).run s with
    | .value v s => (runAll m (s.put i.field v) is).map fun (s, events) =>
      (s, .initialized v :: events)
    | .elsewhere s => runAll m s is
    | .returned s => some (s, [])
    | .never => none

/-- The assumption that a field's default, if it is written as tokens, gives a value and leaves
the builder alone. Nothing checks it. -/
def FieldSpec.GivesValue (m : Meaning V) (f : FieldSpec) : Prop :=
  ∀ tokens, f.kind = .defaulted (some tokens) → ∃ v, m.eval f.ty tokens = .value v

/-- That assumption for all fields. -/
def Blueprint.GivesValues (b : Blueprint) (m : Meaning V) : Prop :=
  ∀ f ∈ b.fields, f.GivesValue m

/-- Takes the storage for a finished struct. -/
def Storage.finish (s : Storage V) : Except Misuse (Outcome V × List (Event V)) :=
  match s.values? with
  | some vs => .ok (.struct vs, [])
  | none => .error .unfinished

/-- The value that a setter stores, and what happened to make it. -/
def Meaning.stored (m : Meaning V) (ty : Ty) (into wrap : Bool) (v : V) : V × List (Event V) :=
  let converted := if into then m.convert ty v else v
  (if wrap then m.present converted else converted, if into then [.converted converted] else [])

/-- Runs a method on a storage. -/
def Method.run (method : Method) (m : Meaning V) (s : Storage V) (arg : Option V) :
    Except Misuse (Outcome V × List (Event V)) :=
  match method.body with
  | .start initializers =>
    match Initializer.runAll m s initializers with
    | some (s', events) => .ok (.builder s', events)
    | none => .error .neverReturned
  | .store field into wrap dropOld =>
    match method.parameter, arg with
    | some p, some v =>
      let (value, made) := m.stored p.ty into wrap v
      -- The argument is converted before the old value is dropped.
      if dropOld then
        match s.get? field with
        | some old => .ok (.builder (s.put field value), made ++ [.dropped old])
        | none => .error (.emptySlot field)
      else .ok (.builder (s.put field value), made)
    | _, _ => .error .noArgument
  | .pointer _ => .ok (.builder s, [])
  | .release => .ok (.storage s, [])
  | .assumeInit | .finish => s.finish

end StagedBuilder
