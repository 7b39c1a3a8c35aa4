import StagedBuilder.Builder.Typestate
import StagedBuilder.Builder.Storage

/-!
# Using a builder

A session follows a builder through the calls made on it: its type decides which methods exist,
its storage what they do. A session is a run of compiled code, so the methods are those that a
compiler finds. Next to them there are writes through a field's pointer, which the type knows
nothing of.
-/

namespace StagedBuilder

/-- What the calls so far have left in hand. -/
inductive Holding (V : Type) where
  | builder (args : BuilderArgs) (storage : Storage V)
  | storage (storage : Storage V)
  | struct (values : List (Ident × V))
deriving DecidableEq, Repr

/-- A builder's life so far: what is in hand, and what happened to values on the way. -/
structure Session (V : Type) where
  holding : Holding V
  events : List (Event V)
deriving DecidableEq, Repr

/-- Why a session does not go on. -/
inductive Refusal where
  /-- No such method exists for what is in hand. -/
  | noMethod (name : String)
  | misuse (m : Misuse)
deriving DecidableEq, Repr

variable {V : Type}

namespace Holding

/-- What is in hand after a method left something and the builder's type became `next`. -/
def ofOutcome (next : Option BuilderArgs) : Outcome V → Holding V
  | .builder s =>
    match next with
    | some args => .builder args s
    | none => .storage s
  | .storage s => .storage s
  | .struct vs => .struct vs

/-- What happens when nobody holds it any longer. A struct drops what is in its fields; a
builder and the storage it gave away drop nothing, and what is in their slots is forgotten. -/
def goAway : Holding V → List (Event V)
  | .builder _ _ | .storage _ => []
  | .struct vs => vs.map fun (_, v) => .dropped v

end Holding

namespace Session

/-- The session after a method ran, `before` it having happened what it says. -/
def afterRun (before : List (Event V)) (next : Option BuilderArgs)
    (result : Except Misuse (Outcome V × List (Event V))) : Except Refusal (Session V) :=
  match result with
  | .ok (outcome, events) => .ok ⟨.ofOutcome next outcome, before ++ events⟩
  | .error m => .error (.misuse m)

/-- Writes a value through the field's pointer. What was there is forgotten. -/
def write (s : Session V) (field : Ident) (v : V) : Session V :=
  match s.holding with
  | .builder args storage => { s with holding := .builder args (storage.put field v) }
  | _ => s

def struct? (s : Session V) : Option (List (Ident × V)) :=
  match s.holding with
  | .struct vs => some vs
  | _ => none

end Session

namespace Blueprint

variable (b : Blueprint)

/-- Starts a builder whose type has these arguments, if that is the type that can be started. -/
def startAt (m : Meaning V) (args : BuilderArgs) : Except Refusal (Session V) :=
  match b.startImpl.bindings? .equal args, b.startImpl.methods with
  | some _, start :: _ =>
    Session.afterRun [] (some args) (start.run m (.empty (b.fields.map (·.name))) none)
  | _, _ => .error (.noMethod "builder")

def start (m : Meaning V) : Except Refusal (Session V) := b.startAt m b.startArgs

/-- Starts the builder that the struct names as its own. -/
def startBuildable (m : Meaning V) : Except Refusal (Session V) :=
  b.startAt m b.buildableImpl.builder

def call (m : Meaning V) (s : Session V) (name : String) (arg : Option V) :
    Except Refusal (Session V) :=
  match s.holding with
  | .builder args storage =>
    match b.step? .equal args name with
    | some step => Session.afterRun s.events step.next (step.method.run m storage arg)
    | none => .error (.noMethod name)
  | _ => .error (.noMethod name)

/-- The field that the pointer is to which the method of this name gives, if it gives one. -/
def pointee? (s : Session V) (name : String) : Option Ident :=
  match s.holding with
  | .builder args _ =>
    match b.step? .equal args name with
    | some ⟨method, _⟩ =>
      match method.body with
      | .pointer field => some field
      | _ => none
    | none => none
  | _ => none

/-- Asks for the pointer of a field and writes a value through it. -/
def writeThrough (m : Meaning V) (s : Session V) (field : String) (v : V) :
    Except Refusal (Session V) :=
  match b.pointee? s (pointerName field) with
  | some target => (b.call m s (pointerName field) none).map fun next => next.write target v
  | none => .error (.noMethod (pointerName field))

def callAll (m : Meaning V) (s : Session V) (calls : List (String × V)) :
    Except Refusal (Session V) :=
  calls.foldlM (fun s (name, v) => b.call m s name (some v)) s

end Blueprint

end StagedBuilder
