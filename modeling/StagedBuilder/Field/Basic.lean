import StagedBuilder.Field.Kind
import StagedBuilder.Field.Marker
import StagedBuilder.Text.Quoted

/-!
# The fields of a builder

All fields of a struct, each with its markers, or the reason why there is no builder for them.
Faults are gathered: each field tells its first one, and all fields are heard. Only when every
field is sound by itself are they compared with one another. A field whose markers cannot be
written down at all ends everything, whatever the others have to tell.
-/

namespace StagedBuilder

/-- A field together with its markers. -/
structure BuilderField extends FieldSpec where
  markers : Markers
deriving Inhabited

/-- Why there is no builder. -/
inductive Rejection where
  /-- A marker would be no identifier. -/
  | unwritable (marker : String)
  /-- Something is wrong with the struct or its fields. -/
  | faults (diagnostics : List Diagnostic)
deriving DecidableEq, Repr

namespace Rejection

def unwritableMessage (marker : String) : String := Text.quoted marker ++ " is not a valid Ident"

end Rejection

/-- What becomes of one field by itself. -/
inductive Verdict where
  | sound (field : FieldSpec)
  | faulty (diagnostic : Diagnostic)
  | unwritable (marker : String)

namespace Verdict

def sound? : Verdict → Option FieldSpec
  | sound f => some f
  | _ => none

def diagnostic? : Verdict → Option Diagnostic
  | faulty d => some d
  | _ => none

def unwritable? : Verdict → Option String
  | unwritable m => some m
  | _ => none

end Verdict

/-- What becomes of a field by itself, with `self` for `Self`. A field that is sound is asked
whether its markers, as they are before any position is added, can be written. -/
def Field.verdict (self : Ty) (f : Field) : Verdict :=
  match f.classify self with
  | .error d => .faulty d
  | .ok spec =>
    match (Markers.ofBase (upperCamel spec.name.name)).unwritable? with
    | some marker => .unwritable marker
    | none => .sound spec

/-- The name of the method that gives a pointer to a field. -/
def pointerName (name : String) : String := "ptr_" ++ name

/-- Whose pointer method has the name of the field's setter, if there is such a field. -/
def pointerClash (fields : List FieldSpec) (f : FieldSpec) : Option Diagnostic :=
  (fields.find? fun other => pointerName other.name.name == f.name.name).map fun target =>
    ⟨.pointerClash f.name.name target.name.name, f.nameSpan⟩

/-- All setters that clash with pointer methods. -/
def pointerClashes (fields : List FieldSpec) : List Diagnostic :=
  fields.filterMap (pointerClash fields)

def withMarkers (fields : List FieldSpec) : List BuilderField :=
  List.zipWith (fun f m => ⟨f, m⟩) fields (assignMarkers (fields.map (·.name.name)))

/-- The field, if its markers can be written. -/
def BuilderField.written (f : BuilderField) : Except Rejection BuilderField :=
  match f.markers.unwritable? with
  | some marker => .error (.unwritable marker)
  | none => .ok f

/-- Reads fields one after the other, with `self` for `Self`. Those before them gave the fields
`sound` and the diagnostics `faults`. A fault is told at the end, a marker that cannot be
written ends the reading at once. -/
def readFields (self : Ty) (sound : List FieldSpec) (faults : List Diagnostic) :
    List Field → Except Rejection (List FieldSpec)
  | [] => if faults.isEmpty then .ok sound else .error (.faults faults)
  | f :: fs =>
    match f.verdict self with
    | .unwritable marker => .error (.unwritable marker)
    | .faulty d => readFields self sound (faults ++ [d]) fs
    | .sound spec => readFields self (sound ++ [spec]) faults fs

def checkPointers (fields : List FieldSpec) : Except Rejection Unit :=
  match pointerClashes fields with
  | [] => .ok ()
  | ds => .error (.faults ds)

/-- The fields of a builder, with `self` for `Self`, or why there is none. -/
def builderFields (self : Ty) (fields : List Field) : Except Rejection (List BuilderField) := do
  let specs ← readFields self [] [] fields
  checkPointers specs
  (withMarkers specs).mapM BuilderField.written

end StagedBuilder
