import StagedBuilder.Record.Template

/-!
# Probes

A record whose values tell when they are made, converted and dropped, and so show what a
builder does with them. A value that an optional field starts from is dropped when the field is
set; values that are in a builder when it is abandoned are forgotten, and those in a finished
record are dropped with it, field by field.
-/

namespace StagedBuilder.Probe

/-- The probe's values are known by their names; one of them is called `default`. -/
def template : Template where
  item := .struct "Probe" [
    .of [] "req" (.named "Noisy"),
    .of [.call "default" [.ident (.plain "Noisy") .nowhere, .punct ':' true .nowhere,
      .punct ':' false .nowhere, .ident (.plain "new") .nowhere,
      .group .paren [.literal .string "\"init\"" .nowhere] .nowhere]] "def" (.named "Noisy"),
    .of [.bare "default"] "zero" (.named "Noisy"),
    .of [] "opt" (.applied "Option" (.named "Noisy")),
    .of [.bare "not_null", .bare "into"] "nn" (.applied "Option" (.named "Noisy"))]
  ofType := fun _ => .text "default"

/-- What a value reports, if there is one that can. -/
def report (what : String) (v : Value) : List String :=
  v.wrappedText?.toList.map fun name => what ++ " " ++ name

/-- What is reported of an event. -/
def eventReport : Event Value → List String
  | .initialized v => report "new" v
  | .converted v => report "into" v
  | .dropped v => report "drop" v

/-- What is reported when an argument is made. The argument of a setter that converts it is a
mere text. -/
def argumentReport (b : Blueprint) (field : String) (v : Value) : List String :=
  if b.fields.any fun f => f.name.text == field && f.into then [] else report "new" v

/-- Makes the calls one after the other, and gathers what is reported on the way. -/
def callReports (b : Blueprint) (s : Session Value) :
    List (String × Value) → Except Refusal (Session Value × List String)
  | [] => .ok (s, [])
  | (field, v) :: calls => do
    let next ← b.call template.meaning { s with events := [] } field (some v)
    let (last, reports) ← callReports b next calls
    return (last, argumentReport b field v ++ next.events.flatMap eventReport ++ reports)

/-- What is reported when what is in hand goes away. -/
def endReports (s : Session Value) : List String := s.holding.goAway.flatMap eventReport

/-- Everything that is reported in the life of a probe's builder: it is started, the calls are
made, it is asked for the probe or not, and what is in hand goes away after the end has been
told. -/
def lifecycle? (build : Bool) (calls : List (String × Value)) : Option (List String) :=
  (do
    match template.item.blueprint with
    | .error _ => throw (.noMethod "builder")
    | .ok b =>
      let s ← b.start template.meaning
      let (s', reports) ← callReports b s calls
      let last ← if build then b.call template.meaning s' "build" none else pure s'
      return s.events.flatMap eventReport ++ reports ++ ["end"] ++ endReports last :
    Except Refusal (List String)).toOption

end StagedBuilder.Probe
