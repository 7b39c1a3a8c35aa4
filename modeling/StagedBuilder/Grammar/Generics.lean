import StagedBuilder.Grammar.Types

/-!
# The grammar of what items share

Visibility, parameters, where clauses and fields. They are read the same way for the item that
is asked for and for the items inside the blocks of its expressions.
-/

namespace StagedBuilder.Grammar

open StagedBuilder.Parser Reader

variable (g : Grammar)

/-! ## Visibility -/

/-- Reads what narrows `pub`: a module, or a path after `in`. -/
def restriction : Reader Visibility := do
  if ← optWord "in" then
    let (absolute, path) ← modPath
    return .restricted true absolute path
  else
    let (i, _) ← identIf fun i => !i.raw && ["crate", "self", "super"].contains i.name
    return .restricted false false [i]

/-- Reads a visibility, which may be empty. Parentheses behind `pub` that hold no module belong
to what follows. -/
def visibility : Reader Visibility := do
  if ← optWord "pub" then
    return (← optional (inGroup .paren restriction)).getD .isPublic
  else if (← seesWord "crate") && !(← lookahead (do let _ ← keyword "crate"; op "::")) then
    let _ ← keyword "crate"
    return .crate
  else return .inherited

/-! ## Parameters -/

/-- Reads a bound of a parameter, and answers whether it is marked `~const` beside it. -/
def markedBound : Reader (Bool × Bound) := do
  let isMarked ← optConstMark
  return (isMarked, ← g.bound)

def typeParam (attrs : List Attribute) : Reader GenericParam := do
  let n ← name
  let hasColon ← optOp ":"
  let start ← position
  let bounds ← if hasColon then sepEnd g.markedBound (op "+") else pure ⟨[], false⟩
  let value ← whenSeen (sees "=") (do op "="; g.ty true)
  if bounds.items.any Prod.fst then return .unread attrs n (← since start)
  else return .type attrs n (bounds.items.map Prod.snd) bounds.trailing value

def constParam (attrs : List Attribute) : Reader GenericParam := do
  let _ ← keyword "const"
  let n ← name
  op ":"
  let t ← g.ty true
  let value ← whenSeen (sees "=") (do
    op "="
    g.constArg <|> (do return [.path (.plain (.ofIdent (← name)))]))
  return .const attrs n t value

def param : Reader GenericParam := do
  let attrs ← attributes
  if ← seesLifetime then
    let p ← lifetimeParam
    return .lifetime { p with attrs := attrs }
  else if ← seesWord "const" then g.constParam attrs
  else if ← seesWord "_" then return .type attrs (← anyIdent) [] false none
  else g.typeParam attrs

def params : Reader (Separated GenericParam) := do
  if ← optOp "<" then
    let ps ← sepEnd g.param comma
    op ">"
    return ps
  else return ⟨[], false⟩

def predicate : Reader WherePredicate := do
  if ← lookahead (do let _ ← lifetime; op ":") then
    let l ← lifetime
    op ":"
    let bounds ← sepEnd lifetime (op "+")
    return .lifetime l bounds.items bounds.trailing
  else
    let b ← optBinder
    let t ← g.ty true
    op ":"
    let bounds ← g.boundSum
    return .type b t bounds.items bounds.trailing

def whereClause : Reader (Separated WherePredicate) := do
  if ← optWord "where" then sepEnd g.predicate comma else return ⟨[], false⟩

/-! ## Fields -/

/-- Reads a field and adds the stretch it takes up. -/
def placed (field : Reader Field) : Reader Field := do
  let (f, tokens) ← withInput field
  return { f with span := (TokenTree.spanOf tokens).getD f.span }

/-- Reads a field with a name. The underscore is accepted as one. -/
def namedField : Reader Field :=
  placed (do
    let attrs ← attributes
    let v ← visibility
    let (i, s) ← identIf fun i => isName i || i == .plain "_"
    op ":"
    return ⟨attrs, v, some (i, s), ← g.ty true, s⟩)

def unnamedField : Reader Field :=
  placed (do
    let attrs ← attributes
    let v ← visibility
    return ⟨attrs, v, none, ← g.ty true, default⟩)

def namedFields : Reader (Separated Field) := inGroup .brace (sepEnd g.namedField comma)

def unnamedFields : Reader (Separated Field) := inGroup .paren (sepEnd g.unnamedField comma)

end StagedBuilder.Grammar
