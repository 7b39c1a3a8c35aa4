import StagedBuilder.Grammar.Nesting
import StagedBuilder.Token.Lexer

/-!
# The grammar of items

The items that a builder can be asked for: structs, enums and unions. The readers of whole
texts stand at the end: they tell a text that is no sequence of tokens from one whose tokens
are no item.
-/

namespace StagedBuilder

namespace Grammar

open StagedBuilder.Parser Reader

variable (g : Grammar)

/-- Reads what follows the parameters of a struct: its where clause and its fields. -/
def structBody : Reader (List WherePredicate × Fields) := do
  if ← seesGroup .paren then
    let fs ← g.unnamedFields
    let predicates ← g.whereClause
    op ";"
    return (predicates.items, .unnamed fs.items)
  else
    let predicates ← g.whereClause
    if ← seesGroup .brace then
      let fs ← g.namedFields
      return (predicates.items, .named fs.items)
    else
      op ";"
      return (predicates.items, .unit)

def structItem (v : Visibility) : Reader Item := do
  let _ ← keyword "struct"
  let (i, s) ← locatedName
  let ps ← g.params
  let (predicates, fields) ← g.structBody
  return ⟨v, i, s, ⟨ps.items, predicates⟩, .ofStruct fields⟩

def enumItem (v : Visibility) : Reader Item := do
  let k ← keyword "enum"
  let (i, s) ← locatedName
  let ps ← g.params
  let predicates ← g.whereClause
  let _ ← g.variants
  return ⟨v, i, s, ⟨ps.items, predicates.items⟩, .ofEnum k⟩

def unionItem (v : Visibility) : Reader Item := do
  let k ← keyword "union"
  let (i, s) ← locatedName
  let ps ← g.params
  let predicates ← g.whereClause
  let _ ← g.namedFields
  return ⟨v, i, s, ⟨ps.items, predicates.items⟩, .ofUnion k⟩

/-- Reads an item that may be a struct only. -/
def onlyStruct : Reader Item := do
  let _ ← attributes
  g.structItem (← visibility)

/-- Reads a struct, an enum or a union. -/
def anyDefinition : Reader Item := do
  let _ ← attributes
  let v ← visibility
  if ← seesWord "struct" then g.structItem v
  else if ← seesWord "enum" then g.enumItem v
  else g.unionItem v

end Grammar

/-- Why a text is not read. -/
inductive SourceError where
  /-- It cannot be cut into tokens, or its delimiters do not match. -/
  | tokens
  /-- Its tokens are not what was asked for. -/
  | grammar
deriving DecidableEq, Repr

/-- Reads a whole text. -/
def readText {α : Type} (reader : Grammar → Reader α) (text : String) : Except SourceError α :=
  match TokenTree.ofText? text with
  | none => .error .tokens
  | some tokens =>
    match (reader (.forTokens tokens)).all? tokens with
    | none => .error .grammar
    | some a => .ok a

/-- The item that a text defines. -/
def Item.ofText (text : String) : Except SourceError Item := readText Grammar.anyDefinition text

/-- The item that a text defines, if only a struct will do. -/
def Item.structOfText (text : String) : Except SourceError Item := readText Grammar.onlyStruct text

/-- The type that a text denotes. -/
def Ty.ofText (text : String) : Except SourceError Ty := readText (fun g => g.ty true) text

end StagedBuilder
