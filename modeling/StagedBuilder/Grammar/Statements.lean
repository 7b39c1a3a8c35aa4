import StagedBuilder.Grammar.Definitions

/-!
# The grammar of statements

A block holds bindings, items, calls of macros and expressions. An expression needs a semicolon
behind it, unless it is the last thing in its block or ends with a block itself. Attributes in
front of something that is kept as its tokens are lost; a binding with an `else` keeps them
among its tokens.
-/

namespace StagedBuilder.Grammar

open StagedBuilder.Parser Reader

variable (g : Grammar)

/-- Whether the call of a macro lies ahead that is a statement of its own: one with braces that
nothing is applied to, or one that gives a name. -/
def seesMacroStatement : Reader Bool :=
  lookahead (do
    let _ ← modPath
    op "!"
    if ← seesGroup .brace then
      let _ ← anyGroup
      require (!(← sees ".") && !(← sees "?"))
    else
      require (← seesName))

def macroStatement : Reader (List Piece) :=
  inOrder [modPathPieces, opOf "!", piecesIf seesName namePiece, unreadGroup, optOpOf ";"]

/-- Whether a constant item lies ahead, or something that can be no other `const`. -/
def seesConstStatement : Reader Bool :=
  lookahead (do
    let _ ← keyword "const"
    let isAsyncFn ← seesWords "async" ["unsafe", "extern", "fn"]
    let isAsync ← seesWord "async"
    require (!(← seesGroup .brace) && !(← seesWordOf ["static", "move"]) && !(← sees "|") &&
      (!isAsync || isAsyncFn)))

/-- Whether a variable lies ahead that lives as long as the program, and no closure. -/
def seesStaticStatement : Reader Bool :=
  lookahead (do
    let _ ← keyword "static"
    let isAsyncClosure ← lookahead (do
      let _ ← keyword "async"
      require ((← seesWord "move") || (← sees "|")))
    require ((← seesWord "mut") || ((← seesName) && !isAsyncClosure)))

def seesItem : Reader Bool := do
  return (← seesWordOf
      ["pub", "extern", "use", "fn", "mod", "type", "struct", "enum", "trait", "impl", "macro"]) ||
    ((← seesWord "crate") && !(← lookahead (do let _ ← keyword "crate"; op "::"))) ||
    (← seesStaticStatement) || (← seesConstStatement) ||
    ((← seesWord "unsafe") && !(← lookahead (do let _ ← keyword "unsafe"; group .brace))) ||
    (← seesWords "async" ["unsafe", "extern", "fn"]) || (← seesUnion) ||
    (← seesWords "auto" ["trait"]) || (← seesWords "default" ["unsafe", "impl"])

/-- Reads a binding, its attributes given. One with an `else` is kept as its tokens from `start`
on. -/
def letStatement (start : List TokenTree) (attrs : List Attribute) : Reader (List Piece) := do
  let head ← inOrder [wordOf "let", g.fullPattern, g.optTyped]
  let value ← piecesIf (sees "=") (inOrder [opOf "=", g.expr true])
  if !value.isEmpty && (← seesWord "else") then
    let _ ← inOrder [wordOf "else", g.block]
    let tokens ← since start
    return .verbatim tokens :: (← opOf ";")
  else return Piece.outer attrs ++ head ++ value ++ (← opOf ";")

def itemStatement (attrs : List Attribute) : Reader (List Piece) := do
  let start ← position
  match ← g.itemBody with
  | some pieces => return Piece.outer attrs ++ pieces
  | none => return [.verbatim (← since start)]

def exprStatement (attrs : List Attribute) : Reader (List Piece) := do
  let e ← g.early
  let stop ← optOpOf ";"
  if stop.isEmpty && !e.endsWithBlock then
    require (← atEnd)
  return e.behind attrs ++ stop

def statement : Reader (List Piece) := do
  if ← sees ";" then opOf ";"
  else
    let start ← position
    let attrs ← attributes
    if ← seesMacroStatement then return Piece.outer attrs ++ (← macroStatement)
    else if ← seesWord "let" then g.letStatement start attrs
    else if ← seesItem then g.itemStatement attrs
    else g.exprStatement attrs

def anyStatements : Reader (List Piece) := toEnd g.statement

end StagedBuilder.Grammar
