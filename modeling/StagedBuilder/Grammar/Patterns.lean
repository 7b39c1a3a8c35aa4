import StagedBuilder.Grammar.Types

/-!
# The grammar of patterns

Patterns stand in the `let`s, matches, loops and closures of an expression. A path in a pattern
can name types, so patterns are read, too. A few forms are kept as their tokens: ranges without
an end, blocks, and structs that are named by way of a type.
-/

namespace StagedBuilder.Grammar

open StagedBuilder.Parser Reader

variable (g : Grammar)

/-- Reads the dots of a range. Three dots mean what `..=` does and are written so. -/
def rangeDots : Reader (List Piece) := do
  if ← sees "..=" then opOf "..="
  else if ← sees "..." then
    op "..."
    return [.word "..="]
  else opOf ".."

/-- Reads a block that is known when the program is compiled, and keeps it as its tokens. -/
def constBlock : Reader (List Piece) := do
  let start ← position
  let _ ← keyword "const"
  let _ ← g.openBlock
  return [.verbatim (← since start)]

/-! ## Alternatives -/

def seesBar : Reader Bool := do
  return (← sees "|") && !(← sees "||") && !(← sees "|=")

def alternatives : Reader (List Piece) := do
  let first ← g.pattern
  let more ← manyWhile seesBar (inOrder [opOf "|", g.pattern])
  return first ++ more.flatten

/-- Reads the alternatives of a pattern, perhaps with a bar before the first. -/
def fullPattern : Reader (List Piece) := inOrder [optOpOf "|", g.alternatives]

/-! ## Ranges -/

/-- Whether the end of a range pattern is missing here. -/
def seesNoRangeEnd : Reader Bool := do
  return (← atEnd) || (← sees "|") || (← sees "=") || (← seesColon) || (← sees ",") || (← sees ";")

def seesPath : Reader Bool := do
  return (← seesName) || (← sees "::") || (← sees "<") ||
    (← seesWordOf ["self", "Self", "super", "crate"])

/-- Reads an end of a range pattern: a literal, a path or a block, perhaps with a sign. -/
def rangeEnd : Reader (List Piece) := do
  let sign ← optOpOf "-"
  if ← lookahead signedLiteral then return sign ++ (← signedLiteral)
  else if ← seesPath then return sign ++ [.path (← g.qpath true)]
  else return sign ++ (← g.constBlock)

/-- Reads what a range pattern goes on with behind its lower end, from `start` on. One without
an upper end is kept as its tokens. -/
def rangeFrom (start : List TokenTree) (low : List Piece) : Reader (List Piece) := do
  let dots ← rangeDots
  if ← seesNoRangeEnd then return [.verbatim (← since start)]
  else return low ++ dots ++ (← g.rangeEnd)

/-- Reads a literal, or a range that begins with one. -/
def literalPattern : Reader (List Piece) := do
  let start ← position
  let low ← g.rangeEnd
  if ← sees ".." then g.rangeFrom start low else return low

/-- Reads a range without a lower end, which is kept as its tokens, or the dots that stand for
what is left of a list. -/
def restPattern : Reader (List Piece) := do
  let start ← position
  require (!(← sees "..."))
  let isHalfOpen := !(← sees "..=")
  let dots ← rangeDots
  if ← seesNoRangeEnd then
    require isHalfOpen
    return dots
  else
    let _ ← g.rangeEnd
    return [.verbatim (← since start)]

/-! ## Paths -/

def fieldPattern (attrs : List Attribute) : Reader (List Piece) := do
  let marks ← inOrder [optWordOf "box", optWordOf "ref", optWordOf "mut"]
  if marks.isEmpty then
    let isNumber := !(← seesName)
    let m ← member
    if isNumber || (← sees ":") then
      return Piece.outer attrs ++ m ++ (← inOrder [opOf ":", g.fullPattern])
    else return Piece.outer attrs ++ m
  else return Piece.outer attrs ++ marks ++ (← namePiece)

/-- Reads the fields of a struct pattern, and answers whether attributes stand before the dots
that end them. -/
def fieldPatterns : Reader (Bool × List Piece) := do
  let field := do
    let attrs ← attributes
    require (!(← sees ".."))
    g.fieldPattern attrs
  let fields ← sepEnd field comma
  if (fields.items.isEmpty || fields.trailing) && !(← atEnd) then
    let attrs ← attributes
    return (!attrs.isEmpty, Piece.commas fields ++ (← opOf ".."))
  else return (false, Piece.commas fields)

/-- Reads a pattern that begins with a path. Where the path begins at a type, the pattern of a
struct or a tuple struct is kept as its tokens. -/
def pathPattern : Reader (List Piece) := do
  let start ← position
  let q ← g.qpath true
  let isPlain := match q with
    | .plain _ => true
    | .within .. => false
  let isName := match q with
    | .plain p => isBare p
    | .within .. => false
  if isName && (← seesBang) then return .path q :: (← macroArgs)
  else if ← seesGroup .brace then
    let (isSpoilt, fields) ← inGroup .brace g.fieldPatterns
    if isPlain && !isSpoilt then return [.path q, .group .brace fields]
    else return [.verbatim (← since start)]
  else if ← seesGroup .paren then
    let items ← groupOf .paren (commaList g.fullPattern)
    if isPlain then return .path q :: items else return [.verbatim (← since start)]
  else if ← sees ".." then g.rangeFrom start [.path q]
  else return [.path q]

/-- Whether dots behind a name begin a range that goes on. -/
def seesRangeEnd : Reader Bool := lookahead (do
  let _ ← rangeDots
  require (!(← atEnd) && !(← sees ",")))

/-- Whether a path lies ahead that is more than a name to bind. -/
def seesPathPattern : Reader Bool := do
  if ← seesName then
    lookahead (do
      let _ ← name
      let goesOn := (← sees "::") || (← sees "!") || (← seesGroup .brace) || (← seesGroup .paren)
      require (goesOn || (← seesRangeEnd)))
  else
    return (← lookahead (do let _ ← keyword "self"; op "::")) || (← sees "::") || (← sees "<") ||
      (← seesWordOf ["Self", "super", "crate"])

/-! ## Patterns -/

def bindingPattern : Reader (List Piece) := do
  let head ← inOrder [optWordOf "ref", optWordOf "mut", anyIdentPiece]
  return head ++ (← piecesIf (sees "@") (inOrder [opOf "@", g.pattern]))

/-- Reads a pattern without alternatives. -/
def anyPattern : Reader (List Piece) := do
  if ← seesPathPattern then g.pathPattern
  else if ← seesWord "_" then wordOf "_"
  else if ← seesWord "box" then inOrder [wordOf "box", g.pattern]
  else if (← sees "-") || (← lookahead plainLiteral) || (← seesWord "const") then g.literalPattern
  else if (← seesWordOf ["ref", "mut", "self"]) || (← seesName) then g.bindingPattern
  else if ← sees "&" then inOrder [opOf "&", optWordOf "mut", g.pattern]
  else if ← seesGroup .paren then groupOf .paren (commaList g.fullPattern)
  else if ← seesGroup .bracket then groupOf .bracket (commaList g.fullPattern)
  else
    require (← sees "..")
    g.restPattern

end StagedBuilder.Grammar
