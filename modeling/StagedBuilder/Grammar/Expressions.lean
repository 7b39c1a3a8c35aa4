import StagedBuilder.Grammar.Patterns

/-!
# The grammar of expressions

Expressions occur in the lengths of arrays, in constant arguments, as the values of an enum's
variants, and wherever a block holds them. They are read for the types they name and kept as a
sequence of parts: an operand, then operators with the operands or types that belong to them.
How strongly operators bind makes no difference to that sequence, with one exception: the value
that a `let` in a condition matches ends before `&&` and `||`.

Some forms are kept as their tokens: `&raw`, `_`, blocks and closures that are marked `const`,
closures with bound lifetimes, and structs that are named by way of a type.
-/

namespace StagedBuilder.Grammar

open StagedBuilder.Parser Reader

variable (g : Grammar)

def typePiece (allowPlus : Bool) : Reader (List Piece) := do
  return [.type (← g.ty allowPlus)]

def optTyped : Reader (List Piece) :=
  piecesIf (sees ":") (inOrder [opOf ":", g.typePiece true])

/-! ## Operators -/

/-- The operators between two operands and how strongly they bind, each before those it begins
with. -/
def binaryOperators : List (String × Strength) :=
  ["<<=", ">>=", "+=", "-=", "*=", "/=", "%=", "^=", "&=", "|="].map (·, .assignment) ++
  ["&&", "||"].map (·, .logical) ++
  ["<<", ">>", "==", "<=", "!=", ">=", "+", "-", "*", "/", "%", "^", "&", "|", "<", ">"].map
    (·, .comparison) ++
  [("=", .assignment)]

/-- Reads an operator between two operands. The arrow of a `match` is none. -/
def binaryOperator : Reader (String × Strength) := do
  require (!(← sees "=>"))
  binaryOperators.foldr (fun (o, s) others => (do op o; return (o, s)) <|> others) failure

/-- How strongly the operator binds that lies ahead, if one does. -/
def strengthAhead : Reader (Option Strength) := do
  match ← peek binaryOperator with
  | some (_, strength) => return some strength
  | none =>
    if ← sees ".." then return some .range
    else if (← seesWord "as") || (← seesColon) then return some .cast
    else return none

/-- Whether something is applied to what stands before: a call, an index, `?`, a member. -/
def seesTrailer : Reader Bool := do
  return (← seesGroup .paren) || (← seesGroup .bracket) || (← sees "?") || (← seesDot)

/-- Whether the end of a range is missing here. -/
def seesNoLimit (allowStruct : Bool) : Reader Bool := do
  return (← atEnd) || (← sees ",") || (← sees ";") || (← seesDot) ||
    (!allowStruct && (← seesGroup .brace))

/-- Reads an operator and what belongs to it on its right. Nothing can be applied to a cast. -/
def continuation (allowStruct : Bool) : Reader Continuation := do
  match ← optional binaryOperator with
  | some (o, strength) =>
    let right ← g.operand allowStruct
    return ⟨strength, .word o :: right.pieces⟩
  | none =>
    if ← sees ".." then
      let dots ← rangeDots
      if ← seesNoLimit allowStruct then return ⟨.range, dots⟩
      else
        let right ← g.operand allowStruct
        return ⟨.range, dots ++ right.pieces⟩
    else
      let cast ← inOrder [wordOf "as" <|> opOf ":", g.typePiece false]
      require (!(← seesTrailer))
      return ⟨.cast, cast⟩

def continuations (allowStruct : Bool) (accepts : Strength → Bool) : Reader (List Continuation) :=
  manyWhile (do return (← strengthAhead).any accepts) (g.continuation allowStruct)

def anyExpr (allowStruct : Bool) : Reader (List Piece) := do
  let first ← g.operand allowStruct
  return (Chain.mk first (← g.continuations allowStruct fun _ => true)).pieces

/-! ## What is applied to an operand -/

/-- The numbers of fields that a literal with points between them is, as in `a.0.1`. -/
def fieldNumbers? (text : String) : Option (List Piece) := do
  let numbers ← (text.splitOn ".").mapM fieldNumber?
  return numbers.flatMap fun n => [.word ".", n]

/-- Reads the literal that the numbers of several fields are, and answers whether it ends with a
point, behind which another member follows. -/
def joinedFields : Reader (Bool × List Piece) :=
  one fun
    | .literal .float text _ =>
      let isOpen := text.endsWith "."
      let digits := if isOpen then (text.dropEnd 1).toString else text
      (fieldNumbers? digits).map fun ps => (isOpen, ps)
    | _ => none

def seesFloat : Reader Bool :=
  lookahead (one fun
    | .literal .float _ _ => some ()
    | _ => none)

/-- Reads an argument of a method: a literal, a block or a type. -/
def methodArg : Reader (List Piece) := do
  if ← lookahead signedLiteral then signedLiteral
  else if ← seesGroup .brace then g.openBlock
  else g.typePiece true

/-- Reads the arguments of a method between angle brackets. The call has to follow. -/
def turbofish : Reader (List Piece) := do
  let args ← inOrder [opOf "::", opOf "<", commaList g.methodArg, opOf ">"]
  require (← seesGroup .paren)
  return args

def memberBehindDot : Reader (List Piece) := do
  if ← seesWord "await" then wordOf "await"
  else if ← seesName then inOrder [namePiece, piecesIf (sees "::") g.turbofish]
  else fieldNumber

def trailer : Reader (List Piece) := do
  if ← seesGroup .paren then groupOf .paren (commaList (g.expr true))
  else if ← seesGroup .bracket then groupOf .bracket (g.expr true)
  else if ← sees "?" then opOf "?"
  else
    op "."
    if ← seesFloat then
      let (isOpen, fields) ← joinedFields
      if isOpen then return fields ++ .word "." :: (← g.memberBehindDot) else return fields
    else return .word "." :: (← g.memberBehindDot)

def trailers (p : Phrase) : Reader Phrase := do
  let more ← manyWhile seesTrailer g.trailer
  if more.isEmpty then return p else return .plain (p.pieces ++ more.flatten)

/-! ## Closures and structs -/

def closureParameter : Reader (List Piece) := do
  let attrs ← attributes
  let p ← g.pattern
  if ← sees ":" then return Piece.outer attrs ++ p ++ (← g.optTyped)
  else return Piece.behind attrs p

/-- Reads a closure. Where its result is named its body is a block. -/
def closure (allowStruct : Bool) : Reader (List Piece) := do
  let head ← inOrder [optWordOf "static", optWordOf "async", optWordOf "move", opOf "|",
    commaList g.closureParameter, opOf "|"]
  if ← sees "->" then return head ++ (← inOrder [opOf "->", g.typePiece true, g.block])
  else return head ++ (← g.expr allowStruct)

/-- Whether bound lifetimes lie ahead, and not the loop that begins with the same word. -/
def seesBinder : Reader Bool :=
  lookahead (do
    let _ ← keyword "for"
    op "<"
    require ((← seesLifetime) || (← sees ">")))

/-- Whether a closure lies ahead that has nothing but its own words before its bar. -/
def seesClosure : Reader Bool := do
  return (← sees "|") || (← seesWordOf ["static", "move"]) ||
    (← lookahead (do
      let _ ← keyword "async"
      require ((← sees "|") || (← seesWord "move"))))

/-- Reads a closure with bound lifetimes or the mark `const`, and keeps it as its tokens. -/
def unreadClosure (allowStruct : Bool) : Reader (List Piece) := do
  let start ← position
  let _ ← whenSeen seesBinder binder
  let _ ← optWord "const"
  let _ ← g.closure allowStruct
  return [.verbatim (← since start)]

def fieldValue : Reader (List Piece) := do
  let attrs ← attributes
  let isNumber := !(← seesName)
  let m ← member
  if isNumber || (← sees ":") then
    return Piece.outer attrs ++ m ++ (← inOrder [opOf ":", g.expr true])
  else return Piece.outer attrs ++ m

/-- Reads the fields of a struct literal, and the value that all others are taken from. -/
def fieldValues : Reader (List Piece) := do
  let fields ← sepEnd (do require (!(← sees "..")); g.fieldValue) comma
  if (fields.items.isEmpty || fields.trailing) && (← sees "..") then
    let dots ← opOf ".."
    return Piece.commas fields ++ dots ++ (← piecesIf (do return !(← atEnd)) (g.expr true))
  else return Piece.commas fields

/-- Reads an operand that begins with a path: a value, a call of a macro, or a struct
literal. -/
def pathOperand (allowStruct : Bool) : Reader (List Piece) := do
  let start ← position
  let q ← g.qpath true
  match q with
  | .plain p =>
    if isBare p && (← seesBang) then return .path q :: (← macroArgs)
    else if allowStruct && (← seesGroup .brace) then
      return .path q :: (← groupOf .brace g.fieldValues)
    else return [.path q]
  | .within .. =>
    if allowStruct && (← seesGroup .brace) then
      let _ ← groupOf .brace g.fieldValues
      return [.verbatim (← since start)]
    else return [.path q]

/-! ## Operands that end with a block -/

def ifOperand : Reader (List Piece) := do
  let branch := inOrder [wordOf "if", g.expr false, g.block]
  let first ← branch
  let more ← manyWhile (lookahead (do let _ ← keyword "else"; keyword "if"))
    (inOrder [wordOf "else", branch])
  let last ← piecesIf (seesWord "else") (inOrder [wordOf "else", g.block])
  return first ++ more.flatten ++ last

def seesLoop : Reader Bool := seesWordOf ["while", "for", "loop"]

def loopOperand : Reader (List Piece) := do
  if ← seesWord "while" then inOrder [wordOf "while", g.expr false, g.openBlock]
  else if ← seesWord "for" then
    inOrder [wordOf "for", g.fullPattern, wordOf "in", g.expr false, g.openBlock]
  else inOrder [wordOf "loop", g.openBlock]

/-- Whether an operand lies ahead that ends with a block and stands alone where a statement may
begin. -/
def seesBlockLike : Reader Bool := do
  return (← seesGroup .brace) || (← seesWordOf ["if", "match", "unsafe", "while", "loop"]) ||
    ((← seesWord "for") && !(← seesBinder)) ||
    (← lookahead (do let _ ← keyword "try" <|> keyword "const"; group .brace))

/-- Reads an expression where a statement may begin. If its first operand ends with a block,
that operand is all of it, unless a member of it is named or a `?` follows. -/
def early : Reader Chain := do
  let attrs ← attributes
  if ← seesBlockLike then
    let first ← g.blockLike
    if (← seesDot) || (← sees "?") then
      let e ← g.trailers first
      return ⟨e.behind attrs, ← g.continuations true fun _ => true⟩
    else return ⟨first.behind attrs, []⟩
  else
    let first ← g.operand true
    return ⟨first.behind attrs, ← g.continuations true fun _ => true⟩

/-- Reads an arm of a `match`. A comma has to end it, unless it is the last or its value ends
with a block. -/
def arm : Reader (List Piece) := do
  let attrs ← attributes
  let head ← inOrder
    [g.fullPattern, piecesIf (seesWord "if") (inOrder [wordOf "if", g.expr true]), opOf "=>"]
  let value ← g.early
  let stop ← if value.endsWithBlock || (← atEnd) then optOpOf "," else opOf ","
  return Piece.outer attrs ++ head ++ value.pieces ++ stop

def matchOperand : Reader (List Piece) :=
  inOrder [wordOf "match", g.expr false, groupOf .brace (inOrder [innerPieces, toEnd g.arm])]

/-- Reads an operand that ends with a block. The one that is kept as its tokens needs something
to separate it from what follows. -/
def anyBlockLike : Reader Phrase := do
  if ← seesWord "if" then return ⟨← g.ifOperand, true⟩
  else if ← seesLoop then return ⟨← g.loopOperand, true⟩
  else if ← seesWord "match" then return ⟨← g.matchOperand, true⟩
  else if ← seesWord "try" then return ⟨← inOrder [wordOf "try", g.block], true⟩
  else if ← seesWord "unsafe" then return ⟨← inOrder [wordOf "unsafe", g.openBlock], true⟩
  else if ← seesWord "const" then return .plain (← g.constBlock)
  else return ⟨← g.openBlock, true⟩

/-! ## Operands -/

/-- Whether nothing lies ahead that could be the value of a jump. -/
def seesNoValue : Reader Bool := do
  return (← atEnd) || (← sees ",") || (← sees ";")

def jump (allowStruct : Bool) : Reader (List Piece) := do
  if ← seesWord "break" then
    let head ← inOrder [wordOf "break", optLifetime]
    if (← seesNoValue) || (!allowStruct && (← seesGroup .brace)) then return head
    else return head ++ (← g.expr allowStruct)
  else if ← seesWord "continue" then inOrder [wordOf "continue", optLifetime]
  else
    let isReturn ← seesWord "return"
    let head ← wordOf "return" <|> wordOf "yield"
    if ← seesNoValue then return head else return head ++ (← g.expr (allowStruct || !isReturn))

/-- Reads a pattern and the value that has to match it, as conditions hold them. The value ends
before `&&` and `||`. -/
def letOperand : Reader (List Piece) := do
  let head ← inOrder [wordOf "let", g.fullPattern, opOf "="]
  let first ← g.operand false
  let more ← g.continuations false fun s => s == .comparison || s == .cast
  return head ++ (Chain.mk first more).pieces

/-- Reads what stands in square brackets: items, or an item and how often to repeat it. -/
def arrayItems : Reader (List Piece) := do
  let items ← sepEnd (g.expr true) comma
  -- Only an item without a comma behind it can be repeated.
  if items.items.length == 1 && !items.trailing then
    return Piece.commas items ++ (← piecesIf (sees ";") (inOrder [opOf ";", g.expr true]))
  else return Piece.commas items

def seesAsync : Reader Bool :=
  lookahead (do
    let _ ← keyword "async"
    let _ ← optWord "move"
    group .brace)

def atom (allowStruct : Bool) : Reader Phrase := do
  if ← lookahead plainLiteral then return .plain (← plainLiteral)
  else if ← seesAsync then
    return ⟨← inOrder [wordOf "async", optWordOf "move", g.block], true⟩
  else if ← seesBlockLike then g.blockLike
  else if ← seesClosure then return .plain (← g.closure allowStruct)
  else if ← seesWordOf ["for", "const"] then return .plain (← g.unreadClosure allowStruct)
  else if ← seesPath then return .plain (← g.pathOperand allowStruct)
  else if ← seesGroup .paren then return .plain (← groupOf .paren (commaList (g.expr true)))
  else if ← seesGroup .bracket then return .plain (← groupOf .bracket g.arrayItems)
  else if ← seesWordOf ["break", "continue", "return", "yield"] then
    return .plain (← g.jump allowStruct)
  else if ← seesWord "let" then return .plain (← g.letOperand)
  else if ← seesWord "_" then
    let start ← position
    let _ ← keyword "_"
    return .plain [.verbatim (← since start)]
  else
    -- Nothing else is left than a label, and behind it a loop or a block.
    let label ← optLifetime
    require (!label.isEmpty)
    let colon ← opOf ":"
    let labelled ← if ← seesLoop then g.loopOperand else g.openBlock
    return ⟨label ++ colon ++ labelled, true⟩

/-- Reads a range without a lower end. Nothing is applied to it. -/
def leadingRange (allowStruct : Bool) : Reader (List Piece) := do
  let dots ← rangeDots
  if ← seesNoLimit allowStruct then return dots else return dots ++ (← g.expr allowStruct)

/-- Whether the mark of a raw reference lies ahead. -/
def seesRawMark : Reader Bool :=
  lookahead (do
    let _ ← keyword "raw"
    keyword "mut" <|> keyword "const")

/-- Reads an operand with its attributes and all that is applied to it. One that is kept as its
tokens keeps its attributes among them. -/
def anyOperand (allowStruct : Bool) : Reader Phrase := do
  let start ← position
  let attrs ← attributes
  if ← sees "&" then
    op "&"
    if ← seesRawMark then
      let _ ← keyword "raw"
      let _ ← keyword "mut" <|> keyword "const"
      let _ ← g.operand allowStruct
      return .plain [.verbatim (← since start)]
    else
      let isMut ← optWordOf "mut"
      let right ← g.operand allowStruct
      return .plain (Piece.outer attrs ++ .word "&" :: isMut ++ right.pieces)
  else if (← seesWord "box") || (← sees "*") || (← sees "!") || (← sees "-") then
    let mark ← wordOf "box" <|> opOf "*" <|> opOf "!" <|> opOf "-"
    let right ← g.operand allowStruct
    return .plain (Piece.outer attrs ++ mark ++ right.pieces)
  else if ← sees ".." then return .plain (Piece.outer attrs ++ (← g.leadingRange allowStruct))
  else
    let p ← g.trailers (← g.atom allowStruct)
    if Piece.isVerbatim p.pieces then return .plain [.verbatim (← since start)]
    else return p.behind attrs

end StagedBuilder.Grammar
