import StagedBuilder.Grammar.Tokens
import StagedBuilder.Item.Pieces
import StagedBuilder.Token.Literal

/-!
# Phrases

Expressions are read as sequences of pieces: an operand, and then operators with the operands
or types that belong to them. Two things are remembered beside the pieces. An operand that ends
with a block needs nothing to separate it from what follows. And an operand that is kept as its
tokens has no place for attributes, so that those in front of it are lost.
-/

namespace StagedBuilder

/-- An operand of an expression with all that is applied to it. -/
structure Phrase where
  pieces : List Piece
  endsWithBlock : Bool
deriving Inhabited

/-- How strongly an operator binds, in the classes that make a difference to what is read. -/
inductive Strength where
  | assignment
  | range
  /-- `&&` and `||`. -/
  | logical
  /-- Comparisons, arithmetic, and all that binds more strongly. -/
  | comparison
  /-- A type that the value before it is said to have or to be turned into. -/
  | cast
deriving DecidableEq, Repr

/-- An operator and what belongs to it on its right. -/
structure Continuation where
  strength : Strength
  pieces : List Piece

/-- An expression: its first operand, and what goes on from there. -/
structure Chain where
  first : Phrase
  more : List Continuation

namespace Piece

/-- Whether a construct is kept as its tokens. -/
def isVerbatim : List Piece → Bool
  | [.verbatim _] => true
  | _ => false

/-- A construct with attributes in front of it, which are lost if it is kept as its tokens. -/
def behind (attrs : List Attribute) (pieces : List Piece) : List Piece :=
  if isVerbatim pieces then pieces else outer attrs ++ pieces

end Piece

namespace Phrase

/-- An operand that needs something to separate it from what follows. -/
def plain (pieces : List Piece) : Phrase := ⟨pieces, false⟩

/-- An operand with attributes in front of it. -/
def behind (attrs : List Attribute) (p : Phrase) : Phrase :=
  { p with pieces := Piece.behind attrs p.pieces }

end Phrase

namespace Chain

def pieces (c : Chain) : List Piece := c.first.pieces ++ c.more.flatMap Continuation.pieces

/-- Whether nothing has to separate the expression from what follows. -/
def endsWithBlock (c : Chain) : Bool := c.more.isEmpty && c.first.endsWithBlock

/-- Whether a range takes in the first operand, rather than an assignment to it. -/
def beginsRange : List Continuation → Bool
  | [] => false
  | o :: os =>
    match o.strength with
    | .range => true
    | .assignment => false
    | _ => beginsRange os

/-- Whether attributes in front of the expression are about more than its first operand: about a
cast of it, or a range that begins with it. -/
def isWrapped : List Continuation → Bool
  | [] => false
  | o :: os => o.strength = .cast || beginsRange (o :: os)

/-- The pieces with attributes in front of them. Those of a mere operand are lost if it is kept
as its tokens. -/
def behind (attrs : List Attribute) (c : Chain) : List Piece :=
  if isWrapped c.more then Piece.outer attrs ++ c.pieces
  else Piece.behind attrs c.first.pieces ++ c.more.flatMap Continuation.pieces

end Chain

namespace Reader

open StagedBuilder.Parser

/-! ## Readers of pieces -/

/-- Reads a keyword as a part of an expression. -/
def wordOf (text : String) : Reader (List Piece) := do
  let _ ← keyword text
  return [.word text]

def opOf (text : String) : Reader (List Piece) := do
  op text
  return [.word text]

def optWordOf (text : String) : Reader (List Piece) := do
  return (← optional (wordOf text)).getD []

def optOpOf (text : String) : Reader (List Piece) := do
  return (← optional (opOf text)).getD []

/-- Reads pieces where the condition holds, and none elsewhere. -/
def piecesIf (condition : Reader Bool) (p : Reader (List Piece)) : Reader (List Piece) := do
  if ← condition then p else return []

/-- Reads parts one after the other. -/
def inOrder : List (Reader (List Piece)) → Reader (List Piece)
  | [] => return []
  | p :: ps => do
    let first ← p
    return first ++ (← inOrder ps)

def groupOf (delim : Delim) (inside : Reader (List Piece)) : Reader (List Piece) := do
  return [.group delim (← inGroup delim inside)]

def commaList (item : Reader (List Piece)) : Reader (List Piece) := do
  return Piece.commas (← sepEnd item comma)

def namePiece : Reader (List Piece) := do
  return [.word (← name).text]

def anyIdentPiece : Reader (List Piece) := do
  return [.word (← anyIdent).text]

def optLifetime : Reader (List Piece) := do
  return ((← optional lifetime).map fun l => .word ("'" ++ l.name.text)).toList

/-- Reads what is left to the end, piece after piece. Each has to succeed. -/
def toEnd (p : Reader (List Piece)) : Reader (List Piece) := do
  return (← manyWhile (do return !(← atEnd)) p).flatten

/-- Whether a macro's `!` lies ahead, and not the operator `!=`. -/
def seesBang : Reader Bool := do
  return (← sees "!") && !(← sees "!=")

/-- Reads the arguments of a macro with their delimiters. They are not looked into. -/
def unreadGroup : Reader (List Piece) := do
  let (delim, args) ← anyGroup
  return [.group delim [.verbatim args]]

def macroArgs : Reader (List Piece) := inOrder [opOf "!", unreadGroup]

def modPathPieces : Reader (List Piece) := do
  let (absolute, path) ← modPath
  return Piece.names absolute path

def innerPieces : Reader (List Piece) := do
  return Piece.inner (← innerAttributes)

/-- The number of a field of a tuple as it is written anew: in base ten. It has to fit into 32
bits. -/
def fieldNumber? (text : String) : Option Piece :=
  (Scanner.wholeNumber? text).bind fun n =>
    if n < 0x100000000 then some (.word (toString n)) else none

def fieldNumber : Reader (List Piece) :=
  one fun
    | .literal .integer text _ => (fieldNumber? text).map fun p => [p]
    | _ => none

def member : Reader (List Piece) := namePiece <|> fieldNumber

end Reader

end StagedBuilder
