import StagedBuilder.Grammar.Statements

/-!
# The complete grammar

The readers of types, patterns, expressions, statements and items take one another from a
`Grammar`. Here the knot is tied. A grammar reads what nests no deeper than a number says; what
nests deeper than that it refuses. The number of tokens bounds how deep anything can nest, so
there is a grammar for every input.
-/

namespace StagedBuilder.Grammar

open StagedBuilder.Parser

/-- The grammar for inputs that nest no deeper than the given number. -/
def upTo : Nat → Grammar
  | 0 =>
    { ty := fun _ => failure
      bound := failure
      operand := fun _ => failure
      blockLike := failure
      expr := fun _ => failure
      pattern := failure
      statements := failure
      item := failure
      imports := fun _ => failure }
  | depth + 1 =>
    let inner := upTo depth
    { ty := inner.anyTy
      bound := inner.anyBound
      operand := inner.anyOperand
      blockLike := inner.anyBlockLike
      expr := inner.anyExpr
      pattern := inner.anyPattern
      statements := inner.anyStatements
      item := inner.anyItem
      imports := inner.anyImports }

/-- The grammar for some tokens. Between one token and the next no more than three readers are
entered: an expression, its first operand, and the block that this may be. So four steps for
each token are enough, and a few to begin with. -/
def forTokens (tokens : List TokenTree) : Grammar := upTo (4 * TokenTree.sizeAll tokens + 4)

end StagedBuilder.Grammar
