/-!
# Tokens

A source text is read as a forest of tokens: identifiers, lifetimes, literals, single
punctuation characters, and groups between matching delimiters. Each token knows the place it
was read from.
-/

namespace StagedBuilder

/-- A place in a text. Lines count from one, columns from zero, both in characters. -/
structure Pos where
  line : Nat
  column : Nat
deriving DecidableEq, Repr, Inhabited

def Pos.origin : Pos := ⟨1, 0⟩

/-- The place after a character that stands here. -/
def Pos.after (p : Pos) (c : Char) : Pos :=
  if c = '\n' then ⟨p.line + 1, 0⟩ else ⟨p.line, p.column + 1⟩

/-- One place is before another in the order of reading. -/
def Pos.before (p q : Pos) : Prop :=
  p.line < q.line ∨ p.line = q.line ∧ p.column < q.column

/-- A stretch of text: from `start` up to, and without, `stop`. -/
structure Span where
  start : Pos
  stop : Pos
deriving DecidableEq, Repr, Inhabited

/-- The stretch from the start of one to the end of another. -/
def Span.join (s t : Span) : Span := ⟨s.start, t.stop⟩

inductive Delim where
  | paren
  | bracket
  | brace
deriving DecidableEq, Repr, Inhabited

/-- An identifier. A raw one is written with `r#`, which is not part of its name. -/
structure Ident where
  name : String
  raw : Bool
deriving DecidableEq, Repr, Inhabited

namespace Ident

def plain (name : String) : Ident := ⟨name, false⟩

def text (i : Ident) : String := if i.raw then "r#" ++ i.name else i.name

end Ident

/-- What a literal denotes. -/
inductive LiteralKind where
  | string
  | byteString
  | cString
  | char
  | byte
  | integer
  | float
deriving DecidableEq, Repr, Inhabited

/-- A token, or a group of tokens between delimiters. A punctuation character is joint when the
character after it is punctuation too, so that both may belong to one operator. -/
inductive TokenTree where
  | ident (name : Ident) (span : Span)
  | lifetime (name : Ident) (span : Span)
  | literal (kind : LiteralKind) (text : String) (span : Span)
  | punct (char : Char) (joint : Bool) (span : Span)
  | group (delim : Delim) (inner : List TokenTree) (span : Span)
deriving Repr, Inhabited

namespace TokenTree

/-- Where the token stands; a group stands from its opening to its closing delimiter. -/
def span : TokenTree → Span
  | ident _ s | lifetime _ s | literal _ _ s | punct _ _ s | group _ _ s => s

/-- From the first to the last of some tokens. -/
def spanOf : List TokenTree → Option Span
  | [] => none
  | t :: ts => some (t.span.join ((t :: ts).getLast (by simp)).span)

mutual

/-- The number of tokens, delimiters included once per group. -/
def size : TokenTree → Nat
  | group _ inner _ => sizeAll inner + 1
  | _ => 1

def sizeAll : List TokenTree → Nat
  | [] => 0
  | t :: ts => t.size + sizeAll ts

end

end TokenTree

end StagedBuilder
