import StagedBuilder.Parser
import StagedBuilder.Item.Ty

/-!
# Reading tokens

The readers that the grammar is made of: keywords, operators, names, groups, attributes. An
operator of several characters is read where they are joint. A reader of an operator does not
mind being followed by more punctuation, so that `>` can be read from `>>`.
-/

namespace StagedBuilder

/-- Reads tokens. -/
abbrev Reader := Parser TokenTree

namespace Reader

open StagedBuilder.Parser

/-- The words that are no names, unless they are written with `r#`. -/
def keywords : List String := [
  "_", "abstract", "as", "become", "box", "break", "const", "continue", "crate", "do", "else",
  "enum", "extern", "false", "final", "fn", "for", "if", "impl", "in", "let", "loop", "macro",
  "match", "mod", "move", "mut", "override", "priv", "pub", "ref", "return", "Self", "self",
  "static", "struct", "super", "trait", "true", "type", "typeof", "unsafe", "unsized", "use",
  "virtual", "where", "while", "yield"]

/-- Whether an identifier can be a name. -/
def isName (i : Ident) : Bool := i.raw || !keywords.contains i.name

/-- Reads an identifier, keyword or not, that passes the test. -/
def identIf (test : Ident → Bool) : Reader (Ident × Span) :=
  one fun
    | .ident i s => if test i then some (i, s) else none
    | _ => none

def locatedName : Reader (Ident × Span) := identIf isName

def name : Reader Ident := do
  let (i, _) ← locatedName
  return i

def anyIdent : Reader Ident := do
  let (i, _) ← identIf fun _ => true
  return i

/-- Reads a keyword and answers with its place. -/
def keyword (text : String) : Reader Span := do
  let (_, s) ← identIf fun i => !i.raw && i.name == text
  return s

def seesWord (text : String) : Reader Bool := lookahead (keyword text)

def seesWordOf (texts : List String) : Reader Bool :=
  lookahead (identIf fun i => !i.raw && texts.contains i.name)

/-- Reads a keyword if it is there, and answers whether it was. -/
def optWord (text : String) : Reader Bool := do
  return (← optional (keyword text)).isSome

def opChars : List Char → Reader Unit
  | [] => pure ()
  | [c] => one fun
    | .punct d _ _ => if c = d then some () else none
    | _ => none
  -- All characters but the last have to be joint.
  | c :: cs => do
    one fun
      | .punct d joint _ => if c = d && joint then some () else none
      | _ => none
    opChars cs

def op (text : String) : Reader Unit := opChars text.toList

def sees (text : String) : Reader Bool := lookahead (op text)

def optOp (text : String) : Reader Bool := do
  return (← optional (op text)).isSome

def comma : Reader Unit := op ","

def lifetime : Reader Lifetime :=
  one fun
    | .lifetime i _ => some ⟨i⟩
    | _ => none

def seesLifetime : Reader Bool := lookahead lifetime

def literal : Reader (LiteralKind × String) :=
  one fun
    | .literal kind text _ => some (kind, text)
    | _ => none

/-- Reads a group with that delimiter and answers with what is inside. -/
def group (delim : Delim) : Reader (List TokenTree) :=
  one fun
    | .group d inner _ => if d = delim then some inner else none
    | _ => none

def anyGroup : Reader (Delim × List TokenTree) :=
  one fun
    | .group d inner _ => some (d, inner)
    | _ => none

def seesGroup (delim : Delim) : Reader Bool := lookahead (group delim)

/-- Reads a group whose inside is, from its first to its last token, what `inside` reads. -/
def inGroup {α : Type} (delim : Delim) (inside : Reader α) : Reader α :=
  one fun
    | .group d inner _ => if d = delim then inside.all? inner else none
    | _ => none

def remaining : Reader (List TokenTree) := many (one some)

/-- Reads `p` where the condition holds. -/
def whenSeen {α : Type} (condition : Reader Bool) (p : Reader α) : Reader (Option α) := do
  if ← condition then
    let a ← p
    return some a
  else return none

/-- Whether the dot of a member lies ahead, and not the dots of a range. -/
def seesDot : Reader Bool := do
  return (← sees ".") && !(← sees "..")

/-- Whether the colon of a type lies ahead, and not the separator of a path. -/
def seesColon : Reader Bool := do
  return (← sees ":") && !(← sees "::")

def seesName : Reader Bool := lookahead name

/-! ## Attributes -/

/-- Reads a name that a path of bare names can hold, which may be a keyword for a place in the
module tree. -/
def modName : Reader Ident := do
  let (i, _) ← identIf fun i =>
    isName i || (!i.raw && ["super", "self", "Self", "crate"].contains i.name)
  return i

def modPath : Reader (Bool × List Ident) := do
  let absolute ← optOp "::"
  let first ← modName
  let rest ← manyWhile (sees "::") (do op "::"; modName)
  return (absolute, first :: rest)

/-- Reads the brackets of an attribute, which begins at the given place. -/
def attrAt (start : Span) : Reader Attribute := do
  let ((absolute, path), args, stop) ← one fun
    | .group .bracket inner s =>
      (all? (do let p ← modPath; return (p, ← remaining)) inner).map fun (p, args) => (p, args, s)
    | _ => none
  return ⟨absolute, path, args, start.join stop⟩

def attrMark : Reader Span :=
  one fun
    | .punct '#' _ s => some s
    | _ => none

def attributes : Reader (List Attribute) := manyWhile (sees "#") (do attrAt (← attrMark))

/-- Reads the attributes at the beginning of a block, which are about all of it. -/
def innerAttributes : Reader (List Attribute) :=
  manyWhile (lookahead (do op "#"; op "!")) (do
    let start ← attrMark
    op "!"
    attrAt start)

end Reader

end StagedBuilder
