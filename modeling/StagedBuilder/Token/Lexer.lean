import StagedBuilder.Token.Literal
import StagedBuilder.Character.Printable
import StagedBuilder.Text.Quoted

/-!
# From text to tokens

A source text is cut into lexemes, with blanks and comments between them, and the lexemes are
nested by their delimiters. A documentation comment is no comment but an attribute: `/// text`
stands for `#[doc = " text"]`, and all its tokens stand where the comment does.
-/

namespace StagedBuilder

namespace Scanner

open StagedBuilder.Parser Character

/-! ## Blanks and comments -/

/-- Whether a character separates tokens and means nothing else. The two marks that set the
direction of writing do, too. -/
def isSeparator (c : Char) : Bool := isBlank c || c == '\u200e' || c == '\u200f'

/-- Reads the rest of a line, without its end. Of an end of two characters the first is read. -/
def lineRest : Scanner String := do
  let cs ← many (do
    require (!(← lookahead lineEnd))
    charIf fun _ => true)
  if ← sees "\r\n" then exactly "\r"
  return String.ofList cs

/-- The number of characters up to the end of a comment that `depth` opening marks began. -/
def commentLength (depth : Nat) : List Glyph → Option Nat
  | ⟨'/', _⟩ :: ⟨'*', _⟩ :: rest => (commentLength (depth + 1) rest).map (· + 2)
  | ⟨'*', _⟩ :: ⟨'/', _⟩ :: rest =>
    if depth ≤ 1 then some 2 else (commentLength (depth - 1) rest).map (· + 2)
  | _ :: rest => (commentLength depth rest).map (· + 1)
  | [] => none

/-- Reads a comment between `/*` and `*/`, which may hold others, and answers with all of it. -/
def blockComment : Scanner (List Char) := do
  require (← sees "/*")
  match ← ahead (commentLength 0) with
  | none => failure
  | some n => return (← take n).map Glyph.char

def seesDocLine : Scanner Bool := do
  return (← sees "//!") || ((← sees "///") && !(← sees "////"))

def seesDocBlock : Scanner Bool := do
  return (← sees "/*!") || ((← sees "/**") && !(← sees "/***") && !(← sees "/**/"))

/-- Reads one blank or one comment. -/
def gap : Scanner Unit := do
  if ← sees "//" then
    require (!(← seesDocLine))
    let _ ← lineRest
  else if ← sees "/*" then
    require (!(← seesDocBlock))
    let _ ← blockComment
  else
    let _ ← charIf isSeparator

/-! ## Lexemes -/

/-- A piece of the text between gaps. -/
inductive Lexeme where
  | opening (delim : Delim) (span : Span)
  | closing (delim : Delim) (span : Span)
  | leaves (trees : List TokenTree)

def opening : Scanner Delim :=
  (do exactly "("; return .paren) <|> (do exactly "["; return .bracket) <|>
  (do exactly "\x7b"; return .brace)

def closing : Scanner Delim :=
  (do exactly ")"; return .paren) <|> (do exactly "]"; return .bracket) <|>
  (do exactly "\x7d"; return .brace)

/-- The text of a documentation comment between marks, without the marks. -/
def betweenMarks (cs : List Char) : String := String.ofList ((cs.drop 3).take (cs.length - 5))

/-- Whether every carriage return is half of the end of a line. -/
def linesWellEnded : List Char → Bool
  | [] => true
  | '\r' :: '\n' :: rest => linesWellEnded rest
  | c :: rest => c != '\r' && linesWellEnded rest

def docText : Scanner String := do
  if ← seesDocLine then
    let _ ← take 3
    lineRest
  else
    require (← seesDocBlock)
    return betweenMarks (← blockComment)

/-- Reads a documentation comment: whether it is about what it stands in, and its text. -/
def docComment : Scanner (Bool × String) := do
  let inner := (← sees "//!") || (← sees "/*!")
  let text ← docText
  require (linesWellEnded text.toList)
  return (inner, text)

/-- The attribute that a documentation comment stands for. -/
def docAttribute (inner : Bool) (text : String) (span : Span) : List TokenTree :=
  let bang := if inner then [.punct '!' false span] else []
  .punct '#' false span :: bang ++
    [.group .bracket [.ident (.plain "doc") span, .punct '=' false span,
      .literal .string (Text.stringLiteral text) span] span]

def isPunct (c : Char) : Bool := "~!@#$%^&*-=+|;:,<.>/?'".toList.contains c

/-- Reads one punctuation character. The slash that begins a comment is none. -/
def punctChar : Scanner Char := do
  require (!(← sees "//") && !(← sees "/*"))
  charIf isPunct

/-- Reads an identifier of either form. The words that name a place in the module tree have no
raw form. -/
def identifier : Scanner Ident := do
  if ← sees "r#" then
    exactly "r#"
    let name ← word
    require (!(["_", "super", "self", "Self", "crate"].contains name))
    return ⟨name, true⟩
  else return ⟨← word, false⟩

/-- Whether what lies ahead begins like a literal that is none. -/
def seesSpoiltLiteral : Scanner Bool := do
  let heads := ["r\"", "r#\"", "r##", "b\"", "b'", "br\"", "br#", "c\"", "cr\"", "cr#"]
  ahead fun input => heads.any fun h => (exactly h input).isSome

/-- Reads a lifetime: a quote and an identifier that no second quote follows. -/
def lifetime : Scanner Ident := do
  exactly "'"
  let name ← identifier
  require (!(← sees "'"))
  return name

/-- A token without its place. -/
def bareLeaf : Scanner (Span → TokenTree) := do
  -- A quote may begin a character or a lifetime, so it is left to the readers of these.
  if ← seesChar fun c => isPunct c && c != '\'' then
    let c ← punctChar
    let joint ← lookahead punctChar
    return .punct c joint
  else
    -- Literals come before names, since the prefix of a literal is a name by itself.
    (do let (kind, glyphs) ← withInput literal
        return .literal kind (Glyph.textOf glyphs)) <|>
    (do let name ← lifetime
        return .lifetime name) <|>
    (do require (!(← seesSpoiltLiteral))
        let name ← identifier
        return .ident name)

def lexeme : Scanner Lexeme := do
  let (make, glyphs) ← withInput (
    (do let d ← opening; return Lexeme.opening d) <|>
    (do let d ← closing; return Lexeme.closing d) <|>
    (do let (inner, text) ← docComment
        return fun span => Lexeme.leaves (docAttribute inner text span)) <|>
    (do let leaf ← bareLeaf
        return fun span => Lexeme.leaves [leaf span]))
  return make (Glyph.spanOf glyphs)

/-- Reads all lexemes and the gaps around them. A byte order mark may stand before
everything. -/
def lexemes : Scanner (List Lexeme) := do
  let _ ← optional (char '\ufeff')
  let ls ← many (do let _ ← many gap; lexeme)
  let _ ← many gap
  return ls

end Scanner

namespace TokenTree

open Scanner

/-- A group that is still open: its delimiter, where it began, and the tokens before it, the
last of them first. -/
structure OpenGroup where
  delim : Delim
  span : Span
  before : List TokenTree

/-- Nests lexemes by their delimiters. The tokens read so far in the innermost open group are
`done`, the last of them first. -/
def nest (outer : List OpenGroup) (done : List TokenTree) : List Lexeme → Option (List TokenTree)
  | [] => if outer.isEmpty then some done.reverse else none
  | .leaves ts :: rest => nest outer (ts.reverse ++ done) rest
  | .opening d s :: rest => nest (⟨d, s, done⟩ :: outer) [] rest
  | .closing d s :: rest =>
    match outer with
    | [] => none
    | g :: outer =>
      if g.delim = d then
        nest outer (.group d done.reverse (g.span.join s) :: g.before) rest
      else none

/-- The tokens of a text, if it can be cut into tokens and its delimiters match. -/
def ofText? (text : String) : Option (List TokenTree) :=
  (lexemes.all? (Glyph.ofText text)).bind (nest [] [])

end TokenTree

end StagedBuilder
