import StagedBuilder.Parser
import StagedBuilder.Token.Basic
import StagedBuilder.Character.Identifier

/-!
# Literals in a source text

The written forms of strings, characters and numbers. A literal may carry a suffix, an
identifier that follows at once. The readers below answer with nothing but the stretch they
read; what a literal denotes is its reader's business only as far as it decides where the
literal ends.
-/

namespace StagedBuilder

/-- A character of a source text and its place. -/
structure Glyph where
  char : Char
  pos : Pos
deriving Inhabited

namespace Glyph

def place (pos : Pos) : List Char → List Glyph
  | [] => []
  | c :: cs => ⟨c, pos⟩ :: place (pos.after c) cs

def ofText (text : String) : List Glyph := place Pos.origin text.toList

def textOf (glyphs : List Glyph) : String := String.ofList (glyphs.map Glyph.char)

/-- The stretch that some characters, in the order of the text, take up. -/
def spanOf : List Glyph → Span
  | [] => ⟨Pos.origin, Pos.origin⟩
  | g :: gs =>
    let last := (g :: gs).getLast (by simp)
    ⟨g.pos, last.pos.after last.char⟩

end Glyph

/-- Reads characters of a source text. -/
abbrev Scanner := Parser Glyph

namespace Scanner

open StagedBuilder.Parser Character

/-- Reads a character that passes the test. -/
def charIf (test : Char → Bool) : Scanner Char :=
  one fun g => if test g.char then some g.char else none

def char (c : Char) : Scanner Char := charIf (· == c)

def chars : List Char → Scanner Unit
  | [] => pure ()
  | c :: cs => do
    let _ ← char c
    chars cs

def exactly (text : String) : Scanner Unit := chars text.toList

/-- Whether this text lies ahead. -/
def sees (text : String) : Scanner Bool := lookahead (exactly text)

def seesChar (test : Char → Bool) : Scanner Bool := lookahead (charIf test)

/-- Reads an identifier without `r#`; keywords and the underscore are some. -/
def word : Scanner String := do
  let c ← charIf isIdentStart
  let cs ← many (charIf isIdentContinue)
  return String.ofList (c :: cs)

def suffix : Scanner Unit := do
  let _ ← optional word

def isHexDigit (c : Char) : Bool :=
  c.isDigit || ('a' ≤ c && c ≤ 'f') || ('A' ≤ c && c ≤ 'F')

def hexValue (c : Char) : Nat :=
  if c.isDigit then c.toNat - '0'.toNat
  else if 'a' ≤ c then c.toNat - 'a'.toNat + 10
  else c.toNat - 'A'.toNat + 10

/-! ## Escapes -/

def shortEscape : Scanner Unit := do
  let _ ← charIf fun c => ['n', 'r', 't', '\\', '\'', '"', '0'].contains c

/-- Reads `x` and two digits that denote an ASCII character. -/
def asciiEscape : Scanner Unit := do
  let _ ← char 'x'
  let _ ← charIf fun c => '0' ≤ c && c ≤ '7'
  let _ ← charIf isHexDigit

/-- Reads `x` and two digits that denote a byte. -/
def byteEscape : Scanner Unit := do
  let _ ← char 'x'
  let _ ← charIf isHexDigit
  let _ ← charIf isHexDigit

/-- Whether a number is the code point of a character. -/
def isScalar (n : Nat) : Bool := n < 0xD800 || (0xDFFF < n && n < 0x110000)

/-- Reads `u` and up to six digits in braces that denote a character. Underscores may stand
after the first digit. -/
def unicodeEscape : Scanner Unit := do
  exactly "u\x7b"
  let first ← charIf isHexDigit
  let more ← many (charIf fun c => isHexDigit c || c == '_')
  let _ ← char '}'
  let digits := first :: more.filter (· != '_')
  require (digits.length ≤ 6)
  require (isScalar (digits.foldl (fun n c => n * 16 + hexValue c) 0))

def lineEnd : Scanner Unit := exactly "\n" <|> exactly "\r\n"

/-- Reads the end of a line and the blanks that begin the next ones, which a backslash takes
out of a string. -/
def continuation : Scanner Unit := do
  lineEnd
  let _ ← many (exactly " " <|> exactly "\t" <|> lineEnd)

/-! ## Strings and characters -/

/-- Reads a string between double quotes whose plain characters pass a test and whose escapes,
after the backslash, are read by `escape`. -/
def cooked (plain : Char → Bool) (escape : Scanner Unit) : Scanner Unit := do
  exactly "\""
  let _ ← many (
    (do let _ ← charIf fun c => c != '"' && c != '\\' && c != '\r' && plain c) <|>
    exactly "\r\n" <|>
    (do exactly "\\"; escape <|> continuation))
  exactly "\""
  suffix

/-- Reads a raw string after its `r`: as many `#` as were before the first quote end it after a
quote. -/
def rawAfterR (plain : Char → Bool) : Scanner Unit := do
  let hashes ← many (char '#')
  exactly "\""
  let closing := exactly ("\"" ++ String.ofList hashes)
  let _ ← many (do
    require (!(← lookahead closing))
    (do let _ ← charIf fun c => c != '\r' && plain c) <|> exactly "\r\n")
  closing
  suffix

def isAscii (c : Char) : Bool := c.toNat < 128

def stringLiteral : Scanner Unit :=
  cooked (fun _ => true) (asciiEscape <|> shortEscape <|> unicodeEscape) <|>
  (do exactly "r"; rawAfterR fun _ => true)

def byteStringLiteral : Scanner Unit :=
  (do exactly "b"; cooked isAscii (byteEscape <|> shortEscape)) <|>
  (do exactly "br"; rawAfterR isAscii)

/-- Reads a string that ends in a NUL where it is stored, and so has none inside. -/
def cStringLiteral : Scanner Unit :=
  let inside := fun c : Char => c != '\x00'
  (do exactly "c"; cooked inside (byteEscape <|> shortEscape <|> unicodeEscape)) <|>
  (do exactly "cr"; rawAfterR inside)

/-- Reads one character between single quotes, with the escapes that `escape` reads. -/
def quotedChar (plain : Char → Bool) (escape : Scanner Unit) : Scanner Unit := do
  exactly "'"
  (do exactly "\\"; escape) <|> (do let _ ← charIf fun c => c != '\\' && plain c)
  exactly "'"
  suffix

def byteLiteral : Scanner Unit := do
  exactly "b"
  quotedChar isAscii (byteEscape <|> shortEscape)

def charLiteral : Scanner Unit :=
  quotedChar (fun _ => true) (asciiEscape <|> unicodeEscape <|> shortEscape)

/-! ## Numbers -/

/-- Reads one decimal digit and all digits and underscores after it. -/
def digits : Scanner Unit := do
  let _ ← charIf Char.isDigit
  let _ ← many (charIf fun c => c.isDigit || c == '_')

/-- Ends a number: a suffix, and then nothing that would belong to it. -/
def numberEnd : Scanner Unit := do
  suffix
  require (!(← seesChar isIdentContinue))

/-- Reads an exponent: `e`, a sign perhaps, and at least one digit. -/
def exponent : Scanner Unit := do
  let _ ← charIf fun c => c == 'e' || c == 'E'
  let _ ← many (char '_')
  let _ ← optional (charIf fun c => c == '+' || c == '-')
  let _ ← many (char '_')
  digits

/-- Reads a point and the digits after it. A point before a second one or before a name belongs
to a range or to a member, and not to the number. -/
def fraction : Scanner Unit := do
  exactly "."
  require (!(← seesChar fun c => c == '.' || isIdentStart c))
  let _ ← many (charIf fun c => c.isDigit || c == '_')

def floatLiteral : Scanner Unit := do
  digits
  if ← sees "." then
    fraction
    let _ ← optional exponent
  else exponent
  numberEnd

/-- Reads the digits of a number in a base below ten; a greater digit spoils it. -/
def smallBase (base : Nat) : Scanner Unit := do
  let cs ← many (charIf fun c => c.isDigit || c == '_')
  let ds := cs.filter (· != '_')
  require (!ds.isEmpty && ds.all fun c => hexValue c < base)

def integerLiteral : Scanner Unit := do
  if ← sees "0x" then
    exactly "0x"
    let cs ← many (charIf fun c => isHexDigit c || c == '_')
    require (cs.any isHexDigit)
  else if ← sees "0o" then
    exactly "0o"
    smallBase 8
  else if ← sees "0b" then
    exactly "0b"
    smallBase 2
  else digits
  numberEnd

/-- The value of digits in a base, underscores left out. There has to be a digit. -/
def digitsValue? (base : Nat) (cs : List Char) : Option Nat :=
  let ds := cs.filter (· != '_')
  if !ds.isEmpty && ds.all (fun c => isHexDigit c && hexValue c < base) then
    some (ds.foldl (fun n c => n * base + hexValue c) 0)
  else none

/-- The value of a whole number as it is written, if it has no suffix. -/
def wholeNumber? (text : String) : Option Nat :=
  match text.toList with
  | '0' :: 'x' :: cs => digitsValue? 16 cs
  | '0' :: 'o' :: cs => digitsValue? 8 cs
  | '0' :: 'b' :: cs => digitsValue? 2 cs
  | cs => digitsValue? 10 cs

/-- Reads any literal and answers with its kind. -/
def literal : Scanner LiteralKind :=
  (do stringLiteral; return .string) <|>
  (do byteStringLiteral; return .byteString) <|>
  (do cStringLiteral; return .cString) <|>
  (do byteLiteral; return .byte) <|>
  (do charLiteral; return .char) <|>
  (do floatLiteral; return .float) <|>
  (do integerLiteral; return .integer)

end Scanner

end StagedBuilder
